import FritzboxVpn.AdapterClients
import FritzboxVpn.CoordinatorSteps

namespace FritzboxVpn.AdapterErrors

open AdapterClients Channels Coordinator CoordinatorSteps Exceptions FailedPolls FetchErrors
  HomeAssistant Interaction Interaction.Program Listings
open FritzconnectionSession hiding State
open Session (Account SessionM)

def errorOf {β : Type} : Except CallError β → Option CallError
  | .ok _ => none
  | .error e => some e

/-- What the packages raised in an exchange, but for a missing module and for what closing
raised. -/
def raisedBy : AdapterExchange → Option CallError
  | (.session _, _) => none
  | (.close _, _) => none
  | (.importFritzconnection, reply) =>
      match reply.done with
      | .ok _ => none
      | .error e => if e.isModuleNotFoundError then none else some e
  | (.getVpnConnections _, reply) => errorOf reply.connections
  | (.toggleVpn _ _ _, reply) => errorOf reply.toggled
  | (_, reply) => errorOf reply.done

def isClose : Request → Bool
  | .close _ => true
  | _ => false

def raised (made : List AdapterExchange) : List CallError := made.filterMap raisedBy

def raisedByClose : List AdapterExchange → Option CallError
  | (.close _, reply) :: _ => errorOf reply.done
  | _ => none

/-- A connection error over HTTPS is followed by a second try over HTTP. -/
def isRetried (overTls : Bool) (e : CallError) : Bool :=
  overTls && !e.isRequestsTimeout && e.isRequestsConnectionError

inductive Cause
  | raised (e : CallError)
  | closing (e : CallError)
  | nothing

def ofClosing : Option CallError → Cause
  | some e => .closing e
  | none => .nothing

/-- What a failed fetch fails of, by what was raised in its exchanges: the exception of
its only or its second try, or that of closing the client between the two. -/
def cause (overTls : Bool) (made : List AdapterExchange) : Cause :=
  match raised made with
  | [] => .nothing
  | [e] =>
      if isRetried overTls e then ofClosing (raisedByClose made) else .raised e
  | e :: _ :: _ => .raised e

structure StartsOver (s : FritzconnectionSession.State) : Prop where
  fc : s.fc = none
  useTls : s.useTls = true

def FallbackFailed (account : Account) (partner : Partner Request Reply) (trace : List AdapterExchange)
    (err : PyError) : Prop :=
  ∃ session before inner, Session.asyncGetVpnConnections account (boxChannel.partner partner before)
    ⟨session, []⟩ = (.error err, inner) ∧ trace = inner.trace.map boxChannel.exchange ++ before

def ownMessages : List String := ["Unexpected mode for sync VPN fetch", ""]

section Calls

variable (account : Account)

inductive Unprovoked (partner : Partner Request Reply) (trace : List AdapterExchange) : CallError → Prop
  | own (message) (h : message ∈ ownMessages) : Unprovoked partner trace (runtimeError message)
  | fallback (err) (h : FallbackFailed account partner trace err) :
      Unprovoked partner trace (ofPyError err)

structure Extends (w w' : AdapterWorld) (made : List AdapterExchange) : Prop where
  trace : w'.trace = made ++ w.trace
  useTls : w'.state.useTls = w.state.useTls
  noClose : ∀ x ∈ made, isClose x.1 = false

def Tries {β : Type} (p : AdapterM β) : Prop :=
  ∀ partner w, Yields partner w p (fun _ w' => ∃ made, Extends w w' made ∧ raised made = [])
    fun e w' => ∃ made, Extends w w' made ∧
      (raised made = [e] ∨ raised made = [] ∧ Unprovoked account partner w'.trace e)

variable {account} {partner : Partner Request Reply} {w w' w'' : AdapterWorld} {β γ : Type}
  {made made' : List AdapterExchange}

theorem Extends.refl (w : AdapterWorld) : Extends w w [] :=
  ⟨rfl, rfl, fun _ h => absurd h List.not_mem_nil⟩

theorem Extends.trans (h : Extends w w' made) (h' : Extends w' w'' made') :
    Extends w w'' (made' ++ made) := by
  refine ⟨?_, h'.useTls.trans h.useTls, ?_⟩
  · rw [h'.trace, h.trace, List.append_assoc]
  · intro x hx
    rcases List.mem_append.mp hx with hx | hx
    · exact h'.noClose x hx
    · exact h.noClose x hx

theorem raised_append (made' made : List AdapterExchange) :
    raised (made' ++ made) = raised made' ++ raised made :=
  List.filterMap_append

theorem Tries.bind {p : AdapterM γ} {f : γ → AdapterM β} (hp : Tries account p)
    (hf : ∀ c, Tries account (f c)) : Tries account (p >>= f) := by
  intro partner w
  rw [yields_bind]
  refine (hp partner w).mono ?_ fun _ _ he => he
  rintro c w' ⟨made, hext, hnone⟩
  refine (hf c partner w').mono ?_ ?_
  · rintro b w'' ⟨made', hext', hnone'⟩
    refine ⟨made' ++ made, hext.trans hext', ?_⟩
    rw [raised_append, hnone, hnone', List.append_nil]
  · rintro e w'' ⟨made', hext', hraised⟩
    refine ⟨made' ++ made, hext.trans hext', ?_⟩
    rwa [raised_append, hnone, List.append_nil]

theorem tries_pure {b : β} : Tries account (pure b : AdapterM β) :=
  fun _ w => yields_pure.mpr ⟨[], Extends.refl w, rfl⟩

theorem tries_throw {message : String} (h : message ∈ ownMessages) :
    Tries account (throw (runtimeError message) : AdapterM β) :=
  fun _ w => yields_throw.mpr ⟨[], Extends.refl w, Or.inr ⟨rfl, .own message h⟩⟩

theorem tries_read : Tries account (read : AdapterM FritzconnectionSession.State) :=
  fun _ w => yields_read.mpr ⟨[], Extends.refl w, rfl⟩

theorem tries_update {f : FritzconnectionSession.State → FritzconnectionSession.State}
    (h : ∀ s, (f s).useTls = s.useTls) : Tries account (update f : AdapterM Unit) :=
  fun _ w => yields_update.mpr ⟨[], ⟨rfl, h w.state, fun _ h => absurd h List.not_mem_nil⟩, rfl⟩

theorem extends_call {r : Request} {reply : Reply} (hr : isClose r = false) :
    Extends w { w with trace := (r, reply) :: w.trace } [(r, reply)] := by
  refine ⟨rfl, rfl, ?_⟩
  intro x hx
  rw [List.mem_singleton.mp hx]
  exact hr

theorem tries_call {r : Request} {part : Reply → Except CallError β} (hr : isClose r = false)
    (h : ∀ reply, raisedBy (r, reply) = errorOf (part reply)) : Tries account (call r part) := by
  intro partner w
  apply call_yields
  · intro reply b hb
    refine ⟨_, extends_call hr, ?_⟩
    rw [raised, List.filterMap_cons, h, hb]
    rfl
  · intro reply e he
    refine ⟨_, extends_call hr, Or.inl ?_⟩
    rw [raised, List.filterMap_cons, h, he]
    rfl

theorem tries_bootstrap : Tries account (bootstrap account) := by
  apply tries_read.bind
  intro s
  refine (tries_call rfl fun _ => rfl).bind fun _ => Tries.bind (tries_update ?_) fun _ => ?_
  · exact fun _ => rfl
  · exact (tries_call rfl fun _ => rfl).bind fun _ => tries_update fun _ => rfl

theorem tries_importOrFallback : Tries account importOrFallback := by
  intro partner w
  rw [importOrFallback, yields_tryCatch, yields_bind]
  apply call_yields
  · intro reply b hb
    refine yields_pure.mpr ⟨_, extends_call rfl, ?_⟩
    simp only [raised, List.filterMap_cons, raisedBy, hb, List.filterMap_nil]
  · intro reply e he
    cases hm : e.isModuleNotFoundError with
    | true =>
        simp only [if_true]
        rw [yields_bind, yields_update]
        refine yields_pure.mpr ⟨[(.importFritzconnection, reply)], ⟨rfl, rfl, ?_⟩, ?_⟩
        · exact (extends_call (w := w) rfl).noClose
        · simp only [raised, List.filterMap_cons, raisedBy, he, hm, if_true, List.filterMap_nil]
    | false =>
        simp only [Bool.false_eq_true, if_false]
        refine yields_throw.mpr ⟨_, extends_call rfl, Or.inl ?_⟩
        simp only [raised, List.filterMap_cons, raisedBy, he, hm, Bool.false_eq_true, if_false,
          List.filterMap_nil]

theorem tries_ensureClient : Tries account (ensureClient account) := by
  apply tries_read.bind
  intro s
  split
  · exact tries_pure
  · refine tries_importOrFallback.bind fun imported => ?_
    split
    · exact tries_bootstrap
    · exact tries_pure

theorem tries_getVpnConnectionsSync : Tries account (getVpnConnectionsSync account) := by
  refine tries_ensureClient.bind fun _ => tries_read.bind fun s => ?_
  split
  · exact tries_throw (by decide)
  · split
    · exact tries_throw (by decide)
    · exact tries_call rfl fun _ => rfl

theorem extends_exchanges {s : FritzconnectionSession.State}
    (made : List (Session.Request × Session.Answer)) (hs : s.useTls = w.state.useTls) :
    Extends w ⟨s, made.map boxChannel.exchange ++ w.trace⟩ (made.map boxChannel.exchange) ∧
      raised (made.map boxChannel.exchange) = [] := by
  refine ⟨⟨rfl, hs, ?_⟩, ?_⟩
  · intro x hx
    obtain ⟨y, -, rfl⟩ := List.mem_map.mp hx
    rfl
  · rw [raised, List.filterMap_map, List.filterMap_eq_nil_iff]
    exact fun _ _ => rfl

theorem tries_onFallback : Tries account (onFallback (Session.asyncGetVpnConnections account)) := by
  apply tries_read.bind
  intro s
  split
  · exact tries_throw (by decide)
  · intro partner w
    next session _ =>
      rcases hrun : Session.asyncGetVpnConnections account (boxChannel.partner partner w.trace)
        ⟨session, []⟩ with ⟨result, inner⟩
      refine Channel.yields_run_of hrun (fun b _ => ?_) fun err herr => ?_
      · obtain ⟨hext, hnone⟩ := extends_exchanges (w := w)
          (s := { w.state with fallbackSession := some inner.state }) inner.trace rfl
        exact ⟨_, hext, hnone⟩
      · obtain ⟨hext, hnone⟩ := extends_exchanges (w := w)
          (s := { w.state with fallbackSession := some inner.state }) inner.trace rfl
        subst herr
        exact ⟨_, hext, Or.inr ⟨hnone, .fallback err ⟨session, w.trace, inner, hrun, rfl⟩⟩⟩

end Calls

section Causes

variable {overTls : Bool} {made closed : List AdapterExchange} {e : CallError}

theorem ofClosing_ne_raised (closing : Option CallError) : ofClosing closing ≠ .raised e := by
  cases closing <;> nofun

theorem cause_eq_raised :
    cause overTls made = .raised e ↔
      ∃ earlier, raised made = e :: earlier ∧ (earlier = [] → isRetried overTls e = false) := by
  unfold cause
  rcases raised made with _ | ⟨e₁, _ | ⟨e₂, earlier⟩⟩
  · simp
  · simp only [List.cons.injEq, ↓existsAndEq, and_true, true_imp_iff]
    cases hretried : isRetried overTls e₁ with
    | true =>
        rw [if_pos rfl]
        constructor
        · exact fun h => absurd h (ofClosing_ne_raised _)
        · rintro ⟨rfl, hnot⟩
          rw [hretried] at hnot
          cases hnot
    | false =>
        rw [if_neg (by decide), Cause.raised.injEq]
        constructor
        · rintro rfl
          exact ⟨rfl, hretried⟩
        · exact And.left
  · simp

theorem cause_of_raised_nil (h : raised made = []) : cause overTls made = .nothing := by
  rw [cause, h]

theorem raised_closed (h : ∀ x ∈ closed, isClose x.1 = true) : raised closed = [] := by
  rw [raised, List.filterMap_eq_nil_iff]
  rintro ⟨r, reply⟩ hx
  have hr := h _ hx
  cases r with
  | close fc => rfl
  | _ => cases hr

/-- Closing the client on the way out leaves the cause. -/
theorem cause_append_closed (hclosed : ∀ x ∈ closed, isClose x.1 = true)
    (h : cause overTls made = .raised e) : cause overTls (closed ++ made) = .raised e := by
  rw [cause_eq_raised] at h ⊢
  rwa [raised_append, raised_closed hclosed, List.nil_append]

/-- The exchange after a close hides what the close raised. -/
theorem raisedByClose_append {later : List AdapterExchange} (hlater : ∀ x ∈ later, isClose x.1 = false)
    (h : raisedByClose made = none) : raisedByClose (later ++ made) = none := by
  rcases later with _ | ⟨⟨r, reply⟩, later⟩
  · exact h
  · have hr := hlater _ List.mem_cons_self
    cases r with
    | close fc => cases hr
    | _ => rfl

end Causes

def failureKind (report : Report) : Option FailureKind :=
  match report.outcome with
  | .ok _ => none
  | .error failed => some failed.kind

def ownKind (err : PyError) : FailureKind :=
  if authRaised err then .authentication else .connectivity

theorem failureKind_of_error (env : Env) (hass : Hass) (c : Coordinator.State) (now later : ℚ)
    (err : PyError) : failureKind (poll env hass c ⟨.error err, now, later⟩).1.1 = some (ownKind err) := by
  have hfetch : (Poll.mk (.error err) now later).fetch = .error err := rfl
  rw [ownKind]
  cases ha : authRaised err with
  | true =>
      obtain ⟨text, hpoll⟩ := poll_of_fetch_authError env hass c hfetch ha
      rw [hpoll]
      rfl
  | false =>
      obtain ⟨text, hpoll⟩ := poll_of_fetch_error env hass c hfetch ha
      rw [hpoll]
      rfl

theorem ownKind_timeoutError (message : String) : ownKind (timeoutError message) = .connectivity := by
  have hnot : authRaised (timeoutError message) = false := Bool.and_false _
  rw [ownKind, hnot, if_neg (by decide)]

/-- A text before the exception's own does not hide or feign a credential failure. -/
theorem authRaised_connectionError (message : String) :
    authRaised (connectionError ("failed to get login page" ++ (": " ++ message))) = authText message := by
  have hcolon : (": " ++ message).toList.head? = some ':' := by
    rw [String.toList_append]
    rfl
  calc authRaised (connectionError ("failed to get login page" ++ (": " ++ message)))
      = authText ("failed to get login page" ++ (": " ++ message)) := Bool.and_true _
    _ = (authText "failed to get login page" || authText (": " ++ message)) :=
      authText_append_of_colon hcolon
    _ = authText (": " ++ message) := by
      rw [show authText "failed to get login page" = false from (authText_ofList _).trans (by decide),
        Bool.false_or]
    _ = authText message := authText_behind (by decide) (by decide)

theorem ownKind_authError (e : CallError) : ownKind (authError e true).error = .authentication := by
  have htext : authText ("Login failed: " ++ e.error.message) = true :=
    authText_append_left ((authText_ofList _).trans (by decide))
  exact if_pos ((Bool.and_true _).trans htext)

/-- How a fetch that failed with `e` is taken, by the cause of the failure. -/
inductive Taken (account : Account) (partner : Partner Request Reply) (overTls : Bool)
    (made : List AdapterExchange) (kind : FailureKind) (e : CallError) (w : AdapterWorld) : Prop
  | timeout (e₀) (hcause : cause overTls made = .raised e₀) (ht : e₀.isRequestsTimeout = true)
      (he : e = ofPyError (timeoutError e₀.error.message)) (hkind : kind = .connectivity)
      (hover : StartsOver w.state)
  | connection (e₀) (hcause : cause overTls made = .raised e₀) (ht : e₀.isRequestsTimeout = false)
      (hc : e₀.isRequestsConnectionError = true)
      (he : e = ofPyError (connectionError ("failed to get login page" ++ (": " ++ e₀.error.message))))
      (hkind : kind = if authText e₀.error.message then .authentication else .connectivity)
      (hover : StartsOver w.state)
  | authorization (e₀) (hcause : cause overTls made = .raised e₀) (ht : e₀.isRequestsTimeout = false)
      (hc : e₀.isRequestsConnectionError = false) (ha : e₀.isFritzAuthorizationError = true)
      (he : e = authError e₀ true) (hkind : kind = .authentication)
  | passedOn (hcause : cause overTls made = .raised e) (ht : e.isRequestsTimeout = false)
      (hc : e.isRequestsConnectionError = false) (ha : e.isFritzAuthorizationError = false)
      (hkind : kind = ownKind e.error)
  | closing (hcause : cause overTls made = .closing e) (hkind : kind = ownKind e.error)
  | nothing (hcause : cause overTls made = .nothing) (h : Unprovoked account partner w.trace e)
      (hkind : kind = ownKind e.error)

section Handlers

variable {account : Account} {partner : Partner Request Reply} {overTls : Bool} {w₀ w : AdapterWorld}
  {made : List AdapterExchange} {e : CallError} {β : Type} {ok : β → AdapterWorld → Prop}

def TakenSince (account : Account) (partner : Partner Request Reply) (overTls : Bool)
    (w₀ : AdapterWorld) (e : CallError) (w : AdapterWorld) : Prop :=
  ∃ made, w.trace = made ++ w₀.trace ∧ Taken account partner overTls made (ownKind e.error) e w

def Causes (account : Account) (partner : Partner Request Reply) (overTls : Bool)
    (made : List AdapterExchange) (trace : List AdapterExchange) (e : CallError) : Prop :=
  cause overTls made = .raised e ∨ cause overTls made = .nothing ∧ Unprovoked account partner trace e

theorem Unprovoked.plain {trace : List AdapterExchange} (h : Unprovoked account partner trace e) :
    e.isRequestsTimeout = false ∧ e.isRequestsConnectionError = false ∧
      e.isFritzAuthorizationError = false := by
  cases h <;> exact ⟨rfl, rfl, rfl⟩

theorem raiseInvalidated_startsOver {e : PyError} {err : CallError → AdapterWorld → Prop}
    (h : ∀ s closed, StartsOver s → (∀ x ∈ closed, isClose x.1 = true) →
      err (ofPyError e) ⟨s, closed ++ w.trace⟩) :
    Yields partner w (raiseInvalidated e : AdapterM β) ok err := by
  have hclose : ∀ (fc : Nat) (reply : Reply), ∀ x ∈ [((.close fc, reply) : AdapterExchange)],
      isClose x.1 = true := by
    intro fc reply x hx
    rw [List.mem_singleton.mp hx]
    rfl
  rw [raiseInvalidated, yields_bind, invalidateSession, yields_bind, yields_update, yields_bind,
    yields_read]
  cases (invalidateFallback w.state).fc with
  | none =>
      simp only
      rw [yields_update, yields_throw]
      exact h _ [] ⟨rfl, rfl⟩ fun _ hx => absurd hx List.not_mem_nil
  | some fc =>
      simp only
      rw [yields_bind, yields_tryCatch]
      apply call_yields
      · intro reply _ _
        rw [yields_update, yields_throw]
        exact h _ [_] ⟨rfl, rfl⟩ (hclose fc reply)
      · intro reply _ _
        rw [yields_pure, yields_update, yields_throw]
        exact h _ [_] ⟨rfl, rfl⟩ (hclose fc reply)

theorem raiseOther_taken (htrace : w.trace = made ++ w₀.trace)
    (h : Causes account partner overTls made w.trace e) (ht : e.isRequestsTimeout = false)
    (hc : e.isRequestsConnectionError = false) :
    Yields partner w (raiseOther e true : AdapterM β) ok (TakenSince account partner overTls w₀) := by
  rw [raiseOther]
  cases ha : e.isFritzAuthorizationError with
  | true =>
      rw [if_pos rfl, yields_throw]
      rcases h with h | ⟨-, h⟩
      · exact ⟨made, htrace, .authorization e h ht hc ha rfl (ownKind_authError e)⟩
      · rw [h.plain.2.2] at ha
        cases ha
  | false =>
      rw [if_neg (by decide), yields_throw]
      refine ⟨made, htrace, ?_⟩
      rcases h with h | ⟨hnone, h⟩
      · exact .passedOn h ht hc ha rfl
      · exact .nothing hnone h rfl

theorem handleRetryError_taken (htrace : w.trace = made ++ w₀.trace)
    (h : Causes account partner overTls made w.trace e) :
    Yields partner w (handleRetryError "failed to get login page" true e : AdapterM β) ok
      (TakenSince account partner overTls w₀) := by
  rw [handleRetryError]
  cases ht : e.isRequestsTimeout with
  | true =>
      rcases h with h | ⟨-, h⟩
      · rw [if_pos rfl]
        refine raiseInvalidated_startsOver fun s closed hover hclosed => ⟨closed ++ made, ?_, ?_⟩
        · rw [htrace, List.append_assoc]
        · exact .timeout e (cause_append_closed hclosed h) ht rfl (ownKind_timeoutError _) hover
      · rw [h.plain.1] at ht
        cases ht
  | false =>
      rw [if_neg (by decide)]
      cases hc : e.isRequestsConnectionError with
      | true =>
          rcases h with h | ⟨-, h⟩
          · rw [if_pos rfl]
            refine raiseInvalidated_startsOver fun s closed hover hclosed => ⟨closed ++ made, ?_, ?_⟩
            · rw [htrace, List.append_assoc]
            · refine .connection e (cause_append_closed hclosed h) ht hc rfl ?_ hover
              rw [ofPyError, ownKind, authRaised_connectionError]
          · rw [h.plain.2.1] at hc
            cases hc
      | false =>
          rw [if_neg (by decide)]
          exact raiseOther_taken htrace h ht hc

theorem retry_taken {syncCall : AdapterM β} (hsync : Tries account syncCall)
    (htrace : w.trace = made ++ w₀.trace) (hraised : raised made = [e])
    (hretried : isRetried overTls e = true) (hclosed : raisedByClose made = none) :
    Yields partner w (tryCatch syncCall (handleRetryError "failed to get login page" true))
      (fun _ _ => True) (TakenSince account partner overTls w₀) := by
  rw [yields_tryCatch]
  refine (hsync partner w).mono (fun _ _ _ => trivial) ?_
  rintro e' w' ⟨later, hext, h⟩
  have htrace' : w'.trace = (later ++ made) ++ w₀.trace := by
    rw [hext.trace, htrace, List.append_assoc]
  apply handleRetryError_taken htrace'
  rcases h with h | ⟨hnone, h⟩
  · refine Or.inl (cause_eq_raised.mpr ⟨[e], ?_, nofun⟩)
    rw [raised_append, h, hraised]
    rfl
  · refine Or.inr ⟨?_, h⟩
    rw [cause, raised_append, hnone, hraised, List.nil_append]
    simp only
    rw [if_pos hretried, raisedByClose_append hext.noClose hclosed]
    rfl

theorem handleCallError_retried {syncCall : AdapterM β} (hsync : Tries account syncCall)
    (hext : Extends w₀ w made) (hraised : raised made = [e])
    (hretried : isRetried w₀.state.useTls e = true) :
    Yields partner w (handleCallError syncCall "failed to get login page" true e) (fun _ _ => True)
      (TakenSince account partner w₀.state.useTls w₀) := by
  have hflags := hretried
  rw [isRetried, Bool.and_eq_true, Bool.and_eq_true, Bool.not_eq_true'] at hflags
  obtain ⟨⟨htls, ht⟩, hc⟩ := hflags
  have hopen : raisedByClose made = none := by
    have hnone : raisedByClose (made ++ []) = none := raisedByClose_append hext.noClose rfl
    rwa [List.append_nil] at hnone
  rw [handleCallError, ht, hc, if_neg (by decide), if_pos rfl, yields_bind, yields_read, hext.useTls,
    htls, if_pos rfl, yields_bind, yields_update, yields_bind, closeSync, yields_bind, yields_read]
  rw [htls] at hretried
  cases w.state.fc with
  | none => exact yields_pure.mpr (retry_taken hsync hext.trace hraised hretried hopen)
  | some fc =>
      have hraised' : ∀ reply, raised ((.close fc, reply) :: made) = [e] := fun _ => hraised
      simp only
      rw [yields_bind]
      apply call_yields
      · intro reply _ hdone
        rw [yields_update]
        have hclosed : raisedByClose ((.close fc, reply) :: made) = none := by
          rw [raisedByClose, hdone]
          rfl
        exact retry_taken hsync (congrArg (_ :: ·) hext.trace) (hraised' reply) hretried hclosed
      · intro reply e' hdone
        refine ⟨(.close fc, reply) :: made, congrArg (_ :: ·) hext.trace, .closing ?_ rfl⟩
        rw [cause, hraised' reply]
        simp only
        rw [if_pos hretried, raisedByClose, hdone]
        rfl

/-- Where no second try follows, the handlers of the first try do what those of the second do. -/
theorem handleCallError_of_handleRetryError {syncCall : AdapterM β} {failMessage : String}
    {authAsValueError : Bool} {err : CallError → AdapterWorld → Prop}
    (hretried : isRetried w.state.useTls e = false)
    (h : Yields partner w (handleRetryError failMessage authAsValueError e : AdapterM β) ok err) :
    Yields partner w (handleCallError syncCall failMessage authAsValueError e) ok err := by
  rw [handleRetryError] at h
  rw [handleCallError]
  cases ht : e.isRequestsTimeout with
  | true =>
      rw [ht] at h
      exact h
  | false =>
      rw [ht] at h
      cases hc : e.isRequestsConnectionError with
      | false =>
          rw [hc] at h
          exact h
      | true =>
          have htls : ¬w.state.useTls = true := by
            intro htls
            rw [isRetried, htls, ht, hc] at hretried
            cases hretried
          rw [hc] at h
          rw [if_neg (by decide), if_pos rfl, yields_bind, yields_read, if_neg htls]
          exact h

theorem handleCallError_taken {syncCall : AdapterM β} (hsync : Tries account syncCall)
    (hext : Extends w₀ w made)
    (h : raised made = [e] ∨ raised made = [] ∧ Unprovoked account partner w.trace e) :
    Yields partner w (handleCallError syncCall "failed to get login page" true e) (fun _ _ => True)
      (TakenSince account partner w₀.state.useTls w₀) := by
  cases hretried : isRetried w₀.state.useTls e with
  | true =>
      have hraised : raised made = [e] := h.resolve_right fun h => by
        rw [isRetried, h.2.plain.2.1, Bool.and_false] at hretried
        cases hretried
      exact handleCallError_retried hsync hext hraised hretried
  | false =>
      have hcauses : Causes account partner w₀.state.useTls made w.trace e := by
        rcases h with h | ⟨hnone, h⟩
        · exact Or.inl (cause_eq_raised.mpr ⟨[], h, fun _ => hretried⟩)
        · exact Or.inr ⟨cause_of_raised_nil hnone, h⟩
      rw [← hext.useTls] at hretried
      exact handleCallError_of_handleRetryError hretried (handleRetryError_taken hext.trace hcauses)

theorem asyncGetVpnConnections_taken :
    Yields partner w (asyncGetVpnConnections account) (fun _ _ => True)
      (TakenSince account partner w.state.useTls w) := by
  have htry : Tries account (do
      ensureClient account
      let s ← read
      if s.mode = some .fritzboxvpn then onFallback (Session.asyncGetVpnConnections account)
      else getVpnConnectionsSync account) := by
    refine tries_ensureClient.bind fun _ => tries_read.bind fun s => ?_
    split
    · exact tries_onFallback
    · exact tries_getVpnConnectionsSync
  rw [asyncGetVpnConnections, withHttpsHttpFallback, yields_tryCatch]
  refine (htry partner w).mono (fun _ _ _ => trivial) ?_
  rintro e w' ⟨made, hext, h⟩
  exact handleCallError_taken tries_getVpnConnectionsSync hext h

end Handlers

/-- How a failed fetch of the adapter is taken follows from what the packages raised in it:
a timeout counts as an outage whatever it says, a refused connection unless its own text
names the credentials, and both make the adapter start over; a failed authorization always
counts as one. What no package raised is the adapter's own or that of its fallback session. -/
theorem package_failure_taken (account : Account) (partner : Partner Request Reply) (w : AdapterWorld)
    (env : Env) (hass : Hass) (c : Coordinator.State) (now later : ℚ) :
    Yields partner w (asyncGetVpnConnections account) (fun _ _ => True) fun e w' =>
      ∃ made kind, w'.trace = made ++ w.trace ∧
        failureKind (poll env hass c ⟨.error e.error, now, later⟩).1.1 = some kind ∧
        Taken account partner w.state.useTls made kind e w' := by
  refine asyncGetVpnConnections_taken.mono (fun _ _ h => h) ?_
  rintro e w' ⟨made, htrace, htaken⟩
  exact ⟨made, _, htrace, failureKind_of_error env hass c now later e.error, htaken⟩

end FritzboxVpn.AdapterErrors
