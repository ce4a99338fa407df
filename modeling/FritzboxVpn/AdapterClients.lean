import FritzboxVpn.FailedPolls
import FritzboxVpn.FritzconnectionSession
import FritzboxVpn.Runs

namespace FritzboxVpn.AdapterClients

open Channels Exceptions FritzconnectionSession Interaction Interaction.Program Listings Runs
open Session (Account SessionM)

abbrev AdapterWorld : Type := World State Request Reply

abbrev AdapterExchange : Type := Request × Reply

def isTransient (e : CallError) : Bool := e.isRequestsTimeout || e.isRequestsConnectionError

def userOf : Request → Option Nat
  | .fritzWireguard fc => some fc
  | .getVpnConnections fwg | .toggleVpn fwg _ _ => some fwg
  | _ => none

/-- The adapter has asked the client to close. -/
def Closed (fc : Nat) (trace : List AdapterExchange) : Prop := ∃ x ∈ trace, x.1 = .close fc

/-- The client has closed, and raised nothing. -/
def ClosedWell (fc : Nat) (trace : List AdapterExchange) : Prop :=
  ∃ x ∈ trace, x.1 = .close fc ∧ x.2.done.toBool = true

/-- FritzWireguard raised an exception that no handler answers by closing the client. -/
def Abandoned (fc : Nat) (trace : List AdapterExchange) : Prop :=
  ∃ x ∈ trace, x.1 = .fritzWireguard fc ∧ ∃ e, x.2.done = .error e ∧ isTransient e = false

structure Core (w : AdapterWorld) : Prop where
  numbered : ∀ x ∈ w.trace, ∀ fc, x.1 = .close fc → fc < w.state.opened
  live : ∀ fc, w.state.fc = some fc → fc < w.state.opened ∧ ¬ClosedWell fc w.trace
  paired : ∀ fwg, w.state.fwg = some fwg →
    w.state.fc = some fwg ∧ w.state.mode = some .fritzconnection
  accounted : ∀ fc, fc < w.state.opened →
    w.state.fc = some fc ∨ Closed fc w.trace ∨ Abandoned fc w.trace
  inOrder : ∀ later x earlier fc, w.trace = later ++ x :: earlier → userOf x.1 = some fc →
    ¬ClosedWell fc earlier

def Idle (w : AdapterWorld) : Prop :=
  ∀ fc, w.state.fc = some fc → w.state.fwg = none → Closed fc w.trace ∨ Abandoned fc w.trace

structure Sound (w : AdapterWorld) : Prop extends Core w where
  idle : Idle w

section Traces

variable {w : AdapterWorld} {x : AdapterExchange} {trace made : List AdapterExchange} {fc : Nat}

theorem Closed.cons (h : Closed fc trace) : Closed fc (x :: trace) := by
  obtain ⟨y, hy, hc⟩ := h
  exact ⟨y, List.mem_cons_of_mem x hy, hc⟩

theorem Abandoned.cons (h : Abandoned fc trace) : Abandoned fc (x :: trace) := by
  obtain ⟨y, hy, hc⟩ := h
  exact ⟨y, List.mem_cons_of_mem x hy, hc⟩

theorem closedWell_cons : ClosedWell fc (x :: trace) ↔
    (x.1 = .close fc ∧ x.2.done.toBool = true) ∨ ClosedWell fc trace := by
  rw [ClosedWell, List.exists_mem_cons_iff, ClosedWell]

structure SameClients (s s' : State) : Prop where
  opened : s'.opened = s.opened
  fc : s'.fc = s.fc
  fwg : s'.fwg = s.fwg
  mode : s'.fwg.isSome = true → s'.mode = s.mode

theorem Core.same (h : Core w) {s : State} (hs : SameClients w.state s) : Core ⟨s, w.trace⟩ where
  numbered := by
    intro x hx fc hc
    rw [hs.opened]
    exact h.numbered x hx fc hc
  live := by
    intro fc hfc
    rw [hs.fc] at hfc
    rw [hs.opened]
    exact h.live fc hfc
  paired := by
    intro fwg hfwg
    have hmode : s.mode = w.state.mode := hs.mode (by rw [hfwg]; rfl)
    rw [hs.fwg] at hfwg
    rw [hs.fc, hmode]
    exact h.paired fwg hfwg
  accounted := by
    intro fc hlt
    rw [hs.opened] at hlt
    rw [hs.fc]
    exact h.accounted fc hlt
  inOrder := h.inOrder

theorem Idle.same (h : Idle w) {s : State} (hs : SameClients w.state s) : Idle ⟨s, w.trace⟩ := by
  intro fc hfc hfwg
  rw [hs.fc] at hfc
  rw [hs.fwg] at hfwg
  exact h fc hfc hfwg

theorem Core.cons (h : Core w) (hclose : ∀ fc, x.1 ≠ .close fc)
    (huse : ∀ fc, userOf x.1 = some fc → ¬ClosedWell fc w.trace) : Core ⟨w.state, x :: w.trace⟩ where
  numbered := by
    intro y hy fc hc
    rcases List.mem_cons.mp hy with rfl | hy
    · exact absurd hc (hclose fc)
    · exact h.numbered y hy fc hc
  live := by
    intro fc hfc
    obtain ⟨hlt, hno⟩ := h.live fc hfc
    refine ⟨hlt, fun hc => ?_⟩
    rcases closedWell_cons.mp hc with ⟨hx, -⟩ | hc
    · exact hclose fc hx
    · exact hno hc
  paired := h.paired
  accounted := fun fc hlt => (h.accounted fc hlt).imp_right (Or.imp Closed.cons Abandoned.cons)
  inOrder := by
    intro later y earlier fc heq hy
    cases later with
    | nil =>
        obtain ⟨rfl, rfl⟩ := List.cons.inj heq
        exact huse fc hy
    | cons z later => exact h.inOrder later y earlier fc (List.cons.inj heq).2 hy

theorem Idle.cons (h : Idle w) : Idle ⟨w.state, x :: w.trace⟩ :=
  fun fc hfc hfwg => (h fc hfc hfwg).imp Closed.cons Abandoned.cons

def Aside (r : Request) : Prop := (∀ fc, r ≠ .close fc) ∧ userOf r = none

theorem Sound.cons_aside (h : Sound w) (ha : Aside x.1) : Sound ⟨w.state, x :: w.trace⟩ := by
  refine ⟨h.toCore.cons ha.1 ?_, h.idle.cons⟩
  intro fc hx
  rw [ha.2] at hx
  cases hx

theorem Sound.same (h : Sound w) {s : State} (hs : SameClients w.state s) : Sound ⟨s, w.trace⟩ :=
  ⟨h.toCore.same hs, h.idle.same hs⟩

theorem Sound.append_aside (h : Sound w) (ha : ∀ x ∈ made, Aside x.1) :
    Sound ⟨w.state, made ++ w.trace⟩ := by
  induction made with
  | nil => exact h
  | cons x made ih =>
      have htail := ih fun y hy => ha y (List.mem_cons_of_mem x hy)
      exact htail.cons_aside (ha x List.mem_cons_self)

/-- After the client was asked to close, whether it did or raised. -/
theorem Core.close (h : Core w) (hfc : w.state.fc = some fc) (reply : Reply) :
    Closed fc ((.close fc, reply) :: w.trace) ∧
      (reply.done.toBool = false → Core ⟨w.state, (.close fc, reply) :: w.trace⟩) ∧
      ∀ s, s.opened = w.state.opened → s.fc = none → s.fwg = none →
        Core ⟨s, (.close fc, reply) :: w.trace⟩ := by
  have hclosed : Closed fc ((.close fc, reply) :: w.trace) := ⟨_, List.mem_cons_self, rfl⟩
  have hlive := h.live fc hfc
  have numbered : ∀ x ∈ (Request.close fc, reply) :: w.trace, ∀ fc', x.1 = .close fc' →
      fc' < w.state.opened := by
    intro x hx fc' hc
    rcases List.mem_cons.mp hx with rfl | hx
    · cases hc
      exact hlive.1
    · exact h.numbered x hx fc' hc
  have inOrder : ∀ later x earlier fc', (Request.close fc, reply) :: w.trace = later ++ x :: earlier →
      userOf x.1 = some fc' → ¬ClosedWell fc' earlier := by
    intro later y earlier fc' heq hy
    cases later with
    | nil =>
        obtain ⟨rfl, rfl⟩ := List.cons.inj heq
        cases hy
    | cons z later => exact h.inOrder later y earlier fc' (List.cons.inj heq).2 hy
  have accounted : ∀ fc', fc' < w.state.opened → fc' = fc ∨
      Closed fc' ((.close fc, reply) :: w.trace) ∨ Abandoned fc' ((.close fc, reply) :: w.trace) := by
    intro fc' hlt
    rcases h.accounted fc' hlt with hcurrent | hclosed | hgone
    · rw [hfc] at hcurrent
      exact Or.inl (Option.some.inj hcurrent).symm
    · exact Or.inr (Or.inl hclosed.cons)
    · exact Or.inr (Or.inr hgone.cons)
  refine ⟨hclosed, fun hraised => ⟨numbered, ?_, h.paired, ?_, inOrder⟩, ?_⟩
  · intro fc' hfc'
    rw [hfc] at hfc'
    cases hfc'
    refine ⟨hlive.1, fun hc => ?_⟩
    rcases closedWell_cons.mp hc with ⟨-, hd⟩ | hc
    · rw [hraised] at hd
      cases hd
    · exact hlive.2 hc
  · intro fc' hlt
    refine (accounted fc' hlt).imp_left ?_
    rintro rfl
    exact hfc
  · intro s hopened hnone hfwg
    refine ⟨?_, ?_, ?_, ?_, inOrder⟩
    · intro x hx fc' hc
      rw [hopened]
      exact numbered x hx fc' hc
    · intro fc' hfc'
      rw [hnone] at hfc'
      cases hfc'
    · intro fwg hfwg'
      rw [hfwg] at hfwg'
      cases hfwg'
    · intro fc' hlt
      rw [hopened] at hlt
      rcases accounted fc' hlt with rfl | hrest
      · exact Or.inr (Or.inl hclosed)
      · exact Or.inr hrest

/-- A new client takes the place of one that may be given up. -/
theorem Sound.opens (h : Sound w) (hfwg : w.state.fwg = none) :
    Core ⟨{ w.state with fc := some w.state.opened, opened := w.state.opened + 1 }, w.trace⟩ where
  numbered := fun x hx fc hc => Nat.lt_succ_of_lt (h.numbered x hx fc hc)
  live := by
    intro fc hfc
    cases hfc
    refine ⟨Nat.lt_succ_self _, ?_⟩
    rintro ⟨x, hx, hc, -⟩
    exact absurd (h.numbered x hx _ hc) (Nat.lt_irrefl _)
  paired := by
    intro fwg hsome
    change w.state.fwg = some fwg at hsome
    rw [hfwg] at hsome
    cases hsome
  accounted := by
    intro fc hlt
    rcases Nat.lt_succ_iff_lt_or_eq.mp hlt with hlt | rfl
    · right
      rcases h.accounted fc hlt with hcurrent | hrest
      · exact h.idle fc hcurrent hfwg
      · exact hrest
    · exact Or.inl rfl
  inOrder := h.inOrder

theorem idle_of_none (h : w.state.fc = none) : Idle w := by
  intro fc hfc
  rw [h] at hfc
  cases hfc

end Traces

section Calls

variable {partner : Partner Request Reply} {w : AdapterWorld} {account : Account} {β : Type}

theorem call_yields {r : Request} {part : Reply → Except CallError β} {ok : β → AdapterWorld → Prop}
    {err : CallError → AdapterWorld → Prop}
    (hok : ∀ reply b, part reply = .ok b → ok b { w with trace := (r, reply) :: w.trace })
    (herr : ∀ reply e, part reply = .error e → err e { w with trace := (r, reply) :: w.trace }) :
    Yields partner w (call r part) ok err := by
  rw [call, yields_bind]
  apply yields_request
  intro reply
  rw [yields_ended]
  cases h : part reply with
  | ok b => exact hok reply b h
  | error e => exact herr reply e h

theorem closeSync_sound (h : Core w) :
    Yields partner w closeSync (fun _ w' => Sound w') (fun _ w' => Sound w') := by
  rw [closeSync, yields_bind, yields_read]
  cases hfc : w.state.fc with
  | none => exact yields_pure.mpr ⟨h, idle_of_none hfc⟩
  | some fc =>
      simp only
      rw [yields_bind]
      apply call_yields
      · intro reply _ _
        rw [yields_update]
        exact ⟨(h.close hfc reply).2.2 _ rfl rfl rfl, idle_of_none rfl⟩
      · intro reply e he
        have hraised : reply.done.toBool = false := by rw [he]; rfl
        refine ⟨(h.close hfc reply).2.1 hraised, ?_⟩
        intro fc' hfc' _
        change w.state.fc = some fc' at hfc'
        rw [hfc] at hfc'
        cases hfc'
        exact Or.inl (h.close hfc reply).1

theorem invalidateSession_sound (h : Core w) :
    Yields partner w invalidateSession (fun _ w' => Sound w' ∧ w'.state.fc = none) (fun _ _ => False) := by
  have hsame : Core { w with state := invalidateFallback w.state } := h.same ⟨rfl, rfl, rfl, fun _ => rfl⟩
  rw [invalidateSession, yields_bind, yields_update, yields_bind, yields_read]
  cases hfc : (invalidateFallback w.state).fc with
  | none =>
      simp only
      rw [yields_update]
      refine ⟨⟨⟨h.numbered, nofun, nofun, ?_, h.inOrder⟩, idle_of_none rfl⟩, rfl⟩
      intro fc hlt
      exact (hsame.accounted fc hlt).imp_left fun hcurrent => by rw [hfc] at hcurrent; cases hcurrent
  | some fc =>
      have closed : ∀ reply, Sound ⟨{ dropClient (invalidateFallback w.state) with useTls := true },
          (.close fc, reply) :: w.trace⟩ := fun reply =>
        ⟨(hsame.close hfc reply).2.2 _ rfl rfl rfl, idle_of_none rfl⟩
      simp only
      rw [yields_bind, yields_tryCatch]
      apply call_yields
      · intro reply _ _
        rw [yields_update]
        exact ⟨closed reply, rfl⟩
      · intro reply _ _
        rw [yields_pure, yields_update]
        exact ⟨closed reply, rfl⟩

def RaisedIn (e : CallError) (w : AdapterWorld) : Prop := Core w ∧ (isTransient e = false → Idle w)

theorem Sound.raisedIn (h : Sound w) (e : CallError) : RaisedIn e w := ⟨h.toCore, fun _ => h.idle⟩

theorem bootstrap_sound (h : Sound w) (hfwg : w.state.fwg = none) :
    Yields partner w (bootstrap account) (fun _ w' => Sound w') RaisedIn := by
  rw [bootstrap, yields_bind, yields_read, yields_bind]
  apply call_yields
  · intro reply _ _
    have hopened : Sound ⟨w.state, _ :: w.trace⟩ := h.cons_aside (x := (.fritzConnection account.host
      (if account.username = "" then none else some account.username) account.password defaultTimeout
      w.state.useTls, reply)) ⟨nofun, rfl⟩
    have hcore := hopened.opens hfwg
    rw [yields_bind, yields_update, yields_bind]
    have hused : ∀ reply' : Reply, Core ⟨_, (.fritzWireguard w.state.opened, reply') :: _⟩ := fun reply' =>
      hcore.cons (x := (.fritzWireguard w.state.opened, reply')) nofun fun fc hfc => by
        cases hfc
        exact (hcore.live w.state.opened rfl).2
    apply call_yields
    · intro reply' _ _
      rw [yields_update]
      refine ⟨⟨(hused reply').numbered, (hused reply').live, ?_, (hused reply').accounted,
        (hused reply').inOrder⟩, ?_⟩
      · exact fun fwg hsome => ⟨hsome, rfl⟩
      · exact fun fc _ hnone => by cases hnone
    · intro reply' e he
      refine ⟨hused reply', fun htransient => ?_⟩
      intro fc hfc _
      cases hfc
      exact Or.inr ⟨_, List.mem_cons_self, rfl, e, he, htransient⟩
  · intro reply e _
    exact (h.cons_aside (x := (.fritzConnection account.host _ account.password defaultTimeout
      w.state.useTls, reply)) ⟨nofun, rfl⟩).raisedIn e

theorem fwg_of_not_ready (h : Core w) (hready : isReady w.state = false) : w.state.fwg = none := by
  cases hfwg : w.state.fwg with
  | none => rfl
  | some fwg =>
      obtain ⟨hfc, hmode⟩ := h.paired fwg hfwg
      rw [isReady, hfc, hmode, hfwg] at hready
      cases hready

theorem ensureClient_sound (h : Sound w) :
    Yields partner w (ensureClient account) (fun _ w' => Sound w') RaisedIn := by
  rw [ensureClient, yields_bind, yields_read]
  cases hready : isReady w.state with
  | true =>
      rw [if_pos rfl, yields_pure]
      exact h
  | false =>
      have hfwg := fwg_of_not_ready h.toCore hready
      rw [if_neg (by decide), yields_bind, importOrFallback, yields_tryCatch, yields_bind]
      have himported : ∀ reply : Reply, Sound ⟨w.state, (.importFritzconnection, reply) :: w.trace⟩ :=
        fun reply => h.cons_aside (x := (.importFritzconnection, reply)) ⟨nofun, rfl⟩
      apply call_yields
      · intro reply _ _
        rw [yields_pure, if_pos rfl]
        exact bootstrap_sound (himported reply) hfwg
      · intro reply e _
        by_cases hm : e.isModuleNotFoundError = true
        · rw [if_pos hm, yields_bind, yields_update, yields_pure, if_neg (by decide), yields_pure]
          refine (himported reply).same ⟨rfl, rfl, rfl, fun hsome => ?_⟩
          change w.state.fwg.isSome = true at hsome
          rw [hfwg] at hsome
          cases hsome
        · rw [if_neg hm, yields_throw]
          exact (himported reply).raisedIn e

theorem onWireguard_sound {unexpectedMode : String} {r : Nat → Request} {part : Reply → Except CallError β}
    (hr : ∀ fwg, userOf (r fwg) = some fwg) (hclose : ∀ fwg fc, r fwg ≠ .close fc) (h : Sound w) :
    Yields partner w (onWireguard account unexpectedMode r part) (fun _ w' => Sound w') RaisedIn := by
  rw [onWireguard, yields_bind]
  refine (ensureClient_sound h).mono ?_ fun _ _ he => he
  intro _ w' hsound
  rw [yields_bind, yields_read]
  by_cases hmode : w'.state.mode ≠ some .fritzconnection
  · rw [if_pos hmode, yields_throw]
    exact hsound.raisedIn _
  rw [if_neg hmode]
  cases hfwg : w'.state.fwg with
  | none => exact yields_throw.mpr (hsound.raisedIn _)
  | some fwg =>
      have hused : ∀ reply : Reply, Sound ⟨w'.state, (r fwg, reply) :: w'.trace⟩ := by
        intro reply
        refine ⟨hsound.toCore.cons (x := (r fwg, reply)) (hclose fwg) ?_, hsound.idle.cons⟩
        intro fc hfc
        rw [hr fwg, Option.some.injEq] at hfc
        rw [← hfc]
        exact (hsound.live fwg (hsound.paired fwg hfwg).1).2
      exact call_yields (fun reply _ _ => hused reply) fun reply e _ => (hused reply).raisedIn e

theorem onFallback_sound {p : SessionM β} (h : Sound w) :
    Yields partner w (onFallback p) (fun _ w' => Sound w') (fun e w' => RaisedIn e w') := by
  have hafter : ∀ (t : Session.State) (made : List (Session.Request × Session.Answer)),
      Sound ⟨{ w.state with fallbackSession := some t }, made.map boxChannel.exchange ++ w.trace⟩ := by
    intro t made
    have hsame : Sound ⟨{ w.state with fallbackSession := some t }, w.trace⟩ :=
      h.same ⟨rfl, rfl, rfl, fun _ => rfl⟩
    refine hsame.append_aside fun x hx => ?_
    obtain ⟨y, -, rfl⟩ := List.mem_map.mp hx
    exact ⟨nofun, rfl⟩
  rw [onFallback, yields_bind, yields_read]
  cases w.state.fallbackSession with
  | none => exact yields_throw.mpr (h.raisedIn _)
  | some s => exact Channel.yields_run (fun _ t made => hafter t made) fun _ t made =>
      (hafter t made).raisedIn _

theorem raiseInvalidated_sound {e : PyError} {ok : β → AdapterWorld → Prop} (h : Core w) :
    Yields partner w (raiseInvalidated e : AdapterM β) ok (fun _ w' => Sound w') := by
  rw [raiseInvalidated, yields_bind]
  refine (invalidateSession_sound h).mono ?_ fun _ _ hf => hf.elim
  exact fun _ w' hw' => yields_throw.mpr hw'.1

theorem raiseOther_sound {e : CallError} {flag : Bool} {ok : β → AdapterWorld → Prop} (h : Sound w) :
    Yields partner w (raiseOther e flag : AdapterM β) ok (fun _ w' => Sound w') := by
  rw [raiseOther]
  split <;> exact yields_throw.mpr h

theorem RaisedIn.sound {e : CallError} (h : RaisedIn e w) (ht : e.isRequestsTimeout = false)
    (hc : e.isRequestsConnectionError = false) : Sound w :=
  ⟨h.1, h.2 (by rw [isTransient, ht, hc]; rfl)⟩

theorem handleRetryError_sound {failMessage : String} {flag : Bool} {e : CallError}
    {ok : β → AdapterWorld → Prop} (h : RaisedIn e w) :
    Yields partner w (handleRetryError failMessage flag e : AdapterM β) ok (fun _ w' => Sound w') := by
  rw [handleRetryError]
  cases ht : e.isRequestsTimeout with
  | true =>
      rw [if_pos rfl]
      exact raiseInvalidated_sound h.1
  | false =>
      rw [if_neg (by decide)]
      cases hc : e.isRequestsConnectionError with
      | true =>
          rw [if_pos rfl]
          exact raiseInvalidated_sound h.1
      | false =>
          rw [if_neg (by decide)]
          exact raiseOther_sound (h.sound ht hc)

theorem handleCallError_sound {syncCall : AdapterM β} {failMessage : String} {flag : Bool} {e : CallError}
    (hsync : ∀ w, Sound w → Yields partner w syncCall (fun _ w' => Sound w') RaisedIn)
    (h : RaisedIn e w) :
    Yields partner w (handleCallError syncCall failMessage flag e) (fun _ w' => Sound w')
      (fun _ w' => Sound w') := by
  rw [handleCallError]
  cases ht : e.isRequestsTimeout with
  | true =>
      rw [if_pos rfl]
      exact raiseInvalidated_sound h.1
  | false =>
      rw [if_neg (by decide)]
      cases hc : e.isRequestsConnectionError with
      | false =>
          rw [if_neg (by decide)]
          exact raiseOther_sound (h.sound ht hc)
      | true =>
          rw [if_pos rfl, yields_bind, yields_read]
          cases w.state.useTls with
          | false =>
              rw [if_neg (by decide)]
              exact raiseInvalidated_sound h.1
          | true =>
              -- The client over HTTPS is closed before the one over HTTP is opened.
              rw [if_pos rfl, yields_bind, yields_update, yields_bind]
              have hsame : Core { w with state := { w.state with useTls := false } } :=
                h.1.same ⟨rfl, rfl, rfl, fun _ => rfl⟩
              refine (closeSync_sound hsame).mono ?_ fun _ _ hs => hs
              intro _ w' hs
              rw [yields_tryCatch]
              refine (hsync w' hs).mono (fun _ _ hb => hb) ?_
              exact fun e w'' he => handleRetryError_sound he

theorem withHttpsHttpFallback_sound {fallbackPrimary syncCall : AdapterM β} {failMessage : String}
    {flag : Bool} (hprimary : ∀ w, Sound w → Yields partner w fallbackPrimary (fun _ w' => Sound w') RaisedIn)
    (hsync : ∀ w, Sound w → Yields partner w syncCall (fun _ w' => Sound w') RaisedIn) (h : Sound w) :
    Yields partner w (withHttpsHttpFallback account fallbackPrimary syncCall failMessage flag)
      (fun _ w' => Sound w') (fun _ w' => Sound w') := by
  rw [withHttpsHttpFallback, yields_tryCatch, yields_bind]
  refine (ensureClient_sound h).mono ?_ fun e w' he => handleCallError_sound hsync he
  intro _ w' hsound
  rw [yields_bind, yields_read]
  split
  · exact (hprimary w' hsound).mono (fun _ _ hb => hb) fun e w'' he => handleCallError_sound hsync he
  · exact (hsync w' hsound).mono (fun _ _ hb => hb) fun e w'' he => handleCallError_sound hsync he

theorem asyncClose_sound (h : Sound w) :
    Yields partner w asyncClose (fun _ w' => Sound w') (fun _ w' => Sound w') := by
  rw [asyncClose, yields_bind, yields_read]
  cases w.state.fallbackSession with
  | some s => exact yields_update.mpr (h.same ⟨rfl, rfl, rfl, fun _ => rfl⟩)
  | none =>
      cases hfc : w.state.fc with
      | none => exact yields_pure.mpr h
      | some fc =>
          simp only
          exact closeSync_sound h.toCore

end Calls

inductive Method
  | asyncGetVpnConnections
  | asyncToggleVpn (connectionUid : String) (enable : Bool)
  | invalidateSession
  | asyncClose

def perform (account : Account) (partner : Partner Request Reply) (w : AdapterWorld) :
    Method → AdapterWorld
  | .asyncGetVpnConnections => (asyncGetVpnConnections account partner w).2
  | .asyncToggleVpn uid enable => (asyncToggleVpn account uid enable partner w).2
  | .invalidateSession => (invalidateSession partner w).2
  | .asyncClose => (asyncClose partner w).2

def methodMachine (account : Account) (partner : Partner Request Reply) :
    Machine AdapterWorld Method Unit where
  init := ⟨{}, []⟩
  step w m := ((), perform account partner w m)

theorem perform_sound {account : Account} {partner : Partner Request Reply} {w : AdapterWorld}
    (h : Sound w) (m : Method) : Sound (perform account partner w m) := by
  cases m with
  | asyncGetVpnConnections =>
      have hsync : ∀ w, Sound w → Yields partner w (getVpnConnectionsSync account)
          (fun _ w' => Sound w') RaisedIn := fun _ hw => onWireguard_sound (fun _ => rfl) nofun hw
      exact yields_world.mp (withHttpsHttpFallback_sound (fun _ hw => onFallback_sound hw) hsync h)
  | asyncToggleVpn uid enable =>
      have hsync : ∀ w, Sound w → Yields partner w (toggleVpnSync account uid enable)
          (fun _ w' => Sound w') RaisedIn := fun _ hw => onWireguard_sound (fun _ => rfl) nofun hw
      exact yields_world.mp (withHttpsHttpFallback_sound (fun _ hw => onFallback_sound hw) hsync h)
  | invalidateSession =>
      have hinvalid : Yields partner w FritzconnectionSession.invalidateSession (fun _ w' => Sound w')
          (fun _ w' => Sound w') :=
        (invalidateSession_sound h.toCore).mono (fun _ _ hw => hw.1) fun _ _ hf => hf.elim
      exact yields_world.mp hinvalid
  | asyncClose => exact yields_world.mp (asyncClose_sound h)

theorem sound_init : Sound ⟨{}, []⟩ := by
  refine ⟨⟨?_, ?_, ?_, ?_, ?_⟩, idle_of_none rfl⟩
  · exact fun x hx => absurd hx List.not_mem_nil
  · exact fun fc hfc => by cases hfc
  · exact fun fwg hfwg => by cases hfwg
  · exact fun fc hlt => absurd hlt (Nat.not_lt_zero fc)
  · intro later x earlier fc heq
    exact absurd heq.symm (List.append_ne_nil_of_right_ne_nil later (List.cons_ne_nil x earlier))

/-- In every run a FritzConnection that was opened is the current one, or was asked to
close, or its FritzWireguard raised what no handler answers; and no client is used
after it has closed. -/
theorem clients_accounted {account : Account} {partner : Partner Request Reply}
    {hist : List (Record AdapterWorld Method Unit)} {w : AdapterWorld}
    (hrun : Run (methodMachine account partner) hist w) :
    (∀ fc, fc < w.state.opened →
        w.state.fc = some fc ∨ Closed fc w.trace ∨ Abandoned fc w.trace) ∧
      ∀ later x earlier fc, w.trace = later ++ x :: earlier → userOf x.1 = some fc →
        ¬ClosedWell fc earlier := by
  have hsound : Sound w := by
    refine Run.invariant (P := fun _ w => Sound w) sound_init ?_ hrun
    intro _ w m _ hw
    exact perform_sound hw m
  exact ⟨hsound.accounted, hsound.inOrder⟩

def requestsConnectionError (message : String) : CallError :=
  { error := osError message, isRequestsConnectionError := true }

def withoutTls : Partner Request Reply
  | _, .fritzConnection _ _ _ _ true => { done := .error (requestsConnectionError "HTTPS refused") }
  | _, _ => {}

def officeMethods : List Method :=
  [.asyncClose, .asyncToggleVpn "wg0" true, .asyncGetVpnConnections]

def officeWorld : AdapterWorld :=
  ((methodMachine FailedPolls.officeAccount withoutTls).play officeMethods).2

theorem withoutTls_clients_accounted :
    (∀ fc, fc < officeWorld.state.opened → officeWorld.state.fc = some fc ∨
        Closed fc officeWorld.trace ∨ Abandoned fc officeWorld.trace) ∧
      ∀ later x earlier fc, officeWorld.trace = later ++ x :: earlier → userOf x.1 = some fc →
        ¬ClosedWell fc earlier :=
  clients_accounted (run_play (methodMachine FailedPolls.officeAccount withoutTls) officeMethods)

end FritzboxVpn.AdapterClients
