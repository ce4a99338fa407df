import FritzboxVpn.Entity
import FritzboxVpn.FritzconnectionSession
import FritzboxVpn.SelfHealing

namespace FritzboxVpn.AdapterRefinement

open Channels CoordinatorSteps Exceptions FailedPolls FetchErrors FritzconnectionSession
  HomeAssistant Interaction Interaction.Program JsonValue Listings OrderedDict Runs
open Coordinator (Env Report poll)
open Session (Account Answer SessionM)

/-- What the coordinator needs of the object it talks to the box through. -/
structure Backend (τ : Type) where
  init : τ
  fetch : Partner Session.Request Answer → τ → (Except PyError Listing × List Exchange) × τ
  toggle : Partner Session.Request Answer → String → Bool → τ →
    (Except PyError Bool × List Exchange) × τ
  invalidate : τ → τ

inductive Command
  | poll (now later : ℚ)
  | toggle (connectionUid : String) (enable : Bool)

structure Turn where
  hass : Hass
  box : Partner Session.Request Answer
  command : Command

structure Shown where
  exchanges : List Exchange
  report : Option Report := none
  toggled : Option (Except PyError Bool) := none

def pollThrough {τ : Type} (env : Env) (B : Backend τ) (turn : Turn) (now later : ℚ)
    (s : Coordinator.State × τ) : Shown × Coordinator.State × τ :=
  let fetched := B.fetch turn.box s.2
  let polled := poll env turn.hass s.1 ⟨fetched.1.1, now, later⟩
  ({ exchanges := fetched.1.2, report := some polled.1.1 }, polled.1.2,
    if polled.1.1.sessionInvalidated then B.invalidate fetched.2 else fetched.2)

def send {τ : Type} (B : Backend τ) (box : Partner Session.Request Answer) (connectionUid : String)
    (enable : Bool) (s : List Exchange × τ) : Except PyError Bool × List Exchange × τ :=
  let done := B.toggle box connectionUid enable s.2
  (done.1.1, done.1.2, done.2)

def toggleThrough {τ : Type} (env : Env) (B : Backend τ) (turn : Turn) (connectionUid : String)
    (enable : Bool) (s : Coordinator.State × τ) : Shown × Coordinator.State × τ :=
  let toggled := Entity.toggleVpn env turn.hass s.1 (send B turn.box) connectionUid enable ([], s.2)
  ({ exchanges := toggled.2.2.1, toggled := some toggled.1 }, toggled.2.1, toggled.2.2.2)

/-- The coordinator under polls and switch commands. -/
def coordinatorMachine {τ : Type} (env : Env) (B : Backend τ) :
    Machine (Coordinator.State × τ) Turn Shown where
  init := ({}, B.init)
  step s turn :=
    match turn.command with
    | .poll now later => pollThrough env B turn now later s
    | .toggle connectionUid enable => toggleThrough env B turn connectionUid enable s

def sessionBackend (account : Account) : Backend Session.State where
  init := {}
  fetch box s :=
    let w := Session.asyncGetVpnConnections account box ⟨s, []⟩
    ((w.1, w.2.trace), w.2.state)
  toggle box uid enable s :=
    let w := Toggle.asyncToggleVpn account uid enable box ⟨s, []⟩
    ((w.1, w.2.trace), w.2.state)
  invalidate := Session.invalidateSession

theorem pollThrough_session (env : Env) (account : Account) (turn : Turn) (now later : ℚ)
    (c : Coordinator.State) (s : Session.State) :
    let o := pollThroughSession env account turn.box turn.hass c s now later
    pollThrough env (sessionBackend account) turn now later (c, s) =
      ({ exchanges := o.exchanges, report := some o.report }, o.coordinator, o.session) := rfl

def moduleNotFound : CallError :=
  { error := otherError "No module named 'fritzconnection'", isModuleNotFoundError := true }

def withoutPackage (box : Partner Session.Request Answer) : Partner Request Reply
  | trace, .session r => { box := box (boxChannel.trace trace) r }
  | _, .importFritzconnection => { done := .error moduleNotFound }
  | _, _ => {}

def shownResult {β : Type} (w : Except CallError β × World State Request Reply) :
    (Except PyError β × List Exchange) × State :=
  ((w.1.mapError CallError.error, boxChannel.trace w.2.trace), w.2.state)

def adapterBackend (account : Account) : Backend State where
  init := {}
  fetch box s := shownResult (asyncGetVpnConnections account (withoutPackage box) ⟨s, []⟩)
  toggle box uid enable s :=
    shownResult (asyncToggleVpn account uid enable (withoutPackage box) ⟨s, []⟩)
  invalidate s := (invalidateSession (withoutPackage fun _ _ => .ok ⟨0, "", .ok ""⟩) ⟨s, []⟩).2.state

structure Backend.Simulates {τ τ' : Type} (B : Backend τ) (B' : Backend τ') (R : τ → τ' → Prop) :
    Prop where
  init : R B.init B'.init
  fetch : ∀ box t t', R t t' → (B.fetch box t).1 = (B'.fetch box t').1 ∧
    R (B.fetch box t).2 (B'.fetch box t').2
  toggle : ∀ box uid enable t t', R t t' → (B.toggle box uid enable t).1 = (B'.toggle box uid enable t').1 ∧
    R (B.toggle box uid enable t).2 (B'.toggle box uid enable t').2
  invalidate : ∀ t t', R t t' → R (B.invalidate t) (B'.invalidate t')

section Simulation

variable {τ τ' : Type} {B : Backend τ} {B' : Backend τ'} {R : τ → τ' → Prop} (env : Env)

/-- The coordinator only looks at the result of the session. -/
theorem toggleVpn_congr {β γ : Type} (hass : Hass) {c : Coordinator.State} {uid : String} (enable : Bool)
    {f : String → Bool → β → Except PyError Bool × β} {g : String → Bool → γ → Except PyError Bool × γ}
    {b : β} {b' : γ}
    (h : (f (c.resolveConnectionUid uid) enable b).1 = (g (c.resolveConnectionUid uid) enable b').1) :
    (Entity.toggleVpn env hass c f uid enable b).1 = (Entity.toggleVpn env hass c g uid enable b').1 ∧
      (Entity.toggleVpn env hass c f uid enable b).2.1 =
        (Entity.toggleVpn env hass c g uid enable b').2.1 := by
  rw [Entity.toggleVpn, Entity.toggleVpn]
  cases hf : f (c.resolveConnectionUid uid) enable b with
  | mk x b₁ =>
      cases hg : g (c.resolveConnectionUid uid) enable b' with
      | mk y b₂ =>
          rw [hf, hg] at h
          cases h
          cases x <;> exact ⟨rfl, rfl⟩

/-- A coordinator cannot tell such backends apart. -/
theorem Backend.Simulates.step (h : B.Simulates B' R) (turn : Turn) (c : Coordinator.State) {t : τ} {t' : τ'}
    (ht : R t t') :
    ((coordinatorMachine env B).step (c, t) turn).1 = ((coordinatorMachine env B').step (c, t') turn).1 ∧
      ((coordinatorMachine env B).step (c, t) turn).2.1 =
        ((coordinatorMachine env B').step (c, t') turn).2.1 ∧
      R ((coordinatorMachine env B).step (c, t) turn).2.2
        ((coordinatorMachine env B').step (c, t') turn).2.2 := by
  obtain ⟨hass, box, command⟩ := turn
  cases command with
  | poll now later =>
      obtain ⟨hshown, hstate⟩ := h.fetch box t t' ht
      have hstep : ∀ {σ : Type} (B : Backend σ) (t : σ),
          (coordinatorMachine env B).step (c, t) ⟨hass, box, .poll now later⟩ =
            pollThrough env B ⟨hass, box, .poll now later⟩ now later (c, t) := fun _ _ => rfl
      rw [hstep, hstep, pollThrough, pollThrough, hshown]
      refine ⟨rfl, rfl, ?_⟩
      dsimp only
      split
      · exact h.invalidate _ _ hstate
      · exact hstate
  | toggle uid enable =>
      obtain ⟨hshown, hstate⟩ := h.toggle box (c.resolveConnectionUid uid) enable t t' ht
      have hresult : (send B box (c.resolveConnectionUid uid) enable ([], t)).1 =
          (send B' box (c.resolveConnectionUid uid) enable ([], t')).1 := congrArg Prod.fst hshown
      obtain ⟨htoggled, hcoordinator⟩ := toggleVpn_congr env hass enable hresult
      have hsaid := fun {σ : Type} (B : Backend σ) (t : σ) => congrArg Prod.snd
        (Entity.toggleVpn_box env hass c (send B box) uid enable ([], t))
      have hstep : ∀ {σ : Type} (B : Backend σ) (t : σ),
          (coordinatorMachine env B).step (c, t) ⟨hass, box, .toggle uid enable⟩ =
            toggleThrough env B ⟨hass, box, .toggle uid enable⟩ uid enable (c, t) := fun _ _ => rfl
      rw [hstep, hstep, toggleThrough, toggleThrough]
      dsimp only at hsaid ⊢
      rw [hsaid, hsaid, htoggled]
      refine ⟨?_, hcoordinator, hstate⟩
      rw [send, send, hshown]

theorem Backend.Simulates.play (h : B.Simulates B' R) (turns : List Turn) :
    ((coordinatorMachine env B).play turns).1.map (·.output) =
        ((coordinatorMachine env B').play turns).1.map (·.output) ∧
      ((coordinatorMachine env B).play turns).2.1 = ((coordinatorMachine env B').play turns).2.1 ∧
      R ((coordinatorMachine env B).play turns).2.2 ((coordinatorMachine env B').play turns).2.2 := by
  induction turns with
  | nil => exact ⟨rfl, rfl, h.init⟩
  | cons turn turns ih =>
      obtain ⟨hshown, hcoordinator, hrel⟩ := ih
      obtain ⟨hlast, hnext, hrel'⟩ := h.step env turn
        ((coordinatorMachine env B).play turns).2.1 hrel
      have hsame : ((coordinatorMachine env B').play turns).2 =
          (((coordinatorMachine env B).play turns).2.1, ((coordinatorMachine env B').play turns).2.2) :=
        Prod.ext hcoordinator.symm rfl
      rw [← hsame] at hlast hnext hrel'
      refine ⟨?_, hnext, hrel'⟩
      exact congrArg₂ List.cons hlast hshown

end Simulation

/-- The adapter stands for the session: it has not begun, or it fell back to one. -/
inductive StandsFor (a : State) (s : Session.State) : Prop
  | fresh (htls : a.useTls = true) (hfc : a.fc = none) (hmode : a.mode = none)
      (hnone : a.fallbackSession = none) (hs : s = {})
  | fallback (htls : a.useTls = true) (hfc : a.fc = none) (hmode : a.mode = some .fritzboxvpn)
      (hsome : a.fallbackSession = some s)

section Adapter

variable {account : Account} {box : Partner Session.Request Answer} {β : Type}

theorem partner_withoutPackage {before : List (Request × Reply)} (h : boxChannel.trace before = []) :
    boxChannel.partner (withoutPackage box) before = box := by
  funext made r
  have htrace : boxChannel.trace (made.map boxChannel.exchange ++ before) = made := by
    rw [Channel.trace_append, Channel.trace_exchanges, h, List.append_nil]
  exact congrArg (box · r) htrace

def AsSession (box : Partner Session.Request Answer) (p : SessionM β) (s : Session.State)
    (result : Except PyError β) (w : World State Request Reply) : Prop :=
  result = (p box ⟨s, []⟩).1 ∧ boxChannel.trace w.trace = (p box ⟨s, []⟩).2.trace ∧
    StandsFor w.state (p box ⟨s, []⟩).2.state

theorem onFallback_asSession {p : SessionM β} {s : Session.State} {w : World State Request Reply}
    (htls : w.state.useTls = true) (hfc : w.state.fc = none)
    (hmode : w.state.mode = some .fritzboxvpn) (hsome : w.state.fallbackSession = some s)
    (htrace : boxChannel.trace w.trace = []) :
    Yields (withoutPackage box) w (onFallback p) (fun b => AsSession box p s (.ok b))
      (fun e w' => AsSession box p s (.error e.error) w' ∧ e = ofPyError e.error) := by
  have hpartner : boxChannel.partner (withoutPackage box) w.trace = box := partner_withoutPackage htrace
  have hexchanges : ∀ made : List Exchange,
      boxChannel.trace (made.map boxChannel.exchange ++ w.trace) = made := by
    intro made
    rw [Channel.trace_append, Channel.trace_exchanges, htrace, List.append_nil]
  rw [onFallback, yields_bind, yields_read, hsome]
  rcases hp : p box ⟨s, []⟩ with ⟨result, inner⟩
  have ends : AsSession box p s result ⟨{ w.state with fallbackSession := some inner.state },
      inner.trace.map boxChannel.exchange ++ w.trace⟩ := by
    rw [AsSession, hp]
    exact ⟨rfl, hexchanges inner.trace, .fallback htls hfc hmode rfl⟩
  rw [← hpartner] at hp
  apply Channel.yields_run_of hp
  · rintro b rfl
    exact ends
  · rintro e rfl
    exact ⟨ends, rfl⟩

/-- Once the session is set up the client is ready, and nothing has been said to the box. -/
theorem ensureClient_fallsBack {a : State} {s : Session.State} (h : StandsFor a s) :
    Yields (withoutPackage box) ⟨a, []⟩ (ensureClient account)
      (fun _ w => w.state.useTls = true ∧ w.state.fc = none ∧ w.state.mode = some .fritzboxvpn ∧
        w.state.fallbackSession = some s ∧ boxChannel.trace w.trace = []) (fun _ _ => False) := by
  rw [ensureClient, yields_bind, yields_read]
  cases h with
  | fresh htls hfc hmode hnone hs =>
      have hready : isReady a = false := by simp [isReady, hmode]
      rw [if_neg (by rw [hready]; decide), yields_bind, importOrFallback, yields_tryCatch, yields_bind,
        call, yields_bind, yields_request_iff, yields_ended]
      have hmissing : moduleNotFound.isModuleNotFoundError = true := rfl
      simp only [withoutPackage]
      rw [if_pos hmissing, yields_bind, yields_update, yields_pure, if_neg (by decide), yields_pure]
      refine ⟨htls, hfc, rfl, ?_, rfl⟩
      simp only [useFallback, htls, hs]
      rfl
  | fallback htls hfc hmode hsome =>
      have hready : isReady a = true := by simp [isReady, hmode, hsome]
      rw [if_pos hready, yields_pure]
      exact ⟨htls, hfc, hmode, hsome, rfl⟩

/-- A call of the adapter comes to what the session makes of it. -/
theorem withHttpsHttpFallback_asSession {a : State} {s : Session.State} (h : StandsFor a s)
    (p : SessionM β) (syncCall : AdapterM β) (failMessage : String) (authAsValueError : Bool) :
    Yields (withoutPackage box) ⟨a, []⟩
      (withHttpsHttpFallback account (onFallback p) syncCall failMessage authAsValueError)
      (fun b => AsSession box p s (.ok b)) (fun e => AsSession box p s (.error e.error)) := by
  rw [withHttpsHttpFallback, yields_tryCatch, yields_bind]
  refine (ensureClient_fallsBack h).mono ?_ fun _ _ hf => hf.elim
  rintro _ w ⟨htls, hfc, hmode, hsome, htrace⟩
  rw [yields_bind, yields_read, if_pos hmode]
  refine (onFallback_asSession htls hfc hmode hsome htrace).mono (fun _ _ hb => hb) ?_
  rintro e w' ⟨he, hplain⟩
  have hcall : handleCallError syncCall failMessage authAsValueError (ofPyError e.error) =
      throw (ofPyError e.error) := rfl
  rw [hplain, hcall, yields_throw]
  exact he

theorem shownResult_of_asSession {p : SessionM β} {q : AdapterM β} {a : State} {s : Session.State}
    (h : Yields (withoutPackage box) ⟨a, []⟩ q (fun b => AsSession box p s (.ok b))
      (fun e => AsSession box p s (.error e.error))) :
    (shownResult (q (withoutPackage box) ⟨a, []⟩)).1 =
        ((p box ⟨s, []⟩).1, (p box ⟨s, []⟩).2.trace) ∧
      StandsFor (shownResult (q (withoutPackage box) ⟨a, []⟩)).2 (p box ⟨s, []⟩).2.state := by
  have hends := yields_result (P := fun result w =>
    AsSession box p s (result.mapError CallError.error) w) |>.mp h
  exact ⟨Prod.ext hends.1 hends.2.1, hends.2.2⟩

theorem invalidate_standsFor {a : State} {s : Session.State} (h : StandsFor a s) :
    StandsFor ((adapterBackend account).invalidate a) (Session.invalidateSession s) := by
  have hyields : ∀ partner, Yields partner ⟨a, []⟩ invalidateSession
      (fun _ w => StandsFor w.state (Session.invalidateSession s)) (fun _ _ => False) := by
    intro partner
    have hfc : (invalidateFallback a).fc = none := by
      cases h with
      | fresh _ hfc => exact hfc
      | fallback _ hfc => exact hfc
    rw [invalidateSession, yields_bind, yields_update, yields_bind, yields_read]
    simp only [hfc]
    rw [yields_update]
    cases h with
    | fresh htls hfc hmode hnone hs =>
        refine .fresh rfl rfl hmode ?_ ?_
        · simp [dropClient, invalidateFallback, hnone]
        · rw [hs]
          rfl
    | fallback htls hfc hmode hsome =>
        refine .fallback rfl rfl hmode ?_
        simp [dropClient, invalidateFallback, hsome]
  exact yields_world (P := fun w => StandsFor w.state (Session.invalidateSession s)) |>.mp
    ((hyields _).mono (fun _ _ hw => hw) fun _ _ hf => hf.elim)

theorem adapter_simulates (account : Account) :
    (adapterBackend account).Simulates (sessionBackend account) StandsFor where
  init := .fresh rfl rfl rfl rfl rfl
  fetch _ _ _ h := shownResult_of_asSession
    (withHttpsHttpFallback_asSession h (Session.asyncGetVpnConnections account) _ _ _)
  toggle _ uid enable _ _ h := shownResult_of_asSession
    (withHttpsHttpFallback_asSession h (Toggle.asyncToggleVpn account uid enable) _ _ _)
  invalidate _ _ h := invalidate_standsFor h

end Adapter

/-- Where the WireGuard package is missing, the coordinator does through the adapter
what it would do through the session itself. -/
theorem adapter_refines_session (env : Env) (account : Account) (turns : List Turn) :
    ((coordinatorMachine env (adapterBackend account)).play turns).1.map (·.output) =
        ((coordinatorMachine env (sessionBackend account)).play turns).1.map (·.output) ∧
      ((coordinatorMachine env (adapterBackend account)).play turns).2.1 =
        ((coordinatorMachine env (sessionBackend account)).play turns).2.1 := by
  obtain ⟨hshown, hcoordinator, -⟩ := (adapter_simulates account).play env turns
  exact ⟨hshown, hcoordinator⟩

end FritzboxVpn.AdapterRefinement
