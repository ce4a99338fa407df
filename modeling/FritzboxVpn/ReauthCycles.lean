import FritzboxVpn.CoordinatorSteps
import FritzboxVpn.Entity

namespace FritzboxVpn.ReauthCycles

open Constants Coordinator CoordinatorSteps Entity Exceptions HomeAssistant JsonValue OrderedDict Runs

/-- A poll, or a switch command; Home Assistant is as it is found then, and the session
answers as it may. -/
inductive Input
  | poll (hass : Hass) (p : Poll)
  | command (hass : Hass) (asyncToggleVpn : String → Bool → Except PyError Bool) (connectionUid : String)
      (enable : Bool)

def Input.hass : Input → Hass
  | .poll hass _ => hass
  | .command hass _ _ _ => hass

structure Output where
  credentialsFailed : Bool
  accepted : Bool
  reauthStarted : Bool

def credentialsFailed (report : Report) : Bool :=
  match report.outcome with
  | .ok _ => false
  | .error failed => failed.kind = .authentication

def pollOutput (report : Report) : Output :=
  ⟨credentialsFailed report, report.outcome.isOk, report.reauthStarted⟩

variable (env : Env)

def commandOutput (hass : Hass) (c : State) (result : Except PyError Bool) : Output :=
  match result with
  | .ok _ => ⟨false, false, false⟩
  | .error err => ⟨isAuthError err, false, isAuthError err && (scheduleReauth env hass c).1⟩

def step (c : State) : Input → Output × State
  | .poll hass p => (pollOutput (Coordinator.poll env hass c p).1.1, (Coordinator.poll env hass c p).1.2)
  | .command hass asyncToggleVpn connectionUid enable =>
      let (result, c', _) := toggleVpn env hass c (fun uid enable box => (asyncToggleVpn uid enable, box))
        connectionUid enable ()
      (commandOutput env hass c result, c')

def machine : Machine State Input Output := ⟨{}, step env⟩

abbrev History : Type := List (Record State Input Output)

def InCycle : History → Bool
  | [] => false
  | r :: hist => r.output.reauthStarted || (!r.output.accepted && InCycle hist)

def Loaded (hass : Hass) : Prop :=
  ∃ entryId, env.entryId = some entryId ∧ entryId ≠ "" ∧
    ∃ entry, hass.configEntries.get? entryId = some entry ∧ entry.state = .loaded

variable {env}

theorem scheduleReauth_iff {hass : Hass} {c : State} :
    (scheduleReauth env hass c).1 = true ↔ Loaded env hass ∧ c.reauthScheduled = false := by
  rw [scheduleReauth, Loaded]
  cases he : env.entryId with
  | none =>
      refine ⟨fun h => ?_, fun h => ?_⟩
      · cases h
      · obtain ⟨⟨_, hsome, -⟩, -⟩ := h
        cases hsome
  | some entryId =>
      simp only [Option.some.injEq, exists_eq_left']
      cases hg : hass.configEntries.get? entryId with
      | none => simp
      | some entry =>
          simp only [Option.some.injEq, exists_eq_left']
          cases hflag : c.reauthScheduled <;> by_cases hne : entryId = "" <;>
            cases hs : entry.state <;> simp [hne]

theorem scheduleReauth_flag {hass : Hass} {c : State} :
    (scheduleReauth env hass c).2.reauthScheduled = ((scheduleReauth env hass c).1 || c.reauthScheduled) := by
  rw [scheduleReauth]
  cases env.entryId with
  | none => rfl
  | some entryId =>
      dsimp only
      cases hass.configEntries.get? entryId with
      | none => rfl
      | some entry =>
          dsimp only
          split <;> rfl

structure StepSpec (env : Env) (hass : Hass) (c : State) (o : Output) (c' : State) : Prop where
  started : o.reauthStarted = true ↔
    o.credentialsFailed = true ∧ Loaded env hass ∧ c.reauthScheduled = false
  flag : c'.reauthScheduled = (o.reauthStarted || (!o.accepted && c.reauthScheduled))

theorem armRecovery_reauthScheduled (c : State) (p : Poll) :
    (armRecovery env c p).reauthScheduled = c.reauthScheduled := by
  change (rememberData env c).reauthScheduled = c.reauthScheduled
  rw [rememberData]
  split <;> rfl

theorem refresh_reauthScheduled (report : Report) (c : State) :
    (refresh report c).reauthScheduled = c.reauthScheduled := by
  rw [refresh]
  split <;> rfl

theorem handleError_spec {hass hass' : Hass} {c c₁ : State} (hloaded : Loaded env hass' ↔ Loaded env hass)
    (hflag : c₁.reauthScheduled = c.reauthScheduled) (p : Poll) (err : PyError) :
    StepSpec env hass c (pollOutput (handleError env hass' c₁ p err).1)
      (refresh (handleError env hass' c₁ p err).1 (handleError env hass' c₁ p err).2) := by
  rcases handleError_cases env hass' c₁ p err with ⟨-, text, h⟩ | ⟨-, text, h⟩
  · rw [h]
    refine ⟨?_, ?_⟩
    · have hstarted : (scheduleReauth env hass' c₁).1 = true ↔
          Loaded env hass ∧ c.reauthScheduled = false := by
        rw [scheduleReauth_iff, hloaded, hflag]
      exact hstarted.trans (and_iff_right rfl).symm
    · rw [refresh_reauthScheduled, ← hflag]
      exact scheduleReauth_flag
  · rw [h]
    refine ⟨?_, ?_⟩
    · exact iff_of_false Bool.false_ne_true fun hfailed => Bool.false_ne_true hfailed.1
    · rw [refresh_reauthScheduled]
      exact (armRecovery_reauthScheduled c₁ p).trans hflag

theorem processConnections_spec {hass : Hass} {c c₁ : State}
    (hflag : c₁.reauthScheduled = c.reauthScheduled) (p : Poll) (connections : Dict String Json) :
    let r := processConnections env hass c₁ p connections
    StepSpec env hass c (pollOutput r.1.1) (refresh r.1.1 r.1.2) := by
  simp only [processConnections]
  cases hr : applyUidRemapIfNeeded env hass (rememberConnectionNames env c₁ connections) connections with
  | mk result hass' =>
      cases result with
      | error e =>
          have hloaded : Loaded env hass' ↔ Loaded env hass := by
            rw [Loaded, applyUidRemap_error_configEntries hr, Loaded]
          have hsame : (rememberConnectionNames env c₁ connections).reauthScheduled = c.reauthScheduled := hflag
          exact handleError_spec hloaded hsame p e
      | ok c₂ =>
          refine ⟨iff_of_false Bool.false_ne_true fun hfailed => Bool.false_ne_true hfailed.1, ?_⟩
          rw [refresh_reauthScheduled]
          rfl

theorem poll_spec (hass : Hass) (c : State) (p : Poll) :
    StepSpec env hass c (pollOutput (Coordinator.poll env hass c p).1.1)
      (Coordinator.poll env hass c p).1.2 := by
  change StepSpec env hass c (pollOutput (asyncUpdateData env hass c p).1.1)
    (refresh (asyncUpdateData env hass c p).1.1 (asyncUpdateData env hass c p).1.2)
  rw [asyncUpdateData]
  cases p.fetch with
  | error e => exact handleError_spec Iff.rfl rfl p e
  | ok connections =>
      dsimp only
      split
      · split
        · have hflag : (clearRecovery c).reauthScheduled = c.reauthScheduled := rfl
          exact processConnections_spec hflag p connections
        · refine ⟨iff_of_false Bool.false_ne_true fun hfailed => Bool.false_ne_true hfailed.1, ?_⟩
          rw [refresh_reauthScheduled]
          rfl
      · exact processConnections_spec rfl p connections

theorem step_spec (c : State) (i : Input) : StepSpec env i.hass c (step env c i).1 (step env c i).2 := by
  cases i with
  | poll hass p => exact poll_spec hass c p
  | command hass asyncToggleVpn connectionUid enable =>
      simp only [step, toggleVpn]
      cases asyncToggleVpn (c.resolveConnectionUid connectionUid) enable with
      | ok done => exact ⟨iff_of_false Bool.false_ne_true fun hfailed => Bool.false_ne_true hfailed.1, rfl⟩
      | error err =>
          cases hauth : isAuthError err with
          | false =>
              simp only [commandOutput, hauth]
              exact ⟨iff_of_false Bool.false_ne_true fun hfailed => Bool.false_ne_true hfailed.1, rfl⟩
          | true =>
              simp only [commandOutput, hauth, Bool.true_and, if_true]
              exact ⟨scheduleReauth_iff.trans (and_iff_right rfl).symm, scheduleReauth_flag⟩

/-- The flag tells whether a cycle is on. -/
theorem flag_of_run {hist : History} {s : State} (h : Run (machine env) hist s) :
    s.reauthScheduled = InCycle hist := by
  refine Run.invariant (P := fun hist s => s.reauthScheduled = InCycle hist) rfl ?_ h
  intro hist s i _ ih
  rw [InCycle, ← ih]
  exact (step_spec s i).flag

/-- In any order of polls and switch commands, a step starts a re-authentication flow
exactly if the credentials fail in it, the entry is loaded, and no flow was started since
a list was last accepted. -/
theorem started_iff {r : Record State Input Output} {hist : History} {s : State}
    (h : Run (machine env) (r :: hist) s) : r.output.reauthStarted = true ↔
      r.output.credentialsFailed = true ∧ Loaded env r.input.hass ∧ InCycle hist = false := by
  obtain ⟨hrun, hr, -⟩ := h.of_cons
  rw [← flag_of_run hrun, hr]
  exact (step_spec r.before r.input).started

def loadedHome : Hass :=
  { MemoryRegistry.emptyHass with configEntries := Dict.ofList [("entry", ⟨.loaded, some ⟨∅, ∅, ∅⟩⟩)] }

def loginFailures : List Input :=
  [.command loadedHome (fun _ _ => .error (valueError "Login failed")) "a" true,
    .poll loadedHome ⟨.error (valueError "Login failed"), 0, 0⟩]

theorem loginFailures_started_iff : ∃ r hist,
    ((machine memoryEnv).play loginFailures).1 = r :: hist ∧ hist ≠ [] ∧
      (r.output.reauthStarted = true ↔
        r.output.credentialsFailed = true ∧ Loaded memoryEnv r.input.hass ∧ InCycle hist = false) := by
  refine ⟨_, _, rfl, fun h => ?_, started_iff (run_play (machine memoryEnv) loginFailures)⟩
  cases h

/-- The poll starts a flow, and the command after it none. -/
example : ((machine memoryEnv).play loginFailures).1.map (fun r => r.output.reauthStarted) =
    [false, true] := by decide +kernel

end FritzboxVpn.ReauthCycles
