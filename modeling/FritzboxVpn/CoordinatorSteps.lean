import FritzboxVpn.Coordinator
import FritzboxVpn.MemoryRegistry
import FritzboxVpn.RemapAtomicity

namespace FritzboxVpn.CoordinatorSteps

open Constants Coordinator Exceptions HomeAssistant JsonValue MemoryRegistry OrderedDict RemapAtomicity Runs
  UidIdentity UidRemap

def authRaised (err : PyError) : Bool :=
  isAuthError err && (err.isConnectionError || err.isValueError || !err.isTimeoutError)

inductive Failing (env : Env) (hass : Hass) (c : State) (p : Poll) :
    PyError → State → Hass → Prop
  | fetch (err) (h : p.fetch = .error err) : Failing env hass c p err c hass
  | registry (err) (connections) (hass') (h : p.fetch = .ok connections)
      (hrec : c.inRecovery = true)
      (hr : applyUidRemapIfNeeded env hass (rememberConnectionNames env c connections) connections =
        (.error err, hass')) :
      Failing env hass c p err (rememberConnectionNames env c connections) hass'

theorem Failing.eq {env : Env} {hass hass' : Hass} {c c₁ : State} {p : Poll} {err : PyError}
    (h : Failing env hass c p err c₁ hass') : c₁ = { c with uidNames := c₁.uidNames } := by
  cases h with
  | fetch => rfl
  | registry => rfl

inductive Entered (env : Env) (c : State) (p : Poll) (connections : Dict String Json) : State → Prop
  | asIs (h : (connections.isEmpty && c.inRecovery && hadConnections c) = false) :
      Entered env c p connections c
  | cap (h : (connections.isEmpty && c.inRecovery && hadConnections c) = true)
      (hmax : recoveryMaxElapsed env c p.now = true) : Entered env c p connections (clearRecovery c)

inductive PollStep (env : Env) (hass : Hass) (c : State) (p : Poll) : Report → State → Hass → Prop
  | accepted (connections c₁ c₂ hass') (hf : p.fetch = .ok connections)
      (hin : Entered env c p connections c₁)
      (hr : applyUidRemapIfNeeded env hass (rememberConnectionNames env c₁ connections) connections =
        (.ok c₂, hass')) :
      PollStep env hass c p (finishPoll env c₂ p connections).1
        { (finishPoll env c₂ p connections).2 with data := some connections, lastUpdateSuccess := true }
        hass'
  | emptyRefused (connections) (hf : p.fetch = .ok connections)
      (he : connections.isEmpty = true) (hrec : c.inRecovery = true) (hhad : hadConnections c = true)
      (hmax : recoveryMaxElapsed env c p.now = false) (report : Report)
      (hout : ∃ failed, report.outcome = .error failed ∧ failed.kind = .emptyDuringRecovery)
      (hnew : report.newlyConfirmed = ∅) :
      PollStep env hass c p report
        { c with missingUidCounts := Dict.empty, recoveryStablePolls := 0, lastUpdateSuccess := false }
        hass
  | authentication (err c₁ hass') (hc : Failing env hass c p err c₁ hass')
      (ha : authRaised err = true) (text : String) :
      PollStep env hass c p (failAuthentication env hass' c₁ err text).1
        { (failAuthentication env hass' c₁ err text).2 with lastUpdateSuccess := false } hass'
  | connectivity (err c₁ hass') (hc : Failing env hass c p err c₁ hass')
      (ha : authRaised err = false) (text : String) :
      PollStep env hass c p (failConnectivity env c₁ p err text).1
        { armRecovery env c₁ p with lastUpdateSuccess := false } hass'

def remapDecision (env : Env) (c : State) (connections : Dict String Json) :
    Except String (Dict String String) :=
  nameBijectionUidRemap env.reprContainer (env.order.toList (c.seenUids \ connections.keys))
    (env.order.toList (connections.keys \ c.seenUids)) c.uidNames connections

theorem remapDecision_ok {env : Env} {c : State} {connections : Dict String Json}
    {mapping : Dict String String} (h : remapDecision env c connections = .ok mapping) :
    NamesMatch env.reprContainer (env.order.toList (c.seenUids \ connections.keys))
      (env.order.toList (connections.keys \ c.seenUids)) c.uidNames connections mapping :=
  nameBijectionUidRemap_ok (env.order.nodup _) (env.order.nodup _) h

theorem remapDecision_mem {env : Env} {c : State} {connections : Dict String Json}
    {mapping : Dict String String} (h : remapDecision env c connections = .ok mapping) {o n : String}
    (hn : mapping.get? o = some n) :
    o ∈ c.seenUids \ connections.keys ∧ n ∈ connections.keys \ c.seenUids := by
  obtain ⟨ho, hn, -⟩ := ((remapDecision_ok h).get?_iff o n).mp hn
  exact ⟨mem_toList.mp ho, mem_toList.mp hn⟩

structure RemapDue (env : Env) (c : State) (connections : Dict String Json) (entryId : String) :
    Prop where
  entry : env.entryId = some entryId
  entry_ne : entryId ≠ ""
  recovering : c.inRecovery = true
  nonempty : connections.isEmpty = false
  removed : c.seenUids \ connections.keys ≠ ∅
  added : connections.keys \ c.seenUids ≠ ∅

def noteApplied (env : Env) (connections : Dict String Json) (c : State)
    (applied : Dict String String) : State :=
  applied.entries.foldl (noteRemapped env connections) c

theorem applyUidRemap_cases (env : Env) (hass : Hass) (c : State) (connections : Dict String Json) :
    (applyUidRemapIfNeeded env hass c connections = (.ok c, hass) ∧
        ¬ ∃ entryId mapping, RemapDue env c connections entryId ∧
          remapDecision env c connections = .ok mapping) ∨
      ∃ entryId mapping, RemapDue env c connections entryId ∧
        remapDecision env c connections = .ok mapping ∧
          ((∃ applied hass', remapConnectionUids env.api hass entryId mapping = (.ok applied, hass') ∧
              applyUidRemapIfNeeded env hass c connections =
                (.ok (noteApplied env connections c applied), hass')) ∨
            ∃ e hass', remapConnectionUids env.api hass entryId mapping = (.error e, hass') ∧
              applyUidRemapIfNeeded env hass c connections = (.error e, hass')) := by
  rw [applyUidRemapIfNeeded]
  cases he : env.entryId with
  | none =>
      left
      refine ⟨rfl, ?_⟩
      rintro ⟨entryId, mapping, h, -⟩
      have hn := h.entry
      rw [he] at hn
      cases hn
  | some entryId =>
      have hid : ∀ {e : String}, RemapDue env c connections e → e = entryId := by
        intro e h
        exact (Option.some.inj (he.symm.trans h.entry)).symm
      by_cases hg : (!c.inRecovery || entryId == "" || connections.isEmpty) = true
      · left
        refine ⟨by simp only [if_pos hg], ?_⟩
        rintro ⟨e, mapping, h, -⟩
        have hee := hid h
        subst hee
        simp [h.recovering, h.entry_ne, h.nonempty] at hg
      · by_cases hd : c.seenUids \ connections.keys = ∅ ∨ connections.keys \ c.seenUids = ∅
        · left
          refine ⟨by simp only [if_neg hg, if_pos hd], ?_⟩
          rintro ⟨e, mapping, h, -⟩
          exact hd.elim h.removed h.added
        · have hdue : RemapDue env c connections entryId := by
            simp only [Bool.or_eq_true, Bool.not_eq_true', beq_iff_eq, not_or] at hg hd
            exact ⟨he, hg.1.2, by simpa using hg.1.1, by simpa using hg.2, hd.1, hd.2⟩
          simp only [if_neg hg, if_neg hd]
          cases hm : remapDecision env c connections with
          | error reason =>
              left
              rw [remapDecision] at hm
              refine ⟨by simp only [hm], ?_⟩
              rintro ⟨e, mapping, -, h⟩
              cases h
          | ok mapping =>
              right
              rw [remapDecision] at hm
              refine ⟨entryId, mapping, hdue, rfl, ?_⟩
              simp only [hm]
              cases hr : remapConnectionUids env.api hass entryId mapping with
              | mk result hass' =>
                  cases result with
                  | ok applied => exact Or.inl ⟨applied, hass', rfl, rfl⟩
                  | error e => exact Or.inr ⟨e, hass', rfl, rfl⟩

/-- The registries may fail in the middle of a remap; the entry stays as it is. -/
theorem applyUidRemap_error_configEntries {env : Env} {hass hass' : Hass} {c : State}
    {connections : Dict String Json} {e : PyError}
    (h : applyUidRemapIfNeeded env hass c connections = (.error e, hass')) :
    hass'.configEntries = hass.configEntries := by
  rcases applyUidRemap_cases env hass c connections with
    ⟨he, -⟩ | ⟨entryId, mapping, -, -, ⟨applied, h', -, he⟩ | ⟨e', h', hremap, he⟩⟩
  · rw [he] at h
    cases h
  · rw [he] at h
    cases h
  · rw [he] at h
    cases h
    rw [remapConnectionUids] at hremap
    split at hremap
    · cases hremap
    · rcases RemapWrites.applyPairs_spec env.api (remapPlan hass entryId mapping) entryId mapping.entries
          hass Dict.empty with ⟨hass₁, hp, -⟩ | ⟨e, hass₁, before, pair, es, ds, hp, hw, -⟩
      · rw [hp] at hremap
        simp only at hremap
        split at hremap
        · split at hremap <;> cases hremap
        · cases hremap
      · rw [hp] at hremap
        cases hremap
        exact hw.configEntries

theorem noteApplied_uidRemap (env : Env) (connections : Dict String Json) (c : State)
    (applied : Dict String String) {o n : String} :
    (noteApplied env connections c applied).uidRemap.get? o = some n ↔
      applied.get? o = some n ∨ (applied.get? o = none ∧ c.uidRemap.get? o = some n) := by
  have hfold : ∀ (l : List (String × String)) (c : State),
      (l.foldl (noteRemapped env connections) c).uidRemap =
        l.foldl (fun d p => d.insert p.1 p.2) c.uidRemap := by
    intro l
    induction l with
    | nil => exact fun c => rfl
    | cons p l ih => exact fun c => ih (noteRemapped env connections c p)
  rw [noteApplied, hfold, Dict.get?_foldl_insert, Dict.mem_entries_iff, Dict.get?_eq_none_iff,
    Dict.mem_keys]
  exact fun p hp q hq => Dict.snd_eq hp hq

structure SameRecovery (c c' : State) : Prop where
  data : c'.data = c.data
  recoveringUntil : c'.recoveringUntil = c.recoveringUntil
  recoveryStartedAt : c'.recoveryStartedAt = c.recoveryStartedAt
  lastUpdateSuccess : c'.lastUpdateSuccess = c.lastUpdateSuccess

theorem noteApplied_sameRecovery (env : Env) (connections : Dict String Json) (c : State)
    (applied : Dict String String) : SameRecovery c (noteApplied env connections c applied) := by
  have hfold : ∀ (l : List (String × String)) (c : State),
      SameRecovery c (l.foldl (noteRemapped env connections) c) := by
    intro l
    induction l with
    | nil => exact fun c => ⟨rfl, rfl, rfl, rfl⟩
    | cons p l ih =>
        intro c
        obtain ⟨h1, h2, h3, h4⟩ := ih (noteRemapped env connections c p)
        exact ⟨h1, h2, h3, h4⟩
  exact hfold applied.entries c

theorem applyUidRemap_sameRecovery {env : Env} {hass hass' : Hass} {c c' : State}
    {connections : Dict String Json}
    (h : applyUidRemapIfNeeded env hass c connections = (.ok c', hass')) : SameRecovery c c' := by
  rcases applyUidRemap_cases env hass c connections with
    ⟨he, -⟩ | ⟨entryId, mapping, -, -, ⟨applied, h', -, he⟩ | ⟨e, h', -, he⟩⟩
  · rw [he] at h
    cases h
    exact ⟨rfl, rfl, rfl, rfl⟩
  · rw [he] at h
    cases h
    exact noteApplied_sameRecovery env connections c applied
  · rw [he] at h
    cases h

theorem SameRecovery.inRecovery {c c' : State} (h : SameRecovery c c') :
    c'.inRecovery = c.inRecovery := by
  rw [State.inRecovery, h.recoveringUntil, State.inRecovery]

theorem SameRecovery.dataKeys {c c' : State} (h : SameRecovery c c') : c'.dataKeys = c.dataKeys := by
  rw [State.dataKeys, h.data, State.dataKeys]

theorem handleError_cases (env : Env) (hass : Hass) (c : State) (p : Poll) (err : PyError) :
    (authRaised err = true ∧ ∃ text, handleError env hass c p err = failAuthentication env hass c err text) ∨
      (authRaised err = false ∧ ∃ text, handleError env hass c p err = failConnectivity env c p err text) := by
  rw [handleError, authRaised]
  cases isAuthError err <;> cases err.isConnectionError <;> cases err.isValueError <;>
    cases err.isTimeoutError <;> simp

theorem poll_of_error {env : Env} {hass hass' : Hass} {c c₁ : State} {p : Poll} {err : PyError}
    (hc : Failing env hass c p err c₁ hass')
    (h : asyncUpdateData env hass c p = (handleError env hass' c₁ p err, hass')) :
    PollStep env hass c p (poll env hass c p).1.1 (poll env hass c p).1.2 (poll env hass c p).2 := by
  rw [poll, h]
  rcases handleError_cases env hass' c₁ p err with ⟨ha, text, he⟩ | ⟨ha, text, he⟩
  · rw [he]
    exact PollStep.authentication err c₁ hass' hc ha text
  · rw [he]
    exact PollStep.connectivity err c₁ hass' hc ha text

theorem applyUidRemapIfNeeded_outside {env : Env} {hass : Hass} {c : State}
    {connections : Dict String Json} (h : c.inRecovery = false) :
    applyUidRemapIfNeeded env hass c connections = (.ok c, hass) := by
  rw [applyUidRemapIfNeeded]
  cases env.entryId with
  | none => rfl
  | some entryId => simp [h]

theorem processConnections_step {env : Env} {hass : Hass} {c c₁ : State} {p : Poll}
    {connections : Dict String Json} (hf : p.fetch = .ok connections)
    (hin : Entered env c p connections c₁)
    (h : asyncUpdateData env hass c p = processConnections env hass c₁ p connections) :
    PollStep env hass c p (poll env hass c p).1.1 (poll env hass c p).1.2 (poll env hass c p).2 := by
  rw [processConnections] at h
  cases hr : applyUidRemapIfNeeded env hass (rememberConnectionNames env c₁ connections)
      connections with
  | mk result hass' =>
      simp only [hr] at h
      cases result with
      | ok c₂ =>
          rw [poll, h]
          exact PollStep.accepted connections c₁ c₂ hass' hf hin hr
      | error err =>
          have hrec : c₁.inRecovery = true := by
            by_contra hn
            rw [Bool.not_eq_true] at hn
            have hk : (rememberConnectionNames env c₁ connections).inRecovery = false := hn
            rw [applyUidRemapIfNeeded_outside hk] at hr
            cases hr
          have hc : c₁ = c := by
            cases hin with
            | asIs => rfl
            | cap => cases hrec
          subst hc
          exact poll_of_error (Failing.registry err connections hass' hf hrec hr) h

theorem poll_step (env : Env) (hass : Hass) (c : State) (p : Poll) :
    PollStep env hass c p (poll env hass c p).1.1 (poll env hass c p).1.2 (poll env hass c p).2 := by
  cases hf : p.fetch with
  | error err =>
      apply poll_of_error (Failing.fetch err hf)
      rw [asyncUpdateData, hf]
  | ok connections =>
      by_cases hguard : (connections.isEmpty && c.inRecovery && hadConnections c) = true
      · cases hmax : recoveryMaxElapsed env c p.now with
        | true =>
            apply processConnections_step hf (Entered.cap hguard hmax)
            simp [asyncUpdateData, hf, hguard, hmax]
        | false =>
            simp only [poll, asyncUpdateData, hf, hguard, hmax]
            have hg := hguard
            simp only [Bool.and_eq_true] at hg
            exact PollStep.emptyRefused connections hf hg.1.1 hg.1.2 hg.2 hmax _ ⟨_, rfl, rfl⟩ rfl
      · rw [Bool.not_eq_true] at hguard
        apply processConnections_step hf (Entered.asIs hguard)
        simp [asyncUpdateData, hf, hguard]

/-- Outside recovery a poll does not touch the registries. -/
theorem registries_of_outside {env : Env} {hass hass' : Hass} {c c' : State} {p : Poll} {report : Report}
    (h : PollStep env hass c p report c' hass') (hc : c.inRecovery = false) : hass' = hass := by
  cases h with
  | accepted connections c₁ c₂ hass' hf hin hr =>
      have hc₁ : (rememberConnectionNames env c₁ connections).inRecovery = false := by
        cases hin with
        | asIs => exact hc
        | cap => rfl
      rw [applyUidRemapIfNeeded_outside hc₁] at hr
      exact (Prod.mk.inj hr).2.symm
  | emptyRefused => rfl
  | authentication err c₁ hass' hcause =>
      cases hcause with
      | fetch => rfl
      | registry connections hass' hf hrec =>
          rw [hc] at hrec
          cases hrec
  | connectivity err c₁ hass' hcause =>
      cases hcause with
      | fetch => rfl
      | registry connections hass' hf hrec =>
          rw [hc] at hrec
          cases hrec

theorem outcome_of_fetch {env : Env} {hass : Hass} {c : State} {p : Poll} {connections : Dict String Json}
    (hf : p.fetch = .ok connections) (hok : (poll env hass c p).1.1.outcome.isOk = true) :
    (poll env hass c p).1.1.outcome = .ok connections := by
  have hstep := poll_step env hass c p
  revert hok
  generalize hout : (poll env hass c p).1.1 = report at hstep
  generalize (poll env hass c p).1.2 = c' at hstep
  generalize (poll env hass c p).2 = hass' at hstep
  intro hok
  cases hstep with
  | accepted connections' c₁ c₂ hass' hf' =>
      rw [hf, Except.ok.injEq] at hf'
      rw [hf', finishPoll_outcome]
  | emptyRefused connections' _ _ _ _ _ report ho =>
      obtain ⟨failed, ho, -⟩ := ho
      rw [ho] at hok
      cases hok
  | authentication => cases hok
  | connectivity => cases hok

theorem poll_of_fetch_error (env : Env) (hass : Hass) (c : State) {p : Poll} {err : PyError}
    (hf : p.fetch = .error err) (ha : authRaised err = false) :
    ∃ text, poll env hass c p = (((failConnectivity env c p err text).1,
      { armRecovery env c p with lastUpdateSuccess := false }), hass) := by
  rcases handleError_cases env hass c p err with ⟨h, -⟩ | ⟨-, text, h⟩
  · rw [ha] at h
    cases h
  · refine ⟨text, ?_⟩
    simp only [poll, asyncUpdateData, hf, h]
    rfl

theorem poll_of_fetch_authError (env : Env) (hass : Hass) (c : State) {p : Poll} {err : PyError}
    (hf : p.fetch = .error err) (ha : authRaised err = true) :
    ∃ text, poll env hass c p = (((failAuthentication env hass c err text).1,
      { (scheduleReauth env hass c).2 with lastUpdateSuccess := false }), hass) := by
  rcases handleError_cases env hass c p err with ⟨-, text, h⟩ | ⟨h, -⟩
  · refine ⟨text, ?_⟩
    simp only [poll, asyncUpdateData, hf, h]
    rfl
  · rw [ha] at h
    cases h

/-- A coordinator under arbitrary polls. The registries may be changed by
others from poll to poll. -/
def pollMachine (env : Env) : Machine State (Hass × Poll) Report :=
  ⟨{}, fun c i => (poll env i.1 c i.2).1⟩

abbrev PollRecord := Record State (Hass × Poll) Report

theorem after_eq {env : Env} {r : PollRecord} (h : r = (pollMachine env).record r.before r.input) :
    r.after = (poll env r.input.1 r.before r.input.2).1.2 := congrArg Record.after h

def memoryEnv : Env := ⟨memoryApi, fun _ => "", sortedOrder, some "entry", 30⟩

def office (uid : String) : Dict String Json := Dict.ofList [(uid, .obj [("name", .str "Office")])]

end FritzboxVpn.CoordinatorSteps
