import FritzboxVpn.CoordinatorSteps

namespace FritzboxVpn.OrphanTracking

open Constants Coordinator CoordinatorSteps Exceptions HomeAssistant JsonValue MemoryRegistry
  OrderedDict Runs

variable {env : Env}

def missCount (c : State) (uid : String) : Nat := (c.missingUidCounts.get? uid).getD 0

theorem get?_foldl_erase {ν : Type} (l : List String) (d : Dict String ν) (x : String) :
    (l.foldl Dict.erase d).get? x = if x ∈ l then none else d.get? x := by
  induction l generalizing d with
  | nil => simp
  | cons y l ih =>
      rw [List.foldl_cons, ih, Dict.get?_erase]
      by_cases hx : x = y <;> by_cases hl : x ∈ l <;> simp [hx, hl]

theorem get?_foldl_countMissing {l : List String} (hn : l.Nodup) (d : Dict String Nat) (x : String) :
    (l.foldl countMissing d).get? x =
      if x ∈ l then some ((d.get? x).getD 0 + 1) else d.get? x := by
  induction l generalizing d with
  | nil => simp
  | cons y l ih =>
      obtain ⟨hy, hn⟩ := List.nodup_cons.mp hn
      rw [List.foldl_cons, ih hn, countMissing]
      by_cases hx : x = y
      · subst hx
        simp [hy]
      · simp [Dict.get?_insert_ne _ hx, hx]

/-- The spec of the tracking: a listed UID has no misses, a UID seen before
gets one more. -/
theorem missCount_track (env : Env) (c : State) (current : Finset String) (uid : String) :
    missCount (trackMissingUids env c current).2 uid =
      if uid ∈ current then 0
      else if uid ∈ c.seenUids ∪ c.dataKeys then missCount c uid + 1 else missCount c uid := by
  have hcounts : (trackMissingUids env c current).2.missingUidCounts =
      (env.order.toList (((rememberData env c).seenUids ∪ current) \ current)).foldl countMissing
        ((env.order.toList current).foldl Dict.erase (rememberData env c).missingUidCounts) := rfl
  rw [missCount, hcounts, get?_foldl_countMissing (env.order.nodup _), get?_foldl_erase,
    rememberData_seenUids, rememberData_missingUidCounts]
  simp only [mem_toList]
  by_cases hu : uid ∈ current
  · simp [hu]
  · by_cases hs : uid ∈ c.seenUids ∪ c.dataKeys
    · simp only [hu, hs, Finset.mem_sdiff, Finset.mem_union, not_false_eq_true, and_true, or_false,
        if_false]
      rw [if_pos trivial, if_pos trivial]
      rfl
    · simp only [hu, hs, Finset.mem_sdiff, Finset.mem_union, or_false, false_and, if_false]
      rfl

theorem mem_newlyConfirmed {c : State} {current : Finset String} {uid : String}
    (h : uid ∈ (trackMissingUids env c current).1) : uid ∉ current ∧
      orphanConfirmPolls ≤ missCount (trackMissingUids env c current).2 uid := by
  obtain ⟨hs, hc, -⟩ := Finset.mem_filter.mp h
  exact ⟨(Finset.mem_sdiff.mp hs).2, hc⟩

def OutsideRecovery (r : PollRecord) : Prop :=
  r.before.inRecovery = false ∨
    ∃ connections, r.input.2.fetch = .ok connections ∧ connections.isEmpty = true ∧
      r.after.inRecovery = false

structure Misses (uid : String) (r : PollRecord) : Prop where
  succeeded : ∃ connections, r.input.2.fetch = .ok connections ∧ r.output.outcome = .ok connections ∧
    uid ∉ connections.keys
  outside : OutsideRecovery r

def FailsAuthentication (r : PollRecord) : Prop :=
  ∃ err, r.input.2.fetch = .error err ∧ authRaised err = true

/-- The streak the miss counter counts: misses in a row, where polls that
fail with an authentication error do not count and do not break it. -/
inductive Streak (uid : String) : Nat → List PollRecord → Prop
  | zero (hist) : Streak uid 0 hist
  | missed {n r hist} (h : Misses uid r) (ht : Streak uid n hist) : Streak uid (n + 1) (r :: hist)
  | skipped {n r hist} (h : FailsAuthentication r) (ht : Streak uid n hist) : Streak uid n (r :: hist)

theorem Streak.of_le {uid : String} {n m : Nat} {hist : List PollRecord} (h : Streak uid n hist)
    (hm : m ≤ n) : Streak uid m hist := by
  induction h generalizing m with
  | zero hist =>
      have h0 : m = 0 := by omega
      rw [h0]
      exact Streak.zero hist
  | missed hr _ ih =>
      cases m with
      | zero => exact Streak.zero _
      | succ m => exact Streak.missed hr (ih (by omega))
  | skipped hr _ ih => exact Streak.skipped hr (ih hm)

theorem not_failsAuthentication {uid : String} {r : PollRecord} (h : Misses uid r) :
    ¬ FailsAuthentication r := by
  rintro ⟨err, he, -⟩
  obtain ⟨connections, hf, -⟩ := h.succeeded
  rw [hf] at he
  cases he

/-- Where no poll is skipped, the streak is the latest polls. -/
theorem Streak.all {uid : String} {n : Nat} {hist : List PollRecord} (h : Streak uid n hist)
    (hno : ∀ r ∈ hist.take n, ¬ FailsAuthentication r) :
    n ≤ hist.length ∧ ∀ r ∈ hist.take n, Misses uid r := by
  induction h with
  | zero hist => exact ⟨Nat.zero_le _, by simp⟩
  | missed hr ht ih =>
      obtain ⟨hl, hall⟩ := ih fun r h => hno r (List.mem_cons_of_mem _ h)
      refine ⟨by rw [List.length_cons]; omega, ?_⟩
      intro r h
      rcases List.mem_cons.mp h with rfl | h
      · exact hr
      · exact hall r h
  | @skipped n r hist hr ht ih =>
      cases n with
      | zero => exact ⟨Nat.zero_le _, by simp⟩
      | succ n => exact absurd hr (hno r List.mem_cons_self)

structure Counted (uid : String) (r : PollRecord) : Prop where
  recovering : r.after.inRecovery = true → r.after.missingUidCounts = Dict.empty
  count : missCount r.after uid = 0 ∨
    (FailsAuthentication r ∧ missCount r.after uid = missCount r.before uid) ∨
      (Misses uid r ∧ missCount r.after uid ≤ missCount r.before uid + 1)
  confirmed : uid ∈ r.output.newlyConfirmed →
    Misses uid r ∧ orphanConfirmPolls ≤ missCount r.after uid

theorem Counted.of_reset {uid : String} {r : PollRecord}
    (hc : r.after.missingUidCounts = Dict.empty) (hn : r.output.newlyConfirmed = ∅) :
    Counted uid r := by
  refine ⟨fun _ => hc, Or.inl ?_, ?_⟩
  · rw [missCount, hc]
    rfl
  · intro h
    rw [hn] at h
    exact absurd h (Finset.notMem_empty uid)

theorem counted_accepted {hass : Hass} {c c₁ c₂ : State} {p : Poll}
    {connections : Dict String Json} {uid : String} (hf : p.fetch = .ok connections)
    (hin : Entered env c p connections c₁) {hass' : Hass}
    (hr : applyUidRemapIfNeeded env hass (rememberConnectionNames env c₁ connections) connections =
      (.ok c₂, hass')) :
    Counted uid ⟨c, (hass, p), (finishPoll env c₂ p connections).1,
      { (finishPoll env c₂ p connections).2 with data := some connections, lastUpdateSuccess := true }⟩ := by
  have hcount : ({ (finishPoll env c₂ p connections).2 with
      data := some connections, lastUpdateSuccess := true } : State).missingUidCounts =
        (trackPoll env c₂ connections.keys).2.missingUidCounts :=
    noteSuccessfulPoll_missingUidCounts _ _ _
  cases hrec : c₂.inRecovery with
  | true =>
      apply Counted.of_reset
      · rw [hcount, trackPoll_inside env c₂ hrec]
      · change (trackPoll env c₂ connections.keys).1 = ∅
        rw [trackPoll_inside env c₂ hrec]
  | false =>
      have hout : c₁.inRecovery = false := by
        rw [(applyUidRemap_sameRecovery hr).inRecovery] at hrec
        exact hrec
      have hc₂ : c₂ = rememberConnectionNames env c₁ connections := by
        have hk : (rememberConnectionNames env c₁ connections).inRecovery = false := hout
        rw [applyUidRemapIfNeeded_outside hk] at hr
        cases hr
        rfl
      have htrack := trackPoll_outside env c₂ hrec connections.keys
      have hafter : (finishPoll env c₂ p connections).2.inRecovery = false := by
        by_contra hn
        rw [Bool.not_eq_false] at hn
        have hn' := noteSuccessfulPoll_inRecovery _ _ hn
        rw [trackPoll_inRecovery, hrec] at hn'
        cases hn'
      have hsame : missCount c₂ uid = missCount c uid := by
        rw [hc₂]
        cases hin with
        | asIs => rfl
        | cap => rfl
      have hmiss : uid ∉ connections.keys → Misses uid ⟨c, (hass, p), (finishPoll env c₂ p connections).1,
          { (finishPoll env c₂ p connections).2 with
            data := some connections, lastUpdateSuccess := true }⟩ := by
        intro hu
        refine ⟨⟨connections, hf, rfl, hu⟩, ?_⟩
        cases hin with
        | asIs => exact Or.inl hout
        | cap h =>
            simp only [Bool.and_eq_true] at h
            exact Or.inr ⟨connections, hf, h.1.1, hafter⟩
      rw [htrack] at hcount
      refine ⟨?_, ?_, ?_⟩
      · intro h
        change (finishPoll env c₂ p connections).2.inRecovery = true at h
        rw [hafter] at h
        cases h
      · have hm := missCount_track env c₂ connections.keys uid
        rw [missCount, ← hcount] at hm
        change missCount _ uid = _ at hm
        by_cases hu : uid ∈ connections.keys
        · left
          rw [hm, if_pos hu]
        · refine Or.inr (Or.inr ⟨hmiss hu, ?_⟩)
          change missCount _ uid ≤ missCount c uid + 1
          rw [hm, if_neg hu, hsame]
          split <;> omega
      · intro h
        change uid ∈ (trackPoll env c₂ connections.keys).1 at h
        rw [htrack] at h
        obtain ⟨hu, hle⟩ := mem_newlyConfirmed h
        rw [missCount, ← hcount] at hle
        exact ⟨hmiss hu, hle⟩

theorem counted {hass hass' : Hass} {c c' : State} {p : Poll} {report : Report}
    (h : PollStep env hass c p report c' hass')
    (hrec : c.inRecovery = true → c.missingUidCounts = Dict.empty) (uid : String) :
    Counted uid ⟨c, (hass, p), report, c'⟩ := by
  cases h with
  | accepted connections c₁ c₂ hass' hf hin hr => exact counted_accepted hf hin hr
  | emptyRefused connections hf he hrec hhad hmax report hout hnew => exact Counted.of_reset rfl hnew
  | authentication err c₁ hass' hc ha text =>
      have hkeep : ∀ h : Hass, (scheduleReauth env h c₁).2.inRecovery = c.inRecovery ∧
          (scheduleReauth env h c₁).2.missingUidCounts = c.missingUidCounts := by
        intro h
        rcases scheduleReauth_cases env c₁ h with he | he
        · rw [he, hc.eq]
          exact ⟨rfl, rfl⟩
        · rw [he, hc.eq]
          exact ⟨rfl, rfl⟩
      obtain ⟨hin, hcount⟩ := hkeep hass'
      refine ⟨?_, ?_, fun h => absurd h (Finset.notMem_empty uid)⟩
      · intro h
        exact hcount.trans (hrec (hin.symm.trans h))
      · have hm : missCount { (scheduleReauth env hass' c₁).2 with lastUpdateSuccess := false } uid =
            missCount c uid := by
          rw [missCount, hcount, missCount]
        cases hc with
        | fetch hf => exact Or.inr (Or.inl ⟨⟨err, hf, ha⟩, hm⟩)
        | registry connections hass' hf hr happ =>
            left
            refine hm.trans ?_
            rw [missCount, hrec hr]
            rfl
  | connectivity err c₁ hass' hc ha text => exact Counted.of_reset rfl rfl

theorem streak_of_run {hist : List PollRecord} {c : State} (h : Run (pollMachine env) hist c)
    (uid : String) :
    (c.inRecovery = true → c.missingUidCounts = Dict.empty) ∧ Streak uid (missCount c uid) hist := by
  refine Run.invariant (P := fun hist c => (c.inRecovery = true → c.missingUidCounts = Dict.empty) ∧
    Streak uid (missCount c uid) hist) ?_ ?_ h
  · exact ⟨fun _ => rfl, Streak.zero []⟩
  · intro hist c i hrun ih
    obtain ⟨hrec, hs⟩ := ih
    have hc := counted (poll_step env i.1 c i.2) hrec uid
    refine ⟨hc.recovering, ?_⟩
    rcases hc.count with h0 | ⟨hf, hk⟩ | ⟨hm, hle⟩
    · change Streak uid (missCount (poll env i.1 c i.2).1.2 uid) _
      rw [h0]
      exact Streak.zero _
    · change Streak uid (missCount (poll env i.1 c i.2).1.2 uid) _
      rw [hk]
      exact Streak.skipped hf hs
    · exact (Streak.missed hm hs).of_le hle

/-- A confirmation rests on a row of misses exactly where no authentication
failure lies among the polls before it that the row would cover. -/
theorem confirmed_after_misses_iff {r : PollRecord} {hist : List PollRecord} {c : State}
    (h : Run (pollMachine env) (r :: hist) c) {uid : String} (hu : uid ∈ r.output.newlyConfirmed) :
    (orphanConfirmPolls ≤ (r :: hist).length ∧
        ∀ r' ∈ (r :: hist).take orphanConfirmPolls, Misses uid r') ↔
      ∀ r' ∈ hist.take (orphanConfirmPolls - 1), ¬ FailsAuthentication r' := by
  obtain ⟨hrun, hr, hc⟩ := h.of_cons
  have hcounted : Counted uid r := by
    rw [hr]
    exact counted (poll_step env r.input.1 r.before r.input.2) (streak_of_run hrun uid).1 uid
  obtain ⟨hmiss, hle⟩ := hcounted.confirmed hu
  constructor
  · rintro ⟨-, hall⟩ r' hr'
    exact not_failsAuthentication (hall r' (List.mem_cons_of_mem r hr'))
  · intro hno
    have hs := (streak_of_run h uid).2
    rw [hc] at hs
    have hs3 := hs.of_le hle
    apply hs3.all
    intro r' hr'
    rcases List.mem_cons.mp hr' with rfl | hr'
    · exact not_failsAuthentication hmiss
    · exact hno r' hr'

def vpns (uids : List String) : Dict String Json :=
  Dict.ofList (uids.map fun uid => (uid, .obj [("name", .str uid)]))

def listed (uids : List String) : Hass × Poll := (emptyHass, ⟨.ok (vpns uids), 0, 0⟩)

def loginFailed : Hass × Poll := (emptyHass, ⟨.error (valueError "Login failed"), 0, 0⟩)

/-- Two misses, a poll that fails to log in, and one more miss: the third miss
confirms the removal, where the streak was broken. -/
theorem confirmed_across_failure : ∃ r hist c, Run (pollMachine memoryEnv) (r :: hist) c ∧
    "b" ∈ r.output.newlyConfirmed ∧
      ¬ (orphanConfirmPolls ≤ (r :: hist).length ∧
        ∀ r' ∈ (r :: hist).take orphanConfirmPolls, Misses "b" r') := by
  refine ⟨_, _, _, run_play (pollMachine memoryEnv)
    [listed ["a"], loginFailed, listed ["a"], listed ["a"], listed ["a", "b"]], by decide +kernel, ?_⟩
  rintro ⟨-, hall⟩
  have hfail : FailsAuthentication ((pollMachine memoryEnv).record
      ((pollMachine memoryEnv).play [listed ["a"], listed ["a"], listed ["a", "b"]]).2 loginFailed) :=
    ⟨_, rfl, by decide +kernel⟩
  exact not_failsAuthentication (hall _ (List.mem_cons_of_mem _ List.mem_cons_self)) hfail

theorem confirmed_after_three_misses :
    (orphanConfirmPolls ≤ ((pollMachine memoryEnv).play
          [listed ["a"], listed ["a"], listed ["a"], listed ["a", "b"]]).1.length ∧
        ∀ r' ∈ ((pollMachine memoryEnv).play
          [listed ["a"], listed ["a"], listed ["a"], listed ["a", "b"]]).1.take orphanConfirmPolls,
            Misses "b" r') ↔
      ∀ r' ∈ ((pollMachine memoryEnv).play [listed ["a"], listed ["a"], listed ["a", "b"]]).1.take
        (orphanConfirmPolls - 1), ¬ FailsAuthentication r' :=
  confirmed_after_misses_iff (run_play (pollMachine memoryEnv)
    [listed ["a"], listed ["a"], listed ["a"], listed ["a", "b"]]) (by decide +kernel)

end FritzboxVpn.OrphanTracking
