import FritzboxVpn.RecoveryCap

namespace FritzboxVpn.RecoveryWindow

open Constants Coordinator CoordinatorSteps Exceptions HomeAssistant JsonValue MemoryRegistry OrderedDict
  RecoveryCap Runs

variable {env : Env}

structure ClockOnce (hist : List PollRecord) : Prop where
  once : ∀ r ∈ hist, r.input.2.later = r.input.2.now
  monotone : hist.Pairwise fun r earlier => earlier.input.2.now ≤ r.input.2.now

theorem ClockOnce.of_append (later : List PollRecord) {hist : List PollRecord} (h : ClockOnce (later ++ hist)) :
    ClockOnce hist :=
  ⟨fun r hr => h.once r (List.mem_append_right later hr), (List.pairwise_append.mp h.monotone).2.1⟩

theorem ClockOnce.tail {r : PollRecord} {hist : List PollRecord} (h : ClockOnce (r :: hist)) :
    ClockOnce hist :=
  ClockOnce.of_append [r] h

theorem LastFailure.mem {hist : List PollRecord} {t : ℚ} (h : LastFailure hist t) :
    ∃ r ∈ hist, r.input.2.later = t := by
  induction h with
  | here => exact ⟨_, List.mem_cons_self, rfl⟩
  | there hn ht ih =>
      obtain ⟨r, hr, he⟩ := ih
      exact ⟨r, List.mem_cons_of_mem _ hr, he⟩

theorem ClockOnce.failure_le {r : PollRecord} {hist : List PollRecord} (h : ClockOnce (r :: hist))
    {t : ℚ} (ht : LastFailure hist t) : t ≤ r.input.2.now := by
  obtain ⟨q, hq, he⟩ := LastFailure.mem ht
  calc t = q.input.2.now := he.symm.trans (h.once q (List.mem_cons_of_mem r hq))
    _ ≤ r.input.2.now := (List.pairwise_cons.mp h.monotone).1 q hq

def succeeded (r : PollRecord) : Bool := r.output.outcome.isOk

def ListsSince (until_ : ℚ) (r : PollRecord) : Prop :=
  ∀ connections, r.output.outcome = .ok connections →
    connections.isEmpty = false ∧ until_ ≤ r.input.2.now

/-- The last `n` successful polls all list something, not before the given
time, and no connectivity failure came after any of them. -/
def StablePolls (until_ : ℚ) (n : Nat) (hist : List PollRecord) : Prop :=
  ∃ recent older, hist = recent ++ older ∧ recent.countP succeeded = n ∧
    ∀ r ∈ recent, ¬ ConnectivityFailure r ∧ ListsSince until_ r

namespace StablePolls

variable {until_ : ℚ} {n : Nat} {r : PollRecord} {hist : List PollRecord}

theorem zero (until_ : ℚ) (hist : List PollRecord) : StablePolls until_ 0 hist :=
  ⟨[], hist, rfl, rfl, by simp⟩

theorem later (h : StablePolls until_ n hist) (hf : ¬ ConnectivityFailure r)
    (hl : ListsSince until_ r) :
    StablePolls until_ (n + if succeeded r then 1 else 0) (r :: hist) := by
  obtain ⟨recent, older, he, hn, hall⟩ := h
  refine ⟨r :: recent, older, by rw [he, List.cons_append], by rw [List.countP_cons, hn], ?_⟩
  intro q hq
  rcases List.mem_cons.mp hq with rfl | hq
  · exact ⟨hf, hl⟩
  · exact hall q hq

theorem passed (h : StablePolls until_ n hist) (hf : ¬ ConnectivityFailure r)
    (he : succeeded r = false) : StablePolls until_ n (r :: hist) := by
  have hl : ListsSince until_ r := by
    intro connections ho
    rw [succeeded, ho] at he
    cases he
  have hs := h.later hf hl
  rw [he] at hs
  exact hs

theorem counted (h : StablePolls until_ n hist) {connections : Dict String Json}
    (ho : r.output.outcome = .ok connections) (hne : connections.isEmpty = false)
    (hu : until_ ≤ r.input.2.now) : StablePolls until_ (n + 1) (r :: hist) := by
  have hf : ¬ ConnectivityFailure r := by
    rintro ⟨failed, hfail, -⟩
    rw [ho] at hfail
    cases hfail
  have hl : ListsSince until_ r := by
    intro connections' ho'
    rw [ho, Except.ok.injEq] at ho'
    rw [← ho']
    exact ⟨hne, hu⟩
  have hs : succeeded r = true := by
    rw [succeeded, ho]
    rfl
  have hl := h.later hf hl
  rw [hs] at hl
  exact hl

end StablePolls

theorem applyUidRemap_stablePolls {hass hass' : Hass} {c c' : State} {connections : Dict String Json}
    (h : applyUidRemapIfNeeded env hass c connections = (.ok c', hass')) :
    c'.recoveryStablePolls = c.recoveryStablePolls := by
  have hfold : ∀ (l : List (String × String)) (c : State),
      (l.foldl (noteRemapped env connections) c).recoveryStablePolls = c.recoveryStablePolls := by
    intro l
    induction l with
    | nil => exact fun c => rfl
    | cons p l ih => exact fun c => ih (noteRemapped env connections c p)
  rcases applyUidRemap_cases env hass c connections with
    ⟨he, -⟩ | ⟨entryId, mapping, -, -, ⟨applied, h', -, he⟩ | ⟨e, h', -, he⟩⟩
  · rw [he] at h
    cases h
    rfl
  · rw [he] at h
    cases h
    exact hfold applied.entries c
  · rw [he] at h
    cases h

section Fields

variable (env) (c : State)

theorem rememberData_stablePolls :
    (rememberData env c).recoveryStablePolls = c.recoveryStablePolls := by
  rw [rememberData]
  split <;> rfl

theorem trackPoll_recovery (currentUids : Finset String) :
    (trackPoll env c currentUids).2.recoveringUntil = c.recoveringUntil ∧
      (trackPoll env c currentUids).2.recoveryStablePolls = c.recoveryStablePolls := by
  rw [trackPoll]
  split
  · exact ⟨rfl, rfl⟩
  · exact ⟨rememberData_recoveringUntil env c, rememberData_stablePolls env c⟩

theorem armRecovery_until {p : Poll} {window : ℚ}
    (hw : window = recoveryWindowSeconds env.updateIntervalSeconds)
    (h : ∀ until_, c.recoveringUntil = some until_ → until_ ≤ p.now + window) :
    (armRecovery env c p).recoveringUntil = some (p.now + window) := by
  subst hw
  cases hu : c.recoveringUntil with
  | none => simp only [armRecovery, hu]
  | some current =>
      simp only [armRecovery, hu]
      split
      next => rfl
      next hlt => rw [le_antisymm (h current hu) (not_lt.mp hlt)]

end Fields

inductive Noted (c : State) (connections : Dict String Json) (now until_ : ℚ) (c' : State) : Prop
  | reset (h : c'.recoveringUntil = some until_) (hn : c'.recoveryStablePolls = 0)
  | counted (hne : connections.isEmpty = false) (hu : until_ ≤ now)
      (h : c'.recoveringUntil = some until_)
      (hn : c'.recoveryStablePolls = c.recoveryStablePolls + 1)
      (hlt : c.recoveryStablePolls + 1 < recoveryStablePolls)
  | cleared (hne : connections.isEmpty = false) (hu : until_ ≤ now)
      (h : c'.recoveringUntil = none) (hle : recoveryStablePolls ≤ c.recoveryStablePolls + 1)

theorem noteSuccessfulPoll_noted {c : State} {until_ : ℚ} (h : c.recoveringUntil = some until_)
    (connections : Dict String Json) (now : ℚ) :
    Noted c connections now until_ (noteSuccessfulPoll c connections now) := by
  simp only [noteSuccessfulPoll, h]
  by_cases hw : connections.isEmpty ∨ now < until_
  · rw [if_pos hw]
    exact Noted.reset rfl rfl
  · rw [if_neg hw]
    rw [not_or, Bool.not_eq_true, not_lt] at hw
    by_cases hn : c.recoveryStablePolls + 1 ≥ recoveryStablePolls
    · rw [if_pos hn]
      exact Noted.cleared hw.1 hw.2 rfl hn
    · rw [if_neg hn]
      exact Noted.counted hw.1 hw.2 rfl rfl (not_le.mp hn)

theorem finishPoll_noted (env : Env) {c : State} {until_ : ℚ} (h : c.recoveringUntil = some until_) (p : Poll)
    (connections : Dict String Json) :
    Noted c connections p.later until_ (finishPoll env c p connections).2 := by
  obtain ⟨hu, hn⟩ := trackPoll_recovery env c connections.keys
  rcases noteSuccessfulPoll_noted (hu.trans h) connections p.later with
    ⟨h', hn'⟩ | ⟨hne, hle, h', hn', hlt⟩ | ⟨hne, hle, h', hk⟩
  · exact Noted.reset h' hn'
  · exact Noted.counted hne hle h' (hn'.trans (by rw [hn])) (hn ▸ hlt)
  · exact Noted.cleared hne hle h' (hn ▸ hk)

structure ReplacesData (r : PollRecord) : Prop where
  had : r.before.dataKeys ≠ ∅
  empty : r.after.dataKeys = ∅

def MaxElapsed (env : Env) (r : PollRecord) : Prop :=
  ∃ start, r.before.recoveryStartedAt = some start ∧
    start + recoveryMaxSeconds env.updateIntervalSeconds ≤ r.input.2.now

structure EndsByCap (env : Env) (r : PollRecord) : Prop where
  elapsed : MaxElapsed env r
  answer : ∃ connections, r.output.outcome = .ok connections ∧ connections.isEmpty = true

inductive Recovering (env : Env) (r : PollRecord) (until_ : ℚ) : Prop
  | accepted (connections) (ho : r.output.outcome = .ok connections)
      (hnew : r.output.newlyConfirmed = ∅) (hdata : ¬ ReplacesData r)
      (h : Noted r.before connections r.input.2.later until_ r.after)
  | cap (h : EndsByCap env r) (hu : r.after.recoveringUntil = none)
  | passed (he : succeeded r = false) (hf : ¬ ConnectivityFailure r)
      (hnew : r.output.newlyConfirmed = ∅) (hdata : ¬ ReplacesData r)
      (hu : r.after.recoveringUntil = some until_)
      (hn : r.after.recoveryStablePolls = r.before.recoveryStablePolls ∨
        r.after.recoveryStablePolls = 0)
  | failed (hf : ConnectivityFailure r) (hnew : r.output.newlyConfirmed = ∅)
      (hdata : ¬ ReplacesData r) (hrec : r.after.inRecovery = true)

theorem not_replacesData {r : PollRecord} (h : r.after.data = r.before.data) : ¬ ReplacesData r := by
  rintro ⟨had, he⟩
  rw [State.dataKeys, h, ← State.dataKeys] at he
  exact had he

theorem recovering_accepted {hass : Hass} {c c₁ c₂ : State} {p : Poll}
    {connections : Dict String Json} {until_ : ℚ} (hu : c.recoveringUntil = some until_)
    (hin : Entered env c p connections c₁) {hass' : Hass}
    (hr : applyUidRemapIfNeeded env hass (rememberConnectionNames env c₁ connections) connections =
      (.ok c₂, hass')) :
    Recovering env ⟨c, (hass, p), (finishPoll env c₂ p connections).1,
      { (finishPoll env c₂ p connections).2 with data := some connections, lastUpdateSuccess := true }⟩
      until_ := by
  have hs := applyUidRemap_sameRecovery hr
  have hrec : c.inRecovery = true := by rw [State.inRecovery, hu]; rfl
  cases hin with
  | asIs hguard =>
      have hu₂ : c₂.recoveringUntil = some until_ := hs.recoveringUntil.trans hu
      have hn₂ := applyUidRemap_stablePolls hr
      change c₂.recoveryStablePolls = c.recoveryStablePolls at hn₂
      refine Recovering.accepted connections rfl ?_ ?_ ?_
      · change (trackPoll env c₂ connections.keys).1 = ∅
        rw [trackPoll_inside env c₂ (by rw [State.inRecovery, hu₂]; rfl)]
      · rintro ⟨had, he⟩
        have hempty : connections.isEmpty = true := by
          change connections.keys = ∅ at he
          rw [Dict.isEmpty_iff, he]
        have hhad : hadConnections c = true := by
          rw [hadConnections, decide_eq_true_eq]
          exact Or.inr had
        simp [hempty, hrec, hhad] at hguard
      · rcases finishPoll_noted env hu₂ p connections with
          ⟨h', hn'⟩ | ⟨hne, hle, h', hn', hlt⟩ | ⟨hne, hle, h', hk⟩
        · exact Noted.reset h' hn'
        · exact Noted.counted hne hle h' (hn'.trans (by rw [hn₂])) (hn₂ ▸ hlt)
        · exact Noted.cleared hne hle h' (hn₂ ▸ hk)
  | cap hguard hmax =>
      simp only [Bool.and_eq_true] at hguard
      refine Recovering.cap ⟨recoveryMaxElapsed_iff.mp hmax, connections, rfl, hguard.1.1⟩ ?_
      have hu₂ : c₂.recoveringUntil = none := hs.recoveringUntil
      rcases finishPoll_times env c₂ p connections with h | h
      · exact h.1
      · exact h.1.trans hu₂

theorem poll_recovering {hass hass' : Hass} {c c' : State} {p : Poll} {report : Report} {until_ : ℚ}
    (h : PollStep env hass c p report c' hass') (hu : c.recoveringUntil = some until_) :
    Recovering env ⟨c, (hass, p), report, c'⟩ until_ := by
  cases h with
  | accepted connections c₁ c₂ hass' hf hin hr => exact recovering_accepted hu hin hr
  | emptyRefused connections hf he hrec hhad hmax report hout hnew =>
      obtain ⟨failed, ho, hk⟩ := hout
      refine Recovering.passed ?_ ?_ hnew (not_replacesData rfl) hu (Or.inr rfl)
      · change report.outcome.isOk = false
        rw [ho]
        rfl
      · rintro ⟨failed', ho', hk'⟩
        change report.outcome = _ at ho'
        rw [ho, Except.error.injEq] at ho'
        rw [← ho', hk] at hk'
        cases hk'
  | authentication err c₁ hass' hc ha text =>
      have hs : ∀ h : Hass, (scheduleReauth env h c₁).2.data = c.data ∧
          (scheduleReauth env h c₁).2.recoveringUntil = c.recoveringUntil ∧
            (scheduleReauth env h c₁).2.recoveryStablePolls = c.recoveryStablePolls := by
        intro h
        rcases scheduleReauth_cases env c₁ h with he | he
        all_goals
          rw [he, hc.eq]
          exact ⟨rfl, rfl, rfl⟩
      obtain ⟨hd, hu', hn⟩ := hs hass'
      refine Recovering.passed rfl ?_ rfl (not_replacesData hd) (hu'.trans hu) (Or.inl hn)
      rintro ⟨failed, ho, hk⟩
      have hkind : failed.kind = .authentication := by
        rw [failAuthentication, Except.error.injEq] at ho
        rw [← ho]
      rw [hkind] at hk
      cases hk
  | connectivity err c₁ hass' hc ha text =>
      refine Recovering.failed ⟨_, rfl, rfl⟩ rfl (not_replacesData ?_)
        (armRecovery_inRecovery env c₁ p)
      have hd := armRecovery_data env c₁ p
      rw [hc.eq] at hd ⊢
      exact hd

structure Counting (hist : List PollRecord) (c : State) : Prop where
  lt : c.inRecovery = true → c.recoveryStablePolls < recoveryStablePolls
  stable : ∀ until_, c.recoveringUntil = some until_ →
    StablePolls until_ c.recoveryStablePolls hist

theorem Counting.of_none {hist : List PollRecord} {c : State} (h : c.recoveringUntil = none) :
    Counting hist c := by
  refine ⟨fun hrec => ?_, fun until_ hu => ?_⟩
  · rw [State.inRecovery, h] at hrec
    cases hrec
  · rw [h] at hu
    cases hu

theorem Counting.of_zero {hist : List PollRecord} {c : State} (h : c.recoveryStablePolls = 0) :
    Counting hist c := by
  refine ⟨fun _ => by rw [h]; decide, fun until_ _ => ?_⟩
  rw [h]
  exact StablePolls.zero until_ hist

theorem poll_armed {hass hass' : Hass} {c c' : State} {p : Poll} {report : Report}
    (h : PollStep env hass c p report c' hass')
    (hf : ∃ failed, report.outcome = .error failed ∧ failed.kind = .connectivity) :
    c'.recoveringUntil = (armRecovery env c p).recoveringUntil ∧ c'.recoveryStablePolls = 0 := by
  obtain ⟨failed, ho, hk⟩ := hf
  cases h with
  | accepted => cases ho
  | emptyRefused connections hfetch he hrec hhad hmax report hout hnew =>
      obtain ⟨failed', ho', hk'⟩ := hout
      rw [ho, Except.error.injEq] at ho'
      rw [← ho', hk] at hk'
      cases hk'
  | authentication err c₁ hass' hc ha text =>
      rw [failAuthentication, Except.error.injEq] at ho
      rw [← ho] at hk
      cases hk
  | connectivity err c₁ hass' hc ha text =>
      rw [hc.eq]
      exact ⟨rfl, rfl⟩

theorem until_of_run {hist : List PollRecord} {c : State} (h : Run (pollMachine env) hist c)
    (hclock : ClockOnce hist) {until_ : ℚ} (hu : c.recoveringUntil = some until_) :
    ∃ t, LastFailure hist t ∧ until_ = t + recoveryWindowSeconds env.updateIntervalSeconds := by
  induction h generalizing until_ with
  | start => cases hu
  | step h i ih =>
      rename_i hist c
      have hstep := poll_step env i.1 c i.2
      change (poll env i.1 c i.2).1.2.recoveringUntil = some until_ at hu
      rcases poll_times hstep with ⟨hf, -⟩ | ⟨hf, ⟨hn, -⟩ | ⟨hsame, -⟩⟩
      · refine ⟨_, LastFailure.here hf, ?_⟩
        have harm := armRecovery_until env c (p := i.2) rfl (by
          intro current hc
          obtain ⟨t, ht, he⟩ := ih hclock.tail hc
          have hle := hclock.failure_le ht
          rw [he]
          exact add_le_add_left hle _)
        rw [(poll_armed hstep hf).1, harm, Option.some.injEq] at hu
        rw [← hu, hclock.once _ List.mem_cons_self]
        rfl
      · rw [hn] at hu
        cases hu
      · rw [hsame] at hu
        obtain ⟨t, ht, he⟩ := ih hclock.tail hu
        exact ⟨t, LastFailure.there hf ht, he⟩

theorem counting_step {hist : List PollRecord} {r : PollRecord} (h : Counting hist r.before)
    (hr : r = (pollMachine env).record r.before r.input)
    (hclock : r.input.2.later = r.input.2.now) : Counting (r :: hist) r.after := by
  have hstep := poll_step env r.input.1 r.before r.input.2
  have hafter := after_eq hr
  have hout : r.output = (poll env r.input.1 r.before r.input.2).1.1 := congrArg Record.output hr
  rw [← hafter, ← hout] at hstep
  rcases poll_times hstep with ⟨hf, -⟩ | ⟨hf, htimes⟩
  · exact Counting.of_zero (poll_armed hstep hf).2
  · cases hu : r.before.recoveringUntil with
    | none =>
        apply Counting.of_none
        rcases htimes with ⟨hn, -⟩ | ⟨hsame, -⟩
        · exact hn
        · exact hsame.trans hu
    | some until_ =>
        have hlt := h.lt (by rw [State.inRecovery, hu]; rfl)
        have hstable := h.stable until_ hu
        have hcount : ∀ {n}, r.after.recoveringUntil = some until_ → r.after.recoveryStablePolls = n →
            n < recoveryStablePolls → StablePolls until_ n (r :: hist) → Counting (r :: hist) r.after := by
          rintro n hu' rfl hlt hs
          refine ⟨fun _ => hlt, fun current hc => ?_⟩
          rw [hu', Option.some.injEq] at hc
          rw [← hc]
          exact hs
        cases poll_recovering hstep hu with
        | accepted connections ho hnew hdata hnoted =>
            rcases hnoted with ⟨-, hn⟩ | ⟨hne, hle, hu', hn, hk⟩ | ⟨-, -, hu', -⟩
            · exact Counting.of_zero hn
            · exact hcount hu' hn hk (hstable.counted ho hne (hle.trans_eq hclock))
            · exact Counting.of_none hu'
        | cap hcap hu' => exact Counting.of_none hu'
        | passed he _ hnew hdata hu' hn =>
            rcases hn with hn | hn
            · exact hcount hu' hn hlt (hstable.passed hf he)
            · exact Counting.of_zero hn
        | failed hfail => exact absurd hfail hf

theorem counting_of_run {hist : List PollRecord} {c : State} (h : Run (pollMachine env) hist c)
    (hclock : ClockOnce hist) : Counting hist c := by
  refine Run.invariant_under (C := fun r => r.input.2.later = r.input.2.now) ?_ ?_ h hclock.once
  · exact Counting.of_none rfl
  · intro hist c i hrun hc ih
    exact counting_step ih rfl hc

/-- What a poll may do in a recovery, and how it may end it. -/
structure Guarded (env : Env) (r : PollRecord) (earlier : List PollRecord) : Prop where
  quiet : r.before.inRecovery = true → r.output.newlyConfirmed ≠ ∅ ∨ ReplacesData r → MaxElapsed env r
  ends : r.before.inRecovery = true → r.after.inRecovery = false → EndsByCap env r ∨
    ∃ until_, r.before.recoveringUntil = some until_ ∧
      StablePolls until_ recoveryStablePolls (r :: earlier)

theorem guarded_of_run {r : PollRecord} {earlier : List PollRecord} {c : State}
    (h : Run (pollMachine env) (r :: earlier) c) (hclock : ClockOnce (r :: earlier)) :
    Guarded env r earlier := by
  obtain ⟨hrun, hr, -⟩ := h.of_cons
  have hrec : r.before.inRecovery = true → ∃ until_, r.before.recoveringUntil = some until_ ∧
      Recovering env r until_ := by
    intro hin
    obtain ⟨until_, hu⟩ := Option.isSome_iff_exists.mp hin
    refine ⟨until_, hu, ?_⟩
    rw [hr]
    exact poll_recovering (poll_step env r.input.1 r.before r.input.2) hu
  constructor
  · intro hin hbad
    obtain ⟨until_, -, hstep⟩ := hrec hin
    cases hstep with
    | accepted connections ho hnew hdata => exact absurd hbad (by simp [hnew, hdata])
    | cap hcap => exact hcap.elapsed
    | passed he hf hnew hdata => exact absurd hbad (by simp [hnew, hdata])
    | failed hf hnew hdata => exact absurd hbad (by simp [hnew, hdata])
  · intro hin hend
    obtain ⟨until_, hu, hstep⟩ := hrec hin
    have hcounting := counting_of_run hrun hclock.tail
    cases hstep with
    | accepted connections ho hnew hdata hnoted =>
        rcases hnoted with ⟨hu', -⟩ | ⟨-, -, hu', -⟩ | ⟨hne, hle, -, hk⟩
        · rw [State.inRecovery, hu'] at hend
          cases hend
        · rw [State.inRecovery, hu'] at hend
          cases hend
        · right
          refine ⟨until_, hu, ?_⟩
          have hlt := hcounting.lt hin
          have hn : recoveryStablePolls = r.before.recoveryStablePolls + 1 := by omega
          rw [hn]
          exact (hcounting.stable until_ hu).counted ho hne
            (hle.trans_eq (hclock.once r List.mem_cons_self))
    | cap hcap => exact Or.inl hcap
    | passed he hf hnew hdata hu' =>
        rw [State.inRecovery, hu'] at hend
        cases hend
    | failed hf hnew hdata hin' =>
        rw [hend] at hin'
        cases hin'

structure RecoveryHistory (env : Env) (hist : List PollRecord) (c : State) : Prop where
  together : c.recoveringUntil = none ↔ c.recoveryStartedAt = none
  until_eq : ∀ until_, c.recoveringUntil = some until_ → ∃ t, LastFailure hist t ∧
    until_ = t + recoveryWindowSeconds env.updateIntervalSeconds
  guarded : ∀ later r earlier, hist = later ++ r :: earlier → Guarded env r earlier

theorem recoveryHistory_of_run {hist : List PollRecord} {c : State}
    (h : Run (pollMachine env) hist c) (hclock : ClockOnce hist) : RecoveryHistory env hist c := by
  refine ⟨(recoveryOrigin h).until_iff, fun until_ hu => until_of_run h hclock hu, ?_⟩
  rintro later r earlier rfl
  obtain ⟨c', hrun⟩ := h.of_append
  exact guarded_of_run hrun (hclock.of_append later)

def shortOutage : List (Hass × Poll) :=
  [listingPoll (office "a") 300, listingPoll (office "a") 180, failedPoll 0, listingPoll (office "a") 0]

theorem recoveryHistory_shortOutage :
    RecoveryHistory memoryEnv ((pollMachine memoryEnv).play shortOutage).1
      ((pollMachine memoryEnv).play shortOutage).2 :=
  recoveryHistory_of_run (run_play (pollMachine memoryEnv) shortOutage)
    ⟨by decide +kernel, by decide +kernel⟩

example : ((pollMachine memoryEnv).play shortOutage.tail).2.recoveringUntil = some 180 ∧
    ((pollMachine memoryEnv).play shortOutage).2.recoveringUntil = none := by decide +kernel

end FritzboxVpn.RecoveryWindow
