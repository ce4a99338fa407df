import FritzboxVpn.OutageRemap
import FritzboxVpn.RecoveryCap

namespace FritzboxVpn.OutageHistory

open Constants Coordinator CoordinatorSteps Exceptions HomeAssistant JsonValue OrderedDict OutageRemap
  RecoveryCap RemapAtomicity Runs

variable {env : Env}

def Listed (hist : List PollRecord) (uid : String) : Prop :=
  ∃ r ∈ hist, ∃ connections, r.output.outcome = .ok connections ∧ uid ∈ connections.keys

theorem Listed.later {r : PollRecord} {hist : List PollRecord} {uid : String} (h : Listed hist uid) :
    Listed (r :: hist) uid := by
  obtain ⟨r', hr', hrest⟩ := h
  exact ⟨r', List.mem_cons_of_mem r hr', hrest⟩

def listedUids (hist : List PollRecord) : Finset String :=
  hist.foldr (fun r uids => (match r.output.outcome with
    | .ok connections => connections.keys
    | .error _ => ∅) ∪ uids) ∅

theorem mem_listedUids {hist : List PollRecord} {uid : String} :
    uid ∈ listedUids hist ↔ Listed hist uid := by
  induction hist with
  | nil => simp [listedUids, Listed]
  | cons r hist ih =>
      rw [Listed, List.exists_mem_cons_iff, ← Listed, ← ih]
      change uid ∈ _ ∪ listedUids hist ↔ _
      rw [Finset.mem_union]
      apply or_congr_left
      cases r.output.outcome with
      | ok connections => simp
      | error failed => simp

instance (hist : List PollRecord) (uid : String) : Decidable (Listed hist uid) :=
  decidable_of_iff _ mem_listedUids

structure Fails (r : PollRecord) : Prop where
  failed : ∃ failed, r.output.outcome = .error failed
  nothing : ∀ connections, r.input.2.fetch = .ok connections → connections.isEmpty = true

inductive Unanswered (listing : Dict String Json) : List PollRecord → Prop
  | listed {r hist} (h : r.output.outcome = .ok listing) : Unanswered listing (r :: hist)
  | failed {r hist} (h : Fails r) (ht : Unanswered listing hist) : Unanswered listing (r :: hist)

/-- An outage: polls that fail, one of them with a connectivity error. -/
inductive Outage (listing : Dict String Json) : List PollRecord → Prop
  | down {r hist} (h : Fails r) (hc : ConnectivityFailure r) (ht : Unanswered listing hist) :
      Outage listing (r :: hist)
  | still {r hist} (h : Fails r) (ht : Outage listing hist) : Outage listing (r :: hist)

theorem Outage.listed {listing : Dict String Json} {hist : List PollRecord} (h : Outage listing hist)
    {uid : String} (hu : uid ∈ listing.keys) : Listed hist uid := by
  have hun : ∀ {hist : List PollRecord}, Unanswered listing hist → Listed hist uid := by
    intro hist h
    induction h with
    | listed h => exact ⟨_, List.mem_cons_self, listing, h, hu⟩
    | failed _ _ ih => exact ih.later
  induction h with
  | down _ _ ht => exact (hun ht).later
  | still _ _ ih => exact ih.later

theorem fails_of_fetch {hass : Hass} {c : State} {p : Poll} {err : PyError}
    (hf : p.fetch = .error err) (ha : authRaised err = false) :
    Fails ((pollMachine env).record c (hass, p)) := by
  have hconn : ConnectivityFailure ((pollMachine env).record c (hass, p)) :=
    connectivityFailure_of_fetch hf ha
  obtain ⟨failed, ho, -⟩ := hconn
  refine ⟨⟨failed, ho⟩, ?_⟩
  intro connections hc
  rw [show p.fetch = .ok connections from hc] at hf
  cases hf

theorem Outage.of_failedPoll {r : PollRecord} {t : ℚ}
    {listing : Dict String Json} (h : r.output.outcome = .ok listing) (hist : List PollRecord) (c : State) :
    Outage listing ((pollMachine memoryEnv).record c (failedPoll t) :: r :: hist) :=
  Outage.down (fails_of_fetch rfl (by decide +kernel)) (connectivityFailure_of_fetch rfl (by decide +kernel))
    (Unanswered.listed h)

structure KeepsMemory (c c' : State) : Prop where
  data : c'.data = c.data
  recoveringUntil : c'.recoveringUntil = c.recoveringUntil
  seenUids : c'.seenUids = c.seenUids
  uidNames : c'.uidNames = c.uidNames
  uidRemap : c'.uidRemap = c.uidRemap

theorem failing_step {hass hass' : Hass} {c c' : State} {p : Poll} {report : Report}
    (h : PollStep env hass c p report c' hass') (hf : Fails ⟨c, (hass, p), report, c'⟩) :
    (KeepsMemory c c' ∧ ¬ ∃ failed, report.outcome = .error failed ∧ failed.kind = .connectivity) ∨
      c' = { armRecovery env c p with lastUpdateSuccess := false } := by
  have hfetch : ∀ {err : PyError} {c₁ : State} {hass' : Hass}, Failing env hass c p err c₁ hass' →
      c₁ = c := by
    intro err c₁ hass' hc
    cases hc with
    | fetch => rfl
    | registry connections hass₁ hok hrec happ =>
        have hempty := hf.nothing connections hok
        rcases applyUidRemap_cases env hass (rememberConnectionNames env c connections) connections
          with ⟨he, -⟩ | ⟨entryId, mapping, hdue, -⟩
        · rw [he] at happ
          cases happ
        · have hne := hdue.nonempty
          rw [hempty] at hne
          cases hne
  cases h with
  | accepted connections c₁ c₂ hass' =>
      obtain ⟨failed, ho⟩ := hf.failed
      cases ho
  | emptyRefused connections hfe he hrec hhad hmax report hout hnew =>
      left
      refine ⟨⟨rfl, rfl, rfl, rfl, rfl⟩, ?_⟩
      obtain ⟨failed, ho, hk⟩ := hout
      rintro ⟨failed', ho', hk'⟩
      rw [ho, Except.error.injEq] at ho'
      rw [← ho', hk] at hk'
      cases hk'
  | authentication err c₁ hass' hc ha text =>
      left
      have hcc := hfetch hc
      subst hcc
      refine ⟨?_, ?_⟩
      · rcases scheduleReauth_cases env c₁ hass' with h | h
        · exact ⟨by rw [failAuthentication]; simp only [h], by rw [failAuthentication]; simp only [h],
            by rw [failAuthentication]; simp only [h], by rw [failAuthentication]; simp only [h],
            by rw [failAuthentication]; simp only [h]⟩
        · exact ⟨by rw [failAuthentication]; simp only [h], by rw [failAuthentication]; simp only [h],
            by rw [failAuthentication]; simp only [h], by rw [failAuthentication]; simp only [h],
            by rw [failAuthentication]; simp only [h]⟩
      · rintro ⟨failed, ho, hk⟩
        have hkind : failed.kind = .authentication := by
          rw [failAuthentication, Except.error.injEq] at ho
          rw [← ho]
        rw [hkind] at hk
        cases hk
  | connectivity err c₁ hass' hc ha text =>
      right
      rw [hfetch hc]

theorem OutageState.failing {hass hass' : Hass} {c c' : State} {p : Poll} {report : Report}
    {listing : Dict String Json} (ho : OutageState env c listing)
    (h : PollStep env hass c p report c' hass') (hf : Fails ⟨c, (hass, p), report, c'⟩) :
    OutageState env c' listing := by
  rcases failing_step h hf with ⟨hk, -⟩ | he
  · exact ho.of_eq hk.data hk.recoveringUntil hk.seenUids hk.uidNames
  · rw [he]
    exact OutageState.arm ho.data p

theorem data_of_unanswered {hist : List PollRecord} {c : State} (h : Run (pollMachine env) hist c)
    {listing : Dict String Json} (hu : Unanswered listing hist) : c.data = some listing := by
  induction h with
  | start => cases hu
  | step h i ih =>
      rename_i hist c
      have hstep := poll_step env i.1 c i.2
      cases hu with
      | listed ho =>
          exact poll_data ho
      | failed hf ht =>
          change (poll env i.1 c i.2).1.2.data = some listing
          rcases failing_step hstep hf with ⟨hk, -⟩ | he
          · exact hk.data.trans (ih ht)
          · rw [he]
            exact (armRecovery_data env c i.2).trans (ih ht)

theorem outageState_of_run {hist : List PollRecord} {c : State} (h : Run (pollMachine env) hist c)
    {listing : Dict String Json} (ho : Outage listing hist) : OutageState env c listing := by
  induction h with
  | start => cases ho
  | step h i ih =>
      rename_i hist c
      have hstep := poll_step env i.1 c i.2
      cases ho with
      | down hf hc ht =>
          rcases failing_step hstep hf with ⟨-, hn⟩ | he
          · exact absurd hc hn
          · change OutageState env (poll env i.1 c i.2).1.2 listing
            rw [he]
            exact OutageState.arm (data_of_unanswered h ht) i.2
      | still hf ht => exact OutageState.failing (ih ht) hstep hf

theorem noteApplied_seenUids {connections applied} (c : State) {uid : String}
    (h : uid ∈ (noteApplied env connections c applied).seenUids) :
    uid ∈ c.seenUids ∨ ∃ o, applied.get? o = some uid := by
  have hfold : ∀ (l : List (String × String)) (c : State),
      uid ∈ (l.foldl (noteRemapped env connections) c).seenUids →
        uid ∈ c.seenUids ∨ ∃ q ∈ l, q.2 = uid := by
    intro l
    induction l with
    | nil => exact fun c hu => Or.inl hu
    | cons q l ih =>
        intro c hu
        rcases ih _ hu with hu | ⟨q', hq', he⟩
        · rcases Finset.mem_insert.mp hu with he | hu
          · exact Or.inr ⟨q, List.mem_cons_self, he.symm⟩
          · exact Or.inl (Finset.mem_of_mem_erase hu)
        · exact Or.inr ⟨q', List.mem_cons_of_mem q hq', he⟩
  rcases hfold applied.entries c h with hu | ⟨⟨o, n⟩, hq, rfl⟩
  · exact Or.inl hu
  · exact Or.inr ⟨o, Dict.mem_entries_iff.mp hq⟩

/-- A remap brings in only UIDs of the list. -/
theorem applyUidRemap_known {hass hass' : Hass} {c c₂ : State} {connections : Dict String Json}
    (h : applyUidRemapIfNeeded env hass c connections = (.ok c₂, hass')) :
    (∀ u ∈ c₂.seenUids, u ∈ c.seenUids ∨ u ∈ connections.keys) ∧
      ∀ o n, c₂.uidRemap.get? o = some n →
        c.uidRemap.get? o = some n ∨ (o ∈ c.seenUids ∧ n ∈ connections.keys) := by
  rcases applyUidRemap_cases env hass c connections with
    ⟨he, -⟩ | ⟨entryId, mapping, -, hm, ⟨applied, h', hr, he⟩ | ⟨e, h', -, he⟩⟩
  · rw [he] at h
    cases h
    exact ⟨fun u hu => Or.inl hu, fun o n hn => Or.inl hn⟩
  · rw [he] at h
    cases h
    have hmem : ∀ o n, applied.get? o = some n → o ∈ c.seenUids ∧ n ∈ connections.keys := by
      intro o n hn
      obtain ⟨ho, hn⟩ := remapDecision_mem hm (remap_ok_subset hr hn)
      exact ⟨(Finset.mem_sdiff.mp ho).1, (Finset.mem_sdiff.mp hn).1⟩
    refine ⟨?_, ?_⟩
    · intro u hu
      rcases noteApplied_seenUids c hu with hu | ⟨o, ho⟩
      · exact Or.inl hu
      · exact Or.inr (hmem o u ho).2
    · intro o n hn
      rcases (noteApplied_uidRemap env connections c applied).mp hn with ha | ⟨-, hc⟩
      · exact Or.inr (hmem o n ha)
      · exact Or.inl hc
  · rw [he] at h
    cases h

structure Knows (c : State) (known : String → Prop) : Prop where
  seen : ∀ u ∈ c.seenUids, known u
  data : ∀ u ∈ c.dataKeys, known u
  remap : ∀ o n, c.uidRemap.get? o = some n → known o ∧ known n

theorem poll_knows {hass hass' : Hass} {c c' : State} {p : Poll} {report : Report}
    (h : PollStep env hass c p report c' hass') {known : String → Prop} (hk : Knows c known) :
    Knows c' fun u => known u ∨ ∃ connections, report.outcome = .ok connections ∧
      u ∈ connections.keys := by
  cases h with
  | accepted connections c₁ c₂ hass' hf hin hr =>
      have hk₁ : Knows c₁ known := by
        cases hin with
        | asIs => exact hk
        | cap => exact ⟨hk.seen, hk.data, hk.remap⟩
      obtain ⟨hseen, hremap⟩ := applyUidRemap_known hr
      have hdata : c₂.dataKeys = c₁.dataKeys := (applyUidRemap_sameRecovery hr).dataKeys
      refine ⟨?_, fun u hu => Or.inr ⟨connections, rfl, hu⟩, ?_⟩
      · intro u hu
        change u ∈ (finishPoll env c₂ p connections).2.seenUids at hu
        rw [finishPoll_seenUids, hdata] at hu
        rcases Finset.mem_union.mp hu with hu | hu
        · rcases Finset.mem_union.mp hu with hu | hu
          · rcases hseen u hu with hu | hu
            · exact Or.inl (hk₁.seen u hu)
            · exact Or.inr ⟨connections, rfl, hu⟩
          · exact Or.inl (hk₁.data u hu)
        · exact Or.inr ⟨connections, rfl, hu⟩
      · intro o n hn
        change (finishPoll env c₂ p connections).2.uidRemap.get? o = some n at hn
        rw [finishPoll_uidRemap] at hn
        rcases hremap o n hn with hn | ⟨ho, hn⟩
        · exact ⟨Or.inl (hk₁.remap o n hn).1, Or.inl (hk₁.remap o n hn).2⟩
        · exact ⟨Or.inl (hk₁.seen o ho), Or.inr ⟨connections, rfl, hn⟩⟩
  | emptyRefused =>
      exact ⟨fun u hu => Or.inl (hk.seen u hu), fun u hu => Or.inl (hk.data u hu),
        fun o n hn => ⟨Or.inl (hk.remap o n hn).1, Or.inl (hk.remap o n hn).2⟩⟩
  | authentication err c₁ hass' hc ha text =>
      have hs : (scheduleReauth env hass' c₁).2 = { c with uidNames := c₁.uidNames } ∨
          (scheduleReauth env hass' c₁).2 =
            { c with uidNames := c₁.uidNames, reauthScheduled := true } := by
        rcases scheduleReauth_cases env c₁ hass' with h | h
        · exact Or.inl (h.trans hc.eq)
        · right
          rw [h, hc.eq]
      have hkc : Knows (scheduleReauth env hass' c₁).2 fun u => known u ∨ ∃ connections,
          (failAuthentication env hass' c₁ err text).1.outcome = .ok connections ∧
            u ∈ connections.keys := by
        rcases hs with h | h
        all_goals
          rw [h]
          exact ⟨fun u hu => Or.inl (hk.seen u hu), fun u hu => Or.inl (hk.data u hu),
            fun o n hn => ⟨Or.inl (hk.remap o n hn).1, Or.inl (hk.remap o n hn).2⟩⟩
      exact ⟨hkc.seen, hkc.data, hkc.remap⟩
  | connectivity err c₁ hass' hc ha text =>
      have hseen := armRecovery_seenUids env c₁ p
      have hdata := armRecovery_dataKeys env c₁ p
      have hremap := armRecovery_uidRemap env c₁ p
      rw [hc.eq] at hseen hdata hremap
      rw [hc.eq]
      refine ⟨?_, ?_, ?_⟩
      · intro u hu
        rcases Finset.mem_union.mp (hseen ▸ hu : u ∈ c.seenUids ∪ c.dataKeys) with hu | hu
        · exact Or.inl (hk.seen u hu)
        · exact Or.inl (hk.data u hu)
      · intro u hu
        exact Or.inl (hk.data u (hdata ▸ hu : u ∈ c.dataKeys))
      · intro o n hn
        have hc' : c.uidRemap.get? o = some n := hremap ▸ hn
        exact ⟨Or.inl (hk.remap o n hc').1, Or.inl (hk.remap o n hc').2⟩

/-- A coordinator knows no UID that was never listed. -/
theorem knows_listed {hist : List PollRecord} {c : State} (h : Run (pollMachine env) hist c) :
    Knows c (Listed hist) := by
  refine Run.invariant (P := fun hist c => Knows c (Listed hist)) ?_ ?_ h
  · refine ⟨fun u hu => absurd hu (Finset.notMem_empty u),
      fun u hu => absurd hu (Finset.notMem_empty u), fun o n hn => ?_⟩
    cases hn
  · intro hist c i hrun ih
    have hk := poll_knows (poll_step env i.1 c i.2) ih
    have hmono : ∀ u, (Listed hist u ∨ ∃ connections,
        (poll env i.1 c i.2).1.1.outcome = .ok connections ∧ u ∈ connections.keys) →
          Listed ((pollMachine env).record c i :: hist) u := by
      rintro u (hu | ⟨connections, ho, hu⟩)
      · exact hu.later
      · exact ⟨_, List.mem_cons_self, connections, ho, hu⟩
    exact ⟨fun u hu => hmono u (hk.seen u hu), fun u hu => hmono u (hk.data u hu),
      fun o n hn => ⟨hmono o (hk.remap o n hn).1, hmono n (hk.remap o n hn).2⟩⟩

/-- Where nothing but the last listing was ever listed, the decision is asked
about the last listing. -/
theorem fullList_of_run {hist : List PollRecord} {c : State}
    {listing listing' : Dict String Json} (h : Run (pollMachine env) hist c) (hout : Outage listing hist)
    (hnames : SameNames env listing listing') (hfresh : ∀ u ∈ listing'.keys, ¬ Listed hist u)
    (hall : ∀ u, Listed hist u → u ∈ listing.keys) : FullList env c listing listing' := by
  have ho := outageState_of_run h hout
  refine ⟨ho, ?_, hnames, fun u hn hu => hfresh u hn (hout.listed hu)⟩
  apply Finset.Subset.antisymm ?_ ho.seen
  exact fun u hu => hall u ((knows_listed h).seen u hu)

end FritzboxVpn.OutageHistory
