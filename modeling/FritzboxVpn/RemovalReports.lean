import FritzboxVpn.DeletedConnections
import FritzboxVpn.OrphanTracking

namespace FritzboxVpn.RemovalReports

open Constants Coordinator CoordinatorSteps DeletedConnections Exceptions HomeAssistant JsonValue
  MemoryRegistry OrderedDict OrphanTracking OutageHistory RecoveryCap Runs

variable {env : Env}

def Lists (uid : String) (r : PollRecord) : Prop :=
  ∃ connections, r.output.outcome = .ok connections ∧ uid ∈ connections.keys

def confirms (uid : String) (r : PollRecord) : Bool := decide (uid ∈ r.output.newlyConfirmed)

section Tracking

variable (env) (c : State)

@[simp]
theorem rememberData_confirmed :
    (rememberData env c).confirmedOrphanUids = c.confirmedOrphanUids := by
  rw [rememberData]
  split <;> rfl

@[simp]
theorem noteSuccessfulPoll_confirmed (connections : Dict String Json) (now : ℚ) :
    (noteSuccessfulPoll c connections now).confirmedOrphanUids = c.confirmedOrphanUids := by
  rcases noteSuccessfulPoll_cases c connections now with ⟨n, h⟩ | ⟨-, h⟩
  · rw [h]
  · rw [h]; rfl

theorem trackMissingUids_confirmed (current : Finset String) :
    (trackMissingUids env c current).2.confirmedOrphanUids =
      c.confirmedOrphanUids \ current ∪ (trackMissingUids env c current).1 := by
  have hdef : (trackMissingUids env c current).2.confirmedOrphanUids =
      (rememberData env c).confirmedOrphanUids \ current ∪ (trackMissingUids env c current).1 := rfl
  rw [hdef, rememberData_confirmed]

theorem mem_trackMissingUids {current : Finset String} {uid : String} :
    uid ∈ (trackMissingUids env c current).1 ↔
      uid ∈ c.seenUids ∪ c.dataKeys ∧ uid ∉ current ∧ uid ∉ c.confirmedOrphanUids ∧
        orphanConfirmPolls ≤ missCount (trackMissingUids env c current).2 uid := by
  have hdef : (trackMissingUids env c current).1 =
      (((rememberData env c).seenUids ∪ current) \ current).filter fun uid =>
        orphanConfirmPolls ≤ missCount (trackMissingUids env c current).2 uid ∧
          uid ∉ (rememberData env c).confirmedOrphanUids \ current := rfl
  rw [hdef, rememberData_seenUids, rememberData_confirmed, Finset.mem_filter, Finset.mem_sdiff,
    Finset.mem_union, Finset.mem_sdiff]
  tauto

theorem finishPoll_inside (h : c.inRecovery = true) (p : Poll) (connections : Dict String Json) :
    (finishPoll env c p connections).1.newlyConfirmed = ∅ ∧
      (finishPoll env c p connections).2.confirmedOrphanUids = c.confirmedOrphanUids := by
  have hafter := noteSuccessfulPoll_confirmed (trackPoll env c connections.keys).2 connections p.later
  rw [finishPoll]
  rw [trackPoll_inside env c h] at hafter ⊢
  exact ⟨rfl, hafter⟩

theorem finishPoll_outside (h : c.inRecovery = false) (p : Poll) (connections : Dict String Json) :
    (finishPoll env c p connections).1.newlyConfirmed = (trackMissingUids env c connections.keys).1 ∧
      (finishPoll env c p connections).2.confirmedOrphanUids = c.confirmedOrphanUids \ connections.keys ∪
        (trackMissingUids env c connections.keys).1 := by
  have hafter := noteSuccessfulPoll_confirmed (trackPoll env c connections.keys).2 connections p.later
  rw [finishPoll]
  rw [trackPoll_outside env c h] at hafter ⊢
  exact ⟨rfl, hafter.trans (trackMissingUids_confirmed env c connections.keys)⟩

end Tracking

structure Confirmation (uid : String) (r : PollRecord) : Prop where
  fresh : uid ∈ r.output.newlyConfirmed → uid ∉ r.before.confirmedOrphanUids
  absent : ¬ Lists uid r → (uid ∈ r.after.confirmedOrphanUids ↔
    uid ∈ r.before.confirmedOrphanUids ∨ uid ∈ r.output.newlyConfirmed)
  listed : Lists uid r → uid ∈ r.after.confirmedOrphanUids →
    r.before.inRecovery = true ∧ uid ∈ r.before.confirmedOrphanUids

theorem Confirmation.of_same {uid : String} {r : PollRecord} (hn : r.output.newlyConfirmed = ∅)
    (hl : ¬ Lists uid r) (hc : r.after.confirmedOrphanUids = r.before.confirmedOrphanUids) :
    Confirmation uid r := by
  refine ⟨fun h => ?_, fun _ => ?_, fun h => absurd h hl⟩
  · rw [hn] at h
    exact absurd h (Finset.notMem_empty uid)
  · simp [hn, hc]

theorem not_lists_of_error {uid : String} {r : PollRecord} {failed : UpdateFailed}
    (h : r.output.outcome = .error failed) : ¬ Lists uid r := by
  rintro ⟨connections, ho, -⟩
  rw [h] at ho
  cases ho

theorem lists_iff_mem {uid : String} {r : PollRecord} {connections : Dict String Json}
    (h : r.output.outcome = .ok connections) : Lists uid r ↔ uid ∈ connections.keys := by
  constructor
  · rintro ⟨connections', h', hu⟩
    rw [h, Except.ok.injEq] at h'
    rwa [h']
  · exact fun hu => ⟨connections, h, hu⟩

theorem confirmation_accepted {hass : Hass} {c c₁ : State} {p : Poll}
    {connections : Dict String Json} (hin : Entered env c p connections c₁) (uid : String) :
    Confirmation uid ⟨c, (hass, p),
      (finishPoll env (rememberConnectionNames env c₁ connections) p connections).1,
      { (finishPoll env (rememberConnectionNames env c₁ connections) p connections).2 with
        data := some connections, lastUpdateSuccess := true }⟩ := by
  have hkeep : c₁.confirmedOrphanUids = c.confirmedOrphanUids := by
    cases hin with
    | asIs => rfl
    | cap => rfl
  cases hrec : (rememberConnectionNames env c₁ connections).inRecovery with
  | true =>
      obtain ⟨hnew, hafter⟩ := finishPoll_inside env _ hrec p connections
      have hc : c.inRecovery = true := by
        cases hin with
        | asIs => exact hrec
        | cap => cases hrec
      refine ⟨fun h => ?_, fun _ => ?_, fun _ hu => ⟨hc, ?_⟩⟩
      · change uid ∈ (finishPoll env _ p connections).1.newlyConfirmed at h
        rw [hnew] at h
        exact absurd h (Finset.notMem_empty uid)
      · change uid ∈ (finishPoll env _ p connections).2.confirmedOrphanUids ↔
          uid ∈ c.confirmedOrphanUids ∨ uid ∈ (finishPoll env _ p connections).1.newlyConfirmed
        rw [hafter, hnew, or_iff_left (Finset.notMem_empty uid)]
        exact iff_of_eq (congrArg (uid ∈ ·) hkeep)
      · change uid ∈ (finishPoll env _ p connections).2.confirmedOrphanUids at hu
        rw [hafter] at hu
        exact hkeep ▸ hu
  | false =>
      obtain ⟨hnew, hafter⟩ := finishPoll_outside env _ hrec p connections
      have hbefore : (rememberConnectionNames env c₁ connections).confirmedOrphanUids =
          c.confirmedOrphanUids := hkeep
      rw [hbefore] at hafter
      refine ⟨fun h => ?_, fun hl => ?_, fun hl hu => ?_⟩
      · change uid ∈ (finishPoll env _ p connections).1.newlyConfirmed at h
        rw [hnew, mem_trackMissingUids] at h
        exact hkeep ▸ h.2.2.1
      · rw [lists_iff_mem rfl] at hl
        change uid ∈ (finishPoll env _ p connections).2.confirmedOrphanUids ↔
          uid ∈ c.confirmedOrphanUids ∨ uid ∈ (finishPoll env _ p connections).1.newlyConfirmed
        rw [hafter, hnew, Finset.mem_union, Finset.mem_sdiff]
        tauto
      · rw [lists_iff_mem rfl] at hl
        change uid ∈ (finishPoll env _ p connections).2.confirmedOrphanUids at hu
        rw [hafter, Finset.mem_union, Finset.mem_sdiff, mem_trackMissingUids] at hu
        tauto

theorem poll_confirmation {hass hass' : Hass} {c c' : State} {p : Poll} {report : Report}
    (h : PollStep env hass c p report c' hass') (hr : c'.uidRemap = Dict.empty) (uid : String) :
    Confirmation uid ⟨c, (hass, p), report, c'⟩ := by
  cases h with
  | accepted connections c₁ c₂ hass' hf hin happ =>
      have hr₂ : c₂.uidRemap = Dict.empty := (finishPoll_uidRemap env c₂ p connections).symm.trans hr
      obtain ⟨-, rfl⟩ := applyUidRemap_empty happ hr₂
      exact confirmation_accepted hin uid
  | emptyRefused connections hf he hrec hhad hmax report hout hnew =>
      obtain ⟨failed, ho, -⟩ := hout
      exact Confirmation.of_same hnew (not_lists_of_error ho) rfl
  | authentication err c₁ hass' hc ha text =>
      apply Confirmation.of_same rfl (not_lists_of_error rfl)
      change (scheduleReauth env hass' c₁).2.confirmedOrphanUids = c.confirmedOrphanUids
      rcases scheduleReauth_cases env c₁ hass' with h | h
      all_goals
        rw [h, hc.eq]
  | connectivity err c₁ hass' hc ha text =>
      apply Confirmation.of_same rfl (not_lists_of_error rfl)
      have hk := rememberData_confirmed env c₁
      rw [hc.eq] at hk ⊢
      exact hk

structure MissedBy (uid : String) (r : PollRecord) : Prop where
  outside : r.before.inRecovery = false
  succeeded : r.output.outcome.isOk = true
  missing : ¬ Lists uid r

theorem poll_missed {hass hass' : Hass} {c c' : State} {p : Poll} {report : Report} {uid : String}
    (h : PollStep env hass c p report c' hass') (hm : MissedBy uid ⟨c, (hass, p), report, c'⟩)
    (hseen : uid ∈ c.seenUids) : missCount c' uid = missCount c uid + 1 ∧
      (orphanConfirmPolls ≤ missCount c' uid → uid ∈ c'.confirmedOrphanUids) := by
  obtain ⟨hout, hok, hl⟩ := hm
  cases h with
  | accepted connections c₁ c₂ hass' hf hin happ =>
      have hu : uid ∉ connections.keys := fun hu => hl ⟨connections, rfl, hu⟩
      have hc₁ : c₁ = c := by
        cases hin with
        | asIs => rfl
        | cap hguard =>
            change c.inRecovery = false at hout
            rw [hout, Bool.and_false, Bool.false_and] at hguard
            cases hguard
      subst hc₁
      have hrec : (rememberConnectionNames env c₁ connections).inRecovery = false := hout
      rw [applyUidRemapIfNeeded_outside hrec] at happ
      obtain ⟨hc₂, -⟩ := Prod.mk.inj happ
      rw [Except.ok.injEq] at hc₂
      subst hc₂
      have htrack := trackPoll_outside env _ hrec connections.keys
      have hcount : missCount { (finishPoll env (rememberConnectionNames env c₁ connections) p
          connections).2 with data := some connections, lastUpdateSuccess := true } uid =
            missCount (trackMissingUids env (rememberConnectionNames env c₁ connections)
              connections.keys).2 uid := by
        rw [missCount, missCount, ← htrack]
        exact congrArg (fun d => (Dict.get? d uid).getD 0) (noteSuccessfulPoll_missingUidCounts _ _ _)
      have hknown : uid ∈ (rememberConnectionNames env c₁ connections).seenUids ∪
          (rememberConnectionNames env c₁ connections).dataKeys := Finset.mem_union_left _ hseen
      rw [hcount]
      constructor
      · rw [missCount_track, if_neg hu, if_pos hknown]
        rfl
      · intro hle
        change uid ∈ (finishPoll env (rememberConnectionNames env c₁ connections) p
          connections).2.confirmedOrphanUids
        rw [(finishPoll_outside env _ hrec p connections).2, Finset.mem_union, Finset.mem_sdiff,
          mem_trackMissingUids]
        by_cases hc : uid ∈ c₁.confirmedOrphanUids
        · exact Or.inl ⟨hc, hu⟩
        · exact Or.inr ⟨hknown, hu, hc, hle⟩
  | emptyRefused connections hf he hrec hhad hmax report hout' hnew =>
      obtain ⟨failed, ho, -⟩ := hout'
      change report.outcome.isOk = true at hok
      rw [ho] at hok
      cases hok
  | authentication => cases hok
  | connectivity => cases hok

theorem uidRemap_of_cons {r : PollRecord} {hist : List PollRecord} {c : State}
    (h : Run (pollMachine env) (r :: hist) c) (hc : c.uidRemap = Dict.empty) :
    r.before.uidRemap = Dict.empty := by
  obtain ⟨-, hr, rfl⟩ := h.of_cons
  rw [after_eq hr] at hc
  exact (poll_keepsSeen (poll_step env r.input.1 r.before r.input.2) hc).remap

theorem uidRemap_of_append (later : List PollRecord) {hist : List PollRecord} {c : State}
    (h : Run (pollMachine env) (later ++ hist) c) (hc : c.uidRemap = Dict.empty) :
    ∃ c', Run (pollMachine env) hist c' ∧ c'.uidRemap = Dict.empty := by
  induction later generalizing c with
  | nil => exact ⟨c, h, hc⟩
  | cons r later ih => exact ih h.of_cons.1 (uidRemap_of_cons h hc)

theorem confirmation_of_run {r : PollRecord} {hist : List PollRecord} {c : State}
    (h : Run (pollMachine env) (r :: hist) c) (hc : c.uidRemap = Dict.empty) (uid : String) :
    Confirmation uid r := by
  obtain ⟨-, hr, rfl⟩ := h.of_cons
  rw [after_eq hr] at hc
  rw [hr]
  exact poll_confirmation (poll_step env r.input.1 r.before r.input.2) hc uid

/-- Through an absence that starts unconfirmed, the UID is confirmed at most
once, and it is confirmed now exactly where it was. -/
theorem confirmed_once (absence : List PollRecord) {r₀ : PollRecord} {earlier : List PollRecord}
    {c : State} {uid : String} (h : Run (pollMachine env) (absence ++ r₀ :: earlier) c)
    (hc : c.uidRemap = Dict.empty) (h₀ : uid ∉ r₀.after.confirmedOrphanUids)
    (hl : ∀ r ∈ absence, ¬ Lists uid r) :
    absence.countP (confirms uid) = if uid ∈ c.confirmedOrphanUids then 1 else 0 := by
  induction absence generalizing c with
  | nil =>
      obtain ⟨-, -, rfl⟩ := h.of_cons
      rw [if_neg h₀, List.countP_nil]
  | cons r absence ih =>
      have hconf := confirmation_of_run h hc uid
      have hc' := uidRemap_of_cons h hc
      obtain ⟨hrun, -, rfl⟩ := h.of_cons
      have hcount := ih hrun hc' fun q hq => hl q (List.mem_cons_of_mem r hq)
      have habsent := hconf.absent (hl r List.mem_cons_self)
      rw [List.countP_cons, hcount]
      by_cases hnew : uid ∈ r.output.newlyConfirmed
      · have hbefore := hconf.fresh hnew
        simp [confirms, hnew, hbefore, habsent]
      · simp [confirms, hnew, habsent]

theorem missCount_of_rows {rows hist : List PollRecord} {c : State} {uid : String}
    (h : Run (pollMachine env) (rows ++ hist) c) (hc : c.uidRemap = Dict.empty)
    (hrows : ∀ r ∈ rows, MissedBy uid r) (hu : Listed hist uid) : rows.length ≤ missCount c uid := by
  induction rows generalizing c with
  | nil => exact Nat.zero_le _
  | cons r rows ih =>
      have hc' := uidRemap_of_cons h hc
      obtain ⟨hrun, hr, rfl⟩ := h.of_cons
      have hle := ih hrun hc' fun q hq => hrows q (List.mem_cons_of_mem r hq)
      have hseen := seen_of_neverRemapped hrun hc' (u := uid) (by
        obtain ⟨q, hq, hrest⟩ := hu
        exact ⟨q, List.mem_append_right rows hq, hrest⟩)
      have hmiss : MissedBy uid r := hrows r List.mem_cons_self
      rw [hr] at hmiss
      obtain ⟨hcount, -⟩ := poll_missed (poll_step env r.input.1 r.before r.input.2) hmiss hseen
      rw [after_eq hr, List.length_cons, hcount]
      exact Nat.add_le_add_right hle 1

/-- A list fetched in recovery contains a UID that is confirmed as removed, and
no exception of the registries stops the poll. -/
structure RelistedInRecovery (env : Env) (uid : String) (r : PollRecord) : Prop where
  recovering : r.before.inRecovery = true
  confirmed : uid ∈ r.before.confirmedOrphanUids
  listed : ∃ connections, r.input.2.fetch = .ok connections ∧ uid ∈ connections.keys ∧
    ∃ c, (applyUidRemapIfNeeded env r.input.1 (rememberConnectionNames env r.before connections)
      connections).1 = .ok c

theorem fetch_of_lists {hass hass' : Hass} {c c' : State} {p : Poll} {report : Report} {uid : String}
    (h : PollStep env hass c p report c' hass') (hl : Lists uid ⟨c, (hass, p), report, c'⟩) :
    ∃ connections, p.fetch = .ok connections ∧ uid ∈ connections.keys ∧
      ∃ c₂, (applyUidRemapIfNeeded env hass (rememberConnectionNames env c connections)
        connections).1 = .ok c₂ := by
  obtain ⟨connections', ho, hu⟩ := hl
  cases h with
  | accepted connections c₁ c₂ hass' hf hin happ =>
      change Except.ok connections = Except.ok connections' at ho
      rw [Except.ok.injEq] at ho
      subst ho
      cases hin with
      | asIs => exact ⟨connections, hf, hu, c₂, by rw [happ]⟩
      | cap hguard =>
          simp only [Bool.and_eq_true, Dict.isEmpty_iff] at hguard
          rw [hguard.1.1] at hu
          exact absurd hu (Finset.notMem_empty uid)
  | emptyRefused connections hf he hrec hhad hmax report hout hnew =>
      obtain ⟨failed, hfail, -⟩ := hout
      change report.outcome = _ at ho
      rw [hfail] at ho
      cases ho
  | authentication => cases ho
  | connectivity => cases ho

instance (uid : String) (r : PollRecord) : Decidable (Lists uid r) :=
  match h : r.output.outcome with
  | .ok connections =>
      if hu : uid ∈ connections.keys then isTrue ⟨connections, h, hu⟩
      else isFalse (by
        rintro ⟨connections', ho, hu'⟩
        rw [h, Except.ok.injEq] at ho
        exact hu (ho ▸ hu'))
  | .error _ => isFalse (not_lists_of_error h)

/-- A listed UID is not confirmed afterwards, unless it is listed in recovery. -/
theorem not_confirmed_of_lists {r : PollRecord} {hist : List PollRecord} {c : State} {uid : String}
    (h : Run (pollMachine env) (r :: hist) c) (hc : c.uidRemap = Dict.empty) (hl : Lists uid r)
    (hno : ¬ RelistedInRecovery env uid r) : uid ∉ r.after.confirmedOrphanUids := by
  intro hu
  have hconf := confirmation_of_run h hc uid
  obtain ⟨-, hr, -⟩ := h.of_cons
  obtain ⟨hrec, hbefore⟩ := hconf.listed hl hu
  rw [hr] at hl
  exact hno ⟨hrec, hbefore, fetch_of_lists (poll_step env r.input.1 r.before r.input.2) hl⟩

/-- The UID is listed by one poll and by none after it, and among these is a
row of successful polls that start outside recovery. -/
structure Absence (uid : String) (r₀ : PollRecord) (between row later : List PollRecord) : Prop where
  listed : Lists uid r₀
  absent : ∀ r ∈ later ++ (row ++ between), ¬ Lists uid r
  length : row.length = orphanConfirmPolls
  row : ∀ r ∈ row, r.before.inRecovery = false ∧ r.output.outcome.isOk = true

def ReportedOnce (uid : String) (hist : List PollRecord) : Prop :=
  ∀ future later row between r₀ earlier,
    hist = future ++ (later ++ (row ++ (between ++ r₀ :: earlier))) →
      Absence uid r₀ between row later →
        (later ++ (row ++ between)).countP (confirms uid) = 1 ∧
          (row ++ between).countP (confirms uid) = 1

theorem confirmed_of_row {row hist : List PollRecord} {c : State} {uid : String}
    (h : Run (pollMachine env) (row ++ hist) c) (hc : c.uidRemap = Dict.empty)
    (hrow : ∀ r ∈ row, MissedBy uid r) (hlen : row.length = orphanConfirmPolls)
    (hu : Listed hist uid) : uid ∈ c.confirmedOrphanUids := by
  have hle := missCount_of_rows h hc hrow hu
  cases row with
  | nil => cases hlen
  | cons r row =>
      have hc' := uidRemap_of_cons h hc
      obtain ⟨hrun, hr, rfl⟩ := h.of_cons
      have hseen := seen_of_neverRemapped hrun hc' (u := uid) (by
        obtain ⟨q, hq, hrest⟩ := hu
        exact ⟨q, List.mem_append_right row hq, hrest⟩)
      have hmiss : MissedBy uid r := hrow r List.mem_cons_self
      rw [hr] at hmiss
      have hstep := poll_missed (poll_step env r.input.1 r.before r.input.2) hmiss hseen
      rw [← after_eq hr] at hstep
      exact hstep.2 (hlen ▸ hle)

/-- Every removal is reported once in a run of polls without remaps, where no
poll lists in recovery what is confirmed as removed. -/
theorem reportedOnce_of_run {hist : List PollRecord} {c : State} (h : Run (pollMachine env) hist c)
    (hc : c.uidRemap = Dict.empty) {uid : String}
    (hno : ∀ r ∈ hist, ¬ RelistedInRecovery env uid r) : ReportedOnce uid hist := by
  rintro future later row between r₀ earlier rfl habs
  obtain ⟨c₁, hrun₁, hc₁⟩ := uidRemap_of_append future h hc
  obtain ⟨c₂, hrun₂, hc₂⟩ := uidRemap_of_append later hrun₁ hc₁
  obtain ⟨c₃, hrun₃, hc₃⟩ := uidRemap_of_append (row ++ between) (by simpa using hrun₂) hc₂
  have hfresh : uid ∉ r₀.after.confirmedOrphanUids :=
    not_confirmed_of_lists hrun₃ hc₃ habs.listed (hno r₀ (by simp))
  have hcount : (row ++ between).countP (confirms uid) = 1 := by
    have hmissed : ∀ r ∈ row, MissedBy uid r := fun r hr =>
      ⟨(habs.row r hr).1, (habs.row r hr).2, habs.absent r (by simp [hr])⟩
    have hlisted : Listed (between ++ r₀ :: earlier) uid :=
      ⟨r₀, List.mem_append_right between List.mem_cons_self, habs.listed⟩
    have hone := confirmed_once (row ++ between) (by simpa using hrun₂) hc₂ hfresh
      fun r hr => habs.absent r (List.mem_append_right later hr)
    rw [hone, if_pos (confirmed_of_row hrun₂ hc₂ hmissed habs.length hlisted)]
  refine ⟨?_, hcount⟩
  have hall := confirmed_once (later ++ (row ++ between)) (by simpa using hrun₁) hc₁ hfresh
    habs.absent
  have hpos : 1 ≤ (later ++ (row ++ between)).countP (confirms uid) := by
    rw [List.countP_append, hcount]
    omega
  split at hall
  · exact hall
  · omega

/-- Removed and confirmed, listed again by the polls that recover from a
refused connection, and removed once more. -/
def relistedRun : List (Hass × Poll) :=
  [listingPoll (vpns ["a"]) 420, listingPoll (vpns ["a"]) 390, listingPoll (vpns ["a"]) 360,
    listingPoll (vpns ["a", "b"]) 330, listingPoll (vpns ["a", "b"]) 300, failedPoll 120,
    listingPoll (vpns ["a"]) 90, listingPoll (vpns ["a"]) 60, listingPoll (vpns ["a"]) 30,
    listingPoll (vpns ["a", "b"]) 0]

theorem relistedRun_not_reported : ∃ hist c, Run (pollMachine memoryEnv) hist c ∧
    (clockReadings hist).Pairwise (· ≤ ·) ∧ c.uidRemap = Dict.empty ∧ ¬ ReportedOnce "b" hist := by
  refine ⟨_, _, run_play (pollMachine memoryEnv) relistedRun, by decide +kernel, by decide +kernel, ?_⟩
  intro h
  obtain ⟨h1, -⟩ := h [] [] [_, _, _] [] _ _ rfl ⟨by decide +kernel, by decide +kernel, rfl, by decide +kernel⟩
  revert h1
  decide +kernel

def recoveredRun : List (Hass × Poll) :=
  [listingPoll (vpns ["a"]) 420, listingPoll (vpns ["a"]) 390, listingPoll (vpns ["a"]) 360,
    listingPoll (vpns ["a", "b"]) 330, listingPoll (vpns ["a", "b"]) 300, failedPoll 120,
    listingPoll (vpns ["a"]) 30, listingPoll (vpns ["a", "b"]) 0]

theorem recoveredRun_reportedOnce :
    ReportedOnce "b" ((pollMachine memoryEnv).play recoveredRun).1 :=
  reportedOnce_of_run (run_play (pollMachine memoryEnv) recoveredRun) (by decide +kernel)
    fun r hr hrel => absurd hrel.confirmed
      ((by decide +kernel : ∀ r ∈ ((pollMachine memoryEnv).play recoveredRun).1,
        r.before.inRecovery = true → "b" ∉ r.before.confirmedOrphanUids) r hr hrel.recovering)

end FritzboxVpn.RemovalReports
