import FritzboxVpn.EntityRepairs

namespace FritzboxVpn.RenameLog

open Coordinator EntityIds EntityRepairs Exceptions HomeAssistant RegistryRows

abbrev Renames := List (EntityId × EntityId)

variable {σ : Type}

/-- The registry calls with a log beside the state: a rename that goes through is
written down, the other calls leave the log alone. -/
def recording (calls : RegistryCalls σ) : RegistryCalls (σ × Renames) where
  view s := calls.view s.1
  asyncUpdateEntity old new s :=
    match calls.asyncUpdateEntity old new s.1 with
    | (.ok (), s') => (.ok (), s', s.2 ++ [(old, new)])
    | (.error e, s') => (.error e, s', s.2)
  asyncRemove e s := ((calls.asyncRemove e s.1).1, (calls.asyncRemove e s.1).2, s.2)
  asyncRemoveDevice deviceId s :=
    ((calls.asyncRemoveDevice deviceId s.1).1, (calls.asyncRemoveDevice deviceId s.1).2, s.2)
  validEntityId := calls.validEntityId
  update_ok := by
    intro old new s s' h
    rcases hu : calls.asyncUpdateEntity old new s.1 with ⟨_ | _, t⟩
    · simp only [hu] at h
      cases h
    · simp only [hu] at h
      cases h
      exact calls.update_ok old new s.1 t hu
  update_error := by
    intro old new s e s' h
    rcases hu : calls.asyncUpdateEntity old new s.1 with ⟨_ | _, t⟩
    · simp only [hu] at h
      cases h
      exact calls.update_error old new s.1 e t hu
    · simp only [hu] at h
      cases h
  remove_ok := by
    intro e s s' h
    obtain ⟨hr, rfl⟩ := Prod.mk.inj h
    exact calls.remove_ok e s.1 _ (Prod.ext hr rfl)
  remove_error := by
    intro e s err s' h
    obtain ⟨hr, rfl⟩ := Prod.mk.inj h
    exact calls.remove_error e s.1 err _ (Prod.ext hr rfl)
  device_ok := by
    intro deviceId s s' h
    obtain ⟨hr, rfl⟩ := Prod.mk.inj h
    exact calls.device_ok deviceId s.1 _ (Prod.ext hr rfl)
  device_error := by
    intro deviceId s e s' h
    obtain ⟨hr, rfl⟩ := Prod.mk.inj h
    exact calls.device_error deviceId s.1 e _ (Prod.ext hr rfl)

@[simp]
theorem recording_view (calls : RegistryCalls σ) (s : σ) (log : Renames) :
    (recording calls).view (s, log) = calls.view s := rfl

def reported (p : EntityId × EntityId) : String := renameMessage p.1 p.2

variable {calls : RegistryCalls σ}

theorem recording_update (calls : RegistryCalls σ) (old new : EntityId) (s : σ) (log : Renames) :
    (∃ s', calls.asyncUpdateEntity old new s = (.ok (), s') ∧
        (recording calls).asyncUpdateEntity old new (s, log) = (.ok (), s', log ++ [(old, new)])) ∨
      ∃ e s', calls.asyncUpdateEntity old new s = (.error e, s') ∧
        (recording calls).asyncUpdateEntity old new (s, log) = (.error e, s', log) := by
  rcases hu : calls.asyncUpdateEntity old new s with ⟨e | _, s'⟩
  · exact Or.inr ⟨e, s', rfl, by simp only [recording, hu]⟩
  · exact Or.inl ⟨s', rfl, by simp only [recording, hu]⟩

theorem recording_remove {e : EntityId} {s s' : σ} {result : Except PyError Unit}
    (h : calls.asyncRemove e s = (result, s')) (log : Renames) :
    (recording calls).asyncRemove e (s, log) = (result, s', log) := by
  simp only [recording, h]

theorem recording_removeDevice {deviceId : String} {s s' : σ} {result : Except PyError Unit}
    (h : calls.asyncRemoveDevice deviceId s = (result, s')) (log : Renames) :
    (recording calls).asyncRemoveDevice deviceId (s, log) = (result, s', log) := by
  simp only [recording, h]

/-- The run beside the log is the run without it, and what it reports is what the log
gains. -/
theorem renameAll_recording (calls : RegistryCalls σ) (plan : List (EntityRow × EntityId)) (s : σ)
    (log : Renames) :
    ∃ renames, renameAll (recording calls) plan (s, log) =
        ((renameAll calls plan s).1, (renameAll calls plan s).2, log ++ renames) ∧
      (renameAll calls plan s).1 = renames.map reported := by
  induction plan generalizing s log with
  | nil => exact ⟨[], by rw [List.append_nil]; rfl, rfl⟩
  | cons p plan ih =>
      obtain ⟨entry, target⟩ := p
      rcases recording_update calls entry.entityId target s log with ⟨s', h, h'⟩ | ⟨e, s', h, h'⟩
      · obtain ⟨renames, hrun, hmessages⟩ := ih s' (log ++ [(entry.entityId, target)])
        refine ⟨(entry.entityId, target) :: renames, ?_, ?_⟩
        · simp only [renameAll, h, h', hrun, List.append_assoc, List.singleton_append]
        · simp only [renameAll, h, hmessages, List.map_cons, reported]
      · obtain ⟨renames, hrun, hmessages⟩ := ih s' log
        exact ⟨renames, by simp only [renameAll, h, h', hrun], by simp only [renameAll, h, hmessages]⟩

theorem replaceAll_recording (calls : RegistryCalls σ) (plan : List (EntityRow × EntityId × Bool)) (s : σ)
    (log : Renames) :
    ∃ renames, replaceAll (recording calls) plan (s, log) =
        ((replaceAll calls plan s).1, (replaceAll calls plan s).2, log ++ renames) ∧
      (replaceAll calls plan s).1 = renames.map reported := by
  induction plan generalizing s log with
  | nil => exact ⟨[], by rw [List.append_nil]; rfl, rfl⟩
  | cons p plan ih =>
      obtain ⟨entry, base, removeBaseFirst⟩ := p
      have hfirst : ∃ result s₁, (if removeBaseFirst then calls.asyncRemove base s else (.ok (), s)) =
            (result, s₁) ∧
          (if removeBaseFirst then (recording calls).asyncRemove base (s, log) else (.ok (), s, log)) =
            (result, s₁, log) := by
        cases removeBaseFirst with
        | false => exact ⟨_, _, rfl, rfl⟩
        | true => exact ⟨_, _, rfl, recording_remove rfl log⟩
      obtain ⟨result, s₁, h₁, h₁'⟩ := hfirst
      cases result with
      | error e =>
          obtain ⟨renames, hrun, hmessages⟩ := ih s₁ log
          exact ⟨renames, by simp only [replaceAll, h₁, h₁', hrun], by simp only [replaceAll, h₁, hmessages]⟩
      | ok u =>
          rcases recording_update calls entry.entityId base s₁ log with ⟨s', h, h'⟩ | ⟨e, s', h, h'⟩
          · obtain ⟨renames, hrun, hmessages⟩ := ih s' (log ++ [(entry.entityId, base)])
            refine ⟨(entry.entityId, base) :: renames, ?_, ?_⟩
            · simp only [replaceAll, h₁, h₁', h, h', hrun, List.append_assoc, List.singleton_append]
            · simp only [replaceAll, h₁, h, hmessages, List.map_cons, reported]
          · obtain ⟨renames, hrun, hmessages⟩ := ih s' log
            exact ⟨renames, by simp only [replaceAll, h₁, h₁', h, h', hrun],
              by simp only [replaceAll, h₁, h, hmessages]⟩

theorem mergeAll_cons (m : EntityRow × EntityRow × EntityId) (merges : List (EntityRow × EntityRow × EntityId))
    (uids : Finset String) : ∃ uids', ∀ {τ : Type} (calls : RegistryCalls τ) (t : τ),
      mergeAll calls (m :: merges) uids t =
        match calls.asyncRemove m.1.entityId t with
        | (.error _, t₁) => mergeAll calls merges uids' t₁
        | (.ok (), t₁) =>
            match calls.asyncUpdateEntity m.2.1.entityId m.2.2 t₁ with
            | (.error _, t₂) => mergeAll calls merges uids' t₂
            | (.ok (), t₂) =>
                let (messages, uids, t₃) := mergeAll calls merges uids' t₂
                (renameMessage m.2.1.entityId m.2.2 :: messages, uids, t₃) :=
  ⟨_, fun _ _ => rfl⟩

theorem mergeAll_recording (calls : RegistryCalls σ) (merges : List (EntityRow × EntityRow × EntityId))
    (uids : Finset String) (s : σ) (log : Renames) :
    ∃ renames, mergeAll (recording calls) merges uids (s, log) = ((mergeAll calls merges uids s).1,
        (mergeAll calls merges uids s).2.1, (mergeAll calls merges uids s).2.2, log ++ renames) ∧
      (mergeAll calls merges uids s).1 = renames.map reported := by
  induction merges generalizing uids s log with
  | nil => exact ⟨[], by rw [List.append_nil]; rfl, rfl⟩
  | cons m merges ih =>
      obtain ⟨uids', hcons⟩ := mergeAll_cons m merges uids
      rw [hcons calls s, hcons (recording calls) (s, log)]
      rcases hr : calls.asyncRemove m.1.entityId s with ⟨e | _, s₁⟩
      · obtain ⟨renames, hrun, hmessages⟩ := ih uids' s₁ log
        exact ⟨renames, by simp only [recording_remove hr log, hrun], hmessages⟩
      · simp only [recording_remove hr log]
        rcases recording_update calls m.2.1.entityId m.2.2 s₁ log with ⟨s', h, h'⟩ | ⟨e, s', h, h'⟩
        · obtain ⟨renames, hrun, hmessages⟩ := ih uids' s' (log ++ [(m.2.1.entityId, m.2.2)])
          refine ⟨(m.2.1.entityId, m.2.2) :: renames, ?_, ?_⟩
          · simp only [h, h', hrun, List.append_assoc, List.singleton_append]
          · simp only [h, hmessages, List.map_cons, reported]
        · obtain ⟨renames, hrun, hmessages⟩ := ih uids' s' log
          exact ⟨renames, by simp only [h, h', hrun], by simp only [h, hmessages]⟩

theorem removeIfEmpty_recording (device : DeviceRow) (s : σ) (log : Renames) :
    removeIfEmpty (recording calls) device (s, log) =
      ((removeIfEmpty calls device s).1, (removeIfEmpty calls device s).2, log) := by
  by_cases hempty : ((calls.view s).asyncEntriesForDevice device.id).isEmpty = true
  · rw [removeIfEmpty, recording_view, if_pos hempty, removeIfEmpty, if_pos hempty]
    rcases hd : calls.asyncRemoveDevice device.id s with ⟨e | _, s'⟩
    · simp only [recording_removeDevice hd log]
    · simp only [recording_removeDevice hd log]
  · rw [removeIfEmpty, recording_view, if_neg hempty, removeIfEmpty, if_neg hempty]

theorem removeEmptyDevices_recording {α : Type} (find : Registries → α → Option DeviceRow) (as : List α)
    (s : σ) (log : Renames) : removeEmptyDevices (recording calls) find as (s, log) =
      ((removeEmptyDevices calls find as s).1, (removeEmptyDevices calls find as s).2, log) := by
  induction as generalizing s with
  | nil => rfl
  | cons a as ih =>
      simp only [removeEmptyDevices, recording_view]
      cases find (calls.view s) a with
      | none => exact ih s
      | some device =>
          dsimp only
          rw [removeIfEmpty_recording device]
          rcases removeIfEmpty calls device s with ⟨e | removed, s'⟩
          · rfl
          · simp only [ih s']
            rcases removeEmptyDevices calls find as s' with ⟨e | n, s''⟩ <;> rfl

section Repairs

variable (calls : RegistryCalls σ) (order : IterationOrder) (slugify : String → String) (entryId : String)
  (entry : Option LiveEntry) (s : σ) (log : Renames)

def Reported (result : Except PyError (Nat × List String)) (renames : Renames) : Prop :=
  ∀ n messages, result = .ok (n, messages) → n = renames.length ∧ messages = renames.map reported

theorem repairLegacyEntityObjectIds_recording : ∃ renames,
    repairLegacyEntityObjectIds (recording calls) slugify entryId (s, log) =
        ((renames.length, renames.map reported), (repairLegacyEntityObjectIds calls slugify entryId s).2,
          log ++ renames) ∧
      (repairLegacyEntityObjectIds calls slugify entryId s).1 = (renames.length, renames.map reported) := by
  obtain ⟨renames, hrun, hmessages⟩ :=
    renameAll_recording calls (getLegacyEntityObjectIdRepairs (calls.view s) entryId slugify) s log
  refine ⟨renames, ?_, ?_⟩
  · simp only [repairLegacyEntityObjectIds, recording_view, hrun, hmessages, List.length_map]
  · simp only [repairLegacyEntityObjectIds, hmessages, List.length_map]

theorem repairEntityIdSuffixes_recording (allowReplaceBase : Bool) : ∃ renames,
    repairEntityIdSuffixes (recording calls) entryId allowReplaceBase (s, log) =
        ((renames.length, renames.map reported), (repairEntityIdSuffixes calls entryId allowReplaceBase s).2,
          log ++ renames) ∧
      (repairEntityIdSuffixes calls entryId allowReplaceBase s).1 =
        (renames.length, renames.map reported) := by
  obtain ⟨renames, hrun, hmessages⟩ :=
    replaceAll_recording calls (getEntityIdSuffixRepairs (calls.view s) entryId allowReplaceBase) s log
  refine ⟨renames, ?_, ?_⟩
  · simp only [repairEntityIdSuffixes, recording_view, hrun, hmessages, List.length_map]
  · simp only [repairEntityIdSuffixes, hmessages, List.length_map]

theorem repairOrphanBaseSuffixMerges_recording (currentUids : Option (Finset String)) : ∃ renames,
    repairOrphanBaseSuffixMerges (recording calls) order entryId entry currentUids (s, log) =
        ((repairOrphanBaseSuffixMerges calls order entryId entry currentUids s).1,
          (repairOrphanBaseSuffixMerges calls order entryId entry currentUids s).2, log ++ renames) ∧
      Reported (repairOrphanBaseSuffixMerges calls order entryId entry currentUids s).1 renames := by
  rw [repairOrphanBaseSuffixMerges, repairOrphanBaseSuffixMerges, recording_view]
  dsimp only
  split
  · refine ⟨[], by rw [List.append_nil], ?_⟩
    intro n messages h
    cases h
    exact ⟨rfl, rfl⟩
  · obtain ⟨renames, hrun, hmessages⟩ :=
      mergeAll_recording calls (getOrphanBaseSuffixMerges (calls.view s) entryId entry currentUids) ∅ s log
    refine ⟨renames, ?_⟩
    rw [hrun]
    dsimp only
    rw [removeEmptyDevices_recording, hmessages]
    rcases removeEmptyDevices calls (connectionDevice entryId)
      (order.toList (mergeAll calls (getOrphanBaseSuffixMerges (calls.view s) entryId entry currentUids) ∅
        s).2.1) _ with ⟨e | n, s'⟩
    · refine ⟨rfl, ?_⟩
      intro n messages h
      cases h
    · refine ⟨rfl, ?_⟩
      intro n messages h
      cases h
      exact ⟨List.length_map _, rfl⟩

/-- The repair beside the log is the repair. It reports exactly the renames that went
through. -/
theorem repairEntityIds_recording : ∃ renames,
    repairEntityIds (recording calls) order slugify entryId entry (s, log) =
        ((repairEntityIds calls order slugify entryId entry s).1,
          (repairEntityIds calls order slugify entryId entry s).2, log ++ renames) ∧
      Reported (repairEntityIds calls order slugify entryId entry s).1 renames := by
  obtain ⟨legacy, hlegacy, hlegacy'⟩ := repairLegacyEntityObjectIds_recording calls slugify entryId s log
  obtain ⟨merged, hmerged, hmerged'⟩ := repairOrphanBaseSuffixMerges_recording calls order entryId entry
    (repairLegacyEntityObjectIds calls slugify entryId s).2 (log ++ legacy) none
  simp only [repairEntityIds, hlegacy, hlegacy', hmerged]
  rcases hr : repairOrphanBaseSuffixMerges calls order entryId entry none
    (repairLegacyEntityObjectIds calls slugify entryId s).2 with ⟨e | ⟨mergeCount, mergeMessages⟩, s₂⟩
  · refine ⟨legacy ++ merged, by rw [List.append_assoc], ?_⟩
    intro n messages h
    cases h
  · rw [hr] at hmerged'
    obtain ⟨rfl, rfl⟩ := hmerged' _ _ rfl
    obtain ⟨suffixed, hsuffix, hsuffix'⟩ :=
      repairEntityIdSuffixes_recording calls entryId s₂ (log ++ legacy ++ merged) false
    simp only [hsuffix, hsuffix']
    refine ⟨legacy ++ merged ++ suffixed, by simp only [List.append_assoc], ?_⟩
    intro n messages h
    cases h
    simp only [List.length_append, List.map_append, and_self]

end Repairs

end FritzboxVpn.RenameLog
