import FritzboxVpn.HomeAssistant
import FritzboxVpn.UniqueIdCodec

namespace FritzboxVpn.UidRemap

open Constants Exceptions HomeAssistant KeyedWrites OrderedDict UidIdentity UniqueIdCodec

def connectionIdentifier (entryId connectionUid : String) : Identifier :=
  [domain, entryId, connectionUid]

structure RemapPlan where
  plannedEntities : Dict String (List (RegistryEntry × String))
  plannedDevices : Dict String DeviceEntry
  conflicted : Finset String

def RemapPlan.entityPlans (plan : RemapPlan) (oldUid : String) : List (RegistryEntry × String) :=
  (plan.plannedEntities.get? oldUid).getD []

def RemapPlan.conflict (plan : RemapPlan) (oldUid : String) : RemapPlan :=
  { plan with conflicted := insert oldUid plan.conflicted }

def RemapPlan.addEntity (plan : RemapPlan) (oldUid : String) (w : RegistryEntry × String) : RemapPlan :=
  { plan with plannedEntities := plan.plannedEntities.insert oldUid (plan.entityPlans oldUid ++ [w]) }

def planEntity (R : EntityRegistry) (oldToNew : Dict String String) (plan : RemapPlan)
    (entry : RegistryEntry) : RemapPlan :=
  match connectionUidFromEntityUniqueId entry.uniqueId,
      uniqueIdSuffixFromEntityUniqueId entry.uniqueId with
  | some oldUid, some suffix =>
      match oldToNew.get? oldUid with
      | none => plan
      | some newUid =>
          if (R.asyncGetEntityId entry.entityId.domain domain (entityUniqueId newUid suffix)).isSome then
            plan.conflict oldUid
          else plan.addEntity oldUid (entry, entityUniqueId newUid suffix)
  | _, _ => plan

def planDevice (D : DeviceRegistry) (entryId : String) (plan : RemapPlan)
    (pair : String × String) : RemapPlan :=
  match D.asyncGetDevice (connectionIdentifier entryId pair.1) with
  | none => plan
  | some device =>
      match D.asyncGetDevice (connectionIdentifier entryId pair.2) with
      | some existingNew =>
          if existingNew.id ≠ device.id then plan.conflict pair.1
          else { plan with plannedDevices := plan.plannedDevices.insert pair.1 device }
      | none => { plan with plannedDevices := plan.plannedDevices.insert pair.1 device }

def remapPlan (hass : Hass) (entryId : String) (oldToNew : Dict String String) : RemapPlan :=
  oldToNew.entries.foldl (planDevice hass.devices entryId)
    ((hass.entities.asyncEntriesForConfigEntry entryId).foldl (planEntity hass.entities oldToNew)
      ⟨Dict.empty, Dict.empty, ∅⟩)

def RemapPlan.entityWrites (plan : RemapPlan) (oldUid : String) : List (EntityId × String) :=
  (plan.entityPlans oldUid).map fun w => (w.1.entityId, w.2)

def movedIdentifiers (entryId : String) (pair : String × String) (device : DeviceEntry) :
    Finset Identifier :=
  insert (connectionIdentifier entryId pair.2)
    (device.identifiers.erase (connectionIdentifier entryId pair.1))

def RemapPlan.deviceWrites (plan : RemapPlan) (entryId : String) (pair : String × String) :
    List (String × Finset Identifier) :=
  (plan.plannedDevices.get? pair.1).toList.map fun device =>
    (device.id, movedIdentifiers entryId pair device)

/-- The writes of one pair: all its rows, then its device. -/
def applyPair (api : RegistryApi) (plan : RemapPlan) (entryId : String) (pair : String × String)
    (hass : Hass) : Except PyError Unit × Hass :=
  match writeAll api.asyncUpdateEntity (plan.entityWrites pair.1) hass.entities with
  | (.error e, R) => (.error e, { hass with entities := R })
  | (.ok (), R) =>
      match writeAll api.asyncUpdateDevice (plan.deviceWrites entryId pair) hass.devices with
      | (.error e, D) => (.error e, { hass with entities := R, devices := D })
      | (.ok (), D) => (.ok (), { hass with entities := R, devices := D })

def RemapPlan.skips (plan : RemapPlan) (oldUid : String) : Bool :=
  oldUid ∈ plan.conflicted ∨ (plan.entityPlans oldUid = [] ∧ plan.plannedDevices.get? oldUid = none)

def applyPairs (api : RegistryApi) (plan : RemapPlan) (entryId : String) :
    List (String × String) → Hass → Dict String String → Except PyError (Dict String String) × Hass
  | [], hass, applied => (.ok applied, hass)
  | pair :: pairs, hass, applied =>
      if plan.skips pair.1 then applyPairs api plan entryId pairs hass applied
      else
        match applyPair api plan entryId pair hass with
        | (.error e, hass') => (.error e, hass')
        | (.ok (), hass') =>
            applyPairs api plan entryId pairs hass' (applied.insert pair.1 pair.2)

def remapConnectionUids (api : RegistryApi) (hass : Hass) (entryId : String)
    (oldToNew : Dict String String) : Except PyError (Dict String String) × Hass :=
  if oldToNew.isEmpty then (.ok Dict.empty, hass)
  else
    match applyPairs api (remapPlan hass entryId oldToNew) entryId oldToNew.entries hass
        Dict.empty with
    | (.error e, hass') => (.error e, hass')
    | (.ok applied, hass') =>
        match runtimeFromHass hass' entryId with
        | some runtime =>
            if applied.isEmpty then (.ok applied, hass')
            else (.ok applied, hass'.withRuntime entryId (runtime.remapKnownUids applied))
        | none => (.ok applied, hass')

def rowTarget (oldToNew : Dict String String) (entry : RegistryEntry) : Option (String × String) :=
  match connectionUidFromEntityUniqueId entry.uniqueId,
      uniqueIdSuffixFromEntityUniqueId entry.uniqueId with
  | some oldUid, some suffix =>
      (oldToNew.get? oldUid).map fun newUid => (oldUid, entityUniqueId newUid suffix)
  | _, _ => none

theorem rowTarget_eq_some {oldToNew : Dict String String} {r : RegistryEntry} {oldUid u : String} :
    rowTarget oldToNew r = some (oldUid, u) ↔ ∃ newUid suffix, oldToNew.get? oldUid = some newUid ∧
      Decodes r.uniqueId oldUid suffix ∧ u = entityUniqueId newUid suffix := by
  simp only [rowTarget, Decodes]
  cases connectionUidFromEntityUniqueId r.uniqueId with
  | none => simp
  | some c =>
      cases uniqueIdSuffixFromEntityUniqueId r.uniqueId with
      | none => simp
      | some s =>
          simp only [Option.map_eq_some_iff, Prod.mk.injEq, Option.some.injEq]
          constructor
          · rintro ⟨newUid, hn, rfl, rfl⟩
            exact ⟨newUid, s, hn, ⟨rfl, rfl⟩, rfl⟩
          · rintro ⟨newUid, s', hn, ⟨rfl, rfl⟩, rfl⟩
            exact ⟨newUid, hn, rfl, rfl⟩

def RowTaken (R : HomeAssistant.EntityRegistry) (r : RegistryEntry) (u : String) : Prop :=
  R.Taken (r.entityId.domain, domain, u)

instance (R : HomeAssistant.EntityRegistry) (r : RegistryEntry) (u : String) :
    Decidable (RowTaken R r u) :=
  inferInstanceAs (Decidable (R.Taken _))

theorem planEntity_eq (R : HomeAssistant.EntityRegistry) (oldToNew : Dict String String)
    (plan : RemapPlan) (r : RegistryEntry) :
    planEntity R oldToNew plan r =
      match rowTarget oldToNew r with
      | none => plan
      | some (oldUid, u) =>
          if RowTaken R r u then plan.conflict oldUid else plan.addEntity oldUid (r, u) := by
  simp only [planEntity, rowTarget, RowTaken, ← EntityRegistry.asyncGetEntityId_isSome]
  cases connectionUidFromEntityUniqueId r.uniqueId with
  | none => rfl
  | some c =>
      cases uniqueIdSuffixFromEntityUniqueId r.uniqueId with
      | none => rfl
      | some s => cases h : oldToNew.get? c <;> simp [h]

def plannedWrite (R : HomeAssistant.EntityRegistry) (oldToNew : Dict String String) (oldUid : String)
    (r : RegistryEntry) : Option (RegistryEntry × String) :=
  match rowTarget oldToNew r with
  | none => none
  | some (uid, u) => if uid = oldUid ∧ ¬ RowTaken R r u then some (r, u) else none

theorem plannedWrite_eq_some {R : HomeAssistant.EntityRegistry} {oldToNew : Dict String String}
    {oldUid : String} {r : RegistryEntry} {w : RegistryEntry × String} :
    plannedWrite R oldToNew oldUid r = some w ↔
      w.1 = r ∧ rowTarget oldToNew r = some (oldUid, w.2) ∧ ¬ RowTaken R r w.2 := by
  obtain ⟨r', u'⟩ := w
  rw [plannedWrite]
  cases rowTarget oldToNew r with
  | none => simp
  | some p =>
      obtain ⟨uid, u⟩ := p
      simp only [Option.ite_none_right_eq_some, Option.some.injEq, Prod.mk.injEq]
      constructor
      · rintro ⟨⟨rfl, ht⟩, rfl, rfl⟩
        exact ⟨rfl, ⟨rfl, rfl⟩, ht⟩
      · rintro ⟨rfl, ⟨rfl, rfl⟩, ht⟩
        exact ⟨⟨rfl, ht⟩, rfl, rfl⟩

@[simp]
theorem entityPlans_conflict (plan : RemapPlan) (uid oldUid : String) :
    (plan.conflict uid).entityPlans oldUid = plan.entityPlans oldUid := rfl

theorem entityPlans_addEntity (plan : RemapPlan) (uid oldUid : String) (w : RegistryEntry × String) :
    (plan.addEntity uid w).entityPlans oldUid =
      plan.entityPlans oldUid ++ if uid = oldUid then [w] else [] := by
  by_cases h : uid = oldUid
  · subst h
    simp [RemapPlan.addEntity, RemapPlan.entityPlans]
  · have hn : oldUid ≠ uid := fun he => h he.symm
    simp [RemapPlan.addEntity, RemapPlan.entityPlans, Dict.get?_insert_ne _ hn, h]

theorem planEntity_entityPlans (R : HomeAssistant.EntityRegistry) (oldToNew : Dict String String)
    (plan : RemapPlan) (r : RegistryEntry) (oldUid : String) :
    (planEntity R oldToNew plan r).entityPlans oldUid =
      plan.entityPlans oldUid ++ (plannedWrite R oldToNew oldUid r).toList := by
  rw [planEntity_eq, plannedWrite]
  cases rowTarget oldToNew r with
  | none => simp
  | some p =>
      obtain ⟨uid, u⟩ := p
      by_cases ht : RowTaken R r u
      · simp [ht]
      · by_cases hu : uid = oldUid <;> simp [ht, hu, entityPlans_addEntity]

theorem planEntities_entityPlans (R : HomeAssistant.EntityRegistry) (oldToNew : Dict String String)
    (rows : List RegistryEntry) (plan : RemapPlan) (oldUid : String) :
    (rows.foldl (planEntity R oldToNew) plan).entityPlans oldUid =
      plan.entityPlans oldUid ++ rows.filterMap (plannedWrite R oldToNew oldUid) := by
  induction rows generalizing plan with
  | nil => simp
  | cons r rows ih =>
      rw [List.foldl_cons, ih, planEntity_entityPlans, List.append_assoc, List.filterMap_cons]
      cases plannedWrite R oldToNew oldUid r <;> rfl

theorem planEntities_conflicted (R : HomeAssistant.EntityRegistry) (oldToNew : Dict String String)
    (rows : List RegistryEntry) (plan : RemapPlan) (oldUid : String) :
    oldUid ∈ (rows.foldl (planEntity R oldToNew) plan).conflicted ↔ oldUid ∈ plan.conflicted ∨
      ∃ r ∈ rows, ∃ u, rowTarget oldToNew r = some (oldUid, u) ∧ RowTaken R r u := by
  induction rows generalizing plan with
  | nil => simp
  | cons r rows ih =>
      have hstep : oldUid ∈ (planEntity R oldToNew plan r).conflicted ↔ oldUid ∈ plan.conflicted ∨
          ∃ u, rowTarget oldToNew r = some (oldUid, u) ∧ RowTaken R r u := by
        rw [planEntity_eq]
        cases rowTarget oldToNew r with
        | none => simp
        | some p =>
            obtain ⟨uid, u⟩ := p
            by_cases ht : RowTaken R r u
            · simp [ht, RemapPlan.conflict, eq_comm, or_comm]
            · have hn : ¬ ∃ v, (uid = oldUid ∧ u = v) ∧ RowTaken R r v := by
                rintro ⟨v, ⟨-, rfl⟩, hv⟩
                exact ht hv
              simp [ht, hn, RemapPlan.addEntity]
      rw [List.foldl_cons, ih, hstep, List.exists_mem_cons_iff, or_assoc]

theorem planEntities_plannedDevices (R : HomeAssistant.EntityRegistry)
    (oldToNew : Dict String String) (rows : List RegistryEntry) (plan : RemapPlan) :
    (rows.foldl (planEntity R oldToNew) plan).plannedDevices = plan.plannedDevices := by
  induction rows generalizing plan with
  | nil => rfl
  | cons r rows ih =>
      rw [List.foldl_cons, ih, planEntity_eq]
      cases rowTarget oldToNew r with
      | none => rfl
      | some p =>
          by_cases ht : RowTaken R r p.2 <;> simp [ht, RemapPlan.conflict, RemapPlan.addEntity]

def DeviceMovable (D : DeviceRegistry) (entryId : String) (pair : String × String)
    (d : DeviceEntry) : Prop :=
  d ∈ D.devices ∧ connectionIdentifier entryId pair.1 ∈ d.identifiers ∧
    ∀ d' ∈ D.devices, connectionIdentifier entryId pair.2 ∈ d'.identifiers → d' = d

def DeviceTaken (D : DeviceRegistry) (entryId : String) (pair : String × String) : Prop :=
  ∃ d ∈ D.devices, connectionIdentifier entryId pair.1 ∈ d.identifiers ∧
    ∃ d' ∈ D.devices, connectionIdentifier entryId pair.2 ∈ d'.identifiers ∧ d' ≠ d

theorem planDevice_cases (D : DeviceRegistry) (entryId : String) (plan : RemapPlan)
    (pair : String × String) :
    ((∀ d, ¬ DeviceMovable D entryId pair d) ∧ ¬ DeviceTaken D entryId pair ∧
        planDevice D entryId plan pair = plan) ∨
      ((∀ d, ¬ DeviceMovable D entryId pair d) ∧ DeviceTaken D entryId pair ∧
        planDevice D entryId plan pair = plan.conflict pair.1) ∨
      ∃ d, DeviceMovable D entryId pair d ∧ ¬ DeviceTaken D entryId pair ∧
        planDevice D entryId plan pair =
          { plan with plannedDevices := plan.plannedDevices.insert pair.1 d } := by
  rw [planDevice]
  cases hold : D.asyncGetDevice (connectionIdentifier entryId pair.1) with
  | none =>
      have hno : ∀ d ∈ D.devices, connectionIdentifier entryId pair.1 ∉ d.identifiers := by
        intro d hd hi
        rw [DeviceRegistry.asyncGetDevice_iff.mpr ⟨hd, hi⟩] at hold
        cases hold
      exact Or.inl ⟨fun d h => hno d h.1 h.2.1, fun ⟨d, hd, hi, _⟩ => hno d hd hi, rfl⟩
  | some d =>
      obtain ⟨hd, hi⟩ := DeviceRegistry.asyncGetDevice_iff.mp hold
      have hone : ∀ e ∈ D.devices, connectionIdentifier entryId pair.1 ∈ e.identifiers → e = d :=
        fun e he hie => D.disjoint e he d hd _ hie hi
      cases hnew : D.asyncGetDevice (connectionIdentifier entryId pair.2) with
      | none =>
          have hno : ∀ d' ∈ D.devices, connectionIdentifier entryId pair.2 ∉ d'.identifiers := by
            intro d' hd' hi'
            rw [DeviceRegistry.asyncGetDevice_iff.mpr ⟨hd', hi'⟩] at hnew
            cases hnew
          refine Or.inr (Or.inr ⟨d, ⟨hd, hi, fun d' hd' hi' => absurd hi' (hno d' hd')⟩, ?_, rfl⟩)
          rintro ⟨-, -, -, d', hd', hi', -⟩
          exact hno d' hd' hi'
      | some d' =>
          obtain ⟨hd', hi'⟩ := DeviceRegistry.asyncGetDevice_iff.mp hnew
          by_cases he : d'.id = d.id
          · have hed : d' = d := DeviceRegistry.eq_of_id hd' hd he
            refine Or.inr (Or.inr ⟨d, ⟨hd, hi, ?_⟩, ?_, ?_⟩)
            · intro e he' hie
              rw [← hed]
              exact D.disjoint e he' d' hd' _ hie hi'
            · rintro ⟨f, hf, hif, e, he', hie, hne⟩
              apply hne
              rw [hone f hf hif, ← hed]
              exact D.disjoint e he' d' hd' _ hie hi'
            · simp [he]
          · have hne : d' ≠ d := fun h => he (congrArg DeviceEntry.id h)
            refine Or.inr (Or.inl ⟨?_, ⟨d, hd, hi, d', hd', hi', hne⟩, ?_⟩)
            · intro e hm
              have hde : e = d := hone e hm.1 hm.2.1
              exact hne ((hm.2.2 d' hd' hi').trans hde)
            · simp [he]

@[simp]
theorem planDevices_entityPlans (D : DeviceRegistry) (entryId : String)
    (pairs : List (String × String)) (plan : RemapPlan) (oldUid : String) :
    (pairs.foldl (planDevice D entryId) plan).entityPlans oldUid = plan.entityPlans oldUid := by
  induction pairs generalizing plan with
  | nil => rfl
  | cons p pairs ih =>
      rw [List.foldl_cons, ih]
      rcases planDevice_cases D entryId plan p with ⟨-, -, h⟩ | ⟨-, -, h⟩ | ⟨d, -, -, h⟩ <;>
        rw [h] <;> rfl

theorem planDevices_conflicted (D : DeviceRegistry) (entryId : String)
    (pairs : List (String × String)) (plan : RemapPlan) (oldUid : String) :
    oldUid ∈ (pairs.foldl (planDevice D entryId) plan).conflicted ↔ oldUid ∈ plan.conflicted ∨
      ∃ p ∈ pairs, p.1 = oldUid ∧ DeviceTaken D entryId p := by
  induction pairs generalizing plan with
  | nil => simp
  | cons p pairs ih =>
      rw [List.foldl_cons, ih, List.exists_mem_cons_iff, ← or_assoc]
      apply or_congr_left
      rcases planDevice_cases D entryId plan p with ⟨-, hn, h⟩ | ⟨-, ht, h⟩ | ⟨d, -, hn, h⟩
      · simp [h, hn]
      · simp [h, ht, RemapPlan.conflict, eq_comm, or_comm]
      · simp [h, hn]

theorem planDevices_plannedDevices (D : DeviceRegistry) (entryId : String)
    {pairs : List (String × String)} (hn : (pairs.map Prod.fst).Nodup) (plan : RemapPlan)
    {p : String × String} (hp : p ∈ pairs) (d : DeviceEntry)
    (hplan : plan.plannedDevices.get? p.1 = none) :
    (pairs.foldl (planDevice D entryId) plan).plannedDevices.get? p.1 = some d ↔
      DeviceMovable D entryId p d := by
  have hkeep : ∀ (qs : List (String × String)) (plan : RemapPlan), p.1 ∉ qs.map Prod.fst →
      (qs.foldl (planDevice D entryId) plan).plannedDevices.get? p.1 =
        plan.plannedDevices.get? p.1 := by
    intro qs
    induction qs with
    | nil => exact fun _ _ => rfl
    | cons q qs ih =>
        intro plan hq
        rw [List.map_cons, List.mem_cons, not_or] at hq
        rw [List.foldl_cons, ih _ hq.2]
        rcases planDevice_cases D entryId plan q with ⟨-, -, h⟩ | ⟨-, -, h⟩ | ⟨e, -, -, h⟩
        · rw [h]
        · rw [h]; rfl
        · rw [h]; exact Dict.get?_insert_ne _ hq.1 e
  induction pairs generalizing plan with
  | nil => exact absurd hp List.not_mem_nil
  | cons q pairs ih =>
      rw [List.map_cons, List.nodup_cons] at hn
      rw [List.foldl_cons]
      rcases List.mem_cons.mp hp with rfl | hp
      · rw [hkeep pairs _ hn.1]
        rcases planDevice_cases D entryId plan p with ⟨hm, -, h⟩ | ⟨hm, -, h⟩ | ⟨e, hm, -, h⟩
        · simp [h, hplan, hm d]
        · simp [h, RemapPlan.conflict, hplan, hm d]
        · rw [h]
          simp only [Dict.get?_insert_self, Option.some.injEq]
          constructor
          · rintro rfl
            exact hm
          · intro hd
            exact D.disjoint e hm.1 d hd.1 _ hm.2.1 hd.2.1
      · apply ih hn.2 _ hp
        have hne : p.1 ≠ q.1 := fun he => hn.1 (he ▸ List.mem_map_of_mem (f := Prod.fst) hp)
        rcases planDevice_cases D entryId plan q with ⟨-, -, h⟩ | ⟨-, -, h⟩ | ⟨e, -, -, h⟩
        · rw [h]; exact hplan
        · rw [h]; exact hplan
        · rw [h]; exact (Dict.get?_insert_ne _ hne e).trans hplan

def Blocked (hass : Hass) (entryId : String) (oldToNew : Dict String String) (oldUid : String) :
    Prop :=
  (∃ r ∈ hass.entities.rows, r.configEntryId = some entryId ∧
      ∃ u, rowTarget oldToNew r = some (oldUid, u) ∧ RowTaken hass.entities r u) ∨
    ∃ newUid, oldToNew.get? oldUid = some newUid ∧ DeviceTaken hass.devices entryId (oldUid, newUid)

theorem mem_asyncEntries {R : HomeAssistant.EntityRegistry} {entryId : String} {r : RegistryEntry} :
    r ∈ R.asyncEntriesForConfigEntry entryId ↔ r ∈ R.rows ∧ r.configEntryId = some entryId := by
  rw [EntityRegistry.asyncEntriesForConfigEntry, List.mem_filter, decide_eq_true_eq]

variable (hass : Hass) (entryId : String) (oldToNew : Dict String String)

theorem remapPlan_conflicted (oldUid : String) :
    oldUid ∈ (remapPlan hass entryId oldToNew).conflicted ↔
      Blocked hass entryId oldToNew oldUid := by
  rw [remapPlan, planDevices_conflicted, planEntities_conflicted, Blocked]
  simp only [Finset.notMem_empty, false_or, mem_asyncEntries, and_assoc]
  apply or_congr_right
  constructor
  · rintro ⟨⟨old, new⟩, hp, rfl, ht⟩
    exact ⟨new, Dict.mem_entries_iff.mp hp, ht⟩
  · rintro ⟨new, hp, ht⟩
    exact ⟨(oldUid, new), Dict.mem_entries_iff.mpr hp, rfl, ht⟩

theorem remapPlan_entityPlans (oldUid : String) :
    (remapPlan hass entryId oldToNew).entityPlans oldUid =
      (hass.entities.asyncEntriesForConfigEntry entryId).filterMap
        (plannedWrite hass.entities oldToNew oldUid) := by
  rw [remapPlan, planDevices_entityPlans, planEntities_entityPlans]
  rfl

theorem mem_remapPlan_entityPlans {oldUid : String} {w : RegistryEntry × String} :
    w ∈ (remapPlan hass entryId oldToNew).entityPlans oldUid ↔ w.1 ∈ hass.entities.rows ∧
      w.1.configEntryId = some entryId ∧ rowTarget oldToNew w.1 = some (oldUid, w.2) ∧
        ¬ RowTaken hass.entities w.1 w.2 := by
  rw [remapPlan_entityPlans, List.mem_filterMap]
  simp only [plannedWrite_eq_some, mem_asyncEntries]
  constructor
  · rintro ⟨r, ⟨hr, he⟩, rfl, ht⟩
    exact ⟨hr, he, ht⟩
  · rintro ⟨hr, he, ht⟩
    exact ⟨w.1, ⟨hr, he⟩, rfl, ht⟩

theorem remapPlan_entityWrites_nodup (oldUid : String) :
    (((remapPlan hass entryId oldToNew).entityWrites oldUid).map Prod.fst).Nodup := by
  have hsub : ∀ rows : List RegistryEntry,
      ((rows.filterMap (plannedWrite hass.entities oldToNew oldUid)).map fun w => w.1.entityId).Sublist
        (rows.map RegistryEntry.entityId) := by
    intro rows
    induction rows with
    | nil => exact List.Sublist.slnil
    | cons r rows ih =>
        rw [List.filterMap_cons]
        cases h : plannedWrite hass.entities oldToNew oldUid r with
        | none => exact ih.cons _
        | some w =>
            have hw : w.1 = r := (plannedWrite_eq_some.mp h).1
            simp only [List.map_cons, hw]
            exact ih.cons_cons _
  rw [RemapPlan.entityWrites, List.map_map, remapPlan_entityPlans]
  apply (hsub _).nodup
  exact (List.filter_sublist.map _).nodup hass.entities.entityIds_nodup

theorem remapPlan_plannedDevices {p : String × String} (hp : p ∈ oldToNew.entries) (d : DeviceEntry) :
    (remapPlan hass entryId oldToNew).plannedDevices.get? p.1 = some d ↔
      DeviceMovable hass.devices entryId p d := by
  rw [remapPlan]
  apply planDevices_plannedDevices _ _ oldToNew.nodup _ hp
  rw [planEntities_plannedDevices]
  rfl

end FritzboxVpn.UidRemap
