import FritzboxVpn.HomeAssistant

namespace FritzboxVpn.RegistryRows

open Exceptions HomeAssistant

/-- A row of the entity registry with what the repairs read of it. -/
structure EntityRow extends RegistryEntry where
  id : String
  deviceId : Option String
  disabled : Bool
deriving DecidableEq

structure DeviceRow extends DeviceEntry where
  configEntries : Finset String
  name : Option String
  nameByUser : Option String
deriving DecidableEq

structure Registries where
  rows : List EntityRow
  devices : List DeviceRow
  entityIds_nodup : (rows.map fun r => r.entityId).Nodup
  uniqueKeys_nodup : (rows.map fun r => r.uniqueKey).Nodup
  rowIds_nodup : (rows.map EntityRow.id).Nodup
  deviceIds_nodup : (devices.map fun d => d.id).Nodup
  disjoint : ∀ d ∈ devices, ∀ e ∈ devices, ∀ i ∈ d.identifiers, i ∈ e.identifiers → d = e

def EntityRow.renamed (old new : EntityId) (r : EntityRow) : EntityRow :=
  if r.entityId = old then { r with entityId := new } else r

def EntityRow.detached (deviceId : String) (r : EntityRow) : EntityRow :=
  if r.deviceId = some deviceId then { r with deviceId := none } else r

namespace Registries

def asyncGet (R : Registries) (entityId : EntityId) : Option EntityRow :=
  R.rows.find? fun r => r.entityId = entityId

def asyncEntriesForConfigEntry (R : Registries) (entryId : String) : List EntityRow :=
  R.rows.filter fun r => r.configEntryId = some entryId

def asyncEntriesForDevice (R : Registries) (deviceId : String) : List EntityRow :=
  R.rows.filter fun r => r.deviceId = some deviceId ∧ r.disabled = false

def asyncGetDevice (R : Registries) (identifier : Identifier) : Option DeviceRow :=
  R.devices.find? fun d => identifier ∈ d.identifiers

def asyncGetDeviceById (R : Registries) (deviceId : String) : Option DeviceRow :=
  R.devices.find? fun d => d.id = deviceId

def devicesForConfigEntry (R : Registries) (entryId : String) : List DeviceRow :=
  R.devices.filter fun d => entryId ∈ d.configEntries

def entityRegistry (R : Registries) : EntityRegistry where
  rows := R.rows.map EntityRow.toRegistryEntry
  entityIds_nodup := by
    rw [List.map_map]
    exact R.entityIds_nodup
  uniqueKeys_nodup := by
    rw [List.map_map]
    exact R.uniqueKeys_nodup

def deviceRegistry (R : Registries) : DeviceRegistry where
  devices := R.devices.map DeviceRow.toDeviceEntry
  ids_nodup := by
    rw [List.map_map]
    exact R.deviceIds_nodup
  disjoint := by
    intro d' hd' e' he' i hi hi'
    obtain ⟨d, hd, rfl⟩ := List.mem_map.mp hd'
    obtain ⟨e, he, rfl⟩ := List.mem_map.mp he'
    rw [R.disjoint d hd e he i hi hi']

theorem eq_of_entityId {R : Registries} {r r' : EntityRow} (h : r ∈ R.rows) (h' : r' ∈ R.rows)
    (he : r.entityId = r'.entityId) : r = r' :=
  List.inj_on_of_nodup_map R.entityIds_nodup h h' he

theorem eq_of_deviceId {R : Registries} {d d' : DeviceRow} (h : d ∈ R.devices) (h' : d' ∈ R.devices)
    (he : d.id = d'.id) : d = d' :=
  List.inj_on_of_nodup_map R.deviceIds_nodup h h' he

def Free (R : Registries) (e : EntityId) : Prop := ∀ r ∈ R.rows, r.entityId ≠ e

instance (R : Registries) (e : EntityId) : Decidable (R.Free e) :=
  inferInstanceAs (Decidable (∀ r ∈ R.rows, r.entityId ≠ e))

theorem asyncGet_eq_none {R : Registries} {e : EntityId} : R.asyncGet e = none ↔ R.Free e := by
  simp [asyncGet, Free]

theorem mem_entriesForConfigEntry {R : Registries} {entryId : String} {r : EntityRow} :
    r ∈ R.asyncEntriesForConfigEntry entryId ↔ r ∈ R.rows ∧ r.configEntryId = some entryId := by
  simp [asyncEntriesForConfigEntry]

theorem mem_entriesForDevice {R : Registries} {deviceId : String} {r : EntityRow} :
    r ∈ R.asyncEntriesForDevice deviceId ↔
      r ∈ R.rows ∧ r.deviceId = some deviceId ∧ r.disabled = false := by
  simp [asyncEntriesForDevice]

theorem asyncGetDevice_iff {R : Registries} {i : Identifier} {d : DeviceRow} :
    R.asyncGetDevice i = some d ↔ d ∈ R.devices ∧ i ∈ d.identifiers := by
  constructor
  · intro h
    exact ⟨List.mem_of_find?_eq_some h, by simpa using List.find?_some h⟩
  · rintro ⟨hd, hi⟩
    obtain ⟨e, he⟩ := Option.isSome_iff_exists.mp
      (List.find?_isSome (p := fun d : DeviceRow => decide (i ∈ d.identifiers)).mpr ⟨d, hd, by simpa⟩)
    have hm := List.mem_of_find?_eq_some he
    have hie : i ∈ e.identifiers := by simpa using List.find?_some he
    rw [asyncGetDevice, he, R.disjoint d hd e hm i hi hie]

theorem asyncGetDevice_deviceRegistry (R : Registries) (i : Identifier) :
    R.deviceRegistry.asyncGetDevice i = (R.asyncGetDevice i).map DeviceRow.toDeviceEntry := by
  rw [deviceRegistry, DeviceRegistry.asyncGetDevice, asyncGetDevice, List.find?_map]
  rfl

theorem asyncGetDeviceById_iff {R : Registries} {deviceId : String} {d : DeviceRow} :
    R.asyncGetDeviceById deviceId = some d ↔ d ∈ R.devices ∧ d.id = deviceId := by
  constructor
  · intro h
    exact ⟨List.mem_of_find?_eq_some h, by simpa using List.find?_some h⟩
  · rintro ⟨hd, rfl⟩
    obtain ⟨e, he⟩ := Option.isSome_iff_exists.mp
      (List.find?_isSome (p := fun e : DeviceRow => decide (e.id = d.id)).mpr ⟨d, hd, by simp⟩)
    have hm := List.mem_of_find?_eq_some he
    have hid : e.id = d.id := by simpa using List.find?_some he
    rw [asyncGetDeviceById, he, eq_of_deviceId hm hd hid]

end Registries

structure Renamed (R : Registries) (old new : EntityId) (R' : Registries) : Prop where
  free : R.Free new
  rows : ∀ r, r ∈ R'.rows ↔ ∃ r₀ ∈ R.rows, r = r₀.renamed old new
  devices : ∀ d, d ∈ R'.devices ↔ d ∈ R.devices

structure Removed (R : Registries) (e : EntityId) (R' : Registries) : Prop where
  rows : ∀ r, r ∈ R'.rows ↔ r ∈ R.rows ∧ r.entityId ≠ e
  devices : ∀ d, d ∈ R'.devices ↔ d ∈ R.devices

/-- The row goes with the device: it is attached to it and belongs to one of
its config entries. -/
def GoesWith (d : DeviceRow) (r : EntityRow) : Prop :=
  r.deviceId = some d.id ∧ ∃ entryId ∈ d.configEntries, r.configEntryId = some entryId

structure DeviceRemoved (R : Registries) (deviceId : String) (R' : Registries) : Prop where
  rows : ∀ r, r ∈ R'.rows ↔ ∃ r₀ ∈ R.rows,
    (∀ d ∈ R.devices, d.id = deviceId → ¬ GoesWith d r₀) ∧ r = r₀.detached deviceId
  devices : ∀ d, d ∈ R'.devices ↔ d ∈ R.devices ∧ d.id ≠ deviceId

/-- The registry calls of Home Assistant, by what is documented of them, over
whatever state decides which of them raise. -/
structure RegistryCalls (σ : Type) where
  view : σ → Registries
  asyncUpdateEntity : EntityId → EntityId → σ → Except PyError Unit × σ
  asyncRemove : EntityId → σ → Except PyError Unit × σ
  asyncRemoveDevice : String → σ → Except PyError Unit × σ
  validEntityId : EntityId → Prop
  update_ok : ∀ old new s s', asyncUpdateEntity old new s = (.ok (), s') →
    Renamed (view s) old new (view s')
  update_error : ∀ old new s e s', asyncUpdateEntity old new s = (.error e, s') → view s' = view s
  remove_ok : ∀ e s s', asyncRemove e s = (.ok (), s') → Removed (view s) e (view s')
  remove_error : ∀ e s err s', asyncRemove e s = (.error err, s') → view s' = view s
  device_ok : ∀ deviceId s s', asyncRemoveDevice deviceId s = (.ok (), s') →
    DeviceRemoved (view s) deviceId (view s')
  device_error : ∀ deviceId s e s', asyncRemoveDevice deviceId s = (.error e, s') → view s' = view s

structure Willing {σ : Type} (calls : RegistryCalls σ) : Prop where
  update : ∀ old new s, (∃ r ∈ (calls.view s).rows, r.entityId = old) → (calls.view s).Free new →
    old.domain = new.domain → calls.validEntityId new →
      ∃ s', calls.asyncUpdateEntity old new s = (.ok (), s')
  remove : ∀ e s, (∃ r ∈ (calls.view s).rows, r.entityId = e) →
    ∃ s', calls.asyncRemove e s = (.ok (), s')
  removeDevice : ∀ deviceId s, (∃ d ∈ (calls.view s).devices, d.id = deviceId) →
    ∃ s', calls.asyncRemoveDevice deviceId s = (.ok (), s')

section Memory

variable (R : Registries)

@[simp]
theorem renamed_id (old new : EntityId) (r : EntityRow) : (r.renamed old new).id = r.id := by
  rw [EntityRow.renamed]
  split <;> rfl

theorem renamed_uniqueKey {old new : EntityId} (h : old.domain = new.domain) (r : EntityRow) :
    (r.renamed old new).uniqueKey = r.uniqueKey := by
  rw [EntityRow.renamed]
  split
  next he => simp only [RegistryEntry.uniqueKey, ← he, ← h]
  next => rfl

@[simp]
theorem detached_eq (deviceId : String) (r : EntityRow) :
    (r.detached deviceId).entityId = r.entityId ∧ (r.detached deviceId).uniqueKey = r.uniqueKey ∧
      (r.detached deviceId).id = r.id := by
  rw [EntityRow.detached]
  split <;> exact ⟨rfl, rfl, rfl⟩

theorem renamed_nodup {old new : EntityId} (h : R.Free new) :
    ((R.rows.map (EntityRow.renamed old new)).map fun r => r.entityId).Nodup := by
  have hid : ∀ r : EntityRow, (r.renamed old new).entityId = if r.entityId = old then new else r.entityId := by
    intro r
    rw [EntityRow.renamed]
    split <;> rfl
  rw [List.map_map]
  apply List.Nodup.map_on _ (List.Nodup.of_map _ R.entityIds_nodup)
  intro a ha b hb he
  simp only [Function.comp_apply, hid] at he
  split at he <;> split at he
  next hao hbo => exact R.eq_of_entityId ha hb (hao.trans hbo.symm)
  next => exact absurd he.symm (h b hb)
  next => exact absurd he (h a ha)
  next => exact R.eq_of_entityId ha hb he

def updateEntityId (old new : EntityId) : Except PyError Unit × Registries :=
  if h : (∃ r ∈ R.rows, r.entityId = old) ∧ R.Free new ∧ old.domain = new.domain then
    (.ok (), ⟨R.rows.map (EntityRow.renamed old new), R.devices, renamed_nodup R h.2.1, by
      rw [List.map_map]
      exact (List.map_congr_left fun r _ => renamed_uniqueKey h.2.2 r).symm ▸ R.uniqueKeys_nodup, by
      rw [List.map_map]
      exact (List.map_congr_left fun r _ => renamed_id old new r).symm ▸ R.rowIds_nodup,
      R.deviceIds_nodup, R.disjoint⟩)
  else (.error (valueError "Entity is already registered"), R)

def keeping (row : EntityRow → Bool) (device : DeviceRow → Bool) : Registries :=
  ⟨R.rows.filter row, R.devices.filter device, R.entityIds_nodup.sublist (List.filter_sublist.map _),
    R.uniqueKeys_nodup.sublist (List.filter_sublist.map _),
    R.rowIds_nodup.sublist (List.filter_sublist.map _),
    R.deviceIds_nodup.sublist (List.filter_sublist.map _), fun d hd e he =>
      R.disjoint d (List.mem_of_mem_filter hd) e (List.mem_of_mem_filter he)⟩

def detaching (deviceId : String) : Registries :=
  ⟨R.rows.map (EntityRow.detached deviceId), R.devices, by
    rw [List.map_map]
    exact (List.map_congr_left fun r _ => (detached_eq deviceId r).1).symm ▸ R.entityIds_nodup, by
    rw [List.map_map]
    exact (List.map_congr_left fun r _ => (detached_eq deviceId r).2.1).symm ▸ R.uniqueKeys_nodup, by
    rw [List.map_map]
    exact (List.map_congr_left fun r _ => (detached_eq deviceId r).2.2).symm ▸ R.rowIds_nodup,
    R.deviceIds_nodup, R.disjoint⟩

instance (d : DeviceRow) (r : EntityRow) : Decidable (GoesWith d r) :=
  inferInstanceAs (Decidable (_ ∧ ∃ entryId ∈ d.configEntries, _))

def removeRow (e : EntityId) : Except PyError Unit × Registries :=
  if ∃ r ∈ R.rows, r.entityId = e then (.ok (), keeping R (fun r => r.entityId ≠ e) fun _ => true)
  else (.error (otherError "Unknown entity"), R)

def removeDevice (deviceId : String) : Except PyError Unit × Registries :=
  if ∃ d ∈ R.devices, d.id = deviceId then
    (.ok (), detaching (keeping R (fun r => ∀ d ∈ R.devices, d.id = deviceId → ¬ GoesWith d r)
      fun d => d.id ≠ deviceId) deviceId)
  else (.error (otherError "Unknown device"), R)

end Memory

def memoryCalls : RegistryCalls Registries where
  view := id
  asyncUpdateEntity old new R := updateEntityId R old new
  asyncRemove e R := removeRow R e
  asyncRemoveDevice deviceId R := removeDevice R deviceId
  validEntityId _ := True
  update_ok := by
    intro old new R R' h
    rw [updateEntityId] at h
    split at h
    next hn =>
      cases h
      refine ⟨hn.2.1, fun r => ?_, fun _ => Iff.rfl⟩
      rw [id, List.mem_map]
      exact exists_congr fun r₀ => and_congr_right fun _ => eq_comm
    next => cases h
  update_error := by
    intro old new R e R' h
    rw [updateEntityId] at h
    split at h
    · cases h
    · cases h
      rfl
  remove_ok := by
    intro e R R' h
    rw [removeRow] at h
    split at h
    · cases h
      exact ⟨fun r => by simp [keeping], fun d => by simp [keeping]⟩
    · cases h
  remove_error := by
    intro e R err R' h
    rw [removeRow] at h
    split at h
    · cases h
    · cases h
      rfl
  device_ok := by
    intro deviceId R R' h
    rw [removeDevice] at h
    split at h
    · cases h
      refine ⟨fun r => ?_, fun d => by simp [detaching, keeping]⟩
      simp only [id, detaching, keeping, List.mem_map, List.mem_filter, decide_eq_true_eq, and_assoc]
      exact exists_congr fun r₀ => and_congr_right fun _ => and_congr_right fun _ => eq_comm
    · cases h
  device_error := by
    intro deviceId R e R' h
    rw [removeDevice] at h
    split at h
    · cases h
    · cases h
      rfl

theorem memoryCalls_willing : Willing memoryCalls := by
  refine ⟨fun old new R ho hf hd _ => ?_, fun e R he => ?_, fun deviceId R hd => ?_⟩
  · exact ⟨_, dif_pos ⟨ho, hf, hd⟩⟩
  · exact ⟨_, if_pos he⟩
  · exact ⟨_, if_pos hd⟩

end FritzboxVpn.RegistryRows
