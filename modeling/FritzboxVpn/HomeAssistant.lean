import FritzboxVpn.Constants
import FritzboxVpn.Exceptions
import FritzboxVpn.KeyedWrites
import FritzboxVpn.OrderedDict

namespace FritzboxVpn.HomeAssistant

open Constants Exceptions KeyedWrites OrderedDict

structure EntityId where
  domain : String
  objectId : String
deriving DecidableEq

structure RegistryEntry where
  entityId : EntityId
  uniqueId : String
  platform : String
  configEntryId : Option String
deriving DecidableEq

def RegistryEntry.uniqueKey (r : RegistryEntry) : String × String × String :=
  (r.entityId.domain, r.platform, r.uniqueId)

def RegistryEntry.withUniqueId (u : String) (r : RegistryEntry) : RegistryEntry :=
  { r with uniqueId := u }

structure EntityRegistry where
  rows : List RegistryEntry
  entityIds_nodup : (rows.map RegistryEntry.entityId).Nodup
  uniqueKeys_nodup : (rows.map RegistryEntry.uniqueKey).Nodup

abbrev Identifier := List String

structure DeviceEntry where
  id : String
  identifiers : Finset Identifier
deriving DecidableEq

def DeviceEntry.withIdentifiers (ids : Finset Identifier) (d : DeviceEntry) : DeviceEntry :=
  { d with identifiers := ids }

structure DeviceRegistry where
  devices : List DeviceEntry
  ids_nodup : (devices.map DeviceEntry.id).Nodup
  disjoint : ∀ d ∈ devices, ∀ e ∈ devices, ∀ i ∈ d.identifiers, i ∈ e.identifiers → d = e

theorem DeviceRegistry.nil_disjoint : ∀ d ∈ ([] : List DeviceEntry), ∀ e ∈ ([] : List DeviceEntry),
    ∀ i ∈ d.identifiers, i ∈ e.identifiers → d = e :=
  fun _ hd => absurd hd List.not_mem_nil

def entityKeyed : Keyed RegistryEntry EntityId String :=
  ⟨RegistryEntry.entityId, RegistryEntry.withUniqueId, fun _ _ => rfl, fun _ _ _ => rfl⟩

def deviceKeyed : Keyed DeviceEntry String (Finset Identifier) :=
  ⟨DeviceEntry.id, DeviceEntry.withIdentifiers, fun _ _ => rfl, fun _ _ _ => rfl⟩

namespace EntityRegistry

def asyncEntriesForConfigEntry (R : EntityRegistry) (entryId : String) : List RegistryEntry :=
  R.rows.filter fun r => r.configEntryId = some entryId

def asyncGetEntityId (R : EntityRegistry) (domain platform uniqueId : String) : Option EntityId :=
  (R.rows.find? fun r => r.uniqueKey = (domain, platform, uniqueId)).map RegistryEntry.entityId

def Taken (R : EntityRegistry) (key : String × String × String) : Prop :=
  ∃ r ∈ R.rows, r.uniqueKey = key

instance (R : EntityRegistry) (key : String × String × String) : Decidable (R.Taken key) :=
  inferInstanceAs (Decidable (∃ r ∈ R.rows, r.uniqueKey = key))

theorem asyncGetEntityId_isSome {R : EntityRegistry} {domain platform uniqueId : String} :
    (R.asyncGetEntityId domain platform uniqueId).isSome = true ↔
      R.Taken (domain, platform, uniqueId) := by
  rw [asyncGetEntityId, Option.isSome_map, List.find?_isSome, Taken]
  simp only [decide_eq_true_eq]

theorem eq_of_entityId {R : EntityRegistry} {r r' : RegistryEntry} (h : r ∈ R.rows) (h' : r' ∈ R.rows)
    (he : r.entityId = r'.entityId) : r = r' :=
  List.inj_on_of_nodup_map R.entityIds_nodup h h' he

theorem eq_of_uniqueKey {R : EntityRegistry} {r r' : RegistryEntry} (h : r ∈ R.rows)
    (h' : r' ∈ R.rows) (he : r.uniqueKey = r'.uniqueKey) : r = r' :=
  List.inj_on_of_nodup_map R.uniqueKeys_nodup h h' he

end EntityRegistry

namespace DeviceRegistry

def asyncGetDevice (D : DeviceRegistry) (identifier : Identifier) : Option DeviceEntry :=
  D.devices.find? fun d => identifier ∈ d.identifiers

theorem asyncGetDevice_iff {D : DeviceRegistry} {i : Identifier} {d : DeviceEntry} :
    D.asyncGetDevice i = some d ↔ d ∈ D.devices ∧ i ∈ d.identifiers := by
  constructor
  · intro h
    exact ⟨List.mem_of_find?_eq_some h, by simpa using List.find?_some h⟩
  · rintro ⟨hd, hi⟩
    have hs : (D.asyncGetDevice i).isSome = true :=
      List.find?_isSome.mpr ⟨d, hd, decide_eq_true hi⟩
    obtain ⟨e, he⟩ := Option.isSome_iff_exists.mp hs
    have hm : e ∈ D.devices := List.mem_of_find?_eq_some he
    have hie : i ∈ e.identifiers := by simpa using List.find?_some he
    rw [he, D.disjoint d hd e hm i hi hie]

theorem eq_of_id {D : DeviceRegistry} {d e : DeviceEntry} (h : d ∈ D.devices) (h' : e ∈ D.devices)
    (he : d.id = e.id) : d = e :=
  List.inj_on_of_nodup_map D.ids_nodup h h' he

end DeviceRegistry

/-- The two registry writes of Home Assistant, by what is documented of them:
an update to a unique id in use is rejected, an update that collides with
nothing changes the addressed record and no other. -/
structure RegistryApi where
  asyncUpdateEntity : EntityRegistry → EntityId × String → Except PyError EntityRegistry
  asyncUpdateDevice : DeviceRegistry → String × Finset Identifier → Except PyError DeviceRegistry
  entity_ok : ∀ R w R', asyncUpdateEntity R w = .ok R' → Rewrites entityKeyed R.rows [w] R'.rows
  entity_taken : ∀ R w, ∀ r ∈ R.rows, r.entityId = w.1 →
    R.Taken (r.withUniqueId w.2).uniqueKey → ∃ e, asyncUpdateEntity R w = .error e
  entity_free : ∀ R w, ∀ r ∈ R.rows, r.entityId = w.1 →
    ¬ R.Taken (r.withUniqueId w.2).uniqueKey → ∃ R', asyncUpdateEntity R w = .ok R'
  device_ok : ∀ D w D', asyncUpdateDevice D w = .ok D' →
    Rewrites deviceKeyed D.devices [w] D'.devices
  device_free : ∀ D w, ∀ d ∈ D.devices, d.id = w.1 →
    (∀ e ∈ D.devices, e.id ≠ w.1 → ∀ i ∈ w.2, i ∉ e.identifiers) →
      ∃ D', asyncUpdateDevice D w = .ok D'

inductive RuntimePlatform
  | switch
  | sensor
  | binarySensor
deriving DecidableEq

/-- The tracked UIDs of a loaded entry, one set a platform. -/
structure RuntimeData where
  knownUidsSwitch : Finset String
  knownUidsSensor : Finset String
  knownUidsBinarySensor : Finset String
deriving DecidableEq

def RuntimeData.platformTracking (d : RuntimeData) : RuntimePlatform → Finset String
  | .switch => d.knownUidsSwitch
  | .sensor => d.knownUidsSensor
  | .binarySensor => d.knownUidsBinarySensor

def RuntimeData.addKnownUids (d : RuntimeData) (uids : Finset String) : RuntimePlatform → RuntimeData
  | .switch => { d with knownUidsSwitch := d.knownUidsSwitch ∪ uids }
  | .sensor => { d with knownUidsSensor := d.knownUidsSensor ∪ uids }
  | .binarySensor => { d with knownUidsBinarySensor := d.knownUidsBinarySensor ∪ uids }

def RuntimeData.clearKnownUids (d : RuntimeData) (uids : Finset String) : RuntimeData :=
  ⟨d.knownUidsSwitch \ uids, d.knownUidsSensor \ uids, d.knownUidsBinarySensor \ uids⟩

def remapKnownUid (known : Finset String) (p : String × String) : Finset String :=
  if p.1 ∈ known then insert p.2 (known.erase p.1) else known

def remapKnown (known : Finset String) (oldToNew : List (String × String)) : Finset String :=
  oldToNew.foldl remapKnownUid known

def RuntimeData.remapKnownUids (d : RuntimeData) (oldToNew : Dict String String) : RuntimeData :=
  ⟨remapKnown d.knownUidsSwitch oldToNew.entries, remapKnown d.knownUidsSensor oldToNew.entries,
    remapKnown d.knownUidsBinarySensor oldToNew.entries⟩

inductive ConfigEntryState
  | notLoaded
  | setupError
  | setupRetry
  | loaded
  | failedUnload
deriving DecidableEq

structure ConfigEntry where
  state : ConfigEntryState
  runtimeData : Option RuntimeData

structure Hass where
  entities : EntityRegistry
  devices : DeviceRegistry
  configEntries : Dict String ConfigEntry

def runtimeFromHass (hass : Hass) (entryId : String) : Option RuntimeData :=
  match hass.configEntries.get? entryId with
  | none => none
  | some entry => if entry.state = .loaded then entry.runtimeData else none

@[simp]
theorem RuntimeData.platformTracking_addKnownUids (d : RuntimeData) (uids : Finset String)
    (platform : RuntimePlatform) :
    (d.addKnownUids uids platform).platformTracking platform = d.platformTracking platform ∪ uids := by
  cases platform <;> rfl

@[simp]
theorem RuntimeData.platformTracking_clearKnownUids (d : RuntimeData) (uids : Finset String)
    (platform : RuntimePlatform) :
    (d.clearKnownUids uids).platformTracking platform = d.platformTracking platform \ uids := by
  cases platform <;> rfl

@[simp]
theorem RuntimeData.platformTracking_remapKnownUids (d : RuntimeData) (oldToNew : Dict String String)
    (platform : RuntimePlatform) : (d.remapKnownUids oldToNew).platformTracking platform =
      remapKnown (d.platformTracking platform) oldToNew.entries := by
  cases platform <;> rfl

/-- The runtime object of an entry is shared: a change made to it is seen
wherever the entry is looked up. -/
def Hass.withRuntime (hass : Hass) (entryId : String) (runtime : RuntimeData) : Hass :=
  { hass with configEntries :=
      hass.configEntries.insert entryId ⟨.loaded, some runtime⟩ }

/-- A loaded entry of the integration. The rows that belong to it were made by
the integration's own platforms. -/
structure Loaded (hass : Hass) (entryId : String) (runtime : RuntimeData) : Prop where
  runtime_eq : runtimeFromHass hass entryId = some runtime
  own_platform : ∀ r ∈ hass.entities.rows, r.configEntryId = some entryId → r.platform = domain

@[simp]
theorem runtimeFromHass_withRuntime (hass : Hass) (entryId : String) (runtime : RuntimeData) :
    runtimeFromHass (hass.withRuntime entryId runtime) entryId = some runtime := by
  simp [runtimeFromHass, Hass.withRuntime]

theorem mem_remapKnownUid (known : Finset String) (p : String × String) (uid : String) :
    uid ∈ remapKnownUid known p ↔ (uid ∈ known ∧ uid ≠ p.1) ∨ (p.1 ∈ known ∧ p.2 = uid) := by
  rw [remapKnownUid]
  split
  next h =>
    rw [Finset.mem_insert, Finset.mem_erase]
    constructor
    · rintro (rfl | ⟨hne, hu⟩)
      · exact Or.inr ⟨h, rfl⟩
      · exact Or.inl ⟨hu, hne⟩
    · rintro (⟨hu, hne⟩ | ⟨-, rfl⟩)
      · exact Or.inr ⟨hne, hu⟩
      · exact Or.inl rfl
  next h =>
    have hne : uid ∈ known → uid ≠ p.1 := fun hu he => h (he ▸ hu)
    exact ⟨fun hu => Or.inl ⟨hu, hne hu⟩, fun hu => hu.elim And.left fun hp => absurd hp.1 h⟩

/-- Where no new UID is an old one, the loop renames all of them at once. -/
theorem mem_remapKnown {l : List (String × String)} (hn : (l.map Prod.fst).Nodup)
    (hd : ∀ p ∈ l, p.2 ∉ l.map Prod.fst) (known : Finset String) (uid : String) :
    uid ∈ remapKnown known l ↔
      (uid ∈ known ∧ uid ∉ l.map Prod.fst) ∨ ∃ p ∈ l, p.1 ∈ known ∧ p.2 = uid := by
  induction l generalizing known with
  | nil => simp [remapKnown]
  | cons p l ih =>
      rw [List.map_cons, List.nodup_cons] at hn
      have ht : ∀ q ∈ l, q.2 ∉ l.map Prod.fst := fun q hq h =>
        hd q (List.mem_cons_of_mem _ hq) (List.mem_cons_of_mem _ h)
      have hnew : p.2 ≠ p.1 ∧ p.2 ∉ l.map Prod.fst := by
        have h := hd p List.mem_cons_self
        rw [List.map_cons, List.mem_cons, not_or] at h
        exact h
      have hq : ∀ q ∈ l, (q.1 ∈ remapKnownUid known p ↔ q.1 ∈ known) := by
        intro q hq
        have hm := List.mem_map_of_mem (f := Prod.fst) hq
        have h1 : q.1 ≠ p.1 := fun he => hn.1 (he ▸ hm)
        have h2 : p.2 ≠ q.1 := fun he => hnew.2 (he ▸ hm)
        simp [mem_remapKnownUid, h1, h2]
      have he : (∃ q ∈ l, q.1 ∈ remapKnownUid known p ∧ q.2 = uid) ↔
          ∃ q ∈ l, q.1 ∈ known ∧ q.2 = uid :=
        exists_congr fun q => and_congr_right fun hm => and_congr_left fun _ => hq q hm
      change uid ∈ remapKnown (remapKnownUid known p) l ↔ _
      rw [ih hn.2 ht, he, mem_remapKnownUid, List.map_cons, List.mem_cons, not_or,
        List.exists_mem_cons_iff]
      constructor
      · rintro (⟨⟨hu, hne⟩ | hp, hl⟩ | h)
        · exact Or.inl ⟨hu, hne, hl⟩
        · exact Or.inr (Or.inl hp)
        · exact Or.inr (Or.inr h)
      · rintro (⟨hu, hne, hl⟩ | ⟨hp, rfl⟩ | h)
        · exact Or.inl ⟨Or.inl ⟨hu, hne⟩, hl⟩
        · exact Or.inl ⟨Or.inr ⟨hp, rfl⟩, hnew.2⟩
        · exact Or.inr h

end FritzboxVpn.HomeAssistant
