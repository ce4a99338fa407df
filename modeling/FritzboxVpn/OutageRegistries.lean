import FritzboxVpn.OutageRemap
import FritzboxVpn.RefusedRemaps

namespace FritzboxVpn.OutageRegistries

open Constants HomeAssistant OrderedDict OutageRemap RefusedRemaps RemapAtomicity UidIdentity UidRemap
  UniqueIdCodec

structure Grows (hass hass' : Hass) : Prop where
  rows : ∀ r ∈ hass.entities.rows, r ∈ hass'.entities.rows
  devices : ∀ d ∈ hass.devices.devices, d ∈ hass'.devices.devices

structure GrowsAside (entryId : String) (hass hass' : Hass) : Prop extends Grows hass hass' where
  ownRows : ∀ r ∈ hass'.entities.rows, r.platform = domain → r ∈ hass.entities.rows
  ownDevices : ∀ d ∈ hass'.devices.devices, ∀ u, connectionIdentifier entryId u ∈ d.identifiers →
    d ∈ hass.devices.devices

variable {entryId : String} {hass hass' hass'' origin : Hass}

theorem Grows.refl (hass : Hass) : Grows hass hass := ⟨fun _ h => h, fun _ h => h⟩

theorem Grows.trans (h : Grows hass hass') (h' : Grows hass' hass'') : Grows hass hass'' :=
  ⟨fun r hr => h'.rows r (h.rows r hr), fun d hd => h'.devices d (h.devices d hd)⟩

theorem GrowsAside.refl (entryId : String) (hass : Hass) : GrowsAside entryId hass hass :=
  ⟨Grows.refl hass, fun _ h _ => h, fun _ h _ _ => h⟩

theorem GrowsAside.trans (h : GrowsAside entryId hass hass') (h' : GrowsAside entryId hass' hass'') :
    GrowsAside entryId hass hass'' := by
  refine ⟨h.toGrows.trans h'.toGrows, ?_, ?_⟩
  · exact fun r hr hown => h.ownRows r (h'.ownRows r hr hown) hown
  · exact fun d hd u hi => h.ownDevices d (h'.ownDevices d hd u hi) u hi

theorem hasEntities_grows {uid : String} (h : HasEntities hass entryId uid) (hg : Grows hass hass') :
    HasEntities hass' entryId uid := by
  refine ⟨?_, ?_⟩
  · intro s
    obtain ⟨r, hr, hrest⟩ := h.rows s
    exact ⟨r, hg.rows r hr, hrest⟩
  · obtain ⟨d, hd, hrest⟩ := h.device
    exact ⟨d, hg.devices d hd, hrest⟩

theorem absentFrom_aside {uid : String} (h : AbsentFrom hass entryId uid)
    (hg : GrowsAside entryId hass hass') : AbsentFrom hass' entryId uid :=
  ⟨fun r hr hown s => h.rows r (hg.ownRows r hr hown) hown s,
    fun d hd hi => h.devices d (hg.ownDevices d hd uid hi) hi⟩

theorem decodes_other {n o : String} {s s' : UniqueIdSuffix} (h : Decodes (entityUniqueId n s') o s)
    (hne : n ≠ o) : s' = .uid ∧ s = .vpnUid := by
  rcases entityUniqueId_inj.mp h.eq with ⟨he, -⟩ | ⟨rfl, rfl, rfl⟩ | ⟨h₁, h₂, -⟩
  · exact absurd he hne
  · have hd := decodes_entityUniqueId n .vpnUid (by simp)
    have hs := hd.2.symm.trans h.2
    cases hs
  · exact ⟨h₁, h₂⟩

/-- A row of the entry as the remaps of one outage leave it: as it was, or at the unique
id of a new UID, the uid ids taken by uid rows of old UIDs. -/
def Traced (old : Finset String) (origin : Hass) (r : RegistryEntry) : Prop :=
  r ∈ origin.entities.rows ∨ ∃ r₀ ∈ origin.entities.rows, ∃ m s, m ∉ old ∧
    r = r₀.withUniqueId (entityUniqueId m s) ∧ (s = .uid → ∃ o ∈ old, Decodes r₀.uniqueId o .uid)

variable {old : Finset String} {r : RegistryEntry} {mapping : Dict String String} {o n : String}

/-- A uid row of an old UID has never been moved. -/
theorem Traced.original (h : Traced old origin r) (hd : Decodes r.uniqueId o .uid) (ho : o ∈ old) :
    r ∈ origin.entities.rows := by
  rcases h with h | ⟨r₀, -, m, s, hm, rfl, -⟩
  · exact h
  · obtain ⟨-, hs⟩ := decodes_other hd fun he => hm (he ▸ ho)
    cases hs

theorem Traced.moved (h : Traced old origin r) {s : UniqueIdSuffix} (hd : Decodes r.uniqueId o s)
    (ho : o ∈ old) (hn : n ∉ old) : Traced old origin (r.withUniqueId (entityUniqueId n s)) := by
  by_cases hs : s = .uid
  · subst hs
    exact Or.inr ⟨r, h.original hd ho, n, .uid, hn, rfl, fun _ => ⟨o, ho, hd⟩⟩
  · rcases h with h | ⟨r₀, hr₀, m, s', -, rfl, -⟩
    · exact Or.inr ⟨r, h, n, s, hn, rfl, fun he => absurd he hs⟩
    · exact Or.inr ⟨r₀, hr₀, n, s, hn, rfl, fun he => absurd he hs⟩

/-- What a refused remap leaves for the rest of the outage: one old UID has lost its
device and its rows, but for a uid row that has got the id of its vpn_uid row. -/
structure Left (entryId : String) (old : Finset String) (origin hass : Hass) (o : String) : Prop where
  old_mem : o ∈ old
  traced : ∀ r ∈ hass.entities.rows, r.configEntryId = some entryId → Traced old origin r
  stray : ∀ r ∈ hass.entities.rows, r.configEntryId = some entryId → ∀ s, Decodes r.uniqueId o s →
    s = .vpnUid ∧ ∃ r₀ ∈ origin.entities.rows, r₀.configEntryId = some entryId ∧
      r₀.entityId = r.entityId ∧ ∃ o' ∈ old, Decodes r₀.uniqueId o' .uid
  device : ∀ d ∈ hass.devices.devices, connectionIdentifier entryId o ∉ d.identifiers

structure FromOld (old : Finset String) (mapping : Dict String String) : Prop where
  keys : ∀ {o n : String}, mapping.get? o = some n → o ∈ old
  values : ∀ {o n : String}, mapping.get? o = some n → n ∉ old

/-- A row that a remap has moved onto an id of an old UID. -/
theorem stray_of_moved (hm : FromOld old mapping) (ho : o ∈ old) {o' n' : String} {s s' : UniqueIdSuffix}
    (hn' : mapping.get? o' = some n') (hp : PairRow hass entryId o' s' r)
    (htraced : Traced old origin r) (hd : Decodes (entityUniqueId n' s') o s) :
    s = .vpnUid ∧ ∃ r₀ ∈ origin.entities.rows, r₀.configEntryId = some entryId ∧
      r₀.entityId = r.entityId ∧ ∃ o' ∈ old, Decodes r₀.uniqueId o' .uid := by
  obtain ⟨rfl, rfl⟩ := decodes_other hd fun he => hm.values hn' (he ▸ ho)
  exact ⟨rfl, r, htraced.original hp.decodes (hm.keys hn'), hp.own, rfl, o', hm.keys hn', hp.decodes⟩

theorem Left.start {runtime : RuntimeData} (hload : Loaded hass entryId runtime)
    (hg : GrowsAside entryId origin hass) (hm : FromOld old mapping)
    (hpart : Partly hass entryId mapping hass') (hon : mapping.get? o = some n)
    (hmoved : Moved hass hass' entryId o n) : Left entryId old origin hass' o := by
  have ho := hm.keys hon
  have hne : o ≠ n := fun he => hm.values hon (he ▸ ho)
  have horigin : ∀ r ∈ hass.entities.rows, r.configEntryId = some entryId → Traced old origin r :=
    fun r hr hown => Or.inl (hg.ownRows r hr (hload.own_platform r hr hown))
  refine ⟨ho, ?_, ?_, ?_⟩
  · intro r hr hown
    rcases hpart.rows r hr with hr₀ | ⟨r₀, o', n', s, hp, hn', rfl⟩
    · exact horigin r hr₀ hown
    · exact (horigin r₀ hp.mem hp.own).moved hp.decodes (hm.keys hn') (hm.values hn')
  · intro r hr hown s hd
    rcases hpart.rows r hr with hr₀ | ⟨r₀, o', n', s', hp, hn', rfl⟩
    · exact absurd hr (moved_row_gone hmoved hne ⟨hr₀, hown, hd⟩)
    · exact stray_of_moved (r := r₀) hm ho hn' hp (horigin r₀ hp.mem hp.own) hd
  · intro d hd
    exact moved_device_gone hmoved hne hpart (fun o' n' hn' he => hm.values hn' (he ▸ ho)) hd

/-- Further refused remaps change nothing about it. -/
theorem Left.partly (h : Left entryId old origin hass o) (hm : FromOld old mapping)
    (hpart : Partly hass entryId mapping hass') : Left entryId old origin hass' o := by
  refine ⟨h.old_mem, ?_, ?_, ?_⟩
  · intro r hr hown
    rcases hpart.rows r hr with hr₀ | ⟨r₀, o', n', s, hp, hn', rfl⟩
    · exact h.traced r hr₀ hown
    · exact (h.traced r₀ hp.mem hp.own).moved hp.decodes (hm.keys hn') (hm.values hn')
  · intro r hr hown s hd
    rcases hpart.rows r hr with hr₀ | ⟨r₀, o', n', s', hp, hn', rfl⟩
    · exact h.stray r hr₀ hown s hd
    · exact stray_of_moved (r := r₀) hm h.old_mem hn' hp (h.traced r₀ hp.mem hp.own) hd
  · intro d hd hi
    rcases hpart.devices d hd with hd₀ | ⟨d₀, hd₀, o', n', hn', rfl⟩
    · exact h.device d hd₀ hi
    · rcases Finset.mem_insert.mp hi with hin | hin
      · obtain rfl : o = n' := connectionIdentifier_inj.mp hin
        exact hm.values hn' h.old_mem
      · exact h.device d₀ hd₀ (Finset.mem_of_mem_erase hin)

theorem Left.aside {runtime : RuntimeData} (h : Left entryId old origin hass o)
    (hg : GrowsAside entryId hass hass') (hload : Loaded hass' entryId runtime) :
    Left entryId old origin hass' o := by
  have hback : ∀ r ∈ hass'.entities.rows, r.configEntryId = some entryId → r ∈ hass.entities.rows :=
    fun r hr hown => hg.ownRows r hr (hload.own_platform r hr hown)
  refine ⟨h.old_mem, ?_, ?_, ?_⟩
  · exact fun r hr hown => h.traced r (hback r hr hown) hown
  · exact fun r hr hown => h.stray r (hback r hr hown) hown
  · exact fun d hd hi => h.device d (hg.ownDevices d hd o hi) hi

end FritzboxVpn.OutageRegistries
