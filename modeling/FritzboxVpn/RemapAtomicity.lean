import FritzboxVpn.RemapWrites

namespace FritzboxVpn.RemapAtomicity

open Constants Exceptions HomeAssistant KeyedWrites OrderedDict UidIdentity UniqueIdCodec UidRemap
  RemapWrites

structure Renaming (mapping : Dict String String) : Prop where
  injective : ∀ {o o' n : String}, mapping.get? o = some n → mapping.get? o' = some n → o = o'
  fresh : ∀ {o n : String}, mapping.get? o = some n → mapping.get? n = none

theorem NamesMatch.renaming {reprContainer : JsonValue.Json → String} {oldUids newUids : List String}
    {oldNames : Dict String String} {newPayloads : Dict String JsonValue.Json}
    {mapping : Dict String String}
    (h : NamesMatch reprContainer oldUids newUids oldNames newPayloads mapping) : Renaming mapping := by
  refine ⟨fun ho ho' => h.injective ho ho', ?_⟩
  intro o n hn
  obtain ⟨-, hnew, -⟩ := (h.get?_iff o n).mp hn
  rw [Dict.get?_eq_none_iff, h.keys_eq]
  exact fun hold => h.disjoint n hold hnew

structure PairRow (hass : Hass) (entryId uid : String) (suffix : UniqueIdSuffix)
    (r : RegistryEntry) : Prop where
  mem : r ∈ hass.entities.rows
  own : r.configEntryId = some entryId
  decodes : Decodes r.uniqueId uid suffix

theorem PairRow.uid_eq {hass : Hass} {entryId o o' : String} {s s' : UniqueIdSuffix}
    {r : RegistryEntry} (h : PairRow hass entryId o s r) (h' : PairRow hass entryId o' s' r) :
    o = o' ∧ s = s' :=
  ⟨Option.some.inj (h.decodes.1.symm.trans h'.decodes.1),
    Option.some.inj (h.decodes.2.symm.trans h'.decodes.2)⟩

/-- Two rows that the plan moves to one unique id. The plan does not see it:
only the state before the first write is looked at. -/
def Clash (hass : Hass) (entryId : String) (mapping : Dict String String) : Prop :=
  ∃ r₁ r₂ o₁ o₂ n, PairRow hass entryId o₁ .vpnUid r₁ ∧ PairRow hass entryId o₂ .uid r₂ ∧
    r₁.entityId.domain = r₂.entityId.domain ∧ mapping.get? o₁ = some n ∧
      mapping.get? o₂ = some (n ++ "_vpn") ∧ ¬ Blocked hass entryId mapping o₁ ∧
        ¬ Blocked hass entryId mapping o₂

def SharedDevice (hass : Hass) (entryId : String) (mapping : Dict String String) : Prop :=
  ∃ d ∈ hass.devices.devices, ∃ o₁ o₂ n₁ n₂, o₁ ≠ o₂ ∧ mapping.get? o₁ = some n₁ ∧
    mapping.get? o₂ = some n₂ ∧ connectionIdentifier entryId o₁ ∈ d.identifiers ∧
      connectionIdentifier entryId o₂ ∈ d.identifiers ∧ ¬ Blocked hass entryId mapping o₁

def Present (hass : Hass) (entryId uid : String) : Prop :=
  (∃ r s, PairRow hass entryId uid s r) ∨
    ∃ d ∈ hass.devices.devices, connectionIdentifier entryId uid ∈ d.identifiers

theorem connectionIdentifier_inj {entryId u v : String} :
    connectionIdentifier entryId u = connectionIdentifier entryId v ↔ u = v := by
  simp [connectionIdentifier]

section Writes

variable {api : RegistryApi} {hass : Hass} {entryId : String} {mapping : Dict String String}

theorem rowTarget_iff {r : RegistryEntry} (hr : r ∈ hass.entities.rows)
    (he : r.configEntryId = some entryId) {o u : String} :
    rowTarget mapping r = some (o, u) ↔ ∃ n s, mapping.get? o = some n ∧ PairRow hass entryId o s r ∧
      u = entityUniqueId n s := by
  rw [rowTarget_eq_some]
  constructor
  · rintro ⟨n, s, hn, hd, hu⟩
    exact ⟨n, s, hn, ⟨hr, he, hd⟩, hu⟩
  · rintro ⟨n, s, hn, hp, hu⟩
    exact ⟨n, s, hn, hp.decodes, hu⟩

theorem Blocked.of_row {r : RegistryEntry} {o n : String} {s : UniqueIdSuffix}
    (hp : PairRow hass entryId o s r) (hn : mapping.get? o = some n)
    (ht : RowTaken hass.entities r (entityUniqueId n s)) : Blocked hass entryId mapping o :=
  Or.inl ⟨r, hp.mem, hp.own, _, (rowTarget_iff hp.mem hp.own).mpr ⟨n, s, hn, hp, rfl⟩, ht⟩

theorem PairRow.planned {r : RegistryEntry} {o n : String} {s : UniqueIdSuffix}
    (hp : PairRow hass entryId o s r) (hn : mapping.get? o = some n)
    (hb : ¬ Blocked hass entryId mapping o) :
    (r.entityId, entityUniqueId n s) ∈ (remapPlan hass entryId mapping).entityWrites o := by
  refine List.mem_map.mpr ⟨(r, entityUniqueId n s), ?_, rfl⟩
  rw [mem_remapPlan_entityPlans]
  exact ⟨hp.mem, hp.own, (rowTarget_iff hp.mem hp.own).mpr ⟨n, s, hn, hp, rfl⟩,
    fun ht => hb (Blocked.of_row hp hn ht)⟩

theorem PairRow.uid_of_planned {r : RegistryEntry} {o o' u : String} {s : UniqueIdSuffix}
    (hp : PairRow hass entryId o s r)
    (h : (r.entityId, u) ∈ (remapPlan hass entryId mapping).entityWrites o') : o' = o := by
  obtain ⟨w, hw, he⟩ := List.mem_map.mp h
  obtain ⟨hr, -, ht, -⟩ := (mem_remapPlan_entityPlans hass entryId mapping).mp hw
  have hwr : w.1 = r := EntityRegistry.eq_of_entityId hr hp.mem (Prod.mk.inj he).1
  rw [hwr] at ht
  obtain ⟨n, s', -, hp', -⟩ := (rowTarget_iff hp.mem hp.own).mp ht
  exact (hp'.uid_eq hp).1

theorem mem_entityWrites {k : EntityId} {u : String} :
    (k, u) ∈ allEntityWrites (remapPlan hass entryId mapping) mapping.entries ↔
      ∃ r o n s, PairRow hass entryId o s r ∧ r.entityId = k ∧ mapping.get? o = some n ∧
        u = entityUniqueId n s ∧ ¬ Blocked hass entryId mapping o := by
  rw [allEntityWrites, mem_unblockedWrites]
  simp only [remapPlan_conflicted]
  constructor
  · rintro ⟨p, -, hb, hw⟩
    obtain ⟨w, hplan, hwu⟩ := List.mem_map.mp hw
    obtain ⟨rfl, rfl⟩ := Prod.mk.inj hwu
    obtain ⟨hr, he, ht, -⟩ := (mem_remapPlan_entityPlans hass entryId mapping).mp hplan
    obtain ⟨n, s, hn, hp, hu⟩ := (rowTarget_iff hr he).mp ht
    exact ⟨w.1, p.1, n, s, hp, rfl, hn, hu, hb⟩
  · rintro ⟨r, o, n, s, hp, rfl, hn, rfl, hb⟩
    exact ⟨(o, n), Dict.mem_entries_iff.mpr hn, hb, hp.planned hn hb⟩

theorem entityWrites_nodup (hass : Hass) (entryId : String) (mapping : Dict String String) :
    ((allEntityWrites (remapPlan hass entryId mapping) mapping.entries).map Prod.fst).Nodup := by
  rw [allEntityWrites, unblockedWrites, List.map_flatMap, List.nodup_flatMap]
  constructor
  · intro p _
    split
    · exact List.nodup_nil
    · exact remapPlan_entityWrites_nodup hass entryId mapping p.1
  · have hk : List.Pairwise (fun p q : String × String => p.1 ≠ q.1) mapping.entries :=
      List.pairwise_map.mp mapping.nodup
    apply hk.imp
    intro p q hpq k hkp hkq
    have hplan : ∀ (p : String × String) (k : EntityId), k ∈ (if p.1 ∈ (remapPlan hass entryId
        mapping).conflicted then [] else (remapPlan hass entryId mapping).entityWrites p.1).map
        Prod.fst → ∃ r ∈ hass.entities.rows, r.entityId = k ∧ ∃ u, rowTarget mapping r = some (p.1, u) := by
      intro p k h
      split at h
      · exact absurd h List.not_mem_nil
      · obtain ⟨w, hw, rfl⟩ := List.mem_map.mp h
        obtain ⟨v, hv, rfl⟩ := List.mem_map.mp hw
        obtain ⟨hr, -, ht, -⟩ := (mem_remapPlan_entityPlans hass entryId mapping).mp hv
        exact ⟨v.1, hr, rfl, v.2, ht⟩
    obtain ⟨r, hr, hrk, u, hu⟩ := hplan p k hkp
    obtain ⟨r', hr', hrk', u', hu'⟩ := hplan q k hkq
    have he : r = r' := EntityRegistry.eq_of_entityId hr hr' (hrk.trans hrk'.symm)
    subst he
    rw [hu, Option.some.injEq, Prod.mk.injEq] at hu'
    exact hpq hu'.1

theorem deviceWrites_planned {d : DeviceEntry} {o n : String} (hd : d ∈ hass.devices.devices)
    (hi : connectionIdentifier entryId o ∈ d.identifiers) (hn : mapping.get? o = some n)
    (hb : ¬ Blocked hass entryId mapping o) :
    (d.id, movedIdentifiers entryId (o, n) d) ∈
      (remapPlan hass entryId mapping).deviceWrites entryId (o, n) := by
  have hp := Dict.mem_entries_iff.mpr hn
  refine List.mem_map.mpr ⟨d, Option.mem_toList.mpr ?_, rfl⟩
  refine (remapPlan_plannedDevices hass entryId mapping hp d).mpr ⟨hd, hi, ?_⟩
  intro d' hd' hi'
  by_contra hne
  exact hb (Or.inr ⟨n, hn, d, hd, hi, d', hd', hi', hne⟩)

theorem mem_deviceWrites {k : String} {ids : Finset Identifier} :
    (k, ids) ∈ allDeviceWrites (remapPlan hass entryId mapping) entryId mapping.entries ↔
      ∃ d ∈ hass.devices.devices, d.id = k ∧ ∃ o n, mapping.get? o = some n ∧
        connectionIdentifier entryId o ∈ d.identifiers ∧ ids = movedIdentifiers entryId (o, n) d ∧
          ¬ Blocked hass entryId mapping o := by
  rw [allDeviceWrites, mem_unblockedWrites]
  simp only [remapPlan_conflicted]
  constructor
  · rintro ⟨p, hp, hb, hw⟩
    obtain ⟨d, hd, hwd⟩ := List.mem_map.mp hw
    obtain ⟨rfl, rfl⟩ := Prod.mk.inj hwd
    obtain ⟨hm, hi, -⟩ := (remapPlan_plannedDevices hass entryId mapping hp d).mp
      (Option.mem_toList.mp hd)
    exact ⟨d, hm, rfl, p.1, p.2, Dict.mem_entries_iff.mp hp, hi, rfl, hb⟩
  · rintro ⟨d, hm, rfl, o, n, hn, hi, rfl, hb⟩
    exact ⟨(o, n), Dict.mem_entries_iff.mpr hn, hb, deviceWrites_planned hm hi hn hb⟩

variable (own : ∀ r ∈ hass.entities.rows, r.configEntryId = some entryId → r.platform = domain)
  (ren : Renaming mapping)

include own in
theorem PairRow.uniqueKey_eq {r : RegistryEntry} {o : String} {s : UniqueIdSuffix}
    (h : PairRow hass entryId o s r) :
    r.uniqueKey = (r.entityId.domain, domain, entityUniqueId o s) := by
  rw [RegistryEntry.uniqueKey, own r h.mem h.own, h.decodes.eq]

include own in
theorem PairRow.withUniqueId_key {r : RegistryEntry} {o : String} {s : UniqueIdSuffix}
    (h : PairRow hass entryId o s r) (u : String) :
    (r.withUniqueId u).uniqueKey = (r.entityId.domain, domain, u) := by
  rw [RegistryEntry.withUniqueId, RegistryEntry.uniqueKey, own r h.mem h.own]

include own in
/-- A refused entity write meets a row that an earlier write has put there, one of
another UID. -/
theorem refused_target {done rest : List (EntityId × String)} {w : EntityId × String}
    {R' : HomeAssistant.EntityRegistry} {e : PyError}
    (hl : allEntityWrites (remapPlan hass entryId mapping) mapping.entries = done ++ w :: rest)
    (hw : Rewrites entityKeyed hass.entities.rows done R'.rows)
    (he : api.asyncUpdateEntity R' w = .error e) :
    ∃ r o n s r₁ o₁ n₁ s₁, (PairRow hass entryId o s r ∧ mapping.get? o = some n ∧
        ¬ Blocked hass entryId mapping o ∧ w = (r.entityId, entityUniqueId n s)) ∧
      (PairRow hass entryId o₁ s₁ r₁ ∧ mapping.get? o₁ = some n₁ ∧
        ¬ Blocked hass entryId mapping o₁ ∧ (r₁.entityId, entityUniqueId n₁ s₁) ∈ done) ∧
      o₁ ≠ o ∧ r₁.entityId.domain = r.entityId.domain ∧
        entityUniqueId n₁ s₁ = entityUniqueId n s ∧
          r₁.withUniqueId (entityUniqueId n₁ s₁) ∈ R'.rows := by
  have hnd := entityWrites_nodup hass entryId mapping
  rw [hl, List.map_append, List.map_cons, List.nodup_append] at hnd
  obtain ⟨k, u⟩ := w
  obtain ⟨r, o, n, s, hp, rfl, hn, rfl, hb⟩ := mem_entityWrites.mp
    (by rw [hl]; exact List.mem_append_right _ List.mem_cons_self :
      (k, u) ∈ allEntityWrites (remapPlan hass entryId mapping) mapping.entries)
  have hdone : ∀ a, (r.entityId, a) ∉ done := fun a ha =>
    hnd.2.2 r.entityId (List.mem_map_of_mem (f := Prod.fst) ha) r.entityId List.mem_cons_self rfl
  have hr : r ∈ R'.rows := by
    have hm := hw.mem hp.mem
    rwa [rewritten_of_notMem (by exact hdone)] at hm
  have ht : R'.Taken (r.withUniqueId (entityUniqueId n s)).uniqueKey := by
    by_contra hf
    obtain ⟨R'', hok⟩ := api.entity_free R' (r.entityId, entityUniqueId n s) r hr rfl hf
    rw [hok] at he
    cases he
  rw [hp.withUniqueId_key own] at ht
  obtain ⟨r', hr', hkey⟩ := ht
  obtain ⟨r₀, hr₀, rfl⟩ := (hw r').mp hr'
  rcases rewritten_cases (K := entityKeyed) done r₀ with ⟨-, h₀⟩ | ⟨u₀, hu₀, h₀⟩
  · rw [h₀] at hkey
    exact absurd (Blocked.of_row hp hn ⟨r₀, hr₀, hkey⟩) hb
  · obtain ⟨r₁, o₁, n₁, s₁, hp₁, hk₁, hn₁, rfl, hb₁⟩ := mem_entityWrites.mp
      (by rw [hl]; exact List.mem_append_left _ hu₀ :
        (r₀.entityId, u₀) ∈ allEntityWrites (remapPlan hass entryId mapping) mapping.entries)
    have hr₁ : r₁ = r₀ := EntityRegistry.eq_of_entityId hp₁.mem hr₀ hk₁
    subst hr₁
    have hset : entityKeyed.set (entityUniqueId n₁ s₁) r₁ = r₁.withUniqueId (entityUniqueId n₁ s₁) := rfl
    rw [h₀, hset, hp₁.withUniqueId_key own, Prod.mk.injEq, Prod.mk.injEq] at hkey
    obtain ⟨hdom, -, huu⟩ := hkey
    refine ⟨r, o, n, s, r₁, o₁, n₁, s₁, ⟨hp, hn, hb, rfl⟩, ⟨hp₁, hn₁, hb₁, hu₀⟩, ?_, hdom, huu, ?_⟩
    · rintro rfl
      obtain rfl : n₁ = n := Option.some.inj (hn₁.symm.trans hn)
      -- one UID and one unique id: it would be the same row, written twice
      have hss : s₁ = s := by
        rcases entityUniqueId_inj.mp huu with ⟨-, h⟩ | ⟨-, -, h⟩ | ⟨-, -, h⟩
        · exact h
        · exact absurd (congrArg String.length h) (by simp [String.length_append])
        · exact absurd (congrArg String.length h) (by simp [String.length_append])
      subst hss
      have hrr : r₁ = r := by
        apply EntityRegistry.eq_of_uniqueKey hp₁.mem hp.mem
        rw [hp₁.uniqueKey_eq own, hp.uniqueKey_eq own, hdom]
      subst hrr
      exact hdone _ hu₀
    · rw [← hset, ← h₀]
      exact hr'

include own ren in
/-- A refused entity write comes from a clash, and by then another row has
already been moved. -/
theorem entity_refused {done rest : List (EntityId × String)} {w : EntityId × String}
    {R' : HomeAssistant.EntityRegistry} {e : PyError}
    (hl : allEntityWrites (remapPlan hass entryId mapping) mapping.entries = done ++ w :: rest)
    (hw : Rewrites entityKeyed hass.entities.rows done R'.rows)
    (he : api.asyncUpdateEntity R' w = .error e) :
    Clash hass entryId mapping ∧ ∃ r o n s, PairRow hass entryId o s r ∧ mapping.get? o = some n ∧
      r.withUniqueId (entityUniqueId n s) ∈ R'.rows := by
  obtain ⟨r, o, n, s, r₁, o₁, n₁, s₁, ⟨hp, hn, hb, -⟩, ⟨hp₁, hn₁, hb₁, -⟩, hne, hdom, huu, hm⟩ :=
    refused_target own hl hw he
  refine ⟨?_, r₁, o₁, n₁, s₁, hp₁, hn₁, hm⟩
  rcases entityUniqueId_inj.mp huu with ⟨rfl, -⟩ | ⟨rfl, rfl, hx⟩ | ⟨rfl, rfl, hx⟩
  · exact absurd (ren.injective hn₁ hn) hne
  · exact ⟨r₁, r, o₁, o, n₁, hp₁, hp, hdom, hn₁, hx ▸ hn, hb₁, hb⟩
  · exact ⟨r, r₁, o, o₁, n, hp, hp₁, hdom.symm, hn, hx ▸ hn₁, hb, hb₁⟩

include own in
/-- Two rows cannot both reach one unique id. -/
theorem not_clash_of_written {R' : HomeAssistant.EntityRegistry}
    (hw : Rewrites entityKeyed hass.entities.rows
      (allEntityWrites (remapPlan hass entryId mapping) mapping.entries) R'.rows) :
    ¬ Clash hass entryId mapping := by
  have hmoved : ∀ {r o n s}, PairRow hass entryId o s r → mapping.get? o = some n →
      ¬ Blocked hass entryId mapping o → r.withUniqueId (entityUniqueId n s) ∈ R'.rows := by
    intro r o n s hp hn hb
    have hm := hw.mem hp.mem
    rwa [rewritten_of_unique (K := entityKeyed) (a := entityUniqueId n s)] at hm
    · exact mem_entityWrites.mpr ⟨r, o, n, s, hp, rfl, hn, rfl, hb⟩
    · intro u hu
      obtain ⟨r', o', n', s', hp', hk', hn', rfl, -⟩ := mem_entityWrites.mp hu
      have hr : r' = r := EntityRegistry.eq_of_entityId hp'.mem hp.mem hk'
      subst hr
      obtain ⟨rfl, rfl⟩ := hp.uid_eq hp'
      rw [Option.some.inj (hn.symm.trans hn')]
  rintro ⟨r₁, r₂, o₁, o₂, n, hp₁, hp₂, hdom, hn₁, hn₂, hb₁, hb₂⟩
  have hkey : (r₁.withUniqueId (entityUniqueId n .vpnUid)).uniqueKey =
      (r₂.withUniqueId (entityUniqueId (n ++ "_vpn") .uid)).uniqueKey := by
    rw [hp₁.withUniqueId_key own, hp₂.withUniqueId_key own, hdom,
      entityUniqueId_inj.mpr (Or.inr (Or.inl ⟨rfl, rfl, rfl⟩) :
        (n = n ++ "_vpn" ∧ UniqueIdSuffix.vpnUid = .uid) ∨ _)]
  have he := EntityRegistry.eq_of_uniqueKey (hmoved hp₁ hn₁ hb₁) (hmoved hp₂ hn₂ hb₂) hkey
  have hid := congrArg RegistryEntry.entityId he
  have hr : r₁ = r₂ := EntityRegistry.eq_of_entityId hp₁.mem hp₂.mem hid
  subst hr
  have hs := (hp₁.uid_eq hp₂).2
  cases hs

include ren in
/-- Device writes are never refused: a device's identifiers are its own, and
the planning pass has looked for the new one. -/
theorem device_accepted (api : RegistryApi) {done rest : List (String × Finset Identifier)}
    {w : String × Finset Identifier} {D' : DeviceRegistry}
    (hl : allDeviceWrites (remapPlan hass entryId mapping) entryId mapping.entries =
      done ++ w :: rest)
    (hw : Rewrites deviceKeyed hass.devices.devices done D'.devices) :
    ∃ D'', api.asyncUpdateDevice D' w = .ok D'' := by
  obtain ⟨k, ids⟩ := w
  obtain ⟨d, hd, hk, o, n, hn, hi, rfl, hb⟩ := mem_deviceWrites.mp
    (by rw [hl]; exact List.mem_append_right _ List.mem_cons_self :
      (k, ids) ∈ allDeviceWrites (remapPlan hass entryId mapping) entryId mapping.entries)
  have hkey : ∀ e, (rewritten deviceKeyed done e).id = e.id := key_rewritten (K := deviceKeyed) done
  apply api.device_free D' _ (rewritten deviceKeyed done d) (hw.mem hd) ((hkey d).trans hk)
  intro e he hne i hid hie
  obtain ⟨e₀, he₀, rfl⟩ := (hw e).mp he
  have hne₀ : e₀ ≠ d := by
    rintro rfl
    exact hne ((hkey e₀).trans hk)
  have hsame : ∀ j, j ∈ e₀.identifiers → j ∉ d.identifiers := fun j h h' =>
    hne₀ (hass.devices.disjoint e₀ he₀ d hd j h h')
  have hnew : connectionIdentifier entryId n ∉ e₀.identifiers := fun h =>
    hb (Or.inr ⟨n, hn, d, hd, hi, e₀, he₀, h, hne₀⟩)
  rw [movedIdentifiers, Finset.mem_insert, Finset.mem_erase] at hid
  rcases rewritten_cases (K := deviceKeyed) done e₀ with ⟨-, h₀⟩ | ⟨ids, hids, h₀⟩
  · rw [h₀] at hie
    rcases hid with rfl | ⟨-, hid⟩
    · exact hnew hie
    · exact hsame i hie hid
  · obtain ⟨e₁, he₁, hk₁, o₁, n₁, hn₁, hi₁, rfl, hb₁⟩ := mem_deviceWrites.mp
      (by rw [hl]; exact List.mem_append_left _ hids :
        (e₀.id, ids) ∈ allDeviceWrites (remapPlan hass entryId mapping) entryId mapping.entries)
    have hee : e₁ = e₀ := DeviceRegistry.eq_of_id he₁ he₀ hk₁
    subst hee
    have hie' : i ∈ movedIdentifiers entryId (o₁, n₁) e₁ := by rwa [h₀] at hie
    rw [movedIdentifiers, Finset.mem_insert, Finset.mem_erase] at hie'
    rcases hid with rfl | ⟨-, hid⟩ <;> rcases hie' with hie' | ⟨-, hie'⟩
    · have hnn : n = n₁ := connectionIdentifier_inj.mp hie'
      subst hnn
      have ho : o = o₁ := ren.injective hn hn₁
      subst ho
      exact hsame _ hi₁ hi
    · exact hnew hie'
    · subst hie'
      exact hb₁ (Or.inr ⟨n₁, hn₁, e₁, he₁, hi₁, d, hd, hid, hne₀.symm⟩)
    · exact hsame i hie' hid

theorem skips_iff_blocked {o n : String} (hn : mapping.get? o = some n) :
    (remapPlan hass entryId mapping).skips o = false ↔
      ¬ Blocked hass entryId mapping o ∧ Present hass entryId o := by
  rw [← Bool.not_eq_true, skips_iff, remapPlan_conflicted, not_or]
  apply and_congr_right
  intro hb
  have hrows : (remapPlan hass entryId mapping).entityPlans o = [] ↔
      ¬ ∃ r s, PairRow hass entryId o s r := by
    rw [List.eq_nil_iff_forall_not_mem]
    simp only [mem_remapPlan_entityPlans]
    constructor
    · rintro h ⟨r, s, hp⟩
      exact h (r, entityUniqueId n s) ⟨hp.mem, hp.own,
        (rowTarget_iff hp.mem hp.own).mpr ⟨n, s, hn, hp, rfl⟩, fun ht => hb (Blocked.of_row hp hn ht)⟩
    · rintro h w ⟨hr, he, ht, -⟩
      obtain ⟨n', s, -, hp, -⟩ := (rowTarget_iff hr he).mp ht
      exact h ⟨w.1, s, hp⟩
  have hdev : (remapPlan hass entryId mapping).plannedDevices.get? o = none ↔
      ¬ ∃ d ∈ hass.devices.devices, connectionIdentifier entryId o ∈ d.identifiers := by
    have hp := Dict.mem_entries_iff.mpr hn
    rw [Option.eq_none_iff_forall_ne_some]
    simp only [ne_eq, remapPlan_plannedDevices hass entryId mapping hp, DeviceMovable]
    constructor
    · rintro h ⟨d, hd, hi⟩
      refine h d ⟨hd, hi, fun d' hd' hi' => ?_⟩
      by_contra hne
      exact hb (Or.inr ⟨n, hn, d, hd, hi, d', hd', hi', hne⟩)
    · rintro h d ⟨hd, hi, -⟩
      exact h ⟨d, hd, hi⟩
  rw [hrows, hdev, Present, ← not_or, not_not]

structure Applied (hass : Hass) (entryId : String) (runtime : RuntimeData)
    (mapping applied : Dict String String) (hass' : Hass) : Prop where
  entities : Rewrites entityKeyed hass.entities.rows
    (allEntityWrites (remapPlan hass entryId mapping) mapping.entries) hass'.entities.rows
  devices : Rewrites deviceKeyed hass.devices.devices
    (allDeviceWrites (remapPlan hass entryId mapping) entryId mapping.entries) hass'.devices.devices
  get?_iff : ∀ o n, applied.get? o = some n ↔
    mapping.get? o = some n ∧ ¬ Blocked hass entryId mapping o ∧ Present hass entryId o
  runtime_eq : runtimeFromHass hass' entryId = some (runtime.remapKnownUids applied)

/-- Whatever the registries hold, only pairs of the mapping are returned. -/
theorem remap_ok_subset {api : RegistryApi} {applied : Dict String String} {hass' : Hass}
    (h : remapConnectionUids api hass entryId mapping = (.ok applied, hass')) {o n : String}
    (hn : applied.get? o = some n) : mapping.get? o = some n := by
  rw [remapConnectionUids] at h
  split at h
  · cases h
    simp at hn
  · rcases applyPairs_spec api (remapPlan hass entryId mapping) entryId mapping.entries hass
        Dict.empty with ⟨hass₁, hp, -⟩ | ⟨e, hass₁, before, pair, es, ds, hp, -⟩
    · rw [hp] at h
      have happ : Dict.ofList (mapping.entries.filter fun p =>
          !(remapPlan hass entryId mapping).skips p.1) = applied := by
        simp only at h
        split at h
        · split at h <;> exact (Except.ok.inj (Prod.mk.inj h).1)
        · exact (Except.ok.inj (Prod.mk.inj h).1)
      rw [← happ, Dict.get?_ofList] at hn
      · exact Dict.mem_entries_iff.mp (List.mem_of_mem_filter hn)
      · intro p hp q hq
        exact Dict.snd_eq (List.mem_of_mem_filter hp) (List.mem_of_mem_filter hq)
    · rw [hp] at h
      cases h

variable {runtime : RuntimeData}

include ren in
theorem remap_result (api : RegistryApi) (hload : Loaded hass entryId runtime) :
    (¬ Clash hass entryId mapping ∧ ∃ applied hass',
        remapConnectionUids api hass entryId mapping = (.ok applied, hass') ∧
          Applied hass entryId runtime mapping applied hass') ∨
      (Clash hass entryId mapping ∧ ∃ e hass',
        remapConnectionUids api hass entryId mapping = (.error e, hass') ∧
          runtimeFromHass hass' entryId = some runtime ∧
            ∃ r o n s, PairRow hass entryId o s r ∧ mapping.get? o = some n ∧
              r.withUniqueId (entityUniqueId n s) ∈ hass'.entities.rows) := by
  have hrun : ∀ hass' : Hass, hass'.configEntries = hass.configEntries →
      runtimeFromHass hass' entryId = some runtime := by
    intro hass' hc
    rw [runtimeFromHass, hc]
    exact hload.runtime_eq
  have hget : ∀ o n, (Dict.ofList (mapping.entries.filter fun p =>
      !(remapPlan hass entryId mapping).skips p.1)).get? o = some n ↔
        mapping.get? o = some n ∧ ¬ Blocked hass entryId mapping o ∧ Present hass entryId o := by
    intro o n
    rw [Dict.get?_ofList, List.mem_filter, Dict.mem_entries_iff, Bool.not_eq_true']
    · exact and_congr_right fun hn => skips_iff_blocked hn
    · intro p hp q hq
      exact Dict.snd_eq (List.mem_of_mem_filter hp) (List.mem_of_mem_filter hq)
  by_cases hempty : mapping.isEmpty = true
  · have hnil : mapping.entries = [] := List.isEmpty_iff.mp hempty
    have hnone : ∀ o n, mapping.get? o ≠ some n := by
      intro o n h
      rw [← Dict.mem_entries_iff, hnil] at h
      exact List.not_mem_nil h
    left
    refine ⟨?_, Dict.empty, hass, ?_, ?_, ?_, ?_, ?_⟩
    · rintro ⟨_, _, o, _, n, _, _, _, hn, _⟩
      exact hnone o n hn
    · rw [remapConnectionUids, if_pos hempty]
    · rw [hnil]; exact Rewrites.refl _
    · rw [hnil]; exact Rewrites.refl _
    · intro o n
      simp [hnone o n]
    · exact hrun hass rfl
  · rw [remapConnectionUids, if_neg hempty]
    rcases applyPairs_spec api (remapPlan hass entryId mapping) entryId mapping.entries hass
        Dict.empty with
      ⟨hass', h, hw⟩ | ⟨e, hass', before, pair, es, ds, h, hw, hstop⟩
    · left
      refine ⟨not_clash_of_written hload.own_platform hw.entities, ?_⟩
      rw [h]
      simp only [hrun hass' hw.configEntries]
      split
      next hnil =>
        refine ⟨_, _, rfl, hw.entities, hw.devices, hget, ?_⟩
        have hn := List.isEmpty_iff.mp hnil
        rw [hrun hass' hw.configEntries, RuntimeData.remapKnownUids, hn]
        rfl
      next =>
        exact ⟨_, _, rfl, hw.entities, hw.devices, hget, runtimeFromHass_withRuntime _ _ _⟩
    · rcases hstop.refused with ⟨w, -, rest, hl, he⟩ | ⟨w, rest, hl, he⟩
      · right
        rw [h]
        obtain ⟨hc, hm⟩ := entity_refused hload.own_platform ren hl hw.entities he
        exact ⟨hc, e, hass', rfl, hrun hass' hw.configEntries, hm⟩
      · obtain ⟨D, hD⟩ := device_accepted ren api hl hw.devices
        rw [hD] at he
        cases he

end Writes

variable {hass hass' : Hass} {entryId : String} {mapping applied : Dict String String}
  {runtime : RuntimeData}

theorem Applied.row_moved (h : Applied hass entryId runtime mapping applied hass')
    {r : RegistryEntry} {o n : String} {s : UniqueIdSuffix} (hp : PairRow hass entryId o s r)
    (hn : mapping.get? o = some n) (hb : ¬ Blocked hass entryId mapping o) :
    r.withUniqueId (entityUniqueId n s) ∈ hass'.entities.rows := by
  have hm := h.entities.mem hp.mem
  rwa [rewritten_of_unique (K := entityKeyed) (a := entityUniqueId n s)] at hm
  · exact mem_entityWrites.mpr ⟨r, o, n, s, hp, rfl, hn, rfl, hb⟩
  · intro u hu
    obtain ⟨r', o', n', s', hp', hk', hn', rfl, -⟩ := mem_entityWrites.mp hu
    have hr : r' = r := EntityRegistry.eq_of_entityId hp'.mem hp.mem hk'
    subst hr
    obtain ⟨rfl, rfl⟩ := hp.uid_eq hp'
    rw [Option.some.inj (hn.symm.trans hn')]

theorem Applied.row_kept (h : Applied hass entryId runtime mapping applied hass')
    {r : RegistryEntry} (hr : r ∈ hass.entities.rows)
    (hb : ∀ o n s, PairRow hass entryId o s r → mapping.get? o = some n →
      Blocked hass entryId mapping o) : r ∈ hass'.entities.rows := by
  have hm := h.entities.mem hr
  rwa [rewritten_of_notMem] at hm
  intro u hu
  obtain ⟨r', o, n, s, hp, hk, hn, -, hnb⟩ := mem_entityWrites.mp hu
  have he : r' = r := EntityRegistry.eq_of_entityId hp.mem hr hk
  subst he
  exact hnb (hb o n s hp hn)

theorem Applied.device_kept (h : Applied hass entryId runtime mapping applied hass')
    {d : DeviceEntry} (hd : d ∈ hass.devices.devices)
    (hb : ∀ o n, mapping.get? o = some n → connectionIdentifier entryId o ∈ d.identifiers →
      Blocked hass entryId mapping o) : d ∈ hass'.devices.devices := by
  have hm := h.devices.mem hd
  rwa [rewritten_of_notMem] at hm
  intro ids hids
  obtain ⟨d', hd', hk, o, n, hn, hi, -, hnb⟩ := mem_deviceWrites.mp hids
  have he : d' = d := DeviceRegistry.eq_of_id hd' hd hk
  subst he
  exact hnb (hb o n hn hi)

theorem Applied.device_moved (h : Applied hass entryId runtime mapping applied hass')
    (hs : ¬ SharedDevice hass entryId mapping) {d : DeviceEntry} (hd : d ∈ hass.devices.devices)
    {o n : String} (hi : connectionIdentifier entryId o ∈ d.identifiers)
    (hn : mapping.get? o = some n) (hb : ¬ Blocked hass entryId mapping o) :
    d.withIdentifiers (movedIdentifiers entryId (o, n) d) ∈ hass'.devices.devices := by
  have hm := h.devices.mem hd
  rwa [rewritten_of_unique (K := deviceKeyed) (a := movedIdentifiers entryId (o, n) d)] at hm
  · exact mem_deviceWrites.mpr ⟨d, hd, rfl, o, n, hn, hi, rfl, hb⟩
  · intro ids hids
    obtain ⟨d', hd', hk, o', n', hn', hi', rfl, -⟩ := mem_deviceWrites.mp hids
    have he : d' = d := DeviceRegistry.eq_of_id hd' hd hk
    subst he
    have ho : o = o' := by
      by_contra hne
      exact hs ⟨d', hd, o, o', n, n', hne, hn, hn', hi, hi', hb⟩
    subst ho
    rw [Option.some.inj (hn.symm.trans hn')]

theorem Applied.mem_known (h : Applied hass entryId runtime mapping applied hass')
    (ren : Renaming mapping) (platform : RuntimePlatform) (uid : String) :
    uid ∈ (runtime.remapKnownUids applied).platformTracking platform ↔
      (uid ∈ runtime.platformTracking platform ∧ ∀ n, applied.get? uid ≠ some n) ∨
        ∃ o ∈ runtime.platformTracking platform, applied.get? o = some uid := by
  have hd : ∀ p ∈ applied.entries, p.2 ∉ applied.entries.map Prod.fst := by
    rintro ⟨o, n⟩ hp hk
    have hn := ((h.get?_iff o n).mp (Dict.mem_entries_iff.mp hp)).1
    obtain ⟨n', hn'⟩ := Dict.mem_keys_iff.mp hk
    have hnn := ((h.get?_iff n n').mp hn').1
    rw [ren.fresh hn] at hnn
    cases hnn
  rw [RuntimeData.platformTracking_remapKnownUids, mem_remapKnown applied.nodup hd]
  have hkey : uid ∉ applied.entries.map Prod.fst ↔ ∀ n, applied.get? uid ≠ some n := by
    rw [← Dict.mem_keys, Dict.mem_keys_iff, not_exists]
  rw [hkey]
  apply or_congr_right
  constructor
  · rintro ⟨⟨o, n⟩, hp, ho, rfl⟩
    exact ⟨o, ho, Dict.mem_entries_iff.mp hp⟩
  · rintro ⟨o, ho, hp⟩
    exact ⟨(o, uid), Dict.mem_entries_iff.mpr hp, ho, rfl⟩

def Returned (result : Except PyError (Dict String String)) (o n : String) : Prop :=
  ∃ applied, result = .ok applied ∧ applied.get? o = some n

structure Moved (hass hass' : Hass) (entryId o n : String) : Prop where
  rows : ∀ r s, PairRow hass entryId o s r →
    r.withUniqueId (entityUniqueId n s) ∈ hass'.entities.rows
  device : ∀ d ∈ hass.devices.devices, connectionIdentifier entryId o ∈ d.identifiers →
    d.withIdentifiers (movedIdentifiers entryId (o, n) d) ∈ hass'.devices.devices

structure Kept (hass hass' : Hass) (entryId o : String) : Prop where
  rows : ∀ r s, PairRow hass entryId o s r → r ∈ hass'.entities.rows
  device : ∀ d ∈ hass.devices.devices, connectionIdentifier entryId o ∈ d.identifiers →
    d ∈ hass'.devices.devices

/-- Every pair is either moved as a whole and returned, or left alone. -/
structure AllOrNothing (hass : Hass) (entryId : String) (runtime : RuntimeData)
    (mapping : Dict String String) (result : Except PyError (Dict String String)) (hass' : Hass) :
    Prop where
  pair : ∀ o n, mapping.get? o = some n → (Moved hass hass' entryId o n ∧ Returned result o n) ∨
    (Kept hass hass' entryId o ∧ ∀ n', ¬ Returned result o n')
  returned : ∀ o n, Returned result o n → mapping.get? o = some n
  other_rows : ∀ r ∈ hass.entities.rows,
    (∀ o n s, mapping.get? o = some n → ¬ PairRow hass entryId o s r) → r ∈ hass'.entities.rows
  other_devices : ∀ d ∈ hass.devices.devices,
    (∀ o n, mapping.get? o = some n → connectionIdentifier entryId o ∉ d.identifiers) →
      d ∈ hass'.devices.devices
  no_new_row : ∀ r' ∈ hass'.entities.rows, ∃ r ∈ hass.entities.rows, r'.entityId = r.entityId
  no_new_device : ∀ d' ∈ hass'.devices.devices, ∃ d ∈ hass.devices.devices, d'.id = d.id
  unique : (hass'.entities.rows.map RegistryEntry.uniqueKey).Nodup
  known : ∃ runtime', runtimeFromHass hass' entryId = some runtime' ∧ ∀ platform uid,
    uid ∈ runtime'.platformTracking platform ↔
      (uid ∈ runtime.platformTracking platform ∧ ∀ n, ¬ Returned result uid n) ∨
        ∃ o ∈ runtime.platformTracking platform, Returned result o uid

@[simp]
theorem returned_ok {o n : String} : Returned (.ok applied) o n ↔ applied.get? o = some n := by
  simp [Returned]

@[simp]
theorem not_returned_error {e : PyError} {o n : String} : ¬ Returned (.error e) o n := by
  simp [Returned]

theorem Applied.allOrNothing (h : Applied hass entryId runtime mapping applied hass')
    (ren : Renaming mapping) (hs : ¬ SharedDevice hass entryId mapping) :
    AllOrNothing hass entryId runtime mapping (.ok applied) hass' := by
  refine ⟨?_, ?_, ?_, ?_, ?_, ?_, hass'.entities.uniqueKeys_nodup, ?_⟩
  · intro o n hn
    simp only [returned_ok, h.get?_iff, hn, Option.some.injEq]
    by_cases hb : Blocked hass entryId mapping o
    · right
      refine ⟨⟨?_, ?_⟩, fun n' hn' => hn'.2.1 hb⟩
      · intro r s hp
        apply h.row_kept hp.mem
        intro o' n' s' hp' _
        rwa [(hp'.uid_eq hp).1]
      · intro d hd hi
        apply h.device_kept hd
        intro o' n' hn' hi'
        by_contra hb'
        apply hs
        refine ⟨d, hd, o', o, n', n, ?_, hn', hn, hi', hi, hb'⟩
        rintro rfl
        exact hb' hb
    · by_cases hpres : Present hass entryId o
      · left
        exact ⟨⟨fun r s hp => h.row_moved hp hn hb, fun d hd hi => h.device_moved hs hd hi hn hb⟩,
          trivial, hb, hpres⟩
      · right
        refine ⟨⟨fun r s hp => ?_, fun d hd hi => ?_⟩, fun n' hn' => hpres hn'.2.2⟩
        · exact absurd (Or.inl ⟨r, s, hp⟩) hpres
        · exact absurd (Or.inr ⟨d, hd, hi⟩) hpres
  · intro o n hr
    exact ((h.get?_iff o n).mp (returned_ok.mp hr)).1
  · intro r hr hno
    exact h.row_kept hr fun o n s hp hn => absurd hp (hno o n s hn)
  · intro d hd hno
    exact h.device_kept hd fun o n hn hi => absurd hi (hno o n hn)
  · intro r' hr'
    obtain ⟨r, hr, rfl⟩ := (h.entities r').mp hr'
    exact ⟨r, hr, key_rewritten (K := entityKeyed) _ r⟩
  · intro d' hd'
    obtain ⟨d, hd, rfl⟩ := (h.devices d').mp hd'
    exact ⟨d, hd, key_rewritten (K := deviceKeyed) _ d⟩
  · exact ⟨_, h.runtime_eq, fun platform uid => by
      simpa only [returned_ok] using h.mem_known ren platform uid⟩

theorem not_mem_of_moved (ren : Renaming mapping) {r : RegistryEntry} {o n : String}
    {s : UniqueIdSuffix} (hp : PairRow hass entryId o s r) (hn : mapping.get? o = some n)
    (hm : r.withUniqueId (entityUniqueId n s) ∈ hass'.entities.rows) : r ∉ hass'.entities.rows := by
  intro hr
  have he : r.withUniqueId (entityUniqueId n s) = r := EntityRegistry.eq_of_entityId hm hr rfl
  have hu : entityUniqueId n s = entityUniqueId o s :=
    (congrArg RegistryEntry.uniqueId he).trans hp.decodes.eq
  have hno : n = o := by
    rcases entityUniqueId_inj.mp hu with ⟨h, -⟩ | ⟨h1, h2, -⟩ | ⟨h1, h2, -⟩
    · exact h
    · rw [h1] at h2; cases h2
    · rw [h1] at h2; cases h2
  have hf := ren.fresh hn
  rw [hno, hn] at hf
  cases hf

theorem not_allOrNothing_of_error (ren : Renaming mapping) {e : PyError} {r : RegistryEntry}
    {o n : String} {s : UniqueIdSuffix} (hp : PairRow hass entryId o s r)
    (hn : mapping.get? o = some n)
    (hm : r.withUniqueId (entityUniqueId n s) ∈ hass'.entities.rows) :
    ¬ AllOrNothing hass entryId runtime mapping (.error e) hass' := by
  intro h
  rcases h.pair o n hn with ⟨-, hr⟩ | ⟨hk, -⟩
  · exact not_returned_error hr
  · exact not_mem_of_moved ren hp hn hm (hk.rows r s hp)

theorem Applied.not_allOrNothing (h : Applied hass entryId runtime mapping applied hass')
    (ren : Renaming mapping) (hs : SharedDevice hass entryId mapping) :
    ¬ AllOrNothing hass entryId runtime mapping (.ok applied) hass' := by
  intro ha
  obtain ⟨d, hd, o₁, o₂, n₁, n₂, hne, hn₁, hn₂, hi₁, hi₂, hb⟩ := hs
  have hret : applied.get? o₁ = some n₁ := (h.get?_iff o₁ n₁).mpr ⟨hn₁, hb, Or.inr ⟨d, hd, hi₁⟩⟩
  have hm₁ : d.withIdentifiers (movedIdentifiers entryId (o₁, n₁) d) ∈ hass'.devices.devices := by
    rcases ha.pair o₁ n₁ hn₁ with ⟨hm, -⟩ | ⟨-, hnot⟩
    · exact hm.device d hd hi₁
    · exact absurd (returned_ok.mpr hret) (hnot n₁)
  have hgone : connectionIdentifier entryId o₁ ∉ movedIdentifiers entryId (o₁, n₁) d := by
    have hno : o₁ ≠ n₁ := by
      rintro rfl
      have hf := ren.fresh hn₁
      rw [hn₁] at hf
      cases hf
    simp [movedIdentifiers, connectionIdentifier_inj, hno]
  rcases ha.pair o₂ n₂ hn₂ with ⟨hm, -⟩ | ⟨hk, -⟩
  · have he := DeviceRegistry.eq_of_id hm₁ (hm.device d hd hi₂) rfl
    have hids : movedIdentifiers entryId (o₁, n₁) d = movedIdentifiers entryId (o₂, n₂) d :=
      congrArg DeviceEntry.identifiers he
    apply hgone
    rw [hids, movedIdentifiers, Finset.mem_insert, Finset.mem_erase]
    exact Or.inr ⟨fun h => hne (connectionIdentifier_inj.mp h), hi₁⟩
  · have he := DeviceRegistry.eq_of_id hm₁ (hk.device d hd hi₂) rfl
    have hids : movedIdentifiers entryId (o₁, n₁) d = d.identifiers :=
      congrArg DeviceEntry.identifiers he
    rw [hids] at hgone
    exact hgone hi₁

end FritzboxVpn.RemapAtomicity
