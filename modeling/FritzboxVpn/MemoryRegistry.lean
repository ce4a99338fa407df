import FritzboxVpn.HomeAssistant

namespace FritzboxVpn.MemoryRegistry

open Constants Exceptions HomeAssistant KeyedWrites OrderedDict

theorem uniqueKeys_nodup {R : EntityRegistry} {w : EntityId × String}
    (h : ∀ r ∈ R.rows, r.entityId = w.1 → ¬ R.Taken (r.withUniqueId w.2).uniqueKey) :
    ((R.rows.map (rewrite entityKeyed w)).map RegistryEntry.uniqueKey).Nodup := by
  have hrow : ∀ r, r.entityId = w.1 → rewrite entityKeyed w r = r.withUniqueId w.2 :=
    fun r hr => if_pos hr
  have hother : ∀ r, r.entityId ≠ w.1 → rewrite entityKeyed w r = r := fun r hr => if_neg hr
  rw [List.map_map]
  apply List.Nodup.map_on _ (List.Nodup.of_map _ R.entityIds_nodup)
  intro a ha b hb he
  simp only [Function.comp_apply] at he
  by_cases hak : a.entityId = w.1 <;> by_cases hbk : b.entityId = w.1
  · exact EntityRegistry.eq_of_entityId ha hb (hak.trans hbk.symm)
  · rw [hrow a hak, hother b hbk] at he
    exact absurd ⟨b, hb, he.symm⟩ (h a ha hak)
  · rw [hother a hak, hrow b hbk] at he
    exact absurd ⟨a, ha, he⟩ (h b hb hbk)
  · rw [hother a hak, hother b hbk] at he
    exact EntityRegistry.eq_of_uniqueKey ha hb he

theorem map_key_rewrite {ρ ι α : Type} [DecidableEq ι] (K : Keyed ρ ι α) (w : ι × α) (rows : List ρ) :
    (rows.map (rewrite K w)).map K.key = rows.map K.key := by
  rw [List.map_map]
  apply List.map_congr_left
  intro r _
  exact key_rewrite w r

theorem rewrites_map {ρ ι α : Type} [DecidableEq ι] (K : Keyed ρ ι α) (w : ι × α) (rows : List ρ) :
    Rewrites K rows [w] (rows.map (rewrite K w)) := by
  intro r
  rw [List.mem_map]
  exact exists_congr fun r₀ => and_congr_right fun _ => eq_comm

def updateEntity (R : EntityRegistry) (w : EntityId × String) : Except PyError EntityRegistry :=
  if h : ∀ r ∈ R.rows, r.entityId = w.1 → ¬ R.Taken (r.withUniqueId w.2).uniqueKey then
    .ok ⟨R.rows.map (rewrite entityKeyed w),
      (map_key_rewrite entityKeyed w R.rows).symm ▸ R.entityIds_nodup, uniqueKeys_nodup h⟩
  else .error (valueError ("Unique id '" ++ w.2 ++ "' is already in use"))

theorem devices_disjoint {D : DeviceRegistry} {w : String × Finset Identifier}
    (h : ∀ e ∈ D.devices, e.id ≠ w.1 → ∀ i ∈ w.2, i ∉ e.identifiers) :
    ∀ d ∈ D.devices.map (rewrite deviceKeyed w), ∀ e ∈ D.devices.map (rewrite deviceKeyed w),
      ∀ i ∈ d.identifiers, i ∈ e.identifiers → d = e := by
  have hrow : ∀ d, d.id = w.1 → rewrite deviceKeyed w d = d.withIdentifiers w.2 :=
    fun d hd => if_pos hd
  have hother : ∀ d, d.id ≠ w.1 → rewrite deviceKeyed w d = d := fun d hd => if_neg hd
  simp only [List.mem_map]
  rintro _ ⟨a, ha, rfl⟩ _ ⟨b, hb, rfl⟩ i hia hib
  by_cases hak : a.id = w.1 <;> by_cases hbk : b.id = w.1
  · rw [DeviceRegistry.eq_of_id ha hb (hak.trans hbk.symm)]
  · rw [hrow a hak] at hia
    rw [hother b hbk] at hib
    exact absurd hib (h b hb hbk i hia)
  · rw [hother a hak] at hia
    rw [hrow b hbk] at hib
    exact absurd hia (h a ha hak i hib)
  · rw [hother a hak] at hia
    rw [hother b hbk] at hib
    rw [D.disjoint a ha b hb i hia hib]

def updateDevice (D : DeviceRegistry) (w : String × Finset Identifier) :
    Except PyError DeviceRegistry :=
  if h : ∀ e ∈ D.devices, e.id ≠ w.1 → ∀ i ∈ w.2, i ∉ e.identifiers then
    .ok ⟨D.devices.map (rewrite deviceKeyed w),
      (map_key_rewrite deviceKeyed w D.devices).symm ▸ D.ids_nodup, devices_disjoint h⟩
  else .error (otherError "Identifiers of another device")

/-- Registries held in memory, as Home Assistant holds them. -/
def memoryApi : RegistryApi where
  asyncUpdateEntity := updateEntity
  asyncUpdateDevice := updateDevice
  entity_ok := by
    intro R w R' h
    rw [updateEntity] at h
    split at h
    · cases h
      exact rewrites_map entityKeyed w R.rows
    · cases h
  entity_taken := by
    intro R w r hr hk ht
    refine ⟨_, dif_neg ?_⟩
    intro h
    exact h r hr hk ht
  entity_free := by
    intro R w r hr hk hf
    refine ⟨_, dif_pos ?_⟩
    intro r' hr' hk'
    rwa [EntityRegistry.eq_of_entityId hr' hr (hk'.trans hk.symm)]
  device_ok := by
    intro D w D' h
    rw [updateDevice] at h
    split at h
    · cases h
      exact rewrites_map deviceKeyed w D.devices
    · cases h
  device_free := by
    intro D w d _ _ hf
    exact ⟨_, dif_pos hf⟩

def emptyHass : Hass :=
  ⟨⟨[], List.nodup_nil, List.nodup_nil⟩, ⟨[], List.nodup_nil, DeviceRegistry.nil_disjoint⟩, Dict.empty⟩

end FritzboxVpn.MemoryRegistry
