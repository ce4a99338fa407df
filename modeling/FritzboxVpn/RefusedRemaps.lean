import FritzboxVpn.RemapAtomicity

namespace FritzboxVpn.RefusedRemaps

open Constants Exceptions HomeAssistant KeyedWrites OrderedDict RemapAtomicity RemapWrites UidIdentity UidRemap
  UniqueIdCodec

variable {api : RegistryApi} {hass hass' : Hass} {entryId : String} {mapping : Dict String String}

/-- Some of the planned writes have been made, and no others. -/
structure Partly (hass : Hass) (entryId : String) (mapping : Dict String String) (hass' : Hass) : Prop where
  rows : ∀ r' ∈ hass'.entities.rows, r' ∈ hass.entities.rows ∨ ∃ r o n s, PairRow hass entryId o s r ∧
    mapping.get? o = some n ∧ r' = r.withUniqueId (entityUniqueId n s)
  devices : ∀ d' ∈ hass'.devices.devices, d' ∈ hass.devices.devices ∨ ∃ d ∈ hass.devices.devices, ∃ o n,
    mapping.get? o = some n ∧ d' = d.withIdentifiers (movedIdentifiers entryId (o, n) d)

theorem partly_of_wrote {es : List (EntityId × String)} {ds : List (String × Finset Identifier)}
    (hw : Wrote hass es ds hass')
    (hes : es ⊆ allEntityWrites (remapPlan hass entryId mapping) mapping.entries)
    (hds : ds ⊆ allDeviceWrites (remapPlan hass entryId mapping) entryId mapping.entries) :
    Partly hass entryId mapping hass' := by
  refine ⟨?_, ?_⟩
  · intro r' hr'
    obtain ⟨r, hr, rfl⟩ := (hw.entities r').mp hr'
    rcases rewritten_cases (K := entityKeyed) es r with ⟨-, h⟩ | ⟨u, hu, h⟩
    · rw [h]
      exact Or.inl hr
    · obtain ⟨r₁, o, n, s, hp, hk, hn, rfl, -⟩ := mem_entityWrites.mp (hes hu)
      have he : r₁ = r := EntityRegistry.eq_of_entityId hp.mem hr hk
      subst he
      exact Or.inr ⟨r₁, o, n, s, hp, hn, h⟩
  · intro d' hd'
    obtain ⟨d, hd, rfl⟩ := (hw.devices d').mp hd'
    rcases rewritten_cases (K := deviceKeyed) ds d with ⟨-, h⟩ | ⟨ids, hids, h⟩
    · rw [h]
      exact Or.inl hd
    · obtain ⟨d₁, hd₁, hk, o, n, hn, -, rfl, -⟩ := mem_deviceWrites.mp (hds hids)
      have he : d₁ = d := DeviceRegistry.eq_of_id hd₁ hd hk
      subst he
      exact Or.inr ⟨d₁, hd₁, o, n, hn, h⟩

theorem moved_of_before {e : PyError} {before : List (String × String)} {pair : String × String}
    {es : List (EntityId × String)} {ds : List (String × Finset Identifier)}
    (hw : Wrote hass (allEntityWrites (remapPlan hass entryId mapping) before ++ es)
      (allDeviceWrites (remapPlan hass entryId mapping) entryId before ++ ds) hass')
    (hstop : StoppedAt api (remapPlan hass entryId mapping) entryId hass' e mapping.entries before pair es ds)
    (hs : ¬ SharedDevice hass entryId mapping) {o n : String} (hp : (o, n) ∈ before)
    (hb : ¬ Blocked hass entryId mapping o) : Moved hass hass' entryId o n := by
  have hn : mapping.get? o = some n := Dict.mem_entries_iff.mp (hstop.mem_entries hp)
  have hopen : o ∉ (remapPlan hass entryId mapping).conflicted := by rwa [remapPlan_conflicted]
  refine ⟨?_, ?_⟩
  · intro r s hrow
    have hm := hw.entities.mem hrow.mem
    rwa [rewritten_of_unique (K := entityKeyed) (a := entityUniqueId n s)] at hm
    · apply List.mem_append_left
      exact mem_unblockedWrites.mpr ⟨(o, n), hp, hopen, hrow.planned hn hb⟩
    · intro u hu
      obtain ⟨r', o', n', s', hrow', hk, hn', rfl, -⟩ := mem_entityWrites.mp (hstop.entities_subset hu)
      have hr : r' = r := EntityRegistry.eq_of_entityId hrow'.mem hrow.mem hk
      subst hr
      obtain ⟨rfl, rfl⟩ := hrow.uid_eq hrow'
      rw [Option.some.inj (hn.symm.trans hn')]
  · intro d hd hi
    have hm := hw.devices.mem hd
    rwa [rewritten_of_unique (K := deviceKeyed) (a := movedIdentifiers entryId (o, n) d)] at hm
    · apply List.mem_append_left
      exact mem_unblockedWrites.mpr ⟨(o, n), hp, hopen, deviceWrites_planned hd hi hn hb⟩
    · intro ids hids
      obtain ⟨d', hd', hk, o', n', hn', hi', rfl, -⟩ := mem_deviceWrites.mp (hstop.devices_subset hids)
      have he : d' = d := DeviceRegistry.eq_of_id hd' hd hk
      subst he
      have ho : o = o' := by
        by_contra hne
        exact hs ⟨d', hd, o, o', n, n', hne, hn, hn', hi, hi', hb⟩
      subst ho
      rw [Option.some.inj (hn.symm.trans hn')]

theorem refused_run {e : PyError}
    (h : remapConnectionUids api hass entryId mapping = (.error e, hass')) :
    ∃ before pair es ds, Wrote hass (allEntityWrites (remapPlan hass entryId mapping) before ++ es)
        (allDeviceWrites (remapPlan hass entryId mapping) entryId before ++ ds) hass' ∧
      StoppedAt api (remapPlan hass entryId mapping) entryId hass' e mapping.entries before pair es ds := by
  rw [remapConnectionUids] at h
  split at h
  · cases h
  rcases applyPairs_spec api (remapPlan hass entryId mapping) entryId mapping.entries hass
      Dict.empty with ⟨hass₁, hrun, -⟩ | ⟨e', hass₁, before, pair, es, ds, hrun, hw, hstop⟩
  · rw [hrun] at h
    simp only at h
    split at h
    · split at h <;> cases h
    · cases h
  · rw [hrun] at h
    cases h
    exact ⟨before, pair, es, ds, hw, hstop⟩

theorem partly_of_refused {e : PyError}
    (h : remapConnectionUids api hass entryId mapping = (.error e, hass')) :
    Partly hass entryId mapping hass' := by
  obtain ⟨before, pair, es, ds, hw, hstop⟩ := refused_run h
  exact partly_of_wrote hw hstop.entities_subset hstop.devices_subset

/-- A refused remap stops half way: by then one pair has been moved. -/
theorem moved_of_refused {runtime : RuntimeData} {e : PyError} (ren : Renaming mapping)
    (hload : Loaded hass entryId runtime) (hs : ¬ SharedDevice hass entryId mapping)
    (h : remapConnectionUids api hass entryId mapping = (.error e, hass')) :
    ∃ o n, mapping.get? o = some n ∧ Moved hass hass' entryId o n := by
  obtain ⟨before, pair, es, ds, hw, hstop⟩ := refused_run h
  rcases hstop.refused with ⟨w, hown, rest, hl, he⟩ | ⟨w, rest, hl, he⟩
  · obtain ⟨r, o, n, s, r₁, o₁, n₁, s₁, ⟨hp, -, -, rfl⟩, ⟨hp₁, -, hb₁, hdone⟩, hne, -⟩ :=
      refused_target hload.own_platform hl hw.entities he
    have hpair : pair.1 = o := hp.uid_of_planned hown
    -- the row in the way is of another UID, so an earlier pair has put it there
    rcases List.mem_append.mp hdone with hdone | hdone
    · obtain ⟨⟨o', n'⟩, hbefore, -, hplan⟩ := mem_unblockedWrites.mp hdone
      obtain rfl : o' = o₁ := hp₁.uid_of_planned hplan
      have hn' := Dict.mem_entries_iff.mp (hstop.mem_entries hbefore)
      exact ⟨o', n', hn', moved_of_before hw hstop hs hbefore hb₁⟩
    · have hpair₁ : pair.1 = o₁ := hp₁.uid_of_planned (hstop.own_subset hdone)
      exact absurd (hpair₁.symm.trans hpair) hne
  · obtain ⟨D, hD⟩ := device_accepted ren api hl hw.devices
    rw [hD] at he
    cases he

section Moved

variable {o n : String} (h : Moved hass hass' entryId o n) (hne : o ≠ n)

include h hne in
theorem moved_row_gone {r : RegistryEntry} {s : UniqueIdSuffix} (hp : PairRow hass entryId o s r) :
    r ∉ hass'.entities.rows := by
  intro hmem
  have he : r = r.withUniqueId (entityUniqueId n s) :=
    EntityRegistry.eq_of_entityId hmem (h.rows r s hp) rfl
  have hid : r.uniqueId = entityUniqueId n s := congrArg RegistryEntry.uniqueId he
  rw [hp.decodes.eq] at hid
  rcases entityUniqueId_inj.mp hid with ⟨h, -⟩ | ⟨h₁, h₂, -⟩ | ⟨h₁, h₂, -⟩
  · exact hne h
  · rw [h₁] at h₂
    cases h₂
  · rw [h₁] at h₂
    cases h₂

include h hne in
theorem moved_device_gone (hpart : Partly hass entryId mapping hass')
    (hkeys : ∀ o' n', mapping.get? o' = some n' → n' ≠ o) {d : DeviceEntry}
    (hd : d ∈ hass'.devices.devices) : connectionIdentifier entryId o ∉ d.identifiers := by
  have hgone : ∀ d₀ ∈ hass.devices.devices, d₀.id = d.id →
      connectionIdentifier entryId o ∈ d₀.identifiers → connectionIdentifier entryId o ∉ d.identifiers := by
    intro d₀ hd₀ hid hi₀ hi
    have he := DeviceRegistry.eq_of_id (h.device d₀ hd₀ hi₀) hd hid
    rw [← he] at hi
    rcases Finset.mem_insert.mp hi with hi | hi
    · exact hne (connectionIdentifier_inj.mp hi)
    · exact Finset.notMem_erase _ _ hi
  intro hi
  rcases hpart.devices d hd with hd₀ | ⟨d₀, hd₀, o', n', hn', rfl⟩
  · exact hgone d hd₀ rfl hi hi
  · rcases Finset.mem_insert.mp hi with hin | hin
    · exact hkeys o' n' hn' (connectionIdentifier_inj.mp hin).symm
    · exact hgone d₀ hd₀ rfl (Finset.mem_of_mem_erase hin) hi

end Moved

end FritzboxVpn.RefusedRemaps
