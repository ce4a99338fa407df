import FritzboxVpn.UidRemap

namespace FritzboxVpn.RemapWrites

open Constants Exceptions HomeAssistant KeyedWrites OrderedDict UidIdentity UniqueIdCodec UidRemap

structure Wrote (hass : Hass) (es : List (EntityId × String))
    (ds : List (String × Finset Identifier)) (hass' : Hass) : Prop where
  entities : Rewrites entityKeyed hass.entities.rows es hass'.entities.rows
  devices : Rewrites deviceKeyed hass.devices.devices ds hass'.devices.devices
  configEntries : hass'.configEntries = hass.configEntries

theorem Wrote.refl (hass : Hass) : Wrote hass [] [] hass :=
  ⟨Rewrites.refl _, Rewrites.refl _, rfl⟩

theorem Wrote.trans {hass hass' hass'' : Hass} {es es' : List (EntityId × String)}
    {ds ds' : List (String × Finset Identifier)} (h : Wrote hass es ds hass')
    (h' : Wrote hass' es' ds' hass'') : Wrote hass (es ++ es') (ds ++ ds') hass'' :=
  ⟨h.entities.trans h'.entities, h.devices.trans h'.devices,
    h'.configEntries.trans h.configEntries⟩

/-- A write of the two lists was refused, after the given parts of them; the second list
is begun when the first is done. -/
def Stopped (api : RegistryApi) (hass : Hass) (e : PyError) (es done : List (EntityId × String))
    (ds doneDevices : List (String × Finset Identifier)) : Prop :=
  (doneDevices = [] ∧ ∃ w rest, es = done ++ w :: rest ∧ api.asyncUpdateEntity hass.entities w = .error e) ∨
    (done = es ∧
      ∃ w rest, ds = doneDevices ++ w :: rest ∧ api.asyncUpdateDevice hass.devices w = .error e)

def unblockedWrites {α : Type} (plan : RemapPlan) (writes : String × String → List α)
    (pairs : List (String × String)) : List α :=
  pairs.flatMap fun p => if p.1 ∈ plan.conflicted then [] else writes p

def allEntityWrites (plan : RemapPlan) (pairs : List (String × String)) : List (EntityId × String) :=
  unblockedWrites plan (fun p => plan.entityWrites p.1) pairs

def allDeviceWrites (plan : RemapPlan) (entryId : String) (pairs : List (String × String)) :
    List (String × Finset Identifier) :=
  unblockedWrites plan (plan.deviceWrites entryId) pairs

theorem mem_unblockedWrites {α : Type} {plan : RemapPlan} {writes : String × String → List α}
    {pairs : List (String × String)} {w : α} :
    w ∈ unblockedWrites plan writes pairs ↔ ∃ p ∈ pairs, p.1 ∉ plan.conflicted ∧ w ∈ writes p := by
  rw [unblockedWrites, List.mem_flatMap]
  apply exists_congr
  intro p
  by_cases h : p.1 ∈ plan.conflicted <;> simp [h]

variable (api : RegistryApi) (plan : RemapPlan) (entryId : String)

structure StoppedAt (hass : Hass) (e : PyError) (pairs before : List (String × String))
    (pair : String × String) (es : List (EntityId × String)) (ds : List (String × Finset Identifier)) :
    Prop where
  pairs : ∃ after, pairs = before ++ pair :: after
  open_ : pair.1 ∉ plan.conflicted
  stopped : Stopped api hass e (plan.entityWrites pair.1) es (plan.deviceWrites entryId pair) ds

theorem applyPair_spec (p : String × String) (hass : Hass) :
    (∃ hass', applyPair api plan entryId p hass = (.ok (), hass') ∧
        Wrote hass (plan.entityWrites p.1) (plan.deviceWrites entryId p) hass') ∨
      ∃ e hass' es ds, applyPair api plan entryId p hass = (.error e, hass') ∧
        Wrote hass es ds hass' ∧
        Stopped api hass' e (plan.entityWrites p.1) es (plan.deviceWrites entryId p) ds := by
  rw [applyPair]
  rcases writeAll_spec EntityRegistry.rows api.entity_ok (plan.entityWrites p.1)
    hass.entities with ⟨R, hR, hw⟩ | ⟨es, w, rest, e, R, hl, hR, hw, he⟩
  · rcases writeAll_spec DeviceRegistry.devices api.device_ok
      (plan.deviceWrites entryId p) hass.devices with ⟨D, hD, hv⟩ | ⟨ds, w, rest, e, D, hl, hD, hv, he⟩
    · left
      exact ⟨{ hass with entities := R, devices := D }, by rw [hR, hD], hw, hv, rfl⟩
    · right
      exact ⟨e, { hass with entities := R, devices := D }, _, ds, by rw [hR, hD], ⟨hw, hv, rfl⟩,
        Or.inr ⟨rfl, w, rest, hl, he⟩⟩
  · right
    exact ⟨e, { hass with entities := R }, es, [], by rw [hR], ⟨hw, Rewrites.refl _, rfl⟩,
      Or.inl ⟨rfl, w, rest, hl, he⟩⟩

theorem skips_iff (oldUid : String) : plan.skips oldUid = true ↔ oldUid ∈ plan.conflicted ∨
    (plan.entityPlans oldUid = [] ∧ plan.plannedDevices.get? oldUid = none) := by
  rw [RemapPlan.skips, decide_eq_true_eq]

theorem unblockedWrites_cons {α : Type} (writes : String × String → List α) (p : String × String)
    (pairs : List (String × String)) :
    unblockedWrites plan writes (p :: pairs) =
      (if p.1 ∈ plan.conflicted then [] else writes p) ++ unblockedWrites plan writes pairs :=
  List.flatMap_cons

theorem unblockedWrites_append {α : Type} (writes : String × String → List α)
    (pairs pairs' : List (String × String)) :
    unblockedWrites plan writes (pairs ++ pairs') =
      unblockedWrites plan writes pairs ++ unblockedWrites plan writes pairs' :=
  List.flatMap_append

theorem allEntityWrites_cons_of_skips {p : String × String} (h : plan.skips p.1 = true)
    (pairs : List (String × String)) : allEntityWrites plan (p :: pairs) = allEntityWrites plan pairs := by
  rw [allEntityWrites, unblockedWrites_cons]
  rcases (skips_iff plan p.1).mp h with hc | ⟨hp, -⟩
  · rw [if_pos hc]
    rfl
  · simp [RemapPlan.entityWrites, hp, allEntityWrites]

theorem allDeviceWrites_cons_of_skips {p : String × String} (h : plan.skips p.1 = true)
    (pairs : List (String × String)) :
    allDeviceWrites plan entryId (p :: pairs) = allDeviceWrites plan entryId pairs := by
  rw [allDeviceWrites, unblockedWrites_cons]
  rcases (skips_iff plan p.1).mp h with hc | ⟨-, hp⟩
  · rw [if_pos hc]
    rfl
  · simp [RemapPlan.deviceWrites, hp, allDeviceWrites]

/-- What the loop over the pairs leaves: all writes, or those of the pairs before a
refused one and part of that one's. -/
theorem applyPairs_spec (pairs : List (String × String)) (hass : Hass)
    (applied : Dict String String) :
    (∃ hass', applyPairs api plan entryId pairs hass applied =
          (.ok ((pairs.filter fun p => !plan.skips p.1).foldl (fun d p => d.insert p.1 p.2) applied),
            hass') ∧
        Wrote hass (allEntityWrites plan pairs) (allDeviceWrites plan entryId pairs) hass') ∨
      ∃ e hass' before pair es ds, applyPairs api plan entryId pairs hass applied = (.error e, hass') ∧
        Wrote hass (allEntityWrites plan before ++ es) (allDeviceWrites plan entryId before ++ ds) hass' ∧
        StoppedAt api plan entryId hass' e pairs before pair es ds := by
  induction pairs generalizing hass applied with
  | nil => exact Or.inl ⟨hass, rfl, Wrote.refl hass⟩
  | cons p pairs ih =>
      by_cases hs : plan.skips p.1 = true
      · have hes := allEntityWrites_cons_of_skips plan hs
        have hds := allDeviceWrites_cons_of_skips plan entryId hs
        rw [applyPairs, if_pos hs, hes, hds, List.filter_cons_of_neg (by simp [hs])]
        refine (ih hass applied).imp_right ?_
        rintro ⟨e, hass', before, pair, es, ds, hrun, hw, ⟨after, rfl⟩, hopen, hstop⟩
        refine ⟨e, hass', p :: before, pair, es, ds, hrun, ?_, ⟨after, rfl⟩, hopen, hstop⟩
        rwa [hes, hds]
      · have hc : p.1 ∉ plan.conflicted := fun h => hs ((skips_iff plan p.1).mpr (Or.inl h))
        have hes : ∀ pairs, allEntityWrites plan (p :: pairs) =
            plan.entityWrites p.1 ++ allEntityWrites plan pairs := by
          intro pairs
          rw [allEntityWrites, unblockedWrites_cons, if_neg hc]
          rfl
        have hds : ∀ pairs, allDeviceWrites plan entryId (p :: pairs) =
            plan.deviceWrites entryId p ++ allDeviceWrites plan entryId pairs := by
          intro pairs
          rw [allDeviceWrites, unblockedWrites_cons, if_neg hc]
          rfl
        rw [applyPairs, if_neg hs, hes, hds, List.filter_cons_of_pos (by simp [hs])]
        rcases applyPair_spec api plan entryId p hass with
          ⟨hass₁, h₁, hw⟩ | ⟨e, hass₁, es, ds, h₁, hw, hstop⟩
        · rw [h₁]
          rcases ih hass₁ (applied.insert p.1 p.2) with
            ⟨hass', h, hw'⟩ | ⟨e, hass', before, pair, es, ds, h, hw', ⟨after, rfl⟩, hopen, hstop⟩
          · exact Or.inl ⟨hass', h, hw.trans hw'⟩
          · refine Or.inr ⟨e, hass', p :: before, pair, es, ds, h, ?_, ⟨after, rfl⟩, hopen, hstop⟩
            rw [hes, hds, List.append_assoc, List.append_assoc]
            exact hw.trans hw'
        · rw [h₁]
          exact Or.inr ⟨e, hass₁, [], p, es, ds, rfl, hw, ⟨pairs, rfl⟩, hc, hstop⟩

variable {api plan entryId} {hass : Hass} {e : PyError} {pairs before : List (String × String)}
  {pair : String × String} {es : List (EntityId × String)} {ds : List (String × Finset Identifier)}

/-- The refused write among all that were planned. -/
theorem StoppedAt.refused (h : StoppedAt api plan entryId hass e pairs before pair es ds) :
    (∃ w ∈ plan.entityWrites pair.1, ∃ rest,
        allEntityWrites plan pairs = (allEntityWrites plan before ++ es) ++ w :: rest ∧
          api.asyncUpdateEntity hass.entities w = .error e) ∨
      ∃ w rest, allDeviceWrites plan entryId pairs =
          (allDeviceWrites plan entryId before ++ ds) ++ w :: rest ∧
        api.asyncUpdateDevice hass.devices w = .error e := by
  obtain ⟨after, rfl⟩ := h.pairs
  have hes : allEntityWrites plan (before ++ pair :: after) =
      allEntityWrites plan before ++ (plan.entityWrites pair.1 ++ allEntityWrites plan after) := by
    rw [allEntityWrites, unblockedWrites_append, unblockedWrites_cons, if_neg h.open_]
    rfl
  have hds : allDeviceWrites plan entryId (before ++ pair :: after) =
      allDeviceWrites plan entryId before ++
        (plan.deviceWrites entryId pair ++ allDeviceWrites plan entryId after) := by
    rw [allDeviceWrites, unblockedWrites_append, unblockedWrites_cons, if_neg h.open_]
    rfl
  rcases h.stopped with ⟨-, w, rest, hl, he⟩ | ⟨-, w, rest, hl, he⟩
  · have hmem : w ∈ plan.entityWrites pair.1 := hl ▸ List.mem_append_right es List.mem_cons_self
    refine Or.inl ⟨w, hmem, rest ++ allEntityWrites plan after, ?_, he⟩
    rw [hes, hl, List.append_assoc, List.append_assoc, List.cons_append]
  · refine Or.inr ⟨w, rest ++ allDeviceWrites plan entryId after, ?_, he⟩
    rw [hds, hl, List.append_assoc, List.append_assoc, List.cons_append]

theorem StoppedAt.own_subset (h : StoppedAt api plan entryId hass e pairs before pair es ds) :
    es ⊆ plan.entityWrites pair.1 := by
  rcases h.stopped with ⟨-, w, rest, hl, -⟩ | ⟨rfl, -⟩
  · rw [hl]
    exact List.subset_append_left es (w :: rest)
  · exact List.Subset.refl _

theorem StoppedAt.entities_subset (h : StoppedAt api plan entryId hass e pairs before pair es ds) :
    allEntityWrites plan before ++ es ⊆ allEntityWrites plan pairs := by
  obtain ⟨after, rfl⟩ := h.pairs
  rw [allEntityWrites, allEntityWrites, unblockedWrites_append, unblockedWrites_cons, if_neg h.open_]
  refine List.append_subset.mpr ⟨List.subset_append_left _ _, ?_⟩
  exact List.subset_append_of_subset_right _ (List.subset_append_of_subset_left _ h.own_subset)

theorem StoppedAt.devices_subset (h : StoppedAt api plan entryId hass e pairs before pair es ds) :
    allDeviceWrites plan entryId before ++ ds ⊆ allDeviceWrites plan entryId pairs := by
  obtain ⟨after, rfl⟩ := h.pairs
  rw [allDeviceWrites, allDeviceWrites, unblockedWrites_append, unblockedWrites_cons, if_neg h.open_]
  refine List.append_subset.mpr ⟨List.subset_append_left _ _, ?_⟩
  refine List.subset_append_of_subset_right _ (List.subset_append_of_subset_left _ ?_)
  rcases h.stopped with ⟨rfl, -⟩ | ⟨-, w, rest, hl, -⟩
  · exact List.nil_subset _
  · rw [hl]
    exact List.subset_append_left ds (w :: rest)

theorem StoppedAt.mem_entries (h : StoppedAt api plan entryId hass e pairs before pair es ds)
    {p : String × String} (hp : p ∈ before) : p ∈ pairs := by
  obtain ⟨after, rfl⟩ := h.pairs
  exact List.mem_append_left _ hp

end FritzboxVpn.RemapWrites
