import FritzboxVpn.Migration
import FritzboxVpn.Orphans
import Mathlib.Logic.Relation

namespace FritzboxVpn.MaintenanceCalls

open Constants Coordinator EmptyDevices EntityIds EntityRepairs Exceptions HomeAssistant Migration
  Orphans RegistryRows RepairPasses RepairPlans UniqueIdCodec

/-- A device that is named for the entry, or had a row of the entry on it. -/
def NamedFor (R : Registries) (entryId : String) (d : DeviceRow) : Prop :=
  (∃ uid, [domain, entryId, uid] ∈ d.identifiers) ∨
    ∃ r ∈ R.rows, r.configEntryId = some entryId ∧ r.deviceId = some d.id

def MayGo (entryId : String) (entry : Option LiveEntry) (r : EntityRow) : Prop :=
  r.configEntryId = some entryId ∧ (Orphaned entry r ∨ connectionUidFromEntityUniqueId r.uniqueId = none)

/-- What one call of an operation on an entry does to the registries, where it does not
raise. The operation started from `R₀`. -/
inductive CallStep (R₀ : Registries) (entryId : String) (entry : Option LiveEntry) (R : Registries) :
    Registries → Prop
  | renamed {old new R'} (h : Renamed R old new R')
      (hown : ∀ r ∈ R.rows, r.entityId = old → r.configEntryId = some entryId) :
      CallStep R₀ entryId entry R R'
  | removed {e R'} (h : Removed R e R')
      (hown : ∀ r ∈ R.rows, r.entityId = e → MayGo entryId entry r) : CallStep R₀ entryId entry R R'
  | emptied {d R'} (h : DeviceRemoved R d.id R') (hd : d ∈ R.devices) (hnamed : NamedFor R₀ entryId d)
      (hdisabled : ∀ r ∈ R.rows, r.deviceId = some d.id → r.disabled = true) :
      CallStep R₀ entryId entry R R'
  | disconnected {d uid R'} (h : DeviceRemoved R d.id R') (hd : d ∈ R.devices)
      (hid : [domain, entryId, uid] ∈ d.identifiers)
      (hgone : ∃ currentUids, resolveCurrentUids entry = .ok currentUids ∧ uid ∉ currentUids) :
      CallStep R₀ entryId entry R R'

abbrev Made (R₀ : Registries) (entryId : String) (entry : Option LiveEntry) : Registries → Registries → Prop :=
  Relation.ReflTransGen (CallStep R₀ entryId entry)

variable {σ : Type} (calls : RegistryCalls σ) (R₀ : Registries) (entryId : String)
  (entry : Option LiveEntry)

section Rows

theorem update_made {old : EntityId} (new : EntityId) {s : σ}
    (hown : ∀ r ∈ (calls.view s).rows, r.entityId = old → r.configEntryId = some entryId) :
    Made R₀ entryId entry (calls.view s) (calls.view (calls.asyncUpdateEntity old new s).2) := by
  cases hcall : calls.asyncUpdateEntity old new s with
  | mk result s' =>
      cases result with
      | error e => rw [calls.update_error _ _ _ _ _ hcall]
      | ok _ => exact .single (.renamed (calls.update_ok _ _ _ _ hcall) hown)

theorem row_of_update {old new : EntityId} {s : σ} {r : EntityRow}
    (hr : r ∈ (calls.view (calls.asyncUpdateEntity old new s).2).rows) : ∃ r₀ ∈ (calls.view s).rows,
      r₀.configEntryId = r.configEntryId ∧ (r = r₀ ∨ (r₀.entityId = old ∧ r.entityId = new)) := by
  cases hcall : calls.asyncUpdateEntity old new s with
  | mk result s' =>
      rw [hcall] at hr
      cases result with
      | error e =>
          rw [calls.update_error _ _ _ _ _ hcall] at hr
          exact ⟨r, hr, rfl, Or.inl rfl⟩
      | ok _ =>
          obtain ⟨r₀, hr₀, rfl⟩ := ((calls.update_ok _ _ _ _ hcall).rows r).mp hr
          refine ⟨r₀, hr₀, ?_⟩
          by_cases hold : r₀.entityId = old
          · rw [EntityRow.renamed, if_pos hold]
            exact ⟨rfl, Or.inr ⟨hold, rfl⟩⟩
          · rw [EntityRow.renamed, if_neg hold]
            exact ⟨rfl, Or.inl rfl⟩

theorem remove_made {e : EntityId} {s : σ}
    (hown : ∀ r ∈ (calls.view s).rows, r.entityId = e → MayGo entryId entry r) :
    Made R₀ entryId entry (calls.view s) (calls.view (calls.asyncRemove e s).2) := by
  cases hcall : calls.asyncRemove e s with
  | mk result s' =>
      cases result with
      | error err => rw [calls.remove_error _ _ _ _ hcall]
      | ok _ => exact .single (.removed (calls.remove_ok _ _ _ hcall) hown)

theorem row_of_remove {e : EntityId} {s : σ} {r : EntityRow}
    (hr : r ∈ (calls.view (calls.asyncRemove e s).2).rows) : r ∈ (calls.view s).rows := by
  cases hcall : calls.asyncRemove e s with
  | mk result s' =>
      rw [hcall] at hr
      cases result with
      | error err => rwa [calls.remove_error _ _ _ _ hcall] at hr
      | ok _ => exact (((calls.remove_ok _ _ _ hcall).rows r).mp hr).1

theorem renameAll_made (plan : List (EntityRow × EntityId)) (s : σ)
    (hplan : ∀ p ∈ plan, ∀ r ∈ (calls.view s).rows, r.entityId = p.1.entityId → r.configEntryId = some entryId) :
    Made R₀ entryId entry (calls.view s) (calls.view (renameAll calls plan s).2) := by
  induction plan generalizing s with
  | nil => exact .refl
  | cons p plan ih =>
      obtain ⟨r, target⟩ := p
      have hown := hplan _ List.mem_cons_self
      have hmade := update_made calls R₀ entryId entry target hown
      have hrest := ih (calls.asyncUpdateEntity r.entityId target s).2 fun q hq x hx he => by
        obtain ⟨x₀, hx₀, hof, rfl | ⟨hold, -⟩⟩ := row_of_update calls hx
        · exact hplan q (List.mem_cons_of_mem _ hq) x hx₀ he
        · exact hof ▸ hown x₀ hx₀ hold
      rw [renameAll]
      cases hcall : calls.asyncUpdateEntity r.entityId target s with
      | mk result s' =>
          rw [hcall] at hmade hrest
          cases result with
          | error e => exact hmade.trans hrest
          | ok _ => exact hmade.trans hrest

theorem removeRows_made (entries : List EntityRow) (s : σ)
    (hplan : ∀ p ∈ entries, ∀ r ∈ (calls.view s).rows, r.entityId = p.entityId → MayGo entryId entry r) :
    Made R₀ entryId entry (calls.view s) (calls.view (removeRows calls entries s).2) := by
  induction entries generalizing s with
  | nil => exact .refl
  | cons p entries ih =>
      have hmade := remove_made calls R₀ entryId entry (hplan _ List.mem_cons_self)
      have hrest := ih (calls.asyncRemove p.entityId s).2 fun q hq x hx he =>
        hplan q (List.mem_cons_of_mem _ hq) x (row_of_remove calls hx) he
      rw [removeRows]
      cases hcall : calls.asyncRemove p.entityId s with
      | mk result s' =>
          rw [hcall] at hmade hrest
          cases result with
          | error e => exact hmade
          | ok _ => exact hmade.trans hrest

/-- The merges of a plan: a row that was renamed to a base is at none of the later bases. -/
theorem mergeAll_made (plan : List (EntityRow × EntityRow × EntityId))
    (hbases : (plan.map fun m => m.2.2).Nodup) (hholds : ∀ m ∈ plan, m.1.entityId = m.2.2)
    (orphanUids : Finset String) (s : σ)
    (horphan : ∀ m ∈ plan, ∀ r ∈ (calls.view s).rows, r.entityId = m.2.2 → MayGo entryId entry r)
    (hlive : ∀ m ∈ plan, ∀ r ∈ (calls.view s).rows, r.entityId = m.2.1.entityId →
      r.configEntryId = some entryId) :
    Made R₀ entryId entry (calls.view s) (calls.view (mergeAll calls plan orphanUids s).2.2) := by
  induction plan generalizing orphanUids s with
  | nil => exact .refl
  | cons m plan ih =>
      obtain ⟨orphan, live, base⟩ := m
      rw [List.map_cons, List.nodup_cons] at hbases
      have hbase : orphan.entityId = base := hholds _ List.mem_cons_self
      have hmem : ∀ {m}, m ∈ plan → m ∈ (orphan, live, base) :: plan := List.mem_cons_of_mem _
      have ih := ih hbases.2 fun m hm => hholds m (hmem hm)
      have hmade := remove_made calls R₀ entryId entry (hbase ▸ horphan _ List.mem_cons_self)
      have horphan' := fun m (hm : m ∈ plan) r hr =>
        horphan m (hmem hm) r (row_of_remove calls (e := orphan.entityId) hr)
      have hlive' := fun m (hm : m ∈ (orphan, live, base) :: plan) r hr =>
        hlive m hm r (row_of_remove calls (e := orphan.entityId) hr)
      have hleft := fun uids => ih uids (calls.asyncRemove orphan.entityId s).2 horphan'
        fun m hm => hlive' m (hmem hm)
      rw [mergeAll]
      cases hremove : calls.asyncRemove orphan.entityId s with
      | mk result s₁ =>
          rw [hremove] at hmade horphan' hlive' hleft
          have hown := hlive' _ List.mem_cons_self
          have hrename := update_made calls R₀ entryId entry base hown
          have hrest := fun uids => ih uids (calls.asyncUpdateEntity live.entityId base s₁).2
            (fun m hm r hr he => by
              obtain ⟨r₀, hr₀, hof, rfl | ⟨-, hnew⟩⟩ := row_of_update calls hr
              · exact horphan' m hm r hr₀ he
              · exact absurd (List.mem_map.mpr ⟨m, hm, he.symm.trans hnew⟩) hbases.1)
            fun m hm r hr he => by
              obtain ⟨r₀, hr₀, hof, rfl | ⟨hold, -⟩⟩ := row_of_update calls hr
              · exact hlive' m (hmem hm) r hr₀ he
              · exact hof ▸ hown r₀ hr₀ hold
          cases result with
          | error e => exact hmade.trans (hleft _)
          | ok _ =>
              dsimp only
              cases hupdate : calls.asyncUpdateEntity live.entityId base s₁ with
              | mk result s₂ =>
                  rw [hupdate] at hrename hrest
                  cases result with
                  | error e => exact hmade.trans (hrename.trans (hrest _))
                  | ok _ => exact hmade.trans (hrename.trans (hrest _))

end Rows

section Devices

theorem removeIfEmpty_made {d : DeviceRow} {s : σ} (hd : d ∈ (calls.view s).devices)
    (hnamed : NamedFor R₀ entryId d) :
    Made R₀ entryId entry (calls.view s) (calls.view (removeIfEmpty calls d s).2) := by
  rw [removeIfEmpty]
  split
  next hempty =>
    cases hcall : calls.asyncRemoveDevice d.id s with
    | mk result s' =>
        cases result with
        | error e => rw [calls.device_error _ _ _ _ hcall]
        | ok _ => exact .single (.emptied (calls.device_ok _ _ _ hcall) hd hnamed (noneEnabled_iff.mp hempty))
  next => exact .refl

theorem device_of_removeIfEmpty {d e : DeviceRow} {s : σ} (he : e ∈ (calls.view s).devices)
    (hne : e.id ≠ d.id) : e ∈ (calls.view (removeIfEmpty calls d s).2).devices := by
  rw [removeIfEmpty]
  split
  next =>
    cases hcall : calls.asyncRemoveDevice d.id s with
    | mk result s' =>
        cases result with
        | error err => rwa [calls.device_error _ _ _ _ hcall]
        | ok _ => exact ((calls.device_ok _ _ _ hcall).devices e).mpr ⟨he, hne⟩
  next => exact he

theorem removeEmptyDevices_cons {α : Type} (find : Registries → α → Option DeviceRow) (a : α) (as : List α)
    {d : DeviceRow} {s : σ} (hfind : find (calls.view s) a = some d) {R : Registries}
    (hmade : Made R₀ entryId entry R (calls.view (removeIfEmpty calls d s).2))
    (hrest : Made R₀ entryId entry (calls.view (removeIfEmpty calls d s).2)
      (calls.view (removeEmptyDevices calls find as (removeIfEmpty calls d s).2).2)) :
    Made R₀ entryId entry R (calls.view (removeEmptyDevices calls find (a :: as) s).2) := by
  rw [removeEmptyDevices, hfind]
  dsimp only
  cases hcall : removeIfEmpty calls d s with
  | mk result s' =>
      rw [hcall] at hmade hrest
      cases result with
      | error e => exact hmade
      | ok removed =>
          dsimp only
          cases hrun : removeEmptyDevices calls find as s' with
          | mk result s'' =>
              rw [hrun] at hrest
              cases result with
              | error e => exact hmade.trans hrest
              | ok n => exact hmade.trans hrest

theorem removeEmptyDevices_made {α : Type} (find : Registries → α → Option DeviceRow) (as : List α)
    (hfind : ∀ a ∈ as, ∀ R d, find R a = some d → d ∈ R.devices ∧ NamedFor R₀ entryId d) (s : σ) :
    Made R₀ entryId entry (calls.view s) (calls.view (removeEmptyDevices calls find as s).2) := by
  induction as generalizing s with
  | nil => exact .refl
  | cons a as ih =>
      have ih := ih fun b hb => hfind b (List.mem_cons_of_mem _ hb)
      cases hlook : find (calls.view s) a with
      | none =>
          rw [removeEmptyDevices, hlook]
          exact ih s
      | some d =>
          obtain ⟨hd, hnamed⟩ := hfind a List.mem_cons_self _ _ hlook
          exact removeEmptyDevices_cons calls R₀ entryId entry find a as hlook
            (removeIfEmpty_made calls R₀ entryId entry hd hnamed) (ih _)

theorem removeListed_made (devices : List DeviceRow) (hnodup : (devices.map fun d => d.id).Nodup) (s : σ)
    (hdevices : ∀ d ∈ devices, d ∈ (calls.view s).devices ∧ NamedFor R₀ entryId d) :
    Made R₀ entryId entry (calls.view s)
      (calls.view (removeEmptyDevices calls (fun _ device => some device) devices s).2) := by
  induction devices generalizing s with
  | nil => exact .refl
  | cons d devices ih =>
      rw [List.map_cons, List.nodup_cons] at hnodup
      obtain ⟨hd, hnamed⟩ := hdevices d List.mem_cons_self
      refine removeEmptyDevices_cons calls R₀ entryId entry _ d devices rfl
        (removeIfEmpty_made calls R₀ entryId entry hd hnamed) (ih hnodup.2 _ ?_)
      intro e he
      obtain ⟨hmem, hnamed'⟩ := hdevices e (List.mem_cons_of_mem _ he)
      refine ⟨device_of_removeIfEmpty calls hmem fun hid => hnodup.1 ?_, hnamed'⟩
      exact hid ▸ List.mem_map_of_mem he

theorem removeConnectionDevices_made {uids : List String}
    (hgone : ∀ uid ∈ uids, ∃ currentUids, resolveCurrentUids entry = .ok currentUids ∧ uid ∉ currentUids)
    (affected : Finset String) (s : σ) :
    Made R₀ entryId entry (calls.view s)
        (calls.view (removeConnectionDevices calls entryId uids affected s).2) ∧
      ∀ left, (removeConnectionDevices calls entryId uids affected s).1 = .ok left → left ⊆ affected := by
  induction uids generalizing affected s with
  | nil =>
      refine ⟨.refl, fun left h => ?_⟩
      cases h
      exact Finset.Subset.refl _
  | cons uid uids ih =>
      have ih := ih fun u hu => hgone u (List.mem_cons_of_mem _ hu)
      rw [removeConnectionDevices]
      cases hlook : connectionDevice entryId (calls.view s) uid with
      | none => exact ih affected s
      | some d =>
          obtain ⟨hd, hid⟩ := Registries.asyncGetDevice_iff.mp hlook
          dsimp only
          cases hcall : calls.asyncRemoveDevice d.id s with
          | mk result s' =>
              cases result with
              | error e =>
                  rw [calls.device_error _ _ _ _ hcall]
                  refine ⟨.refl, fun left h => ?_⟩
                  cases h
              | ok _ =>
                  obtain ⟨hmade, hleft⟩ := ih (affected.erase d.id) s'
                  refine ⟨.head ?_ hmade, fun left h => (hleft left h).trans (Finset.erase_subset _ _)⟩
                  exact .disconnected (calls.device_ok _ _ _ hcall) hd hid (hgone uid List.mem_cons_self)

end Devices

section Operations

variable (s : σ)

theorem removeOrphanedEntities_made (order : IterationOrder) (entries : List EntityRow)
    (hentries : ∀ p ∈ entries, p ∈ (calls.view s).rows ∧ MayGo entryId entry p) :
    Made (calls.view s) entryId entry (calls.view s)
      (calls.view (removeOrphanedEntities calls order entryId entries true s).2) := by
  have hrows := removeRows_made calls (calls.view s) entryId entry entries s fun p hp r hr he =>
    Registries.eq_of_entityId hr (hentries p hp).1 he ▸ (hentries p hp).2
  have hgone : ∀ uid ∈ order.toList (uidsFromEntityEntries entries), ∃ currentUids,
      resolveCurrentUids entry = .ok currentUids ∧ uid ∉ currentUids := by
    intro uid huid
    rw [mem_toList, uidsFromEntityEntries, List.mem_toFinset] at huid
    obtain ⟨p, hp, hread⟩ := List.mem_filterMap.mp huid
    rcases (hentries p hp).2.2 with ⟨currentUids, uid', hres, huid', hout⟩ | hnone
    · rw [hread, Option.some.injEq] at huid'
      exact ⟨currentUids, hres, huid' ▸ hout⟩
    · rw [hread] at hnone
      cases hnone
  rw [removeOrphanedEntities]
  split
  next => exact .refl
  next =>
    simp only [Bool.not_true, Bool.false_eq_true, if_false]
    cases hrun₁ : removeRows calls entries s with
    | mk result s₁ =>
        rw [hrun₁] at hrows
        cases result with
        | error e => exact hrows
        | ok _ =>
            dsimp only
            obtain ⟨hdevices, hleft⟩ := removeConnectionDevices_made calls (calls.view s)
              entryId entry hgone (entries.filterMap fun e => e.deviceId.filter (· ≠ "")).toFinset s₁
            cases hrun₂ : removeConnectionDevices calls entryId
                (order.toList (uidsFromEntityEntries entries))
                (entries.filterMap fun e => e.deviceId.filter (· ≠ "")).toFinset s₁ with
            | mk result s₂ =>
                rw [hrun₂] at hdevices hleft
                cases result with
                | error e => exact hrows.trans hdevices
                | ok affected =>
                    dsimp only
                    have hempty := removeEmptyDevices_made calls (calls.view s)
                      entryId entry Registries.asyncGetDeviceById
                      (order.toList affected) (fun id hid R d hd => by
                        obtain ⟨hmem, rfl⟩ := Registries.asyncGetDeviceById_iff.mp hd
                        have haffected := hleft affected rfl (mem_toList.mp hid)
                        obtain ⟨p, hp, hon⟩ := List.mem_filterMap.mp (List.mem_toFinset.mp haffected)
                        exact ⟨hmem, Or.inr ⟨p, (hentries p hp).1, (hentries p hp).2.1,
                          (Option.filter_eq_some_iff.mp hon).1⟩⟩) s₂
                    have hmade := hrows.trans (hdevices.trans hempty)
                    cases hrun₃ : removeEmptyDevices calls Registries.asyncGetDeviceById
                        (order.toList affected) s₂ with
                    | mk result s₃ =>
                        rw [hrun₃] at hmade
                        cases result with
                        | error e => exact hmade
                        | ok n => exact hmade

theorem orphaned_mayGo {R : Registries} {currentUids : Finset String}
    (hres : resolveCurrentUids entry = .ok currentUids) {r : EntityRow}
    (h : r ∈ orphanedEntityEntries R entryId currentUids) : r ∈ R.rows ∧ MayGo entryId entry r := by
  obtain ⟨hrow, uid, hout, huid⟩ := mem_orphanedEntityEntries.mp h
  obtain ⟨hmem, hof⟩ := Registries.mem_entriesForConfigEntry.mp hrow
  exact ⟨hmem, hof, Or.inl ⟨currentUids, uid, hres, huid, hout⟩⟩

theorem removeUnavailableEntities_made (order : IterationOrder) (known : RuntimeData) :
    Made (calls.view s) entryId entry (calls.view s)
      (calls.view (removeUnavailableEntities calls order entryId entry known s).2.2) := by
  cases hres : resolveCurrentUids entry with
  | error errorKey =>
      simp only [removeUnavailableEntities, getOrphanedEntityEntries, hres, Except.map]
      exact .refl
  | ok currentUids =>
      have hmade := removeOrphanedEntities_made calls entryId entry s order
        (orphanedEntityEntries (calls.view s) entryId currentUids) fun p hp => orphaned_mayGo entryId entry hres hp
      simp only [removeUnavailableEntities, getOrphanedEntityEntries, hres, Except.map]
      cases hrun : removeOrphanedEntities calls order entryId
          (orphanedEntityEntries (calls.view s) entryId currentUids) true s with
      | mk result s' =>
          rw [hrun] at hmade
          cases result with
          | error e => exact hmade
          | ok uids => exact hmade

theorem removeUnexpectedEntityEntries_made (order : IterationOrder) :
    Made (calls.view s) entryId entry (calls.view s)
      (calls.view (removeUnexpectedEntityEntries calls order entryId s).2) := by
  have hmade := removeOrphanedEntities_made calls entryId entry s order
    (unexpectedEntityEntries (calls.view s) entryId) fun p hp => by
      obtain ⟨hrow, hread⟩ := List.mem_filter.mp hp
      obtain ⟨hmem, hof⟩ := Registries.mem_entriesForConfigEntry.mp hrow
      rw [isUnexpected, Bool.and_eq_true, Option.isNone_iff_eq_none] at hread
      exact ⟨hmem, hof, Or.inr hread.2⟩
  simp only [removeUnexpectedEntityEntries]
  cases hrun : removeOrphanedEntities calls order entryId
      (unexpectedEntityEntries (calls.view s) entryId) true s with
  | mk result s' =>
      rw [hrun] at hmade
      cases result with
      | error e => exact hmade
      | ok uids => exact hmade

theorem repairLegacyEntityObjectIds_made (slugify : String → String) :
    Made R₀ entryId entry (calls.view s)
      (calls.view (repairLegacyEntityObjectIds calls slugify entryId s).2) := by
  rw [repairLegacyEntityObjectIds]
  refine renameAll_made calls R₀ entryId entry _ s fun p hp r hr he => ?_
  obtain ⟨hmem, hof⟩ := Registries.mem_entriesForConfigEntry.mp (mem_legacyRepairs.mp hp).1
  exact Registries.eq_of_entityId hr hmem he ▸ hof

theorem repairEntityIdSuffixes_made :
    Made R₀ entryId entry (calls.view s) (calls.view (repairEntityIdSuffixes calls entryId false s).2) := by
  rw [(repairEntityIdSuffixes_eq entryId s).1]
  refine renameAll_made calls R₀ entryId entry _ s fun p hp r hr he => ?_
  obtain ⟨hmem, hof, -⟩ := suffixRename_spec hp
  exact Registries.eq_of_entityId hr hmem he ▸ hof

theorem repairOrphanBaseSuffixMerges_made (order : IterationOrder) :
    Made R₀ entryId entry (calls.view s)
      (calls.view (repairOrphanBaseSuffixMerges calls order entryId entry none s).2) := by
  have hspec := fun m (hm : m ∈ getOrphanBaseSuffixMerges (calls.view s) entryId entry none) =>
    (merge_spec hm).1
  have hmerges := mergeAll_made calls R₀ entryId entry _ (merges_nodup (calls.view s) entryId entry)
    (fun m hm => (hspec m hm).holds) ∅ s
    (fun m hm r hr he => by
      obtain ⟨hmem, hof⟩ := Registries.mem_entriesForConfigEntry.mp (hspec m hm).orphanRow
      obtain rfl := Registries.eq_of_entityId hr hmem (he.trans (hspec m hm).holds.symm)
      exact ⟨hof, Or.inl (hspec m hm).orphaned⟩)
    fun m hm r hr he => by
      obtain ⟨hmem, hof⟩ := Registries.mem_entriesForConfigEntry.mp (hspec m hm).liveRow
      exact Registries.eq_of_entityId hr hmem he ▸ hof
  simp only [repairOrphanBaseSuffixMerges]
  split
  next => exact .refl
  next =>
    rcases hmerge : mergeAll calls (getOrphanBaseSuffixMerges (calls.view s) entryId entry none) ∅ s with
      ⟨messages, orphanUids, s'⟩
    rw [hmerge] at hmerges
    have hdevices := removeEmptyDevices_made calls R₀ entryId entry (connectionDevice entryId)
      (order.toList orphanUids) (fun uid _ R d hd => by
        obtain ⟨hmem, hid⟩ := Registries.asyncGetDevice_iff.mp hd
        exact ⟨hmem, Or.inl ⟨uid, hid⟩⟩) s'
    have hmade := hmerges.trans hdevices
    cases hrun : removeEmptyDevices calls (connectionDevice entryId) (order.toList orphanUids) s' with
    | mk result s'' =>
        rw [hrun] at hmade
        cases result with
        | error e => exact hmade
        | ok n => exact hmade

theorem repairEntityIds_made (order : IterationOrder) (slugify : String → String) :
    Made (calls.view s) entryId entry (calls.view s)
      (calls.view (repairEntityIds calls order slugify entryId entry s).2) := by
  have hlegacy := repairLegacyEntityObjectIds_made calls (calls.view s) entryId entry s slugify
  simp only [repairEntityIds]
  rcases hrepair : repairLegacyEntityObjectIds calls slugify entryId s with ⟨⟨n, messages⟩, s₁⟩
  rw [hrepair] at hlegacy
  have hmerges := repairOrphanBaseSuffixMerges_made calls (calls.view s) entryId entry s₁ order
  dsimp only
  cases hrun : repairOrphanBaseSuffixMerges calls order entryId entry none s₁ with
  | mk result s₂ =>
      rw [hrun] at hmerges
      cases result with
      | error e => exact hlegacy.trans hmerges
      | ok r => exact (hlegacy.trans hmerges).trans (repairEntityIdSuffixes_made calls (calls.view s) entryId entry _)

theorem repairEntityIdsBeforePlatformSetup_made (order : IterationOrder) :
    Made (calls.view s) entryId entry (calls.view s)
      (calls.view (repairEntityIdsBeforePlatformSetup calls order entryId entry s).2) := by
  have hmerges := repairOrphanBaseSuffixMerges_made calls (calls.view s) entryId entry s order
  rw [repairEntityIdsBeforePlatformSetup]
  cases hrun : repairOrphanBaseSuffixMerges calls order entryId entry none s with
  | mk result s₁ =>
      rw [hrun] at hmerges
      cases result with
      | error e => exact hmerges
      | ok r => exact hmerges.trans (repairEntityIdSuffixes_made calls (calls.view s) entryId entry _)

theorem cleanupEmptyConnectionDevices_made :
    Made (calls.view s) entryId entry (calls.view s)
      (calls.view (cleanupEmptyConnectionDevices calls entryId s).2) := by
  refine removeListed_made calls (calls.view s) entryId entry _ ?_ s fun d hd => ?_
  · exact (calls.view s).deviceIds_nodup.sublist
      ((List.filter_sublist.trans List.filter_sublist).map _)
  · obtain ⟨hlisted, hconnection⟩ := List.mem_filter.mp hd
    obtain ⟨i, hi, hdomain, hentry, hlength⟩ := of_decide_eq_true hconnection
    refine ⟨List.mem_of_mem_filter hlisted, Or.inl ?_⟩
    obtain ⟨a, b, c, rfl⟩ := List.length_eq_three.mp hlength
    cases hdomain
    cases hentry
    exact ⟨c, hi⟩

end Operations

end FritzboxVpn.MaintenanceCalls
