import FritzboxVpn.Orphans
import FritzboxVpn.Replacements
import FritzboxVpn.SetupRepair

namespace FritzboxVpn.MergeSafety

open Coordinator CoordinatorSteps EntityIds EntityRepairs HomeAssistant JsonValue OrderedDict Orphans
  RegistryRows RepairPasses RepairPlans Replacements SetupRepair UniqueIdCodec

/-- The current UIDs of a merge: those passed, or else those of the entry. -/
def mergeUids (entry : Option LiveEntry) : Option (Finset String) → Except String (Finset String)
  | some currentUids => .ok currentUids
  | none => resolveCurrentUids entry

/-- What the merges may do to a registry; a row is the same before and after
where the ids of the two rows are the same. -/
structure KeepsLive (R R' : Registries) (currentUids : Finset String) : Prop where
  removed : ∀ r ∈ R.rows, (∀ r' ∈ R'.rows, r'.id ≠ r.id) → IsOrphan currentUids r ∧
    ∃ live ∈ R.rows, IsListed currentUids live ∧ Numbered r.entityId live.entityId
  survives : ∀ r ∈ R.rows, IsListed currentUids r → ∃ r' ∈ R'.rows, r'.id = r.id ∧ r'.uniqueId = r.uniqueId
  distinct : (R'.rows.map fun r => r.entityId).Nodup

def Apart (m m' : EntityRow × EntityRow × EntityId) : Prop :=
  m.1 ≠ m'.1 ∧ m.1 ≠ m'.2.1 ∧ m.2.1 ≠ m'.1 ∧ m.2.1 ≠ m'.2.1

def SameRegistry (R R' : Registries) : Prop := R.rows.Perm R'.rows ∧ R.devices.Perm R'.devices

structure MergesSafely {σ : Type} (calls : RegistryCalls σ) (plan : List (EntityRow × EntityRow × EntityId))
    (currentUids : Finset String) (s : σ) : Prop where
  keepsLive : KeepsLive (calls.view s) (calls.view (mergeAll calls plan ∅ s).2.2) currentUids
  apart : plan.Pairwise Apart
  anyOrder : ∀ plan' : List (EntityRow × EntityRow × EntityId), plan'.Perm plan →
    SameRegistry (calls.view (mergeAll calls plan' ∅ s).2.2) (calls.view (mergeAll calls plan ∅ s).2.2)

theorem resolves_exists (currentUids : Finset String) :
    ∃ entry, resolveCurrentUids entry = .ok currentUids := by
  have hnodup : ((currentUids.toList.map fun uid => (uid, Json.null)).map Prod.fst).Nodup := by
    rw [List.map_map]
    exact (List.map_id _).symm ▸ currentUids.nodup_toList
  refine ⟨some ⟨.settled .loaded, some { data := some ⟨_, hnodup⟩ }⟩, ?_⟩
  change Except.ok (Dict.keys ⟨_, hnodup⟩) = _
  congr 1
  ext uid
  simp [Dict.mem_keys]

theorem merges_of_uids {R : Registries} {entryId : String} {entry : Option LiveEntry}
    {passed : Option (Finset String)} {currentUids : Finset String}
    (h : mergeUids entry passed = .ok currentUids) :
    ∃ entry', resolveCurrentUids entry' = .ok currentUids ∧
      getOrphanBaseSuffixMerges R entryId entry passed = getOrphanBaseSuffixMerges R entryId entry' none := by
  cases passed with
  | none => exact ⟨entry, h, rfl⟩
  | some uids =>
      cases h
      obtain ⟨entry', hres⟩ := resolves_exists currentUids
      refine ⟨entry', hres, ?_⟩
      simp only [getOrphanBaseSuffixMerges, hres]

variable {R : Registries} {entryId : String} {entry : Option LiveEntry} {currentUids : Finset String}

section Plan

variable (hres : resolveCurrentUids entry = .ok currentUids)

include hres

theorem orphaned_iff {r : EntityRow} : Orphaned entry r ↔ IsOrphan currentUids r := by
  rw [Orphaned, hres]
  constructor
  · rintro ⟨_, uid, he, huid, hout⟩
    cases he
    exact ⟨uid, hout, huid⟩
  · rintro ⟨uid, hout, huid⟩
    exact ⟨_, uid, rfl, huid, hout⟩

theorem listed_iff {r : EntityRow} : Listed entry r ↔ IsListed currentUids r := by
  rw [Listed, hres]
  constructor
  · rintro ⟨_, uid, he, huid, hin⟩
    cases he
    exact ⟨uid, hin, huid⟩
  · rintro ⟨uid, hin, huid⟩
    exact ⟨_, uid, rfl, huid, hin⟩

end Plan

/-- Merges of two bases share no row: an orphan is not listed, and a row is over
one base. -/
theorem merges_apart (R : Registries) (entryId : String) (entry : Option LiveEntry) :
    (getOrphanBaseSuffixMerges R entryId entry none).Pairwise Apart := by
  have hbases := List.pairwise_map.mp (merges_nodup R entryId entry)
  refine hbases.imp_of_mem fun {m m'} hm hm' hne => ?_
  have hpair := (merge_spec hm).1
  have hpair' := (merge_spec hm').1
  refine ⟨fun he => hne ?_, fun he => ?_, fun he => ?_, fun he => hne ?_⟩
  · rw [← hpair.holds, ← hpair'.holds, he]
  · exact hpair.orphaned.not_listed (he ▸ hpair'.listed)
  · exact hpair'.orphaned.not_listed (he ▸ hpair.listed)
  · have hsuffixed := hpair.suffixed
    rw [he, hpair'.suffixed, Option.some.injEq] at hsuffixed
    exact hsuffixed.symm

section Loop

variable {σ : Type} {calls : RegistryCalls σ}

/-- The merges of the plan in any order, as they follow from the start. -/
theorem mergeAll_perm_placed (w : Willing calls) (entryId : String) (entry : Option LiveEntry) (s : σ)
    (hvalid : ∀ r ∈ (calls.view s).rows, calls.validEntityId r.entityId)
    {plan : List (EntityRow × EntityRow × EntityId)}
    (hperm : plan.Perm (getOrphanBaseSuffixMerges (calls.view s) entryId entry none)) :
    Placed (calls.view s) (calls.view (mergeAll calls plan ∅ s).2.2)
      (fun r => ∃ m ∈ getOrphanBaseSuffixMerges (calls.view s) entryId entry none, r = m.1)
      fun r e => ∃ m ∈ getOrphanBaseSuffixMerges (calls.view s) entryId entry none, r = m.2.1 ∧ e = m.2.2 := by
  have hspec := fun m (hm : m ∈ plan) => (merge_spec (hperm.mem_iff.mp hm)).1
  have hrow := fun m (hm : m ∈ plan) => Registries.mem_entriesForConfigEntry.mp (hspec m hm).orphanRow
  have hplaced := mergeAll_placed w plan ((hperm.map _).nodup_iff.mpr (merges_nodup _ _ _))
    (fun m hm => ⟨(hspec m hm).holds, (hspec m hm).suffixed⟩)
    (fun m hm => (hspec m hm).holds ▸ hvalid m.1 (hrow m hm).1)
    (fun m hm m' hm' he => (hspec m hm).orphaned.not_listed (he ▸ (hspec m' hm').listed)) ∅ s
    fun m hm => ⟨(hrow m hm).1, (Registries.mem_entriesForConfigEntry.mp (hspec m hm).liveRow).1⟩
  exact hplaced.congr (fun r _ => by simp only [hperm.mem_iff]) fun r _ e => by simp only [hperm.mem_iff]

theorem sameRegistry_of_placed {R R₁ R₂ : Registries} {gone : EntityRow → Prop}
    {moves : EntityRow → EntityId → Prop} (h₁ : Placed R R₁ gone moves) (h₂ : Placed R R₂ gone moves) :
    SameRegistry R₁ R₂ := by
  constructor
  · refine (List.perm_ext_iff_of_nodup (rows_nodup R₁) (rows_nodup R₂)).mpr fun x => ?_
    rw [h₁.rows, h₂.rows]
  · refine (List.perm_ext_iff_of_nodup (List.Nodup.of_map _ R₁.deviceIds_nodup)
      (List.Nodup.of_map _ R₂.deviceIds_nodup)).mpr fun d => ?_
    rw [h₁.devices, h₂.devices]

theorem survives_of_placed {R R' : Registries} {gone : EntityRow → Prop}
    {moves : EntityRow → EntityId → Prop} (h : Placed R R' gone moves) {r : EntityRow} (hr : r ∈ R.rows)
    (hstays : ¬ gone r) : ∃ r' ∈ R'.rows, r'.id = r.id ∧ r'.uniqueId = r.uniqueId := by
  by_cases hmove : ∃ e, moves r e
  · obtain ⟨e, hmove⟩ := hmove
    exact ⟨moved r e, (h.rows _).mpr ⟨r, hr, hstays, Or.inl ⟨e, hmove, rfl⟩⟩, rfl, rfl⟩
  · exact ⟨r, (h.rows _).mpr ⟨r, hr, hstays, Or.inr ⟨not_exists.mp hmove, rfl⟩⟩, rfl, rfl⟩

theorem mergeAll_keepsLive (w : Willing calls) (entryId : String) {entry : Option LiveEntry} (s : σ)
    (hres : resolveCurrentUids entry = .ok currentUids)
    (hvalid : ∀ r ∈ (calls.view s).rows, calls.validEntityId r.entityId) :
    KeepsLive (calls.view s) (calls.view (mergeAll calls
      (getOrphanBaseSuffixMerges (calls.view s) entryId entry none) ∅ s).2.2) currentUids := by
  have hplaced := mergeAll_perm_placed w entryId entry s hvalid (List.Perm.refl _)
  refine ⟨fun r hr hgone => ?_, fun r hr hlisted => ?_, Registries.entityIds_nodup _⟩
  · obtain ⟨m, hm, rfl⟩ : ∃ m ∈ getOrphanBaseSuffixMerges (calls.view s) entryId entry none, r = m.1 := by
      by_contra hstays
      obtain ⟨r', hr', hid, -⟩ := survives_of_placed hplaced hr hstays
      exact hgone r' hr' hid
    have hpair := (merge_spec hm).1
    refine ⟨(orphaned_iff hres).mp hpair.orphaned, m.2.1, ?_, (listed_iff hres).mp hpair.listed, ?_⟩
    · exact (Registries.mem_entriesForConfigEntry.mp hpair.liveRow).1
    · rw [hpair.holds]
      exact numbered_of_base hpair.suffixed
  · refine survives_of_placed hplaced hr ?_
    rintro ⟨m, hm, rfl⟩
    exact (merge_spec hm).1.orphaned.not_listed ((listed_iff hres).mpr hlisted)

end Loop

/-- The merges remove orphans only, of which a listed row takes the id, and do so
in any order. -/
theorem mergeLoop_mergesSafely {σ : Type} {calls : RegistryCalls σ} (w : Willing calls) (entryId : String)
    (entry : Option LiveEntry) (passed : Option (Finset String)) (s : σ)
    (hvalid : ∀ r ∈ (calls.view s).rows, calls.validEntityId r.entityId)
    (huids : mergeUids entry passed = .ok currentUids) :
    MergesSafely calls (getOrphanBaseSuffixMerges (calls.view s) entryId entry passed) currentUids s := by
  obtain ⟨entry', hres, hplan⟩ := merges_of_uids (R := calls.view s) huids
  rw [hplan]
  refine ⟨mergeAll_keepsLive w entryId s hres hvalid, merges_apart _ _ _, fun plan' hperm => ?_⟩
  exact sameRegistry_of_placed (mergeAll_perm_placed w entryId entry' s hvalid hperm)
    (mergeAll_perm_placed w entryId entry' s hvalid (List.Perm.refl _))

theorem successorOffice_mergesSafely : MergesSafely memoryCalls
    (getOrphanBaseSuffixMerges successorOffice "entry" none (some {"b"})) {"b"} successorOffice :=
  mergeLoop_mergesSafely memoryCalls_willing "entry" none (some {"b"}) successorOffice
    (fun _ _ => trivial) rfl

end FritzboxVpn.MergeSafety
