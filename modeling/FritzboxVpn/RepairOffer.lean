import FritzboxVpn.Orphans
import FritzboxVpn.RenameLog
import FritzboxVpn.RepairConvergence

namespace FritzboxVpn.RepairOffer

open Coordinator EntityIds EntityRepairs Exceptions HomeAssistant Orphans RegistryRows RenameLog
  RepairConvergence RepairMoves RepairPasses RepairPlans Replacements SetupRepair

def getAvailableActions (R : Registries) (entryId : String) (slugify : String → String)
    (entry : Option LiveEntry) : Bool × Bool × Nat :=
  let repairCount := countRepairableEntityIssues R entryId slugify entry
  let hasCleanupAction :=
    match getOrphanedEntityEntries R entryId entry none with
    | .error _ => false
    | .ok toRemove => !toRemove.isEmpty
  (hasCleanupAction, decide (0 < repairCount), repairCount)

variable {σ : Type} (calls : RegistryCalls σ) (order : IterationOrder) (slugify : String → String)
  (entryId : String) (entry : Option LiveEntry)

/-- The repair ends, and a rename has gone through. -/
def Repairs (s : σ) : Prop :=
  ∃ result s' renames, repairEntityIds (recording calls) order slugify entryId entry (s, []) =
    (.ok result, s', renames) ∧ renames ≠ []

def Reports (s : σ) : Prop :=
  ∃ n messages s', repairEntityIds calls order slugify entryId entry s = (.ok (n, messages), s') ∧ 0 < n

/-- The count, the offer of the menu and the repair agree. -/
structure HonestOffer (s : σ) : Prop where
  count : 0 < countRepairableEntityIssues (calls.view s) entryId slugify entry ↔
    Repairs calls order slugify entryId entry s
  menu : (getAvailableActions (calls.view s) entryId slugify entry).2.1 = true ↔
    Repairs calls order slugify entryId entry s

variable {calls order slugify entryId entry}

section FirstSteps

theorem renameAll_pos (w : Willing calls) {plan : List (EntityRow × EntityId)} {s : σ} (hne : plan ≠ [])
    (hplan : ∀ p ∈ plan, p.1 ∈ (calls.view s).rows ∧ (calls.view s).Free p.2 ∧
      p.1.entityId.domain = p.2.domain ∧ calls.validEntityId p.2) :
    0 < (renameAll calls plan s).1.length := by
  obtain ⟨⟨r, e⟩, plan, rfl⟩ := List.exists_cons_of_ne_nil hne
  obtain ⟨hr, hfree, hdomain, hvalid⟩ := hplan _ List.mem_cons_self
  obtain ⟨s', hs'⟩ := w.update r.entityId e s ⟨r, hr, rfl⟩ hfree hdomain hvalid
  simp only [renameAll, hs', List.length_cons]
  omega

theorem mergeAll_pos (w : Willing calls) {s : σ}
    (hvalid : ∀ r ∈ (calls.view s).rows, calls.validEntityId r.entityId)
    (hne : getOrphanBaseSuffixMerges (calls.view s) entryId entry none ≠ []) :
    0 < (mergeAll calls (getOrphanBaseSuffixMerges (calls.view s) entryId entry none) ∅ s).1.length := by
  have hspec := fun m (hm : m ∈ getOrphanBaseSuffixMerges (calls.view s) entryId entry none) =>
    (merge_spec hm).1
  generalize getOrphanBaseSuffixMerges (calls.view s) entryId entry none = plan at hne hspec
  obtain ⟨⟨orphan, live, base⟩, plan, rfl⟩ := List.exists_cons_of_ne_nil hne
  have hpair := hspec _ List.mem_cons_self
  have horphan := (Registries.mem_entriesForConfigEntry.mp hpair.orphanRow).1
  have hlive := (Registries.mem_entriesForConfigEntry.mp hpair.liveRow).1
  obtain ⟨s₁, hs₁⟩ := w.remove orphan.entityId s ⟨orphan, horphan, rfl⟩
  have hrem := calls.remove_ok _ _ _ hs₁
  have hholds : orphan.entityId = base := hpair.holds
  have hne : live.entityId ≠ orphan.entityId := fun he =>
    entityIdBase_ne hpair.suffixed (hholds.symm.trans he.symm)
  obtain ⟨s₂, hs₂⟩ := w.update live.entityId base s₁ ⟨live, (hrem.rows live).mpr ⟨hlive, hne⟩, rfl⟩
    (fun y hy he => ((hrem.rows y).mp hy).2 (he.trans hholds.symm))
    (entityIdBase_domain hpair.suffixed).symm (hholds ▸ hvalid orphan horphan)
  simp only [mergeAll, hs₁, hs₂, List.length_cons]
  omega

end FirstSteps

variable (w : Willing calls) {s : σ}
  (hv : (Start.mk (calls.view s) entryId slugify entry).ValidIds calls.validEntityId)

include w hv

theorem legacyPass_pos (hne : getLegacyEntityObjectIdRepairs (calls.view s) entryId slugify ≠ []) :
    0 < (repairLegacyEntityObjectIds calls slugify entryId s).1.1 := by
  refine renameAll_pos w hne fun p hp => ?_
  obtain ⟨hrow, hexpected, -, hfree⟩ := mem_legacyRepairs.mp hp
  have hr := (Registries.mem_entriesForConfigEntry.mp hrow).1
  exact ⟨hr, hfree, (Start.expected_domain hexpected).symm, hv.expected p.1 hr p.2 hexpected⟩

theorem suffixPass_pos (hne : getEntityIdSuffixRepairs (calls.view s) entryId false ≠ []) :
    0 < (repairEntityIdSuffixes calls entryId false s).1.1 := by
  rw [(repairEntityIdSuffixes_eq entryId s).2]
  refine renameAll_pos w (mt List.map_eq_nil_iff.mp hne) fun p hp => ?_
  obtain ⟨hr, -, hbase, hfree⟩ := suffixRename_spec hp
  exact ⟨hr, hfree, (entityIdBase_domain hbase).symm, hv.base _ _ (hv.rows p.1 hr) hbase⟩

/-- The first plan that is not empty meets the registry it was counted on. -/
theorem reports_of_count (hcount : 0 < countRepairableEntityIssues (calls.view s) entryId slugify entry) :
    Reports calls order slugify entryId entry s := by
  obtain ⟨s₂, hrun, -⟩ := repairOrphanBaseSuffixMerges_ok w order entryId entry none
    (repairLegacyEntityObjectIds calls slugify entryId s).2
  have hrepair : ∃ messages s', repairEntityIds calls order slugify entryId entry s =
      (.ok ((repairLegacyEntityObjectIds calls slugify entryId s).1.1 + (mergeAll calls
          (getOrphanBaseSuffixMerges (calls.view (repairLegacyEntityObjectIds calls slugify entryId s).2)
            entryId entry none) ∅ (repairLegacyEntityObjectIds calls slugify entryId s).2).1.length +
        (repairEntityIdSuffixes calls entryId false s₂).1.1, messages), s') := by
    simp only [repairEntityIds, hrun]
    exact ⟨_, _, rfl⟩
  obtain ⟨messages, s', hrepair⟩ := hrepair
  refine ⟨_, messages, s', hrepair, ?_⟩
  by_cases hlegacy : getLegacyEntityObjectIdRepairs (calls.view s) entryId slugify = []
  · have hs : repairLegacyEntityObjectIds calls slugify entryId s = ((0, []), s) := by
      rw [repairLegacyEntityObjectIds, hlegacy]
      rfl
    rw [hs] at hrun ⊢
    by_cases hmerges : getOrphanBaseSuffixMerges (calls.view s) entryId entry none = []
    · have hs₂ : s₂ = s := by
        rw [repairOrphanBaseSuffixMerges, hmerges] at hrun
        cases hrun
        rfl
      have hsuffix : getEntityIdSuffixRepairs (calls.view s) entryId false ≠ [] := by
        intro hnil
        rw [countRepairableEntityIssues, hlegacy, hmerges, hnil] at hcount
        exact lt_irrefl 0 hcount
      subst hs₂
      exact Nat.add_pos_right _ (suffixPass_pos w hv hsuffix)
    · exact Nat.add_pos_left (Nat.add_pos_right _ (mergeAll_pos w hv.rows hmerges)) _
  · exact Nat.add_pos_left (Nat.add_pos_left (legacyPass_pos w hv hlegacy) _) _

omit w hv in
theorem count_of_reports (h : Reports calls order slugify entryId entry s) :
    0 < countRepairableEntityIssues (calls.view s) entryId slugify entry := by
  obtain ⟨n, messages, s', hrun, hn⟩ := h
  by_contra hcount
  simp only [countRepairableEntityIssues, not_lt, Nat.le_zero, Nat.add_eq_zero_iff,
    List.length_eq_zero_iff] at hcount
  rw [repairEntityIds_of_plans hcount.1.1 hcount.1.2 hcount.2] at hrun
  cases hrun
  exact lt_irrefl 0 hn

omit w hv in
/-- What the repair reports is what it has done. -/
theorem repairs_iff_reports :
    Repairs calls order slugify entryId entry s ↔ Reports calls order slugify entryId entry s := by
  obtain ⟨renames, hrun, hreported⟩ :=
    repairEntityIds_recording calls order slugify entryId entry s []
  rw [Repairs, hrun]
  rcases hres : repairEntityIds calls order slugify entryId entry s with ⟨e | ⟨n, messages⟩, s'⟩
  · refine ⟨fun ⟨_, _, _, h, _⟩ => ?_, fun ⟨_, _, _, h, _⟩ => ?_⟩
    · cases h
    · rw [hres] at h
      cases h
  · rw [hres] at hreported
    obtain ⟨hn, -⟩ := hreported n messages rfl
    rw [Reports, hres]
    constructor
    · rintro ⟨result, s'', log, h, hne⟩
      cases h
      exact ⟨n, messages, s', rfl, hn ▸ List.length_pos_iff.mpr hne⟩
    · rintro ⟨n', messages', s'', h, hpos⟩
      cases h
      exact ⟨(n, messages), s', renames, rfl, List.length_pos_iff.mp (hn ▸ hpos)⟩

theorem honestOffer : HonestOffer calls order slugify entryId entry s := by
  have hcount : 0 < countRepairableEntityIssues (calls.view s) entryId slugify entry ↔
      Repairs calls order slugify entryId entry s :=
    ⟨fun h => repairs_iff_reports.mpr (reports_of_count w hv h),
      fun h => count_of_reports (repairs_iff_reports.mp h)⟩
  exact ⟨hcount, decide_eq_true_iff.trans hcount⟩

omit w hv in
theorem numberedOffice_honestOffer :
    HonestOffer memoryCalls sortedOrder underscored "entry" (some (loadedEntry "a")) numberedOffice :=
  honestOffer memoryCalls_willing ⟨fun _ _ => trivial, fun _ _ _ _ => trivial, fun _ _ _ _ => trivial⟩

end FritzboxVpn.RepairOffer
