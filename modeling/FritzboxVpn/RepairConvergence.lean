import FritzboxVpn.RepairMoves
import FritzboxVpn.SetupRepair
import Mathlib.Data.Set.Finite.Lemmas

namespace FritzboxVpn.RepairConvergence

open Constants Coordinator CoordinatorSteps EmptyDevices EntityIds EntityRepairs Exceptions HomeAssistant
  JsonValue OrderedDict RegistryRows RepairMoves RepairPasses RepairPlans SetupRepair UniqueIdCodec

variable {S : Start} {c : Choice S} {R₂ R₃ : Registries}

section Rows

theorem kept_exists (r : EntityRow) : ∃ x, S.Kept r x := by
  by_cases h : ∃ d, S.Empties d ∧ r.deviceId = some d.id
  · exact ⟨off r, Or.inl ⟨h, rfl⟩⟩
  · refine ⟨r, Or.inr ⟨fun d hd hon => h ⟨d, hd, hon⟩, rfl⟩⟩

theorem kept_unique {r x y : EntityRow} (h : S.Kept r x) (h' : S.Kept r y) : x = y := by
  rcases h with ⟨⟨d, hd, hon⟩, rfl⟩ | ⟨hnot, rfl⟩
  · rcases h' with ⟨-, rfl⟩ | ⟨hnot, -⟩
    · rfl
    · exact absurd hon (hnot d hd)
  · rcases h' with ⟨⟨d, hd, hon⟩, -⟩ | ⟨-, rfl⟩
    · exact absurd hon (hnot d hd)
    · rfl

theorem kept_moved {r x : EntityRow} {e : EntityId} (h : S.Kept (moved r e) x) (e' : EntityId) :
    S.Kept (moved r e') (moved x e') := by
  rcases h with ⟨hon, rfl⟩ | ⟨hnot, rfl⟩
  · exact Or.inl ⟨hon, rfl⟩
  · exact Or.inr ⟨hnot, rfl⟩

theorem kept_fields {r x : EntityRow} (h : S.Kept r x) :
    x.entityId = r.entityId ∧ x.uniqueId = r.uniqueId ∧ x.configEntryId = r.configEntryId := by
  rcases h with ⟨-, rfl⟩ | ⟨-, rfl⟩ <;> exact ⟨rfl, rfl, rfl⟩

theorem afterMerge_unique {r : EntityRow} {e e' : EntityId} (h : c.AfterMerge r e)
    (h' : c.AfterMerge r e') : e = e' := by
  rcases h with h | ⟨h, hnot⟩
  · rcases h' with h' | ⟨-, hnot⟩
    · obtain ⟨_, hpair⟩ := c.pair e r h
      obtain ⟨_, hpair'⟩ := c.pair e' r h'
      obtain ⟨e₁, he₁, hs⟩ := hpair.suffixed
      obtain ⟨e₂, he₂, hs'⟩ := hpair'.suffixed
      rw [he₁.unique he₂, hs'] at hs
      exact (Option.some.inj hs).symm
    · exact absurd h (hnot e)
  · rcases h' with h' | ⟨h', -⟩
    · exact absurd h' (hnot e')
    · exact h.unique h'

/-- Where a merge moves a row to, there is but an orphan. -/
theorem gone_of_pick {r q : EntityRow} {e : EntityId} (h : c.pick e = some r) (hq : q ∈ S.registries.rows)
    (he : S.AfterLegacy q e) : S.Gone q := by
  obtain ⟨orphan, hpair⟩ := c.pair e r h
  rw [he.row_unique hq (Registries.mem_entriesForConfigEntry.mp hpair.orphanRow).1 hpair.holds]
  exact ⟨e, r, hpair⟩

theorem afterMerge_row_unique {r r' : EntityRow} {e : EntityId} (hr : S.Remains r) (hr' : S.Remains r')
    (h : c.AfterMerge r e) (h' : c.AfterMerge r' e) : r = r' := by
  rcases h with h | ⟨h, -⟩
  · rcases h' with h' | ⟨h', -⟩
    · exact Option.some.inj (h.symm.trans h')
    · exact absurd (gone_of_pick h hr'.row h') hr'.notGone
  · rcases h' with h' | ⟨h', -⟩
    · exact absurd (gone_of_pick h' hr.row h) hr.notGone
    · exact h.row_unique hr.row hr'.row h'

theorem afterMerge_domain {r : EntityRow} {e : EntityId} (h : c.AfterMerge r e) :
    e.domain = r.entityId.domain := by
  rcases h with h | ⟨h, -⟩
  · obtain ⟨_, hpair⟩ := c.pair e r h
    obtain ⟨e', he', hsuffixed⟩ := hpair.suffixed
    exact (entityIdBase_domain hsuffixed).trans he'.domain
  · exact h.domain

theorem afterMerge_valid {valid : EntityId → Prop} (hv : S.ValidIds valid) {r : EntityRow} {e : EntityId}
    (hr : S.Remains r) (h : c.AfterMerge r e) : valid e := by
  rcases h with h | ⟨hmove | ⟨-, rfl⟩, -⟩
  · obtain ⟨_, hpair⟩ := c.pair e r h
    exact hpair.base_valid hv
  · exact hv.expected r hr.row e hmove.spec.2.1
  · exact hv.rows r hr.row

theorem ends_domain {r : EntityRow} {e : EntityId} (h : c.Ends r e) : e.domain = r.entityId.domain := by
  rcases h with ⟨e₀, hmove⟩ | ⟨h, -⟩
  · exact (entityIdBase_domain hmove.suffixed).trans (afterMerge_domain hmove.stands)
  · exact afterMerge_domain h

end Rows

section SuffixPass

variable (hc : Start.Cleared c R₂)

include hc

theorem free_iff_freeAfter {e : EntityId} : R₂.Free e ↔ c.FreeAfter e := by
  constructor
  · intro hfree r hr he
    obtain ⟨x, hx⟩ := kept_exists (S := S) (moved r e)
    exact hfree x ((hc.rows x).mpr ⟨r, e, hr, he, hx⟩) (kept_fields hx).1
  · intro hfree x hx he
    obtain ⟨r, e', hr, hafter, hk⟩ := (hc.rows x).mp hx
    rw [(kept_fields hk).1, moved_entityId] at he
    exact hfree r hr (he ▸ hafter)

theorem row_of_over {r : EntityRow} {e base : EntityId} (h : c.Over r e base) {x : EntityRow}
    (hx : S.Kept (moved r e) x) : x ∈ R₂.asyncEntriesForConfigEntry S.entryId ∧ x.entityId = e :=
  ⟨Registries.mem_entriesForConfigEntry.mpr ⟨(hc.rows x).mpr ⟨r, e, h.stays.toRemains, h.stands, hx⟩,
    (kept_fields hx).2.2.trans h.stays.ofEntry⟩, (kept_fields hx).1⟩

theorem over_of_row {x : EntityRow} {base : EntityId}
    (hx : x ∈ R₂.asyncEntriesForConfigEntry S.entryId) (hbase : entityIdBase x.entityId = some base) :
    ∃ r e, c.Over r e base ∧ S.Kept (moved r e) x := by
  obtain ⟨hrow, hof⟩ := Registries.mem_entriesForConfigEntry.mp hx
  obtain ⟨r, e, hr, he, hk⟩ := (hc.rows x).mp hrow
  rw [(kept_fields hk).1, moved_entityId] at hbase
  exact ⟨r, e, ⟨⟨hr, (kept_fields hk).2.2.symm.trans hof⟩, he, hbase⟩, hk⟩

theorem mem_suffixRepairs_iff {x : EntityRow} {base : EntityId} :
    (x, base, false) ∈ getEntityIdSuffixRepairs R₂ S.entryId false ↔
      ∃ r e, c.SuffixMove r e base ∧ S.Kept (moved r e) x := by
  have hkey : ∀ {r e y}, S.Kept (moved r e) y → sortKey y = sortKey (moved r e) := by
    intro r e y hk
    rw [sortKey, sortKey, (kept_fields hk).1]
  constructor
  · intro hplan
    obtain ⟨-, hfree, hx, hbase, hfirst⟩ := suffixRepair_spec hplan
    obtain ⟨r, e, hover, hk⟩ := over_of_row hc hx hbase
    refine ⟨r, e, ⟨hover, (free_iff_freeAfter hc).mp hfree, fun f e' hf hlt => ?_⟩, hk⟩
    obtain ⟨y, hy⟩ := kept_exists (S := S) (moved f e')
    obtain ⟨hrow, hye⟩ := row_of_over hc hf hy
    apply hfirst y hrow (by rw [hye]; exact hf.suffixed)
    rw [comesBefore_iff, hkey hk, hkey hy]
    exact comesBefore_iff.mp hlt
  · rintro ⟨r, e, hmove, hk⟩
    obtain ⟨hrow, hxe⟩ := row_of_over hc hmove.toOver hk
    refine mem_suffixRepairs_iff_first.mpr ⟨(free_iff_freeAfter hc).mpr hmove.free, hrow, ?_, ?_⟩
    · rw [hxe]
      exact hmove.suffixed
    · intro y hy hybase hlt
      obtain ⟨f, e', hf, hky⟩ := over_of_row hc hy hybase
      refine hmove.first f e' hf ?_
      rw [comesBefore_iff, ← hkey hk, ← hkey hky]
      exact comesBefore_iff.mp hlt

end SuffixPass

structure Final (c : Choice S) (R : Registries) : Prop where
  rows : ∀ x, x ∈ R.rows ↔ ∃ r e, S.Remains r ∧ c.Ends r e ∧ S.Kept (moved r e) x
  devices : ∀ d, d ∈ R.devices ↔ d ∈ S.registries.devices ∧ ¬ S.Empties d

theorem final_of_placed (hc : Start.Cleared c R₂)
    (hp : Placed R₂ R₃ (fun _ => False)
      fun x e => (x, e, false) ∈ getEntityIdSuffixRepairs R₂ S.entryId false) : Final c R₃ := by
  refine ⟨fun x => (hp.rows x).trans ?_, fun d => (hp.devices d).trans (hc.devices d)⟩
  simp only [mem_suffixRepairs_iff hc, not_false_eq_true, true_and]
  constructor
  · rintro ⟨y, hy, ⟨base, ⟨r, e, hmove, hk⟩, rfl⟩ | ⟨hnot, rfl⟩⟩
    · exact ⟨r, base, hmove.stays.toRemains, Or.inl ⟨e, hmove⟩, kept_moved hk base⟩
    · obtain ⟨r, e, hr, he, hk⟩ := (hc.rows x).mp hy
      exact ⟨r, e, hr, Or.inr ⟨he, fun base hmove => hnot base ⟨r, e, hmove, hk⟩⟩, hk⟩
  · rintro ⟨r, e, hr, ⟨e₀, hmove⟩ | ⟨he, hnot⟩, hk⟩
    · obtain ⟨y, hy⟩ := kept_exists (S := S) (moved r e₀)
      refine ⟨y, (hc.rows y).mpr ⟨r, e₀, hr, hmove.stands, hy⟩, Or.inl ⟨e, ⟨r, e₀, hmove, hy⟩, ?_⟩⟩
      exact kept_unique hk (kept_moved hy e)
    · refine ⟨x, (hc.rows x).mpr ⟨r, e, hr, he, hk⟩, Or.inr ⟨fun base hplan => ?_, rfl⟩⟩
      obtain ⟨q, e', hmove, hk'⟩ := hplan
      have hee : e' = e := (kept_fields hk').1.symm.trans (kept_fields hk).1
      subst hee
      have hqr := afterMerge_row_unique hmove.stays.toRemains hr hmove.stands he
      subst hqr
      exact hnot base hmove

def EndFree (c : Choice S) (e : EntityId) : Prop := ∀ r, S.Remains r → ¬ c.Ends r e

section End

variable (hf : Final c R₃)

include hf

theorem free_iff_endFree {e : EntityId} : R₃.Free e ↔ EndFree c e := by
  constructor
  · intro hfree r hr he
    obtain ⟨x, hx⟩ := kept_exists (S := S) (moved r e)
    exact hfree x ((hf.rows x).mpr ⟨r, e, hr, he, hx⟩) (kept_fields hx).1
  · intro hfree x hx he
    obtain ⟨r, e', hr, hends, hk⟩ := (hf.rows x).mp hx
    rw [(kept_fields hk).1, moved_entityId] at he
    exact hfree r hr (he ▸ hends)

theorem mem_entries_atEnd {x : EntityRow} :
    x ∈ R₃.asyncEntriesForConfigEntry S.entryId ↔
      ∃ r e, S.Stays r ∧ c.Ends r e ∧ S.Kept (moved r e) x := by
  rw [Registries.mem_entriesForConfigEntry, hf.rows]
  constructor
  · rintro ⟨⟨r, e, hr, he, hk⟩, hof⟩
    exact ⟨r, e, ⟨hr, (kept_fields hk).2.2.symm.trans hof⟩, he, hk⟩
  · rintro ⟨r, e, hr, he, hk⟩
    exact ⟨⟨r, e, hr.toRemains, he, hk⟩, (kept_fields hk).2.2.trans hr.ofEntry⟩

theorem expected_atEnd {r x : EntityRow} {e target : EntityId} (he : c.Ends r e)
    (hk : S.Kept (moved r e) x) :
    expectedEntityIdForRegistryEntry S.slugify R₃ x = some target ↔ S.Expects r target := by
  obtain ⟨hid, huid, -⟩ := kept_fields hk
  have hdomain : x.entityId.domain = r.entityId.domain := by rw [hid, moved_entityId, ends_domain he]
  constructor
  · intro h
    obtain ⟨suffix, d, name, hsuffix, hd, hon, hne, hname, rfl⟩ := expectedEntityId_iff.mp h
    rcases hk with ⟨-, rfl⟩ | ⟨hnot, rfl⟩
    · cases hon
    · refine ⟨expectedEntityId_iff.mpr ⟨suffix, d, name, hsuffix, ((hf.devices d).mp hd).1, hon, hne, hname,
        ?_⟩, hnot⟩
      rw [hdomain]
  · rintro ⟨h, hnot⟩
    obtain ⟨suffix, d, name, hsuffix, hd, hon, hne, hname, rfl⟩ := expectedEntityId_iff.mp h
    rcases hk with ⟨⟨d', hd', hon'⟩, -⟩ | ⟨-, rfl⟩
    · exact absurd hon' (hnot d' hd')
    · rw [← hdomain]
      exact expectedEntityId_iff.mpr ⟨suffix, d, name, hsuffix,
        (hf.devices d).mpr ⟨hd, fun hempty => hnot d hempty hon⟩, hon, hne, hname, rfl⟩

theorem legacyRepairs_nil_iff : getLegacyEntityObjectIdRepairs R₃ S.entryId S.slugify = [] ↔
    ∀ r e target, S.Stays r → c.Ends r e → S.Expects r target → e ≠ target → ¬ EndFree c target := by
  rw [List.eq_nil_iff_forall_not_mem]
  constructor
  · intro hnil r e target hr he hexpects hne hfree
    obtain ⟨x, hk⟩ := kept_exists (S := S) (moved r e)
    apply hnil (x, target)
    refine mem_legacyRepairs.mpr ⟨(mem_entries_atEnd hf).mpr ⟨r, e, hr, he, hk⟩,
      (expected_atEnd hf he hk).mpr hexpects, ?_, (free_iff_endFree hf).mpr hfree⟩
    rw [(kept_fields hk).1]
    exact hne
  · rintro hall ⟨x, target⟩ hmem
    obtain ⟨hx, hexpected, hne, hfree⟩ := mem_legacyRepairs.mp hmem
    obtain ⟨r, e, hr, he, hk⟩ := (mem_entries_atEnd hf).mp hx
    rw [(kept_fields hk).1] at hne
    exact hall r e target hr he ((expected_atEnd hf he hk).mp hexpected) hne
      ((free_iff_endFree hf).mp hfree)

theorem merges_nil_iff : getOrphanBaseSuffixMerges R₃ S.entryId S.entry none = [] ↔
    ∀ orphan live base e, S.Stays orphan → S.Stays live → Orphaned S.entry orphan →
      Listed S.entry live → c.Ends orphan base → c.Ends live e → entityIdBase e ≠ some base := by
  rw [List.eq_nil_iff_forall_not_mem]
  constructor
  · intro hnil orphan live base e ho hl horphan hlisted hbase he hsuffixed
    obtain ⟨x, hx⟩ := kept_exists (S := S) (moved orphan base)
    obtain ⟨y, hy⟩ := kept_exists (S := S) (moved live e)
    have hpair : PairAt R₃ S.entryId S.entry base x y := by
      refine ⟨(mem_entries_atEnd hf).mpr ⟨orphan, base, ho, hbase, hx⟩,
        (mem_entries_atEnd hf).mpr ⟨live, e, hl, he, hy⟩, (kept_fields hx).1, ?_, ?_, ?_⟩
      · rw [(kept_fields hy).1]
        exact hsuffixed
      · rw [Orphaned, (kept_fields hx).2.1]
        exact horphan
      · rw [Listed, (kept_fields hy).2.1]
        exact hlisted
    obtain ⟨m, hm, -⟩ := merge_exists hpair
    exact hnil m hm
  · intro hall m hm
    have hpair := (merge_spec hm).1
    obtain ⟨orphan, base, ho, hbase, hx⟩ := (mem_entries_atEnd hf).mp hpair.orphanRow
    obtain ⟨live, e, hl, he, hy⟩ := (mem_entries_atEnd hf).mp hpair.liveRow
    have hholds := hpair.holds
    have hsuffixed := hpair.suffixed
    have horphan := hpair.orphaned
    have hlisted := hpair.listed
    rw [(kept_fields hx).1, moved_entityId] at hholds
    rw [(kept_fields hy).1, moved_entityId] at hsuffixed
    rw [Orphaned, (kept_fields hx).2.1] at horphan
    rw [Listed, (kept_fields hy).2.1] at hlisted
    subst hholds
    exact hall orphan live _ e ho hl horphan hlisted hbase he hsuffixed

theorem suffixRepairs_nil_iff : getEntityIdSuffixRepairs R₃ S.entryId false = [] ↔
    ∀ r e base, S.Stays r → c.Ends r e → entityIdBase e = some base → ¬ EndFree c base := by
  rw [List.eq_nil_iff_forall_not_mem]
  constructor
  · intro hnil r e base hr he hbase hfree
    obtain ⟨x, hk⟩ := kept_exists (S := S) (moved r e)
    obtain ⟨y, hy⟩ := suffixRepair_exists ((mem_entries_atEnd hf).mpr ⟨r, e, hr, he, hk⟩)
      (by rw [(kept_fields hk).1]; exact hbase) ((free_iff_endFree hf).mpr hfree)
    exact hnil _ hy
  · intro hall p hmem
    obtain ⟨-, hfree, hx, hbase, -⟩ := suffixRepair_spec hmem
    obtain ⟨r, e, hr, he, hk⟩ := (mem_entries_atEnd hf).mp hx
    rw [(kept_fields hk).1, moved_entityId] at hbase
    exact hall r e _ hr he hbase ((free_iff_endFree hf).mp hfree)

end End

section Independence

/-- Of the rows over a free base the suffix pass moves the first one. -/
theorem suffixMove_exists {base : EntityId} (hfilled : c.Filled base) (hfree : c.FreeAfter base) :
    ∃ r e, c.SuffixMove r e base := by
  choose g hg using Start.afterMerge_exists (c := c)
  have hfinite : {r | c.Over r (g r) base}.Finite :=
    S.registries.rows.toFinset.finite_toSet.subset fun r hr => List.mem_toFinset.mpr hr.stays.row
  have hof : ∀ r e, c.Over r e base → e = g r := fun r e h => afterMerge_unique h.stands (hg r)
  obtain ⟨r₀, e₀, hover⟩ := hfilled
  have hne : {r | c.Over r (g r) base}.Nonempty := by
    refine ⟨r₀, ?_⟩
    rw [hof r₀ e₀ hover] at hover
    exact hover
  obtain ⟨r, hr, hmin⟩ := Set.exists_min_image _ (fun r => sortKey (moved r (g r))) hfinite hne
  refine ⟨r, g r, hr, hfree, fun f e hf hlt => ?_⟩
  obtain rfl := hof f e hf
  exact not_lt.mpr (hmin f hf) (comesBefore_iff.mp hlt)

theorem endFree_of_vacated {e : EntityId} (h : c.Vacated e) : EndFree c e := by
  intro r hr hends
  rcases h with ⟨-, hfree, hfilled⟩ | ⟨q, base, hmove⟩
  · rcases hends with ⟨e₀, hmove⟩ | ⟨he, -⟩
    · exact hfilled ⟨r, e₀, hmove.toOver⟩
    · exact hfree r hr he
  · rcases hends with ⟨e₀, hmove'⟩ | ⟨he, hnot⟩
    · exact hmove'.free q hmove.stays.toRemains hmove.stands
    · have hqr := afterMerge_row_unique hmove.stays.toRemains hr hmove.stands he
      subst hqr
      exact hnot base hmove

theorem not_endFree {e : EntityId} (hv : ¬ c.Vacated e) (h : ¬ c.FreeAfter e ∨ c.Filled e) :
    ¬ EndFree c e := by
  intro hend
  by_cases hfree : c.FreeAfter e
  · obtain ⟨r, e₀, hmove⟩ := suffixMove_exists (h.resolve_left (not_not.mpr hfree)) hfree
    exact hend r hmove.stays.toRemains (Or.inl ⟨e₀, hmove⟩)
  · rw [Choice.FreeAfter] at hfree
    push Not at hfree
    obtain ⟨r, hr, he⟩ := hfree
    exact hend r hr (Or.inr ⟨he, fun base hmove => hv (Or.inr ⟨r, base, hmove⟩)⟩)

theorem not_endFree_of_held {e : EntityId} (hv : ¬ c.Vacated e) (h : S.Held e) : ¬ EndFree c e := by
  apply not_endFree hv
  by_contra hnot
  push Not at hnot
  exact hv (Or.inl ⟨h, hnot.1, hnot.2⟩)

/-- An id that a row expects was held, or the legacy pass gives it a holder. -/
theorem held_of_expected {r : EntityRow} {e : EntityId} (hr : S.Stays r) (h : S.Expects r e) : S.Held e := by
  by_cases hfree : S.registries.Free e
  · have hrow := Registries.mem_entriesForConfigEntry.mpr ⟨hr.row, hr.ofEntry⟩
    obtain ⟨f, hf⟩ := Start.LegacyMove.exists hrow h.expected hfree
    exact ⟨f, (Registries.mem_entriesForConfigEntry.mp hf.spec.1).1, Or.inr hf⟩
  · rw [Registries.Free] at hfree
    push Not at hfree
    obtain ⟨f, hf, he⟩ := hfree
    exact ⟨f, hf, Or.inl he⟩

/-- The condition is what the three plans at the end need to be empty. -/
theorem independent_iff : c.Independent ↔
    (∀ r e target, S.Stays r → c.Ends r e → S.Expects r target → e ≠ target → ¬ EndFree c target) ∧
      (∀ orphan live base e, S.Stays orphan → S.Stays live → Orphaned S.entry orphan →
        Listed S.entry live → c.Ends orphan base → c.Ends live e → entityIdBase e ≠ some base) ∧
        ∀ r e base, S.Stays r → c.Ends r e → entityIdBase e = some base → ¬ EndFree c base := by
  constructor
  · intro h
    refine ⟨fun r e target hr he hexpects hne => ?_, h.apart, fun r e base hr he hbase => ?_⟩
    · exact not_endFree_of_held (fun hv => (h.unwanted target hv r e hr he).1 hexpects)
        (held_of_expected hr hexpects)
    · have hv : ¬ c.Vacated base := fun hv => (h.unwanted base hv r e hr he).2 hbase
      apply not_endFree hv
      rcases he with ⟨e₀, hmove⟩ | ⟨hafter, -⟩
      · exact h.rest r e₀ e base hmove hbase
      · exact Or.inr ⟨r, e, hr, hafter, hbase⟩
  · rintro ⟨hlegacy, hapart, hsuffix⟩
    refine ⟨fun e hv r e' hr he => ⟨fun hexpects => ?_, fun hbase => ?_⟩,
      fun r e base above hmove habove => ?_, hapart⟩
    · have hfree := endFree_of_vacated hv
      exact hlegacy r e' e hr he hexpects (fun heq => hfree r hr.toRemains (heq ▸ he)) hfree
    · exact hsuffix r e' e hr he hbase (endFree_of_vacated hv)
    · have hheld := hsuffix r base above hmove.stays (Or.inl ⟨e, hmove⟩) habove
      rw [EndFree] at hheld
      push Not at hheld
      obtain ⟨q, hq, ⟨e₀, hmove'⟩ | ⟨hafter, -⟩⟩ := hheld
      · exact Or.inr ⟨q, e₀, hmove'.toOver⟩
      · exact Or.inl fun hfree => hfree q hq hafter

end Independence

variable {σ : Type} {calls : RegistryCalls σ}

theorem suffixPass_placed (w : Willing calls) {entryId : String} {s : σ}
    (hvalid : ∀ p ∈ getEntityIdSuffixRepairs (calls.view s) entryId false, calls.validEntityId p.2.1) :
    Placed (calls.view s) (calls.view (repairEntityIdSuffixes calls entryId false s).2) (fun _ => False)
      fun x e => (x, e, false) ∈ getEntityIdSuffixRepairs (calls.view s) entryId false := by
  have hspec := fun p (hp : p ∈ suffixRenames (calls.view s) entryId) => suffixRename_spec hp
  rw [(repairEntityIdSuffixes_eq entryId s).1]
  refine (renameAll_placed w _ (suffixRenames_rows_nodup _ _) ?_ ?_ ?_ s ?_).congr (fun _ _ => Iff.rfl)
    fun r _ e => ?_
  · exact fun p hp => (entityIdBase_domain (hspec p hp).2.2.1).symm
  · exact fun p hp => hvalid _ (mem_suffixRenames.mp hp)
  · exact fun p hp q hq he => (hspec p hp).2.2.2 q.1 (hspec q hq).1 he.symm
  · exact fun p hp => (hspec p hp).1
  · rw [first_iff_mem (suffixRenames_bases_nodup _ _), mem_suffixRenames]
    exact and_iff_right_of_imp fun hp => (suffixRepair_spec hp).2.1

/-- One call leaves nothing to repair, and another one changes nothing. -/
def Converges (calls : RegistryCalls σ) (order : IterationOrder) (slugify : String → String)
    (entryId : String) (entry : Option LiveEntry) (s : σ) : Prop :=
  countRepairableEntityIssues (calls.view (repairEntityIds calls order slugify entryId entry s).2)
      entryId slugify entry = 0 ∧
    (repairEntityIds calls order slugify entryId entry
      (repairEntityIds calls order slugify entryId entry s).2).2 =
        (repairEntityIds calls order slugify entryId entry s).2

theorem repairEntityIds_of_plans {order : IterationOrder} {slugify : String → String} {entryId : String}
    {entry : Option LiveEntry} {s : σ}
    (hlegacy : getLegacyEntityObjectIdRepairs (calls.view s) entryId slugify = [])
    (hmerges : getOrphanBaseSuffixMerges (calls.view s) entryId entry none = [])
    (hsuffix : getEntityIdSuffixRepairs (calls.view s) entryId false = []) :
    repairEntityIds calls order slugify entryId entry s = (.ok (0, []), s) := by
  simp only [repairEntityIds, repairLegacyEntityObjectIds, hlegacy, renameAll,
    repairOrphanBaseSuffixMerges, hmerges, List.isEmpty_nil, if_true, repairEntityIdSuffixes, hsuffix,
    replaceAll, List.length_nil, List.append_nil, Nat.add_zero]

theorem converges_iff_plans {order : IterationOrder} {slugify : String → String} {entryId : String}
    {entry : Option LiveEntry} {s s₃ : σ}
    (hrun : (repairEntityIds calls order slugify entryId entry s).2 = s₃) :
    Converges calls order slugify entryId entry s ↔
      getLegacyEntityObjectIdRepairs (calls.view s₃) entryId slugify = [] ∧
        getOrphanBaseSuffixMerges (calls.view s₃) entryId entry none = [] ∧
          getEntityIdSuffixRepairs (calls.view s₃) entryId false = [] := by
  rw [Converges, hrun, countRepairableEntityIssues]
  constructor
  · rintro ⟨hcount, -⟩
    simp only [Nat.add_eq_zero_iff, List.length_eq_zero_iff] at hcount
    exact ⟨hcount.1.1, hcount.1.2, hcount.2⟩
  · rintro ⟨hlegacy, hmerges, hsuffix⟩
    rw [repairEntityIds_of_plans hlegacy hmerges hsuffix, hlegacy, hmerges, hsuffix]
    exact ⟨rfl, rfl⟩

/-- A repair leaves what follows from the start, up to the choice of the merges. -/
theorem repairEntityIds_final (w : Willing calls) (order : IterationOrder) (slugify : String → String)
    (entryId : String) (entry : Option LiveEntry) (s : σ)
    (hv : (Start.mk (calls.view s) entryId slugify entry).ValidIds calls.validEntityId) :
    ∃ c : Choice ⟨calls.view s, entryId, slugify, entry⟩,
      c.MadeIn (calls.view (repairLegacyEntityObjectIds calls slugify entryId s).2) ∧
        Final c (calls.view (repairEntityIds calls order slugify entryId entry s).2) := by
  have hp := Start.legacyPass_placed w hv.expected rfl
  obtain ⟨c, hmade, k, s₂, hrun, hc⟩ := Start.mergeRepair_cleared w hv order hp
  have hvalid : ∀ p ∈ getEntityIdSuffixRepairs (calls.view s₂) entryId false,
      calls.validEntityId p.2.1 := by
    intro p hplan
    obtain ⟨-, -, hx, hbase, -⟩ := suffixRepair_spec hplan
    obtain ⟨r, e, hover, -⟩ := over_of_row hc hx hbase
    exact hv.base e _ (afterMerge_valid hv hover.stays.toRemains hover.stands) hover.suffixed
  have hend : (repairEntityIds calls order slugify entryId entry s).2 =
      (repairEntityIdSuffixes calls entryId false s₂).2 := by
    simp only [repairEntityIds, hrun]
  refine ⟨c, hmade, ?_⟩
  rw [hend]
  exact final_of_placed hc (suffixPass_placed w hvalid)

/-- A repair converges exactly where its passes, as they follow from the start,
leave no work to themselves or to an earlier one. Which of two rows with one
number a merge moves is up to the registry that it meets. -/
theorem repairEntityIds_converges_iff (w : Willing calls) (order : IterationOrder)
    (slugify : String → String) (entryId : String) (entry : Option LiveEntry) (s : σ)
    (hv : (Start.mk (calls.view s) entryId slugify entry).ValidIds calls.validEntityId) :
    ∃ c : Choice ⟨calls.view s, entryId, slugify, entry⟩,
      c.MadeIn (calls.view (repairLegacyEntityObjectIds calls slugify entryId s).2) ∧
        (Converges calls order slugify entryId entry s ↔ c.Independent) := by
  obtain ⟨c, hmade, hf⟩ := repairEntityIds_final w order slugify entryId entry s hv
  refine ⟨c, hmade, ?_⟩
  rw [converges_iff_plans rfl, independent_iff]
  exact and_congr (legacyRepairs_nil_iff hf) (and_congr (merges_nil_iff hf) (suffixRepairs_nil_iff hf))

def underscored (name : String) : String :=
  String.ofList (name.toList.map fun c => if c = ' ' then '_' else c.toLower)

def loadedEntry (uid : String) : LiveEntry :=
  ⟨.settled .loaded, some { data := some (office uid) }⟩

/-- The successor of a connection takes its id, and that is that. -/
theorem successorOffice_independent :
    ∃ c : Choice ⟨successorOffice, "entry", underscored, some (loadedEntry "b")⟩, c.Independent := by
  obtain ⟨c, -, hc⟩ := repairEntityIds_converges_iff memoryCalls_willing sortedOrder underscored "entry"
    (some (loadedEntry "b")) successorOffice ⟨fun _ _ => trivial, fun _ _ _ _ => trivial, fun _ _ _ _ => trivial⟩
  refine ⟨c, hc.mp ((converges_iff_plans rfl).mpr ⟨?_, ?_, ?_⟩)⟩
  · decide +kernel
  · decide +kernel
  · decide +kernel

def numberedOffice : Registries where
  rows := [⟨⟨⟨"switch", "office"⟩, UidIdentity.entityUniqueId "a" .switch, domain, some "entry"⟩, "row",
    some "device", false⟩]
  devices := [⟨⟨"device", {[domain, "entry", "a"]}⟩, {"entry"}, some "Office 2", none⟩]
  entityIds_nodup := List.nodup_singleton _
  uniqueKeys_nodup := List.nodup_singleton _
  rowIds_nodup := List.nodup_singleton _
  deviceIds_nodup := List.nodup_singleton _
  disjoint := by
    intro d hd e he _ _ _
    rw [List.mem_singleton.mp hd, List.mem_singleton.mp he]

/-- One pass renames it to the name, another one takes the number off. -/
theorem numberedOffice_not_converges : ∃ (R : Registries) (entry : LiveEntry),
    ¬ Converges memoryCalls sortedOrder underscored "entry" (some entry) R :=
  ⟨numberedOffice, loadedEntry "a", fun h => absurd h.1 (by decide +kernel)⟩

end FritzboxVpn.RepairConvergence
