import FritzboxVpn.RepairPlans
import FritzboxVpn.Replacements

namespace FritzboxVpn.RepairMoves

open Constants Coordinator EmptyDevices EntityIds EntityRepairs Exceptions HomeAssistant RegistryRows
  RepairPasses RepairPlans Replacements UniqueIdCodec

structure Start where
  registries : Registries
  entryId : String
  slugify : String → String
  entry : Option LiveEntry

namespace Start

variable (S : Start)

def LegacyMove (r : EntityRow) (e : EntityId) : Prop :=
  First (getLegacyEntityObjectIdRepairs S.registries S.entryId S.slugify) r e

def AfterLegacy (r : EntityRow) (e : EntityId) : Prop :=
  S.LegacyMove r e ∨ ((∀ e', ¬ S.LegacyMove r e') ∧ e = r.entityId)

structure Pair (base : EntityId) (orphan live : EntityRow) : Prop where
  orphanRow : orphan ∈ S.registries.asyncEntriesForConfigEntry S.entryId
  liveRow : live ∈ S.registries.asyncEntriesForConfigEntry S.entryId
  holds : S.AfterLegacy orphan base
  suffixed : ∃ e, S.AfterLegacy live e ∧ entityIdBase e = some base
  orphaned : Orphaned S.entry orphan
  listed : Listed S.entry live

def Gone (r : EntityRow) : Prop := ∃ base live, S.Pair base r live

structure Empties (d : DeviceRow) : Prop where
  device : d ∈ S.registries.devices
  ofOrphan : ∃ orphan uid, S.Gone orphan ∧ connectionUidFromEntityUniqueId orphan.uniqueId = some uid ∧
    [domain, S.entryId, uid] ∈ d.identifiers
  leftOver : ∀ f ∈ S.registries.rows, f.deviceId = some d.id → f.disabled = true ∨ S.Gone f

structure Remains (r : EntityRow) : Prop where
  row : r ∈ S.registries.rows
  notGone : ¬ S.Gone r
  notLost : ∀ d, S.Empties d → ¬ GoesWith d r

structure Stays (r : EntityRow) : Prop extends S.Remains r where
  ofEntry : r.configEntryId = some S.entryId

def Kept (r x : EntityRow) : Prop :=
  ((∃ d, S.Empties d ∧ r.deviceId = some d.id) ∧ x = off r) ∨
    ((∀ d, S.Empties d → r.deviceId ≠ some d.id) ∧ x = r)

structure Expects (r : EntityRow) (e : EntityId) : Prop where
  expected : expectedEntityIdForRegistryEntry S.slugify S.registries r = some e
  device : ∀ d, S.Empties d → r.deviceId ≠ some d.id

/-- The row that a merge moves to a base, as the registry after the legacy pass
has it planned. -/
def PlannedAt (R₁ : Registries) (base : EntityId) (r : EntityRow) : Prop :=
  r ∈ S.registries.rows ∧ ∃ m ∈ getOrphanBaseSuffixMerges R₁ S.entryId S.entry none,
    m.2.2 = base ∧ ∃ e, S.AfterLegacy r e ∧ m.2.1 = moved r e

def Held (e : EntityId) : Prop := ∃ r ∈ S.registries.rows, r.entityId = e ∨ S.LegacyMove r e

/-- The ids of the registry are valid, and so are those made of them. -/
structure ValidIds (valid : EntityId → Prop) : Prop where
  rows : ∀ r ∈ S.registries.rows, valid r.entityId
  expected : ∀ r ∈ S.registries.rows, ∀ e,
    expectedEntityIdForRegistryEntry S.slugify S.registries r = some e → valid e
  base : ∀ e base, valid e → entityIdBase e = some base → valid base

end Start

structure Choice (S : Start) where
  pick : EntityId → Option EntityRow
  pair : ∀ base r, pick base = some r → ∃ orphan, S.Pair base orphan r
  lowest : ∀ base r e, pick base = some r → S.AfterLegacy r e → ∀ orphan live e',
    S.Pair base orphan live → S.AfterLegacy live e' → suffixRank e ≤ suffixRank e'
  total : ∀ base orphan live, S.Pair base orphan live → ∃ r, pick base = some r

namespace Choice

variable {S : Start} (c : Choice S)

/-- Two choices differ only where two rows have one number. -/
theorem picks_tie (c' : Choice S) {base : EntityId} {r r' : EntityRow} {e e' : EntityId}
    (h : c.pick base = some r) (h' : c'.pick base = some r') (he : S.AfterLegacy r e)
    (he' : S.AfterLegacy r' e') : suffixRank e = suffixRank e' := by
  obtain ⟨orphan, hpair⟩ := c.pair base r h
  obtain ⟨orphan', hpair'⟩ := c'.pair base r' h'
  exact le_antisymm (c.lowest base r e h he orphan' r' e' hpair' he')
    (c'.lowest base r' e' h' he' orphan r e hpair he)

def MadeIn (R₁ : Registries) : Prop := ∀ base r, c.pick base = some r ↔ S.PlannedAt R₁ base r

def AfterMerge (r : EntityRow) (e : EntityId) : Prop :=
  c.pick e = some r ∨ (S.AfterLegacy r e ∧ ∀ base, c.pick base ≠ some r)

def FreeAfter (e : EntityId) : Prop := ∀ r, S.Remains r → ¬ c.AfterMerge r e

structure Over (r : EntityRow) (e base : EntityId) : Prop where
  stays : S.Stays r
  stands : c.AfterMerge r e
  suffixed : entityIdBase e = some base

structure SuffixMove (r : EntityRow) (e base : EntityId) : Prop extends c.Over r e base where
  free : c.FreeAfter base
  first : ∀ f e', c.Over f e' base → ¬ comesBefore (moved f e') (moved r e) = true

def Ends (r : EntityRow) (e : EntityId) : Prop :=
  (∃ e₀, c.SuffixMove r e₀ e) ∨ (c.AfterMerge r e ∧ ∀ base, ¬ c.SuffixMove r e base)

def Filled (base : EntityId) : Prop := ∃ r e, c.Over r e base

/-- An id that a row left, or went with, and that no other takes. -/
def Vacated (e : EntityId) : Prop :=
  (S.Held e ∧ c.FreeAfter e ∧ ¬ c.Filled e) ∨ ∃ r base, c.SuffixMove r e base

structure Independent : Prop where
  unwanted : ∀ e, c.Vacated e → ∀ r e', S.Stays r → c.Ends r e' →
    ¬ S.Expects r e ∧ entityIdBase e' ≠ some e
  rest : ∀ r e base above, c.SuffixMove r e base → entityIdBase base = some above →
    ¬ c.FreeAfter above ∨ c.Filled above
  apart : ∀ orphan live base e, S.Stays orphan → S.Stays live → Orphaned S.entry orphan →
    Listed S.entry live → c.Ends orphan base → c.Ends live e → entityIdBase e ≠ some base

end Choice

namespace Start

variable {S : Start}

theorem LegacyMove.spec {r : EntityRow} {e : EntityId} (h : S.LegacyMove r e) :
    r ∈ S.registries.asyncEntriesForConfigEntry S.entryId ∧
      expectedEntityIdForRegistryEntry S.slugify S.registries r = some e ∧ r.entityId ≠ e ∧
        S.registries.Free e := mem_legacyRepairs.mp h.mem

theorem LegacyMove.of_plan {r : EntityRow} {e : EntityId}
    (h : (r, e) ∈ getLegacyEntityObjectIdRepairs S.registries S.entryId S.slugify) :
    ∃ f, S.LegacyMove f e := by
  obtain ⟨p, hp⟩ := Option.isSome_iff_exists.mp
    (List.find?_isSome (p := fun p : EntityRow × EntityId => decide (p.2 = e)).mpr ⟨(r, e), h, by simp⟩)
  have he : p.2 = e := by simpa using List.find?_some hp
  exact ⟨p.1, by rw [LegacyMove, First, hp, ← he]⟩

/-- Of the rows that ask for a free id one gets it. -/
theorem LegacyMove.exists {r : EntityRow} {e : EntityId}
    (hr : r ∈ S.registries.asyncEntriesForConfigEntry S.entryId)
    (hexpected : expectedEntityIdForRegistryEntry S.slugify S.registries r = some e)
    (hfree : S.registries.Free e) : ∃ f, S.LegacyMove f e :=
  LegacyMove.of_plan (mem_legacyRepairs.mpr
    ⟨hr, hexpected, hfree r (Registries.mem_entriesForConfigEntry.mp hr).1, hfree⟩)

theorem expected_domain {slugify : String → String} {R : Registries} {r : EntityRow} {e : EntityId}
    (h : expectedEntityIdForRegistryEntry slugify R r = some e) : e.domain = r.entityId.domain := by
  rw [expectedEntityIdForRegistryEntry] at h
  split at h
  next => cases h
  next =>
    obtain ⟨d, -, h⟩ := Option.bind_eq_some_iff.mp h
    obtain ⟨name, -, rfl⟩ := Option.map_eq_some_iff.mp h
    rfl

theorem AfterLegacy.exists (r : EntityRow) : ∃ e, S.AfterLegacy r e := by
  by_cases h : ∃ e, S.LegacyMove r e
  · obtain ⟨e, he⟩ := h
    exact ⟨e, Or.inl he⟩
  · exact ⟨r.entityId, Or.inr ⟨not_exists.mp h, rfl⟩⟩

theorem AfterLegacy.unique {r : EntityRow} {e e' : EntityId} (h : S.AfterLegacy r e)
    (h' : S.AfterLegacy r e') : e = e' := by
  rcases h with h | ⟨hnot, rfl⟩
  · rcases h' with h' | ⟨hnot, -⟩
    · exact Option.some.inj (h.spec.2.1.symm.trans h'.spec.2.1)
    · exact absurd h (hnot e)
  · rcases h' with h' | ⟨-, rfl⟩
    · exact absurd h' (hnot e')
    · rfl

/-- The legacy pass brings no two rows to one id. -/
theorem AfterLegacy.row_unique {r r' : EntityRow} {e : EntityId} (hr : r ∈ S.registries.rows)
    (hr' : r' ∈ S.registries.rows) (h : S.AfterLegacy r e) (h' : S.AfterLegacy r' e) : r = r' := by
  rcases h with h | ⟨-, rfl⟩
  · rcases h' with h' | ⟨-, rfl⟩
    · exact congrArg Prod.fst (Option.some.inj (h.symm.trans h'))
    · exact absurd rfl (h.spec.2.2.2 r' hr')
  · rcases h' with h' | ⟨-, he⟩
    · exact absurd rfl (h'.spec.2.2.2 r hr)
    · exact Registries.eq_of_entityId hr hr' he

theorem AfterLegacy.eq_of_moved {r r' : EntityRow} {e e' : EntityId} (hr : r ∈ S.registries.rows)
    (hr' : r' ∈ S.registries.rows) (h : S.AfterLegacy r e) (h' : S.AfterLegacy r' e')
    (heq : moved r e = moved r' e') : r = r' := by
  have he : e = e' := congrArg (fun x : EntityRow => x.entityId) heq
  exact h.row_unique hr hr' (he ▸ h')

theorem AfterLegacy.domain {r : EntityRow} {e : EntityId} (h : S.AfterLegacy r e) :
    e.domain = r.entityId.domain := by
  rcases h with h | ⟨-, rfl⟩
  · exact expected_domain h.spec.2.1
  · rfl

section FirstPass

variable {R₁ : Registries} (hp : Placed S.registries R₁ (fun _ => False) S.LegacyMove)

include hp

theorem mem_rows_afterLegacy {x : EntityRow} :
    x ∈ R₁.rows ↔ ∃ r ∈ S.registries.rows, ∃ e, S.AfterLegacy r e ∧ x = moved r e := by
  rw [hp.rows]
  refine exists_congr fun r => and_congr_right fun _ => ?_
  rw [and_iff_right not_false]
  constructor
  · rintro (⟨e, he, rfl⟩ | ⟨hnot, rfl⟩)
    · exact ⟨e, Or.inl he, rfl⟩
    · exact ⟨x.entityId, Or.inr ⟨hnot, rfl⟩, rfl⟩
  · rintro ⟨e, he | ⟨hnot, rfl⟩, rfl⟩
    · exact Or.inl ⟨e, he, rfl⟩
    · exact Or.inr ⟨hnot, rfl⟩

theorem mem_entries_afterLegacy {x : EntityRow} :
    x ∈ R₁.asyncEntriesForConfigEntry S.entryId ↔
      ∃ r ∈ S.registries.asyncEntriesForConfigEntry S.entryId, ∃ e, S.AfterLegacy r e ∧ x = moved r e := by
  simp only [Registries.mem_entriesForConfigEntry, mem_rows_afterLegacy hp]
  constructor
  · rintro ⟨⟨r, hr, e, he, rfl⟩, hof⟩
    exact ⟨r, ⟨hr, hof⟩, e, he, rfl⟩
  · rintro ⟨r, ⟨hr, hof⟩, e, he, rfl⟩
    exact ⟨⟨r, hr, e, he, rfl⟩, hof⟩

/-- The pairs in the registry after the first pass are those of the start. -/
theorem pairAt_iff {base : EntityId} {x y : EntityRow} :
    PairAt R₁ S.entryId S.entry base x y ↔
      ∃ orphan live e, S.Pair base orphan live ∧ S.AfterLegacy live e ∧ x = moved orphan base ∧
        y = moved live e := by
  constructor
  · intro h
    obtain ⟨orphan, horphan, e₁, he₁, rfl⟩ := (mem_entries_afterLegacy hp).mp h.orphanRow
    obtain ⟨live, hlive, e₂, he₂, rfl⟩ := (mem_entries_afterLegacy hp).mp h.liveRow
    have hbase : e₁ = base := h.holds
    subst hbase
    exact ⟨orphan, live, e₂, ⟨horphan, hlive, he₁, ⟨e₂, he₂, h.suffixed⟩, h.orphaned, h.listed⟩, he₂,
      rfl, rfl⟩
  · rintro ⟨orphan, live, e, h, he, rfl, rfl⟩
    obtain ⟨e', he', hsuffixed⟩ := h.suffixed
    rw [he'.unique he] at hsuffixed
    exact ⟨(mem_entries_afterLegacy hp).mpr ⟨orphan, h.orphanRow, base, h.holds, rfl⟩,
      (mem_entries_afterLegacy hp).mpr ⟨live, h.liveRow, e, he, rfl⟩, rfl, hsuffixed, h.orphaned, h.listed⟩

/-- A merge of the plan is of a pair, and its listed row has the lowest number. -/
theorem merge_of_plan {m : EntityRow × EntityRow × EntityId}
    (hm : m ∈ getOrphanBaseSuffixMerges R₁ S.entryId S.entry none) :
    ∃ orphan live e, S.Pair m.2.2 orphan live ∧ S.AfterLegacy live e ∧
      m.1 = moved orphan m.2.2 ∧ m.2.1 = moved live e ∧
        ∀ orphan' live' e', S.Pair m.2.2 orphan' live' → S.AfterLegacy live' e' →
          suffixRank e ≤ suffixRank e' := by
  obtain ⟨hpair, hlowest⟩ := merge_spec hm
  obtain ⟨orphan, live, e, h, he, hx, hy⟩ := (pairAt_iff hp).mp hpair
  refine ⟨orphan, live, e, h, he, hx, hy, fun orphan' live' e' h' he' => ?_⟩
  have hle := hlowest _ _ ((pairAt_iff hp).mpr ⟨orphan', live', e', h', he', rfl, rfl⟩)
  rwa [hy, moved_entityId, moved_entityId] at hle

theorem plan_of_pair {base : EntityId} {orphan live : EntityRow} (h : S.Pair base orphan live) :
    ∃ m ∈ getOrphanBaseSuffixMerges R₁ S.entryId S.entry none, m.2.2 = base := by
  obtain ⟨e, he, -⟩ := h.suffixed
  exact merge_exists ((pairAt_iff hp).mpr ⟨orphan, live, e, h, he, rfl, rfl⟩)

theorem plannedAt_spec {base : EntityId} {r : EntityRow} (h : S.PlannedAt R₁ base r) :
    (∃ orphan, S.Pair base orphan r) ∧ ∀ e, S.AfterLegacy r e → ∀ orphan live e',
      S.Pair base orphan live → S.AfterLegacy live e' → suffixRank e ≤ suffixRank e' := by
  obtain ⟨hr, m, hm, rfl, e, he, hx⟩ := h
  obtain ⟨orphan, live, e₁, hpair, he₁, -, hy, hlowest⟩ := merge_of_plan hp hm
  have hlive := (Registries.mem_entriesForConfigEntry.mp hpair.liveRow).1
  obtain rfl := he.eq_of_moved hr hlive he₁ (hx.symm.trans hy)
  refine ⟨⟨orphan, hpair⟩, fun e' he' orphan' live' e₂ hpair' he₂ => ?_⟩
  rw [he'.unique he₁]
  exact hlowest orphan' live' e₂ hpair' he₂

omit hp in
theorem plannedAt_unique {base : EntityId} {r r' : EntityRow} (h : S.PlannedAt R₁ base r)
    (h' : S.PlannedAt R₁ base r') : r = r' := by
  obtain ⟨hr, m, hm, hbase, e, he, hx⟩ := h
  obtain ⟨hr', m', hm', hbase', e', he', hx'⟩ := h'
  have heq : m = m' := List.inj_on_of_nodup_map (merges_nodup R₁ S.entryId S.entry) hm hm'
    (hbase.trans hbase'.symm)
  subst heq
  exact he.eq_of_moved hr hr' he' (hx.symm.trans hx')

theorem choice_exists : ∃ c : Choice S, c.MadeIn R₁ := by
  have hex : ∀ base, ∃ o : Option EntityRow, ∀ r, o = some r ↔ S.PlannedAt R₁ base r := by
    intro base
    by_cases h : ∃ r, S.PlannedAt R₁ base r
    · obtain ⟨r, hr⟩ := h
      refine ⟨some r, fun r' => ?_⟩
      rw [Option.some.injEq]
      exact ⟨fun he => he ▸ hr, plannedAt_unique hr⟩
    · exact ⟨none, fun r => ⟨fun he => absurd he (Option.some_ne_none r).symm, fun hr => absurd ⟨r, hr⟩ h⟩⟩
  choose pick hpick using hex
  refine ⟨⟨pick, ?_, ?_, ?_⟩, hpick⟩
  · intro base r h
    exact (plannedAt_spec hp ((hpick base r).mp h)).1
  · intro base r e h he
    exact (plannedAt_spec hp ((hpick base r).mp h)).2 e he
  · intro base orphan live h
    obtain ⟨m, hm, hbase⟩ := plan_of_pair hp h
    obtain ⟨_, live', e, hpair, he, -, hy, -⟩ := merge_of_plan hp hm
    exact ⟨live', (hpick base live').mpr ⟨(Registries.mem_entriesForConfigEntry.mp hpair.liveRow).1, m, hm,
      hbase, e, he, hy⟩⟩

theorem merged_iff_gone {r : EntityRow} {e : EntityId} (hr : r ∈ S.registries.rows)
    (he : S.AfterLegacy r e) :
    (∃ m ∈ getOrphanBaseSuffixMerges R₁ S.entryId S.entry none, moved r e = m.1) ↔ S.Gone r := by
  constructor
  · rintro ⟨m, hm, hx⟩
    obtain ⟨orphan, live, _, hpair, -, hm₁, -⟩ := merge_of_plan hp hm
    have horphan := (Registries.mem_entriesForConfigEntry.mp hpair.orphanRow).1
    rw [he.eq_of_moved hr horphan hpair.holds (hx.trans hm₁)]
    exact ⟨m.2.2, live, hpair⟩
  · rintro ⟨base, live, hpair⟩
    obtain ⟨m, hm, rfl⟩ := plan_of_pair hp hpair
    obtain ⟨orphan, _, _, hpair', -, hm₁, -⟩ := merge_of_plan hp hm
    have horphan := (Registries.mem_entriesForConfigEntry.mp hpair'.orphanRow).1
    refine ⟨m, hm, ?_⟩
    rw [hm₁, he.unique hpair.holds, hpair.holds.row_unique hr horphan hpair'.holds]

end FirstPass

theorem pick_iff {c : Choice S} {R₁ : Registries} (hc : c.MadeIn R₁) {r : EntityRow}
    {e e' : EntityId} (hr : r ∈ S.registries.rows) (he : S.AfterLegacy r e) :
    c.pick e' = some r ↔ ∃ m ∈ getOrphanBaseSuffixMerges R₁ S.entryId S.entry none,
      moved r e = m.2.1 ∧ e' = m.2.2 := by
  rw [hc e' r]
  constructor
  · rintro ⟨-, m, hm, rfl, e₁, he₁, hx⟩
    exact ⟨m, hm, by rw [hx, he.unique he₁], rfl⟩
  · rintro ⟨m, hm, hx, rfl⟩
    exact ⟨hr, m, hm, rfl, e, he, hx.symm⟩

theorem Pair.base_valid {valid : EntityId → Prop} (hv : S.ValidIds valid) {base : EntityId}
    {orphan live : EntityRow} (h : S.Pair base orphan live) : valid base := by
  rcases h.holds with hmove | ⟨-, rfl⟩
  · exact hv.expected orphan (Registries.mem_entriesForConfigEntry.mp h.orphanRow).1 base hmove.spec.2.1
  · exact hv.rows orphan (Registries.mem_entriesForConfigEntry.mp h.orphanRow).1

theorem afterMerge_exists {c : Choice S} (r : EntityRow) : ∃ e, c.AfterMerge r e := by
  by_cases h : ∃ base, c.pick base = some r
  · obtain ⟨base, hpick⟩ := h
    exact ⟨base, Or.inl hpick⟩
  · obtain ⟨e, he⟩ := AfterLegacy.exists (S := S) r
    exact ⟨e, Or.inr ⟨he, not_exists.mp h⟩⟩

structure Merged (c : Choice S) (R : Registries) : Prop where
  rows : ∀ x, x ∈ R.rows ↔ ∃ r ∈ S.registries.rows, ¬ S.Gone r ∧ ∃ e, c.AfterMerge r e ∧ x = moved r e
  devices : ∀ d, d ∈ R.devices ↔ d ∈ S.registries.devices

structure Cleared (c : Choice S) (R : Registries) : Prop where
  rows : ∀ x, x ∈ R.rows ↔ ∃ r e, S.Remains r ∧ c.AfterMerge r e ∧ S.Kept (moved r e) x
  devices : ∀ d, d ∈ R.devices ↔ d ∈ S.registries.devices ∧ ¬ S.Empties d

section Passes

variable {σ : Type} {calls : RegistryCalls σ} (w : Willing calls) {s : σ}

include w

theorem legacyPass_placed (hexpected : ∀ r ∈ S.registries.rows, ∀ e,
      expectedEntityIdForRegistryEntry S.slugify S.registries r = some e → calls.validEntityId e)
    (hs : calls.view s = S.registries) :
    Placed S.registries (calls.view (repairLegacyEntityObjectIds calls S.slugify S.entryId s).2)
      (fun _ => False) S.LegacyMove := by
  have hplan : ∀ p ∈ getLegacyEntityObjectIdRepairs S.registries S.entryId S.slugify,
      p.1 ∈ S.registries.rows ∧ expectedEntityIdForRegistryEntry S.slugify S.registries p.1 = some p.2 ∧
        S.registries.Free p.2 := by
    intro p hp
    obtain ⟨hrow, hexpected, -, hfree⟩ := mem_legacyRepairs.mp hp
    exact ⟨(Registries.mem_entriesForConfigEntry.mp hrow).1, hexpected, hfree⟩
  have hplaced := renameAll_placed w (getLegacyEntityObjectIdRepairs S.registries S.entryId S.slugify)
    (legacyRepairs_nodup _ _ _) (fun p hp => (expected_domain (hplan p hp).2.1).symm)
    (fun p hp => hexpected p.1 (hplan p hp).1 p.2 (hplan p hp).2.1)
    (fun p hp q hq he => (hplan p hp).2.2 q.1 (hplan q hq).1 he.symm) s
    fun p hp => hs ▸ (hplan p hp).1
  rw [hs] at hplaced
  rw [repairLegacyEntityObjectIds, hs]
  exact hplaced.congr (fun _ _ => Iff.rfl) fun r _ e =>
    and_iff_right_of_imp fun h : S.LegacyMove r e => h.spec.2.2.2

theorem mergePass_merged (hv : S.ValidIds calls.validEntityId)
    (hp : Placed S.registries (calls.view s) (fun _ => False) S.LegacyMove) (uids : Finset String) :
    ∃ c : Choice S, c.MadeIn (calls.view s) ∧ Merged c (calls.view (mergeAll calls
      (getOrphanBaseSuffixMerges (calls.view s) S.entryId S.entry none) uids s).2.2) := by
  obtain ⟨c, hc⟩ := choice_exists hp
  have hplaced := mergeAll_placed w (getOrphanBaseSuffixMerges (calls.view s) S.entryId S.entry none)
    (merges_nodup _ _ _)
    (fun m hm => ⟨(merge_spec hm).1.holds, (merge_spec hm).1.suffixed⟩)
    (fun m hm => by
      obtain ⟨_, _, _, hpair, -⟩ := merge_of_plan hp hm
      exact hpair.base_valid hv)
    (fun m hm m' hm' he => (merge_spec hm).1.orphaned.not_listed (he ▸ (merge_spec hm').1.listed)) uids s
    fun m hm => ⟨(Registries.mem_entriesForConfigEntry.mp (merge_spec hm).1.orphanRow).1,
      (Registries.mem_entriesForConfigEntry.mp (merge_spec hm).1.liveRow).1⟩
  refine ⟨c, hc, fun x => (hplaced.rows x).trans ?_, fun d => (hplaced.devices d).trans (hp.devices d)⟩
  constructor
  · rintro ⟨y, hy, hnot, hcase⟩
    obtain ⟨r, hr, e, he, rfl⟩ := (mem_rows_afterLegacy hp).mp hy
    rw [merged_iff_gone hp hr he] at hnot
    refine ⟨r, hr, hnot, ?_⟩
    rcases hcase with ⟨e', hmove, rfl⟩ | ⟨hmove, rfl⟩
    · exact ⟨e', Or.inl ((pick_iff hc hr he).mpr hmove), rfl⟩
    · exact ⟨e, Or.inr ⟨he, fun e' h => hmove e' ((pick_iff hc hr he).mp h)⟩, rfl⟩
  · rintro ⟨r, hr, hstays, e', hmove, rfl⟩
    obtain ⟨e, he⟩ := AfterLegacy.exists (S := S) r
    refine ⟨moved r e, (mem_rows_afterLegacy hp).mpr ⟨r, hr, e, he, rfl⟩, ?_, ?_⟩
    · rwa [merged_iff_gone hp hr he]
    · rcases hmove with hpick | ⟨he', hnot⟩
      · exact Or.inl ⟨e', (pick_iff hc hr he).mp hpick, rfl⟩
      · rw [he'.unique he]
        exact Or.inr ⟨fun e' h => hnot e' ((pick_iff hc hr he).mpr h), rfl⟩

omit w in
theorem named_iff (hp : Placed S.registries (calls.view s) (fun _ => False) S.LegacyMove)
    (order : IterationOrder) (d : DeviceRow) :
    (∃ uid ∈ order.toList (mergeAll calls
        (getOrphanBaseSuffixMerges (calls.view s) S.entryId S.entry none) ∅ s).2.1,
        [domain, S.entryId, uid] ∈ d.identifiers) ↔
      ∃ orphan uid, S.Gone orphan ∧ connectionUidFromEntityUniqueId orphan.uniqueId = some uid ∧
        [domain, S.entryId, uid] ∈ d.identifiers := by
  constructor
  · rintro ⟨uid, huid, hid⟩
    rw [mem_toList, mergeAll_uids, or_iff_right (Finset.notMem_empty uid)] at huid
    obtain ⟨m, hm, huid⟩ := huid
    obtain ⟨orphan, live, _, hpair, -, hm₁, -⟩ := merge_of_plan hp hm
    rw [hm₁] at huid
    exact ⟨orphan, uid, ⟨m.2.2, live, hpair⟩, huid, hid⟩
  · rintro ⟨orphan, uid, ⟨base, live, hpair⟩, huid, hid⟩
    obtain ⟨m, hm, rfl⟩ := plan_of_pair hp hpair
    obtain ⟨orphan', _, _, hpair', -, hm₁, -⟩ := merge_of_plan hp hm
    have heq := hpair.holds.row_unique (Registries.mem_entriesForConfigEntry.mp hpair.orphanRow).1
      (Registries.mem_entriesForConfigEntry.mp hpair'.orphanRow).1 hpair'.holds
    refine ⟨uid, ?_, hid⟩
    rw [mem_toList, mergeAll_uids, or_iff_right (Finset.notMem_empty uid)]
    exact ⟨m, hm, by rw [hm₁, ← heq]; exact huid⟩

omit w in
theorem emptied_iff {c : Choice S} {R : Registries} (hm : Merged c R) {named : DeviceRow → Prop}
    (hnamed : ∀ d, named d ↔ ∃ orphan uid, S.Gone orphan ∧
      connectionUidFromEntityUniqueId orphan.uniqueId = some uid ∧ [domain, S.entryId, uid] ∈ d.identifiers)
    (d : DeviceRow) : Emptied R named d ↔ S.Empties d := by
  constructor
  · intro h
    refine ⟨(hm.devices d).mp h.device, (hnamed d).mp h.named, fun f hf hatt => ?_⟩
    by_cases hgone : S.Gone f
    · exact Or.inr hgone
    · obtain ⟨e, he⟩ := afterMerge_exists (c := c) f
      exact Or.inl (h.disabled (moved f e) ((hm.rows _).mpr ⟨f, hf, hgone, e, he, rfl⟩) hatt)
  · intro h
    refine ⟨(hm.devices d).mpr h.device, (hnamed d).mpr h.ofOrphan, fun x hx hatt => ?_⟩
    obtain ⟨f, hf, hgone, e, -, rfl⟩ := (hm.rows x).mp hx
    exact (h.leftOver f hf hatt).resolve_right hgone

omit w in
theorem cleared_of_cleaned {c : Choice S} {R R₂ : Registries} (hm : Merged c R) {named : DeviceRow → Prop}
    (hemptied : ∀ d, Emptied R named d ↔ S.Empties d) (hc : Cleaned R R₂ named) : Cleared c R₂ := by
  refine ⟨fun x => ?_, fun d => ?_⟩
  · rw [hc.rows]
    simp only [Swept, WasOn, hemptied, Kept]
    constructor
    · rintro ⟨y, hy, hswept, hcase⟩
      obtain ⟨r, hr, hgone, e, he, rfl⟩ := (hm.rows y).mp hy
      push Not at hswept
      refine ⟨r, e, ⟨hr, hgone, hswept⟩, he, ?_⟩
      push Not at hcase
      exact hcase
    · rintro ⟨r, e, hr, he, hcase⟩
      refine ⟨moved r e, (hm.rows _).mpr ⟨r, hr.row, hr.notGone, e, he, rfl⟩, ?_, ?_⟩
      · push Not
        exact hr.notLost
      · push Not
        exact hcase
  · rw [hc.devices, hm.devices, hemptied]

/-- The merge pass with the removal of devices at its end. -/
theorem mergeRepair_cleared (hv : S.ValidIds calls.validEntityId) (order : IterationOrder)
    (hp : Placed S.registries (calls.view s) (fun _ => False) S.LegacyMove) :
    ∃ c : Choice S, c.MadeIn (calls.view s) ∧ ∃ k s₂,
      repairOrphanBaseSuffixMerges calls order S.entryId S.entry none s = (.ok k, s₂) ∧
        Cleared c (calls.view s₂) := by
  obtain ⟨c, hmade, hm⟩ := mergePass_merged w hv hp ∅
  obtain ⟨s₂, hrun, hclean⟩ := repairOrphanBaseSuffixMerges_ok w order S.entryId S.entry none s
  exact ⟨c, hmade, _, s₂, hrun, cleared_of_cleaned hm (emptied_iff hm (named_iff hp order)) hclean⟩

end Passes

end Start

end FritzboxVpn.RepairMoves
