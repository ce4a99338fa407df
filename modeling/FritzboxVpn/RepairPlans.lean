import FritzboxVpn.EntityRepairs
import Mathlib.Data.Prod.Lex
import Mathlib.Data.String.Basic

namespace FritzboxVpn.RepairPlans

open EntityIds EntityRepairs HomeAssistant OrderedDict RegistryRows UniqueIdCodec

variable {R : Registries} {entryId : String}

theorem rows_nodup (R : Registries) : R.rows.Nodup := List.Nodup.of_map _ R.rowIds_nodup

theorem mem_legacyRepairs {slugify : String → String} {r : EntityRow} {target : EntityId} :
    (r, target) ∈ getLegacyEntityObjectIdRepairs R entryId slugify ↔
      r ∈ R.asyncEntriesForConfigEntry entryId ∧
        expectedEntityIdForRegistryEntry slugify R r = some target ∧ r.entityId ≠ target ∧ R.Free target := by
  rw [getLegacyEntityObjectIdRepairs, List.mem_filterMap]
  constructor
  · rintro ⟨e, he, h⟩
    split at h
    next => cases h
    next t ht =>
      split at h
      next => cases h
      next hne =>
        split at h
        next => cases h
        next hget =>
          cases h
          rw [Bool.not_eq_true, Option.isSome_eq_false_iff, Option.isNone_iff_eq_none] at hget
          exact ⟨he, ht, hne, Registries.asyncGet_eq_none.mp hget⟩
  · rintro ⟨hr, ht, hne, hfree⟩
    refine ⟨r, hr, ?_⟩
    simp only [ht, if_neg hne, Registries.asyncGet_eq_none.mpr hfree, Option.isSome_none,
      Bool.false_eq_true, if_false]

theorem map_filterMap_sublist {α β γ : Type} {f : α → Option β} {g : β → γ} {key : α → γ}
    (h : ∀ a b, f a = some b → g b = key a) (l : List α) :
    ((l.filterMap f).map g).Sublist (l.map key) := by
  induction l with
  | nil => exact List.Sublist.refl []
  | cons a l ih =>
      rw [List.filterMap_cons, List.map_cons]
      split
      next => exact ih.cons (key a)
      next b hb =>
        rw [List.map_cons, h a b hb]
        exact ih.cons_cons (key a)

theorem legacyRepairs_nodup (R : Registries) (entryId : String) (slugify : String → String) :
    ((getLegacyEntityObjectIdRepairs R entryId slugify).map Prod.fst).Nodup := by
  have hrows : ((R.asyncEntriesForConfigEntry entryId).map id).Nodup := by
    rw [List.map_id]
    exact (rows_nodup R).filter _
  refine hrows.sublist (map_filterMap_sublist (fun r p h => ?_) _)
  split at h
  next => cases h
  next =>
    split at h
    next => cases h
    next =>
      split at h
      next => cases h
      next =>
        cases h
        rfl

section Suffixes

def suffixedOver (base : EntityId) (entries : List EntityRow) : List EntityRow :=
  entries.filter fun e => entityIdBase e.entityId = some base

theorem get?_suffixedByBase (entries : List EntityRow) (base : EntityId) :
    (suffixedByBase entries).get? base =
      if suffixedOver base entries = [] then none else some (suffixedOver base entries) := by
  induction entries using List.reverseRecOn with
  | nil => rfl
  | append_singleton entries e ih =>
      rw [suffixedByBase, List.foldl_append, List.foldl_cons, List.foldl_nil, addSuffixed]
      have hover : suffixedOver base (entries ++ [e]) = suffixedOver base entries ++
          if entityIdBase e.entityId = some base then [e] else [] := by
        simp only [suffixedOver, List.filter_append, List.filter_singleton, Bool.cond_decide]
      rw [hover]
      split
      next hnone =>
        rw [hnone, if_neg (Option.some_ne_none base).symm, List.append_nil]
        exact ih
      next b hb =>
        rw [hb]
        by_cases hbase : base = b
        · subst hbase
          rw [Dict.get?_insert_self, if_pos rfl, if_neg (List.append_ne_nil_of_right_ne_nil _ (List.cons_ne_nil e []))]
          change some (((suffixedByBase entries).get? base).getD [] ++ [e]) = _
          rw [ih]
          split
          next hnil => rw [hnil, Option.getD_none]
          next => rw [Option.getD_some]
        · rw [Dict.get?_insert_ne _ hbase, if_neg fun h => hbase (Option.some.inj h).symm, List.append_nil]
          exact ih

def sortKey (e : EntityRow) : ℕ ×ₗ String := toLex (suffixRank e.entityId, entityIdText e.entityId)

theorem comesBefore_iff {e f : EntityRow} : comesBefore e f = true ↔ sortKey e < sortKey f := by
  simp [comesBefore, sortKey, Prod.Lex.lt_iff]

/-- Over one base no two ids compare equal. -/
theorem entityId_of_sortKey {e f : EntityRow} {base : EntityId} (he : entityIdBase e.entityId = some base)
    (hf : entityIdBase f.entityId = some base) (h : sortKey e = sortKey f) : e.entityId = f.entityId := by
  have hdomain : e.entityId.domain = f.entityId.domain :=
    (entityIdBase_domain he).symm.trans (entityIdBase_domain hf)
  have htext : entityIdText e.entityId = entityIdText f.entityId := congrArg (fun k => (ofLex k).2) h
  have hobject : e.entityId.objectId = f.entityId.objectId := by
    apply String.toList_inj.mp
    have hlist := congrArg String.toList htext
    simpa only [entityIdText, hdomain, String.toList_append, List.append_cancel_left_eq] using hlist
  calc e.entityId = ⟨e.entityId.domain, e.entityId.objectId⟩ := rfl
    _ = ⟨f.entityId.domain, f.entityId.objectId⟩ := by rw [hdomain, hobject]
    _ = f.entityId := rfl

/-- The fold goes down in the order. -/
theorem preferred_fold (es : List EntityRow) (e : EntityRow) :
    es.foldl (fun best f => if comesBefore f best then f else best) e ∈ e :: es ∧
      ∀ f ∈ e :: es, sortKey (es.foldl (fun best f => if comesBefore f best then f else best) e) ≤
        sortKey f := by
  induction es generalizing e with
  | nil => exact ⟨List.mem_cons_self, by simp⟩
  | cons x es ih =>
      rw [List.foldl_cons]
      have hmin : sortKey (if comesBefore x e then x else e) ≤ sortKey e ∧
          sortKey (if comesBefore x e then x else e) ≤ sortKey x := by
        split
        next h => exact ⟨(comesBefore_iff.mp h).le, le_rfl⟩
        next h => exact ⟨le_rfl, not_lt.mp fun hlt => h (comesBefore_iff.mpr hlt)⟩
      obtain ⟨hmem, hle⟩ := ih (if comesBefore x e then x else e)
      have hhead := hle _ List.mem_cons_self
      refine ⟨?_, fun f hf => ?_⟩
      · rcases List.mem_cons.mp hmem with heq | hes
        · rw [heq]
          split
          · exact List.mem_cons_of_mem _ List.mem_cons_self
          · exact List.mem_cons_self
        · exact List.mem_cons_of_mem _ (List.mem_cons_of_mem _ hes)
      · rcases List.mem_cons.mp hf with rfl | hf
        · exact hhead.trans hmin.1
        · rcases List.mem_cons.mp hf with rfl | hf
          · exact hhead.trans hmin.2
          · exact hle f (List.mem_cons_of_mem _ hf)

theorem preferredEntry_spec {es : List EntityRow} {r : EntityRow} (h : preferredEntry es = some r) :
    r ∈ es ∧ ∀ f ∈ es, ¬ comesBefore f r = true := by
  cases es with
  | nil => cases h
  | cons e es =>
      cases h
      obtain ⟨hmem, hle⟩ := preferred_fold es e
      exact ⟨hmem, fun f hf hlt => not_lt.mpr (hle f hf) (comesBefore_iff.mp hlt)⟩

theorem preferredEntry_isSome {es : List EntityRow} (h : es ≠ []) : ∃ r, preferredEntry es = some r := by
  cases es with
  | nil => exact absurd rfl h
  | cons e es => exact ⟨_, rfl⟩

theorem mem_suffixRepairs {r : EntityRow} {base : EntityId} {flag : Bool} :
    (r, base, flag) ∈ getEntityIdSuffixRepairs R entryId false ↔
      flag = false ∧ R.Free base ∧
        suffixedOver base (R.asyncEntriesForConfigEntry entryId) ≠ [] ∧
          preferredEntry (suffixedOver base (R.asyncEntriesForConfigEntry entryId)) = some r := by
  rw [getEntityIdSuffixRepairs, List.mem_filterMap]
  constructor
  · rintro ⟨⟨b, es⟩, hp, h⟩
    rw [Dict.mem_entries_iff, get?_suffixedByBase] at hp
    split at hp
    next => cases hp
    next hne =>
      cases hp
      split at h
      next => cases h
      next preferred hpref =>
        split at h
        next =>
          split at h
          next => cases h
          next => cases h
        next hbase =>
          split at h
          next => cases h
          next hget =>
            cases h
            rw [Bool.not_eq_true, Option.isSome_eq_false_iff, Option.isNone_iff_eq_none] at hget
            exact ⟨rfl, Registries.asyncGet_eq_none.mp hget, hne, hpref⟩
  · rintro ⟨rfl, hfree, hne, hpref⟩
    refine ⟨(base, suffixedOver base (R.asyncEntriesForConfigEntry entryId)), ?_, ?_⟩
    · rw [Dict.mem_entries_iff, get?_suffixedByBase, if_neg hne]
    · have hnone : (R.asyncEntriesForConfigEntry entryId).find? (fun e => e.entityId = base) = none := by
        rw [List.find?_eq_none]
        intro e he
        simpa using hfree e (Registries.mem_entriesForConfigEntry.mp he).1
      simp only [hpref, hnone, Registries.asyncGet_eq_none.mpr hfree, Option.isSome_none,
        Bool.false_eq_true, if_false]

theorem mem_suffixedOver {base : EntityId} {entries : List EntityRow} {e : EntityRow} :
    e ∈ suffixedOver base entries ↔ e ∈ entries ∧ entityIdBase e.entityId = some base := by
  simp [suffixedOver]

/-- A planned row is the first one over a base that is free. -/
theorem suffixRepair_spec {p : EntityRow × EntityId × Bool}
    (h : p ∈ getEntityIdSuffixRepairs R entryId false) :
    p.2.2 = false ∧ R.Free p.2.1 ∧ p.1 ∈ R.asyncEntriesForConfigEntry entryId ∧
      entityIdBase p.1.entityId = some p.2.1 ∧
        ∀ f ∈ R.asyncEntriesForConfigEntry entryId, entityIdBase f.entityId = some p.2.1 →
          ¬ comesBefore f p.1 = true := by
  obtain ⟨hflag, hfree, -, hpref⟩ := mem_suffixRepairs.mp h
  obtain ⟨hmem, hmin⟩ := preferredEntry_spec hpref
  obtain ⟨hrow, hbase⟩ := mem_suffixedOver.mp hmem
  exact ⟨hflag, hfree, hrow, hbase, fun f hf hb => hmin f (mem_suffixedOver.mpr ⟨hf, hb⟩)⟩

/-- The row planned for a free base is the first one over it. -/
theorem mem_suffixRepairs_iff_first {r : EntityRow} {base : EntityId} :
    (r, base, false) ∈ getEntityIdSuffixRepairs R entryId false ↔
      R.Free base ∧ r ∈ R.asyncEntriesForConfigEntry entryId ∧ entityIdBase r.entityId = some base ∧
        ∀ f ∈ R.asyncEntriesForConfigEntry entryId, entityIdBase f.entityId = some base →
          ¬ comesBefore f r = true := by
  constructor
  · exact fun h => (suffixRepair_spec h).2
  · rintro ⟨hfree, hr, hbase, hfirst⟩
    have hne := List.ne_nil_of_mem (mem_suffixedOver.mpr ⟨hr, hbase⟩)
    obtain ⟨f, hf⟩ := preferredEntry_isSome hne
    have hplan := mem_suffixRepairs.mpr ⟨rfl, hfree, hne, hf⟩
    obtain ⟨-, -, hfrow, hfbase, hffirst⟩ := suffixRepair_spec hplan
    have hle := hffirst r hr hbase
    have hge := hfirst f hfrow hfbase
    rw [comesBefore_iff, not_lt] at hle hge
    have heq := entityId_of_sortKey hfbase hbase (le_antisymm hle hge)
    have hfr : f = r := Registries.eq_of_entityId (Registries.mem_entriesForConfigEntry.mp hfrow).1
      (Registries.mem_entriesForConfigEntry.mp hr).1 heq
    rwa [hfr] at hplan

theorem suffixRepair_exists {r : EntityRow} {base : EntityId}
    (hr : r ∈ R.asyncEntriesForConfigEntry entryId) (hbase : entityIdBase r.entityId = some base)
    (hfree : R.Free base) : ∃ e, (e, base, false) ∈ getEntityIdSuffixRepairs R entryId false := by
  have hne := List.ne_nil_of_mem (mem_suffixedOver.mpr ⟨hr, hbase⟩)
  obtain ⟨e, he⟩ := preferredEntry_isSome hne
  exact ⟨e, mem_suffixRepairs.mpr ⟨rfl, hfree, hne, he⟩⟩

theorem suffixRepairs_bases_nodup (R : Registries) (entryId : String) (allowReplaceBase : Bool) :
    ((getEntityIdSuffixRepairs R entryId allowReplaceBase).map fun p => p.2.1).Nodup := by
  refine (suffixedByBase (R.asyncEntriesForConfigEntry entryId)).nodup.sublist
    (map_filterMap_sublist (fun q p h => ?_) _)
  split at h
  next => cases h
  next =>
    split at h
    next =>
      split at h
      next => cases h
      next =>
        split at h
        next =>
          cases h
          rfl
        next => cases h
    next =>
      split at h
      next => cases h
      next =>
        cases h
        rfl

/-- A planned row is of the entry, and over a base that is free, or that a row of
the entry holds where this one is removed first. -/
theorem suffixRepair_planned {allowReplaceBase : Bool} {p : EntityRow × EntityId × Bool}
    (h : p ∈ getEntityIdSuffixRepairs R entryId allowReplaceBase) :
    p.1 ∈ R.rows ∧ entityIdBase p.1.entityId = some p.2.1 ∧
      (p.2.2 = true → ∃ b ∈ R.rows, b.entityId = p.2.1) ∧ (p.2.2 = false → R.Free p.2.1) := by
  obtain ⟨⟨base, es⟩, hes, h⟩ := List.mem_filterMap.mp h
  rw [Dict.mem_entries_iff, get?_suffixedByBase] at hes
  split at hes
  next => cases hes
  next =>
    cases hes
    split at h
    next => cases h
    next preferred hpref =>
      obtain ⟨hrow, hover⟩ := mem_suffixedOver.mp (preferredEntry_spec hpref).1
      have hrow := (Registries.mem_entriesForConfigEntry.mp hrow).1
      split at h
      next baseEntry hbase =>
        have hb := (Registries.mem_entriesForConfigEntry.mp (List.mem_of_find?_eq_some hbase)).1
        have hid : baseEntry.entityId = base := by simpa using List.find?_some hbase
        split at h
        next => cases h
        next =>
          split at h
          next =>
            cases h
            exact ⟨hrow, hover, fun _ => ⟨baseEntry, hb, hid⟩, fun hf => by cases hf⟩
          next => cases h
      next =>
        split at h
        next => cases h
        next hget =>
          cases h
          rw [Bool.not_eq_true, Option.isSome_eq_false_iff, Option.isNone_iff_eq_none] at hget
          exact ⟨hrow, hover, fun hf => (by cases hf), fun _ => Registries.asyncGet_eq_none.mp hget⟩

def suffixRenames (R : Registries) (entryId : String) : List (EntityRow × EntityId) :=
  (getEntityIdSuffixRepairs R entryId false).map fun p => (p.1, p.2.1)

theorem mem_suffixRenames {r : EntityRow} {base : EntityId} :
    (r, base) ∈ suffixRenames R entryId ↔ (r, base, false) ∈ getEntityIdSuffixRepairs R entryId false := by
  rw [suffixRenames, List.mem_map]
  constructor
  · rintro ⟨⟨r, base, flag⟩, hp, he⟩
    cases he
    obtain rfl : flag = false := (suffixRepair_spec hp).1
    exact hp
  · exact fun hp => ⟨_, hp, rfl⟩

theorem suffixRename_spec {p : EntityRow × EntityId} (h : p ∈ suffixRenames R entryId) :
    p.1 ∈ R.rows ∧ p.1.configEntryId = some entryId ∧ entityIdBase p.1.entityId = some p.2 ∧ R.Free p.2 := by
  obtain ⟨-, hfree, hrow, hbase, -⟩ := suffixRepair_spec (mem_suffixRenames.mp h)
  obtain ⟨hr, hof⟩ := Registries.mem_entriesForConfigEntry.mp hrow
  exact ⟨hr, hof, hbase, hfree⟩

theorem suffixRenames_bases_nodup (R : Registries) (entryId : String) :
    ((suffixRenames R entryId).map Prod.snd).Nodup := by
  rw [suffixRenames, List.map_map]
  exact suffixRepairs_bases_nodup R entryId false

/-- A row is numbered over one base, so it is renamed once. -/
theorem suffixRenames_rows_nodup (R : Registries) (entryId : String) :
    ((suffixRenames R entryId).map Prod.fst).Nodup := by
  refine List.Nodup.of_map (fun r : EntityRow => entityIdBase r.entityId) ?_
  have hover : ((suffixRenames R entryId).map Prod.fst).map (fun r : EntityRow => entityIdBase r.entityId) =
      ((suffixRenames R entryId).map Prod.snd).map some := by
    rw [List.map_map, List.map_map]
    exact List.map_congr_left fun p hp => (suffixRename_spec hp).2.2.1
  rw [hover]
  exact (suffixRenames_bases_nodup R entryId).map (Option.some_injective _)

end Suffixes

section Merges

variable {entry : Option LiveEntry}

def Orphaned (entry : Option LiveEntry) (r : EntityRow) : Prop :=
  ∃ currentUids uid, resolveCurrentUids entry = .ok currentUids ∧
    connectionUidFromEntityUniqueId r.uniqueId = some uid ∧ uid ∉ currentUids

def Listed (entry : Option LiveEntry) (r : EntityRow) : Prop :=
  ∃ currentUids uid, resolveCurrentUids entry = .ok currentUids ∧
    connectionUidFromEntityUniqueId r.uniqueId = some uid ∧ uid ∈ currentUids

theorem Orphaned.not_listed {r : EntityRow} (h : Orphaned entry r) : ¬ Listed entry r := by
  rintro ⟨currentUids', uid', hres', huid', hin⟩
  obtain ⟨currentUids, uid, hres, huid, hout⟩ := h
  rw [hres'] at hres
  rw [huid'] at huid
  cases hres
  cases huid
  exact hout hin

/-- An orphan at a base, and a listed row over it. -/
structure PairAt (R : Registries) (entryId : String) (entry : Option LiveEntry) (base : EntityId)
    (orphan live : EntityRow) : Prop where
  orphanRow : orphan ∈ R.asyncEntriesForConfigEntry entryId
  liveRow : live ∈ R.asyncEntriesForConfigEntry entryId
  holds : orphan.entityId = base
  suffixed : entityIdBase live.entityId = some base
  orphaned : Orphaned entry orphan
  listed : Listed entry live

theorem find?_entityId {r : EntityRow} (hr : r ∈ R.asyncEntriesForConfigEntry entryId) :
    (R.asyncEntriesForConfigEntry entryId).find? (fun e => e.entityId = r.entityId) = some r := by
  cases h : (R.asyncEntriesForConfigEntry entryId).find? (fun e => e.entityId = r.entityId) with
  | none => exact absurd (decide_eq_true rfl) (List.find?_eq_none.mp h r hr)
  | some e =>
      have he := Registries.mem_entriesForConfigEntry.mp (List.mem_of_find?_eq_some h)
      have hid : e.entityId = r.entityId := by simpa using List.find?_some h
      rw [Registries.eq_of_entityId he.1 (Registries.mem_entriesForConfigEntry.mp hr).1 hid]

theorem orphanBaseSuffixPair_iff {currentUids : Finset String}
    (hres : resolveCurrentUids entry = .ok currentUids) {live : EntityRow}
    (hlive : live ∈ R.asyncEntriesForConfigEntry entryId) {m : EntityRow × EntityRow × EntityId} :
    orphanBaseSuffixPair R entryId currentUids live = some m ↔
      m.2.1 = live ∧ PairAt R entryId entry m.2.2 m.1 live := by
  rw [orphanBaseSuffixPair]
  constructor
  · intro h
    obtain ⟨base, hbase, h⟩ := Option.bind_eq_some_iff.mp h
    obtain ⟨orphan, hfind, h⟩ := Option.bind_eq_some_iff.mp h
    have horphan := List.mem_of_find?_eq_some hfind
    have hholds : orphan.entityId = base := by simpa using List.find?_some hfind
    split at h
    next => cases h
    next =>
      split at h
      next baseUid liveUid hb hl =>
        split at h
        next => cases h
        next hn =>
          cases h
          push Not at hn
          exact ⟨rfl, horphan, hlive, hholds, hbase, ⟨currentUids, baseUid, hres, hb, hn.1⟩,
            ⟨currentUids, liveUid, hres, hl, hn.2.1⟩⟩
      next => cases h
  · obtain ⟨orphan, live', base⟩ := m
    rintro ⟨rfl, hpair⟩
    obtain ⟨currentUids₁, baseUid, hres₁, hb, hout⟩ := hpair.orphaned
    obtain ⟨currentUids₂, liveUid, hres₂, hl, hin⟩ := hpair.listed
    rw [hres] at hres₁ hres₂
    cases hres₁
    cases hres₂
    have hfind := find?_entityId hpair.orphanRow
    rw [hpair.holds] at hfind
    have hof := (Registries.mem_entriesForConfigEntry.mp hpair.orphanRow).2
    have hsame : ¬ (baseUid ∈ currentUids ∨ liveUid ∉ currentUids ∨ baseUid = liveUid) := by
      rintro (h | h | h)
      · exact hout h
      · exact h hin
      · exact hout (h ▸ hin)
    simp only at hb hl hof
    simp only [hpair.suffixed, Option.bind_some, hfind, hof, ne_eq, not_true_eq_false, if_false, hb, hl,
      if_neg hsame]

/-- Per base the fold keeps a pair with the lowest number. -/
theorem preferLowest_fold (ms : List (EntityRow × EntityRow × EntityId)) (base : EntityId) :
    (∀ v, (ms.foldl preferLowest Dict.empty).get? base = some v →
        (v.1, v.2, base) ∈ ms ∧ ∀ m ∈ ms, m.2.2 = base → suffixRank v.2.entityId ≤ suffixRank m.2.1.entityId) ∧
      ((ms.foldl preferLowest Dict.empty).get? base = none → ∀ m ∈ ms, m.2.2 ≠ base) := by
  induction ms using List.reverseRecOn with
  | nil => exact ⟨fun v h => by simp at h, by simp⟩
  | append_singleton ms m ih =>
      obtain ⟨ihsome, ihnone⟩ := ih
      rw [List.foldl_append, List.foldl_cons, List.foldl_nil]
      generalize ms.foldl preferLowest Dict.empty = d at ihsome ihnone ⊢
      by_cases hbase : m.2.2 = base
      · subst hbase
        rw [preferLowest]
        split
        next hnone =>
          rw [Dict.get?_insert_self]
          refine ⟨fun v h => ?_, fun h => by cases h⟩
          cases h
          refine ⟨by simp, fun m' hm' hb' => ?_⟩
          rcases List.mem_append.mp hm' with hm' | hm'
          · exact absurd hb' (ihnone hnone m' hm')
          · rw [List.mem_singleton.mp hm']
        next orphan previous hsome =>
          obtain ⟨hmem, hle⟩ := ihsome _ hsome
          split
          next hlt =>
            rw [Dict.get?_insert_self]
            refine ⟨fun v h => ?_, fun h => by cases h⟩
            cases h
            refine ⟨by simp, fun m' hm' hb' => ?_⟩
            rcases List.mem_append.mp hm' with hm' | hm'
            · exact hlt.le.trans (hle m' hm' hb')
            · rw [List.mem_singleton.mp hm']
          next hge =>
            rw [hsome]
            refine ⟨fun v h => ?_, fun h => by cases h⟩
            cases h
            refine ⟨List.mem_append_left _ hmem, fun m' hm' hb' => ?_⟩
            rcases List.mem_append.mp hm' with hm' | hm'
            · exact hle m' hm' hb'
            · rw [List.mem_singleton.mp hm']
              exact not_lt.mp hge
      · have hget : (preferLowest d m).get? base = d.get? base := by
          rw [preferLowest]
          split
          next => exact Dict.get?_insert_ne _ (Ne.symm hbase) _
          next =>
            split
            next => exact Dict.get?_insert_ne _ (Ne.symm hbase) _
            next => rfl
        rw [hget]
        refine ⟨fun v h => ⟨List.mem_append_left _ (ihsome v h).1, fun m' hm' hb' => ?_⟩, fun h m' hm' => ?_⟩
        · rcases List.mem_append.mp hm' with hm' | hm'
          · exact (ihsome v h).2 m' hm' hb'
          · rw [List.mem_singleton.mp hm'] at hb'
            exact absurd hb' hbase
        · rcases List.mem_append.mp hm' with hm' | hm'
          · exact ihnone h m' hm'
          · rw [List.mem_singleton.mp hm']
            exact hbase

/-- A planned merge is of a pair whose listed row has the lowest number. -/
theorem merge_spec {m : EntityRow × EntityRow × EntityId}
    (h : m ∈ getOrphanBaseSuffixMerges R entryId entry none) :
    PairAt R entryId entry m.2.2 m.1 m.2.1 ∧
      ∀ orphan live, PairAt R entryId entry m.2.2 orphan live →
        suffixRank m.2.1.entityId ≤ suffixRank live.entityId := by
  rw [getOrphanBaseSuffixMerges] at h
  split at h
  next => cases h
  next currentUids hres =>
    obtain ⟨⟨base, v⟩, hp, rfl⟩ := List.mem_map.mp h
    obtain ⟨hmem, hle⟩ := (preferLowest_fold _ base).1 v (Dict.mem_entries_iff.mp hp)
    obtain ⟨live, hlive, hpair⟩ := List.mem_filterMap.mp hmem
    obtain ⟨rfl, hpair⟩ := (orphanBaseSuffixPair_iff hres hlive).mp hpair
    refine ⟨hpair, fun orphan live' hother => ?_⟩
    exact hle (orphan, live', base) (List.mem_filterMap.mpr ⟨live', hother.liveRow,
      (orphanBaseSuffixPair_iff hres hother.liveRow).mpr ⟨rfl, hother⟩⟩) rfl

theorem merge_exists {base : EntityId} {orphan live : EntityRow}
    (h : PairAt R entryId entry base orphan live) :
    ∃ m ∈ getOrphanBaseSuffixMerges R entryId entry none, m.2.2 = base := by
  obtain ⟨currentUids, uid, hres, -⟩ := h.orphaned
  have hmem := List.mem_filterMap.mpr ⟨live, h.liveRow,
    (orphanBaseSuffixPair_iff (m := (orphan, live, base)) hres h.liveRow).mpr ⟨rfl, h⟩⟩
  rw [getOrphanBaseSuffixMerges]
  simp only [hres, orphanBaseSuffixMerges]
  cases hget : (((R.asyncEntriesForConfigEntry entryId).filterMap
      (orphanBaseSuffixPair R entryId currentUids)).foldl preferLowest Dict.empty).get? base with
  | none => exact absurd rfl ((preferLowest_fold _ base).2 hget _ hmem)
  | some v => exact ⟨_, List.mem_map_of_mem (Dict.mem_entries_iff.mpr hget), rfl⟩

theorem merges_nodup (R : Registries) (entryId : String) (entry : Option LiveEntry) :
    ((getOrphanBaseSuffixMerges R entryId entry none).map fun m => m.2.2).Nodup := by
  rw [getOrphanBaseSuffixMerges]
  split
  next => exact List.nodup_nil
  next currentUids hres =>
    rw [orphanBaseSuffixMerges, List.map_map]
    exact Dict.nodup _

end Merges

end FritzboxVpn.RepairPlans
