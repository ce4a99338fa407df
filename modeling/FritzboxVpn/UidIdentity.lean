import FritzboxVpn.Constants
import FritzboxVpn.JsonValue
import FritzboxVpn.KeyMatching
import FritzboxVpn.Text
import Mathlib.Data.List.Pairwise

namespace FritzboxVpn.UidIdentity

open Constants JsonValue OrderedDict KeyMatching Text

def entityUniqueId (connectionUid : String) (suffix : UniqueIdSuffix) : String :=
  uniqueIdPrefix ++ connectionUid ++ "_" ++ suffix.token

/-- One pass over a set of UIDs, in the order the set is iterated, that files
each under its trimmed name. The two passes of the remap decision differ in
where the names come from and in the reasons they give up with. -/
def indexByName (nameOf : String → Option String) (missing duplicate : String) :
    List String → Dict String String → Except String (Dict String String)
  | [], byName => .ok byName
  | uid :: uids, byName =>
      match nameOf uid with
      | none => .error missing
      | some name =>
          if strip name = "" then .error missing
          else match byName.get? (strip name) with
            | some _ => .error duplicate
            | none => indexByName nameOf missing duplicate uids (byName.insert (strip name) uid)

def payloadName (reprContainer : Json → String) (newPayloads : Dict String Json)
    (uid : String) : Option String :=
  match (newPayloads.get? uid).bind asDict with
  | none => none
  | some payload => (field payload apiKeyName).map (pyStr reprContainer)

def nameBijectionUidRemap (reprContainer : Json → String) (oldUids newUids : List String)
    (oldNames : Dict String String) (newPayloads : Dict String Json) :
    Except String (Dict String String) :=
  if oldUids = [] ∨ newUids = [] ∨ (∃ uid ∈ oldUids, uid ∈ newUids) then
    .error "sets_overlap_or_empty"
  else
    match indexByName oldNames.get? "missing_old_name" "duplicate_old_name" oldUids Dict.empty with
    | .error reason => .error reason
    | .ok oldByName =>
        match indexByName (payloadName reprContainer newPayloads) "missing_new_name"
            "duplicate_new_name" newUids Dict.empty with
        | .error reason => .error reason
        | .ok newByName =>
            if oldByName.keys ≠ newByName.keys then .error "name_sets_differ"
            else .ok (Dict.ofList (oldByName.entries.filterMap
              fun p => (newByName.get? p.1).map fun new => (p.2, new)))

def trimmed (nameOf : String → Option String) (uid : String) : Option String :=
  (nameOf uid).bind fun name => if strip name = "" then none else some (strip name)

theorem indexByName_cons (nameOf : String → Option String) (missing duplicate : String)
    (uid : String) (uids : List String) (byName : Dict String String) :
    indexByName nameOf missing duplicate (uid :: uids) byName =
      match trimmed nameOf uid with
      | none => .error missing
      | some name => match byName.get? name with
          | some _ => .error duplicate
          | none => indexByName nameOf missing duplicate uids (byName.insert name uid) := by
  rw [indexByName, trimmed]
  cases nameOf uid with
  | none => rfl
  | some name => by_cases hs : strip name = "" <;> simp [hs]

theorem indexByName_ok {nameOf : String → Option String} {missing duplicate : String}
    {uids : List String} {byName r : Dict String String}
    (h : indexByName nameOf missing duplicate uids byName = .ok r) :
    (∀ uid ∈ uids, ∃ name, trimmed nameOf uid = some name ∧ byName.get? name = none) ∧
      uids.Pairwise (fun u v => trimmed nameOf u ≠ trimmed nameOf v) ∧
      ∀ name uid, r.get? name = some uid ↔
        byName.get? name = some uid ∨ (uid ∈ uids ∧ trimmed nameOf uid = some name) := by
  induction uids generalizing byName with
  | nil =>
      rw [indexByName, Except.ok.injEq] at h
      subst h
      simp
  | cons uid uids ih =>
      rw [indexByName_cons] at h
      cases hn : trimmed nameOf uid with
      | none => simp [hn] at h
      | some name =>
          cases hb : byName.get? name with
          | some other => simp [hn, hb] at h
          | none =>
              simp only [hn, hb] at h
              obtain ⟨hall, hpair, hget⟩ := ih h
              have hnew : ∀ v ∈ uids, trimmed nameOf v ≠ some name := by
                intro v hv he
                obtain ⟨n, hvn, hfree⟩ := hall v hv
                rw [he, Option.some.injEq] at hvn
                subst hvn
                simp at hfree
              refine ⟨?_, ?_, ?_⟩
              · intro v hv
                rcases List.mem_cons.mp hv with rfl | hv
                · exact ⟨name, hn, hb⟩
                · obtain ⟨n, hvn, hfree⟩ := hall v hv
                  have hne : n ≠ name := fun he => hnew v hv (he ▸ hvn)
                  exact ⟨n, hvn, by rwa [Dict.get?_insert_ne _ hne] at hfree⟩
              · refine List.pairwise_cons.mpr ⟨fun v hv he => ?_, hpair⟩
                exact hnew v hv (he.symm.trans hn)
              · intro n v
                rw [hget, Dict.get?_insert]
                by_cases hne : n = name
                · subst hne
                  rw [if_pos rfl, hb]
                  constructor
                  · rintro (he | ⟨hv, hvn⟩)
                    · cases he
                      exact Or.inr ⟨List.mem_cons_self, hn⟩
                    · exact absurd hvn (hnew v hv)
                  · rintro (he | ⟨hv, hvn⟩)
                    · cases he
                    · rcases List.mem_cons.mp hv with rfl | hv
                      · exact Or.inl rfl
                      · exact absurd hvn (hnew v hv)
                · rw [if_neg hne]
                  have hv : v = uid → trimmed nameOf v ≠ some n := by
                    rintro rfl he
                    rw [hn, Option.some.injEq] at he
                    exact hne he.symm
                  simp only [List.mem_cons]
                  tauto

theorem indexByName_exists (missing duplicate : String) {nameOf : String → Option String}
    {uids : List String} (byName : Dict String String)
    (hall : ∀ uid ∈ uids, ∃ name, trimmed nameOf uid = some name ∧ byName.get? name = none)
    (hpair : uids.Pairwise (fun u v => trimmed nameOf u ≠ trimmed nameOf v)) :
    ∃ r, indexByName nameOf missing duplicate uids byName = .ok r := by
  induction uids generalizing byName with
  | nil => exact ⟨byName, rfl⟩
  | cons uid uids ih =>
      obtain ⟨name, hn, hb⟩ := hall uid List.mem_cons_self
      obtain ⟨hnew, hpair⟩ := List.pairwise_cons.mp hpair
      rw [indexByName_cons, hn]
      simp only [hb]
      apply ih _ _ hpair
      intro v hv
      obtain ⟨n, hvn, hfree⟩ := hall v (List.mem_cons_of_mem uid hv)
      have hne : n ≠ name := by
        rintro rfl
        exact hnew v hv (hn.trans hvn.symm)
      exact ⟨n, hvn, by rw [Dict.get?_insert_ne _ hne, hfree]⟩

theorem pairwise_iff_injective {nameOf : String → Option String} {uids : List String}
    (hn : uids.Nodup) :
    uids.Pairwise (fun u v => trimmed nameOf u ≠ trimmed nameOf v) ↔
      ∀ u ∈ uids, ∀ v ∈ uids, trimmed nameOf u = trimmed nameOf v → u = v := by
  constructor
  · intro h u hu v hv he
    have : Std.Symm (fun u v => trimmed nameOf u ≠ trimmed nameOf v) := ⟨fun _ _ h => Ne.symm h⟩
    by_contra hne
    exact h.forall hu hv hne he
  · intro h
    exact hn.pairwise_of_forall_ne fun u hu v hv hne he => hne (h u hu v hv he)

section Bijection

variable {reprContainer : Json → String} {oldUids newUids : List String}
  {oldNames : Dict String String} {newPayloads : Dict String Json}

/-- What a mapping returned by the remap decision is: the names match the old
UIDs with the new ones one to one, and the mapping follows the names. -/
structure NamesMatch (reprContainer : Json → String) (oldUids newUids : List String)
    (oldNames : Dict String String) (newPayloads : Dict String Json)
    (mapping : Dict String String) : Prop where
  old_nonempty : oldUids ≠ []
  disjoint : ∀ uid ∈ oldUids, uid ∉ newUids
  matching : Matching oldUids.toFinset newUids.toFinset (trimmed oldNames.get?)
    (trimmed (payloadName reprContainer newPayloads))
  get?_iff : ∀ old new, mapping.get? old = some new ↔ old ∈ oldUids ∧ new ∈ newUids ∧
    trimmed oldNames.get? old = trimmed (payloadName reprContainer newPayloads) new

theorem nameBijectionUidRemap_ok (ho : oldUids.Nodup) (hn : newUids.Nodup)
    {mapping : Dict String String}
    (h : nameBijectionUidRemap reprContainer oldUids newUids oldNames newPayloads = .ok mapping) :
    NamesMatch reprContainer oldUids newUids oldNames newPayloads mapping := by
  rw [nameBijectionUidRemap] at h
  split at h
  next => cases h
  next hempty =>
    push Not at hempty
    obtain ⟨hone, hnne, hdisj⟩ := hempty
    split at h
    next => cases h
    next oldByName hold =>
      split at h
      next => cases h
      next newByName hnew =>
        split at h
        next => cases h
        next hkeys =>
          rw [not_not] at hkeys
          rw [Except.ok.injEq] at h
          obtain ⟨hoall, hopair, hoget⟩ := indexByName_ok hold
          obtain ⟨hnall, hnpair, hnget⟩ := indexByName_ok hnew
          simp only [Dict.get?_empty, reduceCtorEq, false_or] at hoget hnget
          have hoinj := (pairwise_iff_injective ho).mp hopair
          have hninj := (pairwise_iff_injective hn).mp hnpair
          have hmem : ∀ old new, (old, new) ∈ oldByName.entries.filterMap
              (fun p => (newByName.get? p.1).map fun new => (p.2, new)) ↔
              old ∈ oldUids ∧ new ∈ newUids ∧ trimmed oldNames.get? old =
                trimmed (payloadName reprContainer newPayloads) new := by
            intro old new
            simp only [List.mem_filterMap, Option.map_eq_some_iff, Prod.mk.injEq, Prod.exists,
              Dict.mem_entries_iff, hoget, hnget]
            constructor
            · rintro ⟨name, uid, ⟨hu, hun⟩, new', ⟨hnew', hnn⟩, rfl, rfl⟩
              exact ⟨hu, hnew', hun.trans hnn.symm⟩
            · rintro ⟨hu, hnew', he⟩
              obtain ⟨name, hname, -⟩ := hoall old hu
              exact ⟨name, old, ⟨hu, hname⟩, new, ⟨hnew', he.symm.trans hname⟩, rfl, rfl⟩
          refine ⟨hone, hdisj, ⟨?_, ?_, ?_, ?_, ?_⟩, ?_⟩
          · intro u hu
            obtain ⟨name, hname, -⟩ := hoall u (List.mem_toFinset.mp hu)
            exact ⟨name, hname⟩
          · intro u hu
            obtain ⟨name, hname, -⟩ := hnall u (List.mem_toFinset.mp hu)
            exact ⟨name, hname⟩
          · simpa only [List.mem_toFinset] using hoinj
          · simpa only [List.mem_toFinset] using hninj
          · intro name
            have hk := congrArg (name ∈ ·) hkeys
            simpa only [Dict.mem_keys_iff, hoget, hnget, List.mem_toFinset, eq_iff_iff] using hk
          · intro old new
            rw [← h, Dict.get?_ofList, hmem]
            rintro ⟨u, v⟩ huv ⟨u', v'⟩ huv' rfl
            obtain ⟨-, hv, he⟩ := (hmem u v).mp huv
            obtain ⟨-, hv', he'⟩ := (hmem u v').mp huv'
            exact hninj v hv v' hv' (he.symm.trans he')

/-- The decision gives a mapping wherever the names match. -/
theorem nameBijectionUidRemap_exists (ho : oldUids.Nodup) (hn : newUids.Nodup)
    (hone : oldUids ≠ []) (hdisj : ∀ uid ∈ oldUids, uid ∉ newUids)
    (hm : Matching oldUids.toFinset newUids.toFinset (trimmed oldNames.get?)
      (trimmed (payloadName reprContainer newPayloads))) :
    ∃ mapping,
      nameBijectionUidRemap reprContainer oldUids newUids oldNames newPayloads = .ok mapping := by
  have hnne : newUids ≠ [] := by
    intro he
    obtain ⟨u, hu⟩ := List.exists_mem_of_ne_nil _ hone
    obtain ⟨v, hv, -⟩ := hm.partner (List.mem_toFinset.mpr hu)
    simp [he] at hv
  have hoinj := hm.left_injective
  have hninj := hm.right_injective
  simp only [List.mem_toFinset] at hoinj hninj
  obtain ⟨oldByName, hold⟩ := indexByName_exists "missing_old_name" "duplicate_old_name" Dict.empty
    (fun u hu => (hm.left_labelled u (List.mem_toFinset.mpr hu)).imp fun _ h => ⟨h, rfl⟩)
    ((pairwise_iff_injective ho).mpr hoinj)
  obtain ⟨newByName, hnew⟩ := indexByName_exists "missing_new_name" "duplicate_new_name" Dict.empty
    (fun u hu => (hm.right_labelled u (List.mem_toFinset.mpr hu)).imp fun _ h => ⟨h, rfl⟩)
    ((pairwise_iff_injective hn).mpr hninj)
  have hkeys : oldByName.keys = newByName.keys := by
    ext name
    have hs := hm.same_labels name
    simpa only [Dict.mem_keys_iff, (indexByName_ok hold).2.2, (indexByName_ok hnew).2.2,
      Dict.get?_empty, reduceCtorEq, false_or, List.mem_toFinset] using hs
  rw [nameBijectionUidRemap, if_neg (by push Not; exact ⟨hone, hnne, hdisj⟩), hold, hnew]
  simp [hkeys]

variable {mapping : Dict String String}

theorem NamesMatch.keys_eq (h : NamesMatch reprContainer oldUids newUids oldNames newPayloads mapping)
    (old : String) : old ∈ mapping.keys ↔ old ∈ oldUids := by
  rw [Dict.mem_keys_iff]
  constructor
  · rintro ⟨new, hnew⟩
    exact ((h.get?_iff old new).mp hnew).1
  · intro ho
    obtain ⟨new, hnew, he⟩ := h.matching.partner (List.mem_toFinset.mpr ho)
    exact ⟨new, (h.get?_iff old new).mpr ⟨ho, List.mem_toFinset.mp hnew, he⟩⟩

theorem NamesMatch.injective (h : NamesMatch reprContainer oldUids newUids oldNames newPayloads mapping)
    {old old' new : String} (ho : mapping.get? old = some new) (ho' : mapping.get? old' = some new) :
    old = old' := by
  obtain ⟨hu, -, he⟩ := (h.get?_iff old new).mp ho
  obtain ⟨hu', -, he'⟩ := (h.get?_iff old' new).mp ho'
  exact h.matching.left_injective old (List.mem_toFinset.mpr hu) old' (List.mem_toFinset.mpr hu')
    (he.trans he'.symm)

end Bijection

end FritzboxVpn.UidIdentity
