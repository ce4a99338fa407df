import Mathlib.Data.Finset.Basic
import Mathlib.Data.List.Nodup

namespace FritzboxVpn.OrderedDict

variable {κ ν : Type} [DecidableEq κ]

/-- A dictionary that remembers the order in which its keys were inserted.
No key occurs twice. -/
structure Dict (κ ν : Type) where
  entries : List (κ × ν)
  nodup : (entries.map Prod.fst).Nodup

omit [DecidableEq κ] in
@[ext]
theorem Dict.ext {d e : Dict κ ν} (h : d.entries = e.entries) : d = e := by
  cases d; cases e; cases h; rfl

instance [DecidableEq ν] : DecidableEq (Dict κ ν) := fun _ _ =>
  decidable_of_iff _ Dict.ext_iff.symm

theorem lookup_cons_ite (p : κ × ν) (l : List (κ × ν)) (x : κ) :
    (p :: l).lookup x = if x = p.1 then some p.2 else l.lookup x := by
  obtain ⟨k, v⟩ := p
  by_cases hx : x = k
  · simp [hx]
  · simp [List.lookup_cons, hx, beq_eq_false_iff_ne.mpr hx]

def setEntry (k : κ) (v : ν) : List (κ × ν) → List (κ × ν)
  | [] => [(k, v)]
  | (k', v') :: rest => if k' = k then (k, v) :: rest else (k', v') :: setEntry k v rest

theorem mem_setEntry_fst (k : κ) (v : ν) (l : List (κ × ν)) (x : κ) :
    x ∈ (setEntry k v l).map Prod.fst ↔ x = k ∨ x ∈ l.map Prod.fst := by
  induction l with
  | nil => simp [setEntry]
  | cons p l ih =>
      obtain ⟨k', v'⟩ := p
      by_cases hk : k' = k
      · subst hk; simp [setEntry]
      · simp only [setEntry, hk, if_false, List.map_cons, List.mem_cons, ih]
        tauto

theorem nodup_setEntry (k : κ) (v : ν) (l : List (κ × ν)) (h : (l.map Prod.fst).Nodup) :
    ((setEntry k v l).map Prod.fst).Nodup := by
  induction l with
  | nil => simp [setEntry]
  | cons p l ih =>
      obtain ⟨k', v'⟩ := p
      simp only [List.map_cons, List.nodup_cons] at h
      by_cases hk : k' = k
      · subst hk; simpa [setEntry] using h
      · rw [setEntry, if_neg hk, List.map_cons, List.nodup_cons, mem_setEntry_fst]
        exact ⟨not_or.mpr ⟨hk, h.1⟩, ih h.2⟩

theorem lookup_setEntry (k : κ) (v : ν) (l : List (κ × ν)) (x : κ) :
    (setEntry k v l).lookup x = if x = k then some v else l.lookup x := by
  induction l with
  | nil => rw [setEntry, lookup_cons_ite]
  | cons p l ih =>
      obtain ⟨k', v'⟩ := p
      by_cases hk : k' = k
      · subst hk
        by_cases hx : x = k' <;> simp [setEntry, lookup_cons_ite, hx]
      · by_cases hx : x = k'
        · subst hx; simp [setEntry, hk]
        · simp [setEntry, hk, lookup_cons_ite, hx, ih]

theorem setEntry_of_mem {k : κ} {v : ν} {l : List (κ × ν)} (hn : (l.map Prod.fst).Nodup)
    (h : (k, v) ∈ l) : setEntry k v l = l := by
  induction l with
  | nil => simp at h
  | cons p l ih =>
      obtain ⟨k', v'⟩ := p
      rw [List.map_cons, List.nodup_cons] at hn
      rcases List.mem_cons.mp h with he | h
      · cases he
        simp [setEntry]
      · have hm : k ∈ l.map Prod.fst := List.mem_map_of_mem (f := Prod.fst) h
        have hk : k' ≠ k := fun he => hn.1 (he ▸ hm)
        rw [setEntry, if_neg hk, ih hn.2 h]

theorem setEntry_of_notMem {k : κ} {l : List (κ × ν)} (h : k ∉ l.map Prod.fst) (v : ν) :
    setEntry k v l = l ++ [(k, v)] := by
  induction l with
  | nil => rfl
  | cons p l ih =>
      obtain ⟨k', v'⟩ := p
      rw [List.map_cons, List.mem_cons, not_or] at h
      rw [setEntry, if_neg (Ne.symm h.1), ih h.2, List.cons_append]

namespace Dict

def empty : Dict κ ν := ⟨[], List.nodup_nil⟩

def get? (d : Dict κ ν) (k : κ) : Option ν := d.entries.lookup k

def keys (d : Dict κ ν) : Finset κ := ⟨(d.entries.map Prod.fst : Multiset κ), d.nodup⟩

def isEmpty (d : Dict κ ν) : Bool := d.entries.isEmpty

/-- Assignment keeps the position of a key that is already there. -/
def insert (d : Dict κ ν) (k : κ) (v : ν) : Dict κ ν :=
  ⟨setEntry k v d.entries, nodup_setEntry k v d.entries d.nodup⟩

def erase (d : Dict κ ν) (k : κ) : Dict κ ν :=
  ⟨d.entries.filter (fun p => p.1 ≠ k),
    (List.filter_sublist.map Prod.fst).nodup d.nodup⟩

def ofList (l : List (κ × ν)) : Dict κ ν := l.foldl (fun d p => d.insert p.1 p.2) empty

@[simp]
theorem get?_empty (k : κ) : (empty : Dict κ ν).get? k = none := rfl

omit [DecidableEq κ] in
@[simp]
theorem keys_empty : (empty : Dict κ ν).keys = ∅ := rfl

omit [DecidableEq κ] in
theorem mem_keys {d : Dict κ ν} {k : κ} : k ∈ d.keys ↔ k ∈ d.entries.map Prod.fst := Iff.rfl

theorem get?_insert (d : Dict κ ν) (k : κ) (v : ν) (x : κ) :
    (d.insert k v).get? x = if x = k then some v else d.get? x :=
  lookup_setEntry k v d.entries x

@[simp]
theorem get?_insert_self (d : Dict κ ν) (k : κ) (v : ν) : (d.insert k v).get? k = some v := by
  simp [get?_insert]

theorem get?_insert_ne (d : Dict κ ν) {k x : κ} (h : x ≠ k) (v : ν) :
    (d.insert k v).get? x = d.get? x := by
  simp [get?_insert, h]

@[simp]
theorem keys_insert (d : Dict κ ν) (k : κ) (v : ν) :
    (d.insert k v).keys = Insert.insert k d.keys := by
  ext x
  rw [Finset.mem_insert]
  exact mem_setEntry_fst k v d.entries x

theorem mem_entries_iff {d : Dict κ ν} {k : κ} {v : ν} : (k, v) ∈ d.entries ↔ d.get? k = some v := by
  obtain ⟨l, hn⟩ := d
  induction l with
  | nil => simp [get?]
  | cons p l ih =>
      obtain ⟨k', v'⟩ := p
      simp only [List.map_cons, List.nodup_cons] at hn
      have ih := ih hn.2
      simp only [get?] at ih
      by_cases hk : k = k'
      · subst hk
        have hl : (k, v) ∉ l := fun h => hn.1 (List.mem_map_of_mem (f := Prod.fst) h)
        simp [get?, hl, eq_comm]
      · simp [get?, lookup_cons_ite, hk, ih]

theorem snd_eq {d : Dict κ ν} {p q : κ × ν} (hp : p ∈ d.entries) (hq : q ∈ d.entries)
    (h : p.1 = q.1) : p.2 = q.2 := by
  have hp' := mem_entries_iff.mp hp
  rw [h, mem_entries_iff.mp hq] at hp'
  exact (Option.some.inj hp').symm

theorem mem_keys_iff {d : Dict κ ν} {k : κ} : k ∈ d.keys ↔ ∃ v, d.get? k = some v := by
  rw [mem_keys]
  constructor
  · intro h
    obtain ⟨⟨k', v⟩, hp, rfl⟩ := List.mem_map.mp h
    exact ⟨v, mem_entries_iff.mp hp⟩
  · rintro ⟨v, h⟩
    exact List.mem_map_of_mem (f := Prod.fst) (mem_entries_iff.mpr h)

theorem get?_eq_none_iff {d : Dict κ ν} {k : κ} : d.get? k = none ↔ k ∉ d.keys := by
  rw [mem_keys_iff, Option.eq_none_iff_forall_ne_some]
  simp

theorem eq_empty_iff {d : Dict κ ν} : d = empty ↔ ∀ k, d.get? k = none := by
  constructor
  · rintro rfl k
    rfl
  · intro h
    apply Dict.ext
    apply List.eq_nil_iff_forall_not_mem.mpr
    rintro ⟨k, v⟩ hm
    rw [mem_entries_iff, h k] at hm
    cases hm

theorem get?_erase (d : Dict κ ν) (k x : κ) :
    (d.erase k).get? x = if x = k then none else d.get? x := by
  by_cases hx : x = k
  · subst hx
    rw [if_pos rfl, get?_eq_none_iff, mem_keys]
    simp [erase]
  · rw [if_neg hx]
    apply Option.ext
    intro v
    rw [← mem_entries_iff, ← mem_entries_iff]
    simp [erase, hx]

@[simp]
theorem keys_erase (d : Dict κ ν) (k : κ) : (d.erase k).keys = d.keys.erase k := by
  ext x
  rw [mem_keys_iff, Finset.mem_erase, mem_keys_iff]
  by_cases hx : x = k <;> simp [get?_erase, hx]

omit [DecidableEq κ] in
theorem isEmpty_iff {d : Dict κ ν} : d.isEmpty = true ↔ d.keys = ∅ := by
  obtain ⟨l, hn⟩ := d
  cases l with
  | nil => simp [isEmpty, keys]
  | cons p l =>
      simp only [isEmpty, List.isEmpty_cons, Bool.false_eq_true, false_iff]
      intro h
      have hp : p.1 ∈ (⟨p :: l, hn⟩ : Dict κ ν).keys := by simp [mem_keys]
      rw [h] at hp
      exact Finset.notMem_empty _ hp

theorem get?_foldl_insert (l : List (κ × ν)) (hl : ∀ p ∈ l, ∀ q ∈ l, p.1 = q.1 → p.2 = q.2)
    (d : Dict κ ν) (x : κ) (v : ν) :
    (l.foldl (fun d p => d.insert p.1 p.2) d).get? x = some v ↔
      (x, v) ∈ l ∨ (x ∉ l.map Prod.fst ∧ d.get? x = some v) := by
  induction l generalizing d with
  | nil => simp
  | cons p l ih =>
      have ht : ∀ q ∈ l, ∀ r ∈ l, q.1 = r.1 → q.2 = r.2 := fun q hq r hr =>
        hl q (List.mem_cons_of_mem p hq) r (List.mem_cons_of_mem p hr)
      rw [List.foldl_cons, ih ht, get?_insert]
      by_cases hx : x = p.1
      · subst hx
        have hv : ∀ w, (p.1, w) ∈ l → w = p.2 := fun w hw =>
          hl _ (List.mem_cons_of_mem p hw) p List.mem_cons_self rfl
        constructor
        · rintro (h | ⟨-, h⟩)
          · exact Or.inl (List.mem_cons_of_mem p h)
          · rw [if_pos rfl, Option.some.injEq] at h
            subst h
            exact Or.inl List.mem_cons_self
        · rintro (h | ⟨h, -⟩)
          · rcases List.mem_cons.mp h with h | h
            · have hp : v = p.2 := congrArg Prod.snd h
              by_cases hm : p.1 ∈ l.map Prod.fst
              · obtain ⟨q, hq, hqp⟩ := List.mem_map.mp hm
                have hw : q.2 = p.2 := hv q.2 (hqp ▸ hq)
                left
                have he : q = (p.1, v) := Prod.ext hqp (hw.trans hp.symm)
                exact he ▸ hq
              · exact Or.inr ⟨hm, by simp [hp]⟩
            · exact Or.inl h
          · exact absurd (by simp) h
      · have hp : (x, v) ≠ p := fun h => hx (congrArg Prod.fst h)
        simp [hx, hp]

/-- Where no key is assigned two values, the dictionary holds the assignments. -/
theorem get?_ofList {l : List (κ × ν)} (hl : ∀ p ∈ l, ∀ q ∈ l, p.1 = q.1 → p.2 = q.2)
    {x : κ} {v : ν} : (ofList l).get? x = some v ↔ (x, v) ∈ l := by
  rw [ofList, get?_foldl_insert l hl]
  simp

theorem ofList_entries (d : Dict κ ν) (x : κ) : (ofList d.entries).get? x = d.get? x := by
  apply Option.ext
  intro v
  rw [get?_ofList fun p hp q hq h => snd_eq hp hq h]
  exact mem_entries_iff

theorem insert_of_get? {d : Dict κ ν} {k : κ} {v : ν} (h : d.get? k = some v) :
    d.insert k v = d := by
  apply Dict.ext
  exact setEntry_of_mem d.nodup (mem_entries_iff.mpr h)

theorem foldl_insert_entries (l : List (κ × ν)) (d : Dict κ ν)
    (hn : ((d.entries ++ l).map Prod.fst).Nodup) :
    (l.foldl (fun d p => d.insert p.1 p.2) d).entries = d.entries ++ l := by
  induction l generalizing d with
  | nil => simp
  | cons p l ih =>
      have hp : p.1 ∉ d.entries.map Prod.fst := by
        rw [List.map_append, List.nodup_append] at hn
        intro hm
        exact hn.2.2 p.1 hm p.1 (by simp) rfl
      have he : (d.insert p.1 p.2).entries = d.entries ++ [p] := setEntry_of_notMem hp p.2
      rw [List.foldl_cons, ih]
      · rw [he, List.append_assoc, List.singleton_append]
      · rwa [he, List.append_assoc, List.singleton_append]

@[simp]
theorem ofList_entries_eq (d : Dict κ ν) : ofList d.entries = d := by
  apply Dict.ext
  rw [ofList, foldl_insert_entries]
  · rfl
  · exact d.nodup

theorem ofList_append (l l' : List (κ × ν)) :
    ofList (l ++ l') = l'.foldl (fun d p => d.insert p.1 p.2) (ofList l) := by
  rw [ofList, List.foldl_append, ofList]

theorem keys_ofList (l : List (κ × ν)) : (ofList l).keys = (l.map Prod.fst).toFinset := by
  induction l using List.reverseRecOn with
  | nil => rfl
  | append_singleton l p ih =>
      rw [ofList_append, List.foldl_cons, List.foldl_nil, keys_insert, ih]
      ext x
      simp only [Finset.mem_insert, List.mem_toFinset, List.map_append, List.mem_append,
        List.map_singleton, List.mem_singleton]
      exact or_comm

/-- A key has the value the last assignment gives it. -/
theorem get?_ofList_last {l : List (κ × ν)} {x : κ} {v : ν} : (ofList l).get? x = some v ↔
    ∃ before after, l = before ++ (x, v) :: after ∧ x ∉ after.map Prod.fst := by
  induction l using List.reverseRecOn with
  | nil => simp [ofList]
  | append_singleton l p ih =>
      rw [ofList_append, List.foldl_cons, List.foldl_nil, get?_insert]
      by_cases hx : x = p.1
      · rw [if_pos hx, Option.some.injEq]
        constructor
        · intro hv
          exact ⟨l, [], by rw [hx, ← hv], by simp⟩
        · rintro ⟨before, after, hl, ha⟩
          rcases List.eq_nil_or_concat after with rfl | ⟨after, q, rfl⟩
          · have hp := (List.append_inj' hl rfl).2
            rw [List.cons.inj hp |>.1]
          · rw [List.concat_eq_append, ← List.cons_append, ← List.append_assoc] at hl
            have hp := List.cons.inj (List.append_inj' hl rfl).2
            rw [hx, hp.1] at ha
            simp at ha
      · rw [if_neg hx, ih]
        constructor
        · rintro ⟨before, after, rfl, ha⟩
          exact ⟨before, after ++ [p], by simp, by simpa [hx] using ha⟩
        · rintro ⟨before, after, hl, ha⟩
          rcases List.eq_nil_or_concat after with rfl | ⟨after, q, rfl⟩
          · have hp := List.cons.inj (List.append_inj' hl rfl).2
            rw [hp.1] at hx
            exact absurd rfl hx
          · rw [List.concat_eq_append, ← List.cons_append, ← List.append_assoc] at hl
            have hl' := (List.append_inj' hl rfl).1
            rw [List.concat_eq_append, List.map_append, List.mem_append, not_or] at ha
            exact ⟨before, after, hl', ha.1⟩

end Dict

end FritzboxVpn.OrderedDict
