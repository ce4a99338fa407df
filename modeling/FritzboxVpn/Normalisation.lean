import FritzboxVpn.Parsing

namespace FritzboxVpn.Normalisation

open Constants JsonValue OrderedDict Parsing Text

variable {repr : Json → String}

/-- The text an item is identified by, before it is trimmed: its own UID, or
in an object the key where that UID is missing (null counts as missing) or a
blank string. -/
inductive IdText (repr : Json → String) (c : Dict String Json) : Option String → String → Prop
  | own {dictKey : Option String} {v : Json} (hv : field c apiKeyUid = some v)
      (hb : ∀ s, v = .str s → strip s ≠ "") : IdText repr c dictKey (pyStr repr v)
  | key {k : String}
      (hv : ∀ v, field c apiKeyUid = some v → ∃ s, v = .str s ∧ strip s = "") :
      IdText repr c (some k) k

def Identifies (repr : Json → String) (item : Option String × Json) (uid : String)
    (c : Dict String Json) : Prop :=
  asDict item.2 = some c ∧ uid ≠ "" ∧ ∃ text, IdText repr c item.1 text ∧ strip text = uid

inductive Affirms : Json → Prop
  | bool : Affirms (.bool true)
  | int {n : Int} (h : n ≠ 0) : Affirms (.int n)
  | str {s : String} (h : lower (strip s) ∈ activeStateStringsTrue) : Affirms (.str s)

inductive FlagOf (c : Dict String Json) : Json → Prop
  | active {v : Json} (h : field c apiKeyActive = some v) : FlagOf c v
  | activated {v : Json} (hn : field c apiKeyActive = none)
      (h : field c apiKeyActivated = some v) : FlagOf c v

def LastNamed (repr : Json → String) (items : List (Option String × Json)) (uid : String)
    (c : Dict String Json) : Prop :=
  ∃ before item after, items = before ++ item :: after ∧ Identifies repr item uid c ∧
    ∀ later ∈ after, ∀ c', ¬ Identifies repr later uid c'

/-- The payload an entry carries: the item's own, except for its UID and its flag. -/
structure Carries (uid : String) (c entry : Dict String Json) : Prop where
  uid : entry.get? apiKeyUid = some (.str uid)
  active : ∃ b : Bool, entry.get? apiKeyActive = some (.bool b) ∧
    (b = true ↔ ∃ v, FlagOf c v ∧ Affirms v)
  rest : ∀ k, k ≠ apiKeyUid → k ≠ apiKeyActive → entry.get? k = c.get? k

theorem FlagOf.unique {fields : Dict String Json} {v v' : Json} (h : FlagOf fields v)
    (h' : FlagOf fields v') : v = v' := by
  cases h with
  | active h =>
      cases h' with
      | active h' => exact Option.some.inj (h.symm.trans h')
      | activated hn _ => rw [hn] at h; cases h
  | activated hn h =>
      cases h' with
      | active h' => rw [hn] at h'; cases h'
      | activated _ h' => exact Option.some.inj (h.symm.trans h')

theorem connectionActiveFromApi_iff (c : Dict String Json) :
    connectionActiveFromApi c = true ↔ ∃ v, FlagOf c v ∧ Affirms v := by
  have hflag : ∀ v, FlagOf c v ↔ (field c apiKeyActive).or (field c apiKeyActivated) = some v := by
    intro v
    rw [Option.or_eq_some_iff]
    constructor
    · intro h
      cases h with
      | active h => exact Or.inl h
      | activated hn h => exact Or.inr ⟨hn, h⟩
    · rintro (h | ⟨hn, h⟩)
      · exact FlagOf.active h
      · exact FlagOf.activated hn h
  simp only [hflag, connectionActiveFromApi]
  cases (field c apiKeyActive).or (field c apiKeyActivated) with
  | none => simp
  | some v =>
      simp only [Option.some.injEq, exists_eq_left']
      constructor
      · intro h
        cases v with
        | bool b =>
            obtain rfl : b = true := h
            exact Affirms.bool
        | int n => exact Affirms.int (by simpa using h)
        | str s => exact Affirms.str (by simpa using h)
        | _ => cases h
      · intro h
        cases h with
        | bool => rfl
        | int h => simpa using h
        | str h => simpa using h

def entryOf (repr : Json → String) (item : Option String × Json) : Option (String × Json) :=
  (asDict item.2).bind fun c =>
    (normalizeConnectionUid repr (rawUidOf item.1 c)).map fun uid => (uid, normalizeEntry uid c)

theorem addConnection_eq (result : Dict String Json) (item : Option String × Json) :
    addConnection repr result item =
      ((entryOf repr item).toList.foldl (fun d p => d.insert p.1 p.2) result) := by
  rw [addConnection, entryOf]
  cases asDict item.2 with
  | none => rfl
  | some c => cases h : normalizeConnectionUid repr (rawUidOf item.1 c) <;> simp [h]

/-- The map is built by the assignments of the items that have an identifier. -/
theorem normalizeBoxConnections_eq (box : Json) : normalizeBoxConnections repr box =
    Dict.ofList ((itemsWithKeys box).filterMap (entryOf repr)) := by
  have hfold : ∀ (items : List (Option String × Json)) (d : Dict String Json),
      items.foldl (addConnection repr) d =
        (items.filterMap (entryOf repr)).foldl (fun d p => d.insert p.1 p.2) d := by
    intro items
    induction items with
    | nil => exact fun _ => rfl
    | cons item items ih =>
        intro d
        rw [List.foldl_cons, ih, addConnection_eq]
        cases h : entryOf repr item with
        | none => simp [h]
        | some p => simp [h]
  exact hfold (itemsWithKeys box) Dict.empty

theorem normalizeConnectionUid_eq_some {rawUid : Option Json} {uid : String} :
    normalizeConnectionUid repr rawUid = some uid ↔
      uid ≠ "" ∧ ∃ v, rawUid = some v ∧ strip (pyStr repr v) = uid := by
  cases rawUid with
  | none => simp [normalizeConnectionUid]
  | some v =>
      simp only [normalizeConnectionUid, Option.some.injEq, exists_eq_left']
      split
      · rename_i hb
        simp only [reduceCtorEq, hb, false_iff, not_and]
        exact fun hne he => hne he.symm
      · rename_i hb
        rw [Option.some.injEq]
        constructor
        · rintro rfl
          exact ⟨hb, rfl⟩
        · exact fun h => h.2

/-- The raw UID of an item renders as the text it is identified by. A blank
one is no identifier, and the two agree about every other. -/
theorem rawUidOf_text {dictKey : Option String} {c : Dict String Json} {uid : String}
    (hne : uid ≠ "") : (∃ v, rawUidOf dictKey c = some v ∧ strip (pyStr repr v) = uid) ↔
      ∃ text, IdText repr c dictKey text ∧ strip text = uid := by
  constructor
  · rintro ⟨v, hv, hs⟩
    unfold rawUidOf at hv
    split at hv
    · rename_i hf
      cases hv
      refine ⟨_, IdText.key ?_, hs⟩
      rw [hf]
      exact fun v h => by cases h
    · rename_i s hf
      split at hv
      · rename_i hblank
        cases hv
        refine ⟨_, IdText.key ?_, hs⟩
        intro v h
        rw [hf] at h
        cases h
        exact ⟨s, rfl, hblank⟩
      · rename_i hblank
        cases hv
        refine ⟨_, IdText.own hf ?_, hs⟩
        rintro s' hs'
        cases hs'
        exact hblank
    · refine ⟨_, IdText.own hv ?_, hs⟩
      rintro s rfl hblank
      exact hne (hs.symm.trans hblank)
  · rintro ⟨text, ht, hs⟩
    cases ht with
    | @own _ v hv hb =>
        refine ⟨v, ?_, hs⟩
        unfold rawUidOf
        split
        · rename_i hf
          rw [hf] at hv
          cases hv
        · rename_i s hf
          rw [hf] at hv
          cases hv
          rw [if_neg (hb s rfl)]
        · exact hv
    | key hv =>
        refine ⟨.str text, ?_, hs⟩
        unfold rawUidOf
        cases hf : field c apiKeyUid with
        | none => rfl
        | some v =>
            obtain ⟨s, rfl, hblank⟩ := hv v hf
            simp only [if_pos hblank]

theorem entryOf_eq_some {item : Option String × Json} {uid : String} {v : Json} :
    entryOf repr item = some (uid, v) ↔
      ∃ c, Identifies repr item uid c ∧ v = normalizeEntry uid c := by
  simp only [entryOf, Option.bind_eq_some_iff, Option.map_eq_some_iff, Prod.mk.injEq]
  constructor
  · rintro ⟨c, hc, uid', hu, rfl, rfl⟩
    obtain ⟨hne, hv⟩ := normalizeConnectionUid_eq_some.mp hu
    exact ⟨c, ⟨hc, hne, (rawUidOf_text hne).mp hv⟩, rfl⟩
  · rintro ⟨c, ⟨hc, hne, ht⟩, rfl⟩
    exact ⟨c, hc, uid, normalizeConnectionUid_eq_some.mpr ⟨hne, (rawUidOf_text hne).mpr ht⟩, rfl, rfl⟩

theorem normalizeEntry_carries (uid : String) (c : Dict String Json) :
    ∃ entry, normalizeEntry uid c = .obj entry.entries ∧ Carries uid c entry := by
  refine ⟨_, rfl, ?_, ?_, ?_⟩
  · rw [Dict.get?_insert_ne _ (by decide), Dict.get?_insert_self]
  · exact ⟨_, Dict.get?_insert_self _ _ _, connectionActiveFromApi_iff c⟩
  · intro k hu ha
    rw [Dict.get?_insert_ne _ ha, Dict.get?_insert_ne _ hu]

theorem entryOf_fst {item : Option String × Json} {uid : String} :
    (∃ p, entryOf repr item = some p ∧ p.1 = uid) ↔ ∃ c, Identifies repr item uid c := by
  constructor
  · rintro ⟨⟨uid, v⟩, hp, rfl⟩
    obtain ⟨c, hc, -⟩ := entryOf_eq_some.mp hp
    exact ⟨c, hc⟩
  · rintro ⟨c, hc⟩
    exact ⟨_, entryOf_eq_some.mpr ⟨c, hc, rfl⟩, rfl⟩

theorem mem_keys_normalizeBoxConnections {box : Json} {uid : String} :
    uid ∈ (normalizeBoxConnections repr box).keys ↔
      ∃ item ∈ itemsWithKeys box, ∃ c, Identifies repr item uid c := by
  rw [normalizeBoxConnections_eq, Dict.keys_ofList, List.mem_toFinset, List.mem_map]
  simp only [List.mem_filterMap, ← entryOf_fst]
  constructor
  · rintro ⟨p, ⟨item, hi, hp⟩, hu⟩
    exact ⟨item, hi, p, hp, hu⟩
  · rintro ⟨item, hi, p, hp, hu⟩
    exact ⟨p, ⟨item, hi, hp⟩, hu⟩

theorem get?_normalizeBoxConnections {box : Json} {uid : String} {v : Json} :
    (normalizeBoxConnections repr box).get? uid = some v ↔
      ∃ c, LastNamed repr (itemsWithKeys box) uid c ∧ v = normalizeEntry uid c := by
  rw [normalizeBoxConnections_eq, Dict.get?_ofList_last]
  constructor
  · rintro ⟨before, after, hl, ha⟩
    obtain ⟨front, back, hitems, -, hback⟩ := List.filterMap_eq_append_iff.mp hl
    obtain ⟨skipped, item, rest, rfl, -, hitem, rfl⟩ := List.filterMap_eq_cons_iff.mp hback
    obtain ⟨c, hc, hv⟩ := entryOf_eq_some.mp hitem
    refine ⟨c, ⟨front ++ skipped, item, rest, by rw [hitems, List.append_assoc], hc, ?_⟩, hv⟩
    intro later hlater c' hc'
    obtain ⟨p, hp, hu⟩ := entryOf_fst.mpr ⟨c', hc'⟩
    exact ha (List.mem_map.mpr ⟨p, List.mem_filterMap.mpr ⟨later, hlater, hp⟩, hu⟩)
  · rintro ⟨c, ⟨before, item, after, hl, hc, ha⟩, hv⟩
    have hitem := entryOf_eq_some.mpr ⟨c, hc, hv⟩
    refine ⟨before.filterMap (entryOf repr), after.filterMap (entryOf repr), ?_, ?_⟩
    · rw [hl, List.filterMap_append, List.filterMap_cons_some hitem]
    · intro hm
      obtain ⟨p, hp, hu⟩ := List.mem_map.mp hm
      obtain ⟨later, hlater, hp⟩ := List.mem_filterMap.mp hp
      obtain ⟨c', hc'⟩ := entryOf_fst.mp ⟨p, hp, hu⟩
      exact ha later hlater c' hc'

theorem Identifies.trimmed {item : Option String × Json} {uid : String} {c : Dict String Json}
    (h : Identifies repr item uid c) : strip uid = uid ∧ uid ≠ "" := by
  obtain ⟨-, hne, text, -, hs⟩ := h
  exact ⟨by rw [← hs, strip_strip], hne⟩

/-- An entry of the map is filed again under its key, as it is. -/
theorem entryOf_normalizeEntry {uid : String} (hs : strip uid = uid) (hne : uid ≠ "")
    (c : Dict String Json) :
    entryOf repr (some uid, normalizeEntry uid c) = some (uid, normalizeEntry uid c) := by
  obtain ⟨entry, he, hc⟩ := normalizeEntry_carries uid c
  have hfield : field entry apiKeyUid = some (.str uid) := by rw [field, hc.uid]
  rw [entryOf_eq_some, he]
  refine ⟨entry, ⟨?_, hne, uid, ?_, hs⟩, ?_⟩
  · rw [asDict, Dict.ofList_entries_eq]
  · refine IdText.own hfield ?_
    rintro s hstr hblank
    cases hstr
    exact hne (hs.symm.trans hblank)
  · obtain ⟨b, hb, -⟩ := hc.active
    have hactive : connectionActiveFromApi entry = b := by
      simp only [connectionActiveFromApi, field, hb, Option.some_or]
    rw [normalizeEntry, hactive, Dict.insert_of_get? hc.uid, Dict.insert_of_get? hb]

theorem normalizeBoxConnections_idem (box : Json) :
    normalizeBoxConnections repr (.obj (normalizeBoxConnections repr box).entries) =
      normalizeBoxConnections repr box := by
  set result := normalizeBoxConnections repr box with hresult
  have hitem : ∀ p ∈ result.entries, entryOf repr (some p.1, p.2) = some p := by
    rintro ⟨uid, v⟩ hp
    rw [Dict.mem_entries_iff, hresult, get?_normalizeBoxConnections] at hp
    obtain ⟨c, ⟨_, item, _, _, hid, _⟩, rfl⟩ := hp
    exact entryOf_normalizeEntry hid.trimmed.1 hid.trimmed.2 c
  have hentries : (itemsWithKeys (.obj result.entries)).filterMap (entryOf repr) =
      result.entries := by
    rw [itemsWithKeys, Dict.ofList_entries_eq, List.filterMap_map]
    exact (List.filterMap_congr hitem).trans List.filterMap_some
  rw [normalizeBoxConnections_eq, hentries, Dict.ofList_entries_eq]

/-- Normalising files every identified item under its trimmed identifier, the
last one of several, and has nothing left to do on its own result. -/
theorem normalizeBoxConnections_spec (repr : Json → String) (box : Json) :
    (∀ uid, uid ∈ (normalizeBoxConnections repr box).keys ↔
      ∃ item ∈ itemsWithKeys box, ∃ c, Identifies repr item uid c) ∧
    (∀ uid v, (normalizeBoxConnections repr box).get? uid = some v →
      ∃ c entry, LastNamed repr (itemsWithKeys box) uid c ∧ v = .obj entry.entries ∧
        Carries uid c entry) ∧
    normalizeBoxConnections repr (.obj (normalizeBoxConnections repr box).entries) =
      normalizeBoxConnections repr box := by
  refine ⟨fun uid => mem_keys_normalizeBoxConnections, ?_, normalizeBoxConnections_idem box⟩
  intro uid v hv
  obtain ⟨c, hlast, rfl⟩ := get?_normalizeBoxConnections.mp hv
  obtain ⟨entry, he, hc⟩ := normalizeEntry_carries uid c
  exact ⟨c, entry, hlast, he, hc⟩

end FritzboxVpn.Normalisation
