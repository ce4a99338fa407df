import Mathlib.Data.List.DropRight
import Mathlib.Data.List.Infix

namespace FritzboxVpn.Text

def isSpace (c : Char) : Bool :=
  (9 ≤ c.toNat && c.toNat ≤ 13) || (28 ≤ c.toNat && c.toNat ≤ 32) || c.toNat == 133 ||
    c.toNat == 160 || c.toNat == 5760 || (8192 ≤ c.toNat && c.toNat ≤ 8202) ||
    c.toNat == 8232 || c.toNat == 8233 || c.toNat == 8239 || c.toNat == 8287 || c.toNat == 12288

def strip (s : String) : String :=
  String.ofList ((s.toList.dropWhile isSpace).reverse.dropWhile isSpace).reverse

/-- Lower case of the ASCII letters; the texts searched for are ASCII. -/
def lower (s : String) : String := s.map Char.toLower

def contains (needle text : String) : Bool := decide (needle.toList <:+: text.toList)

def startsWith (pre text : String) : Bool := decide (pre.toList <+: text.toList)

def endsWith (suf text : String) : Bool := decide (suf.toList <:+ text.toList)

def digitBlocks : List Nat :=
  [0x30, 0x660, 0x6F0, 0x7C0, 0x966, 0x9E6, 0xA66, 0xAE6, 0xB66, 0xBE6, 0xC66, 0xCE6, 0xD66, 0xDE6,
    0xE50, 0xED0, 0xF20, 0x1040, 0x1090, 0x17E0, 0x1810, 0x1946, 0x19D0, 0x1A80, 0x1A90, 0x1B50,
    0x1BB0, 0x1C40, 0x1C50, 0xA620, 0xA8D0, 0xA900, 0xA9D0, 0xA9F0, 0xAA50, 0xABF0, 0xFF10, 0x104A0,
    0x10D30, 0x11066, 0x110F0, 0x11136, 0x111D0, 0x112F0, 0x11450, 0x114D0, 0x11650, 0x116C0,
    0x11730, 0x118E0, 0x11950, 0x11C50, 0x11D50, 0x11DA0, 0x11F50, 0x16A60, 0x16AC0, 0x16B50,
    0x1D7CE, 0x1D7D8, 0x1D7E2, 0x1D7EC, 0x1D7F6, 0x1E140, 0x1E2F0, 0x1E4F0, 0x1E950, 0x1FBF0]

def digitValue (c : Char) : Option Nat :=
  (digitBlocks.find? fun b => b ≤ c.toNat && c.toNat < b + 10).map (c.toNat - ·)

def readDigits (value : Nat) : List Char → Option Nat
  | [] => some value
  | '_' :: c :: rest => (digitValue c).bind fun d => readDigits (10 * value + d) rest
  | c :: rest => (digitValue c).bind fun d => readDigits (10 * value + d) rest

def readNat : List Char → Option Nat
  | [] => none
  | c :: rest => (digitValue c).bind fun d => readDigits d rest

def maxStrDigits : Nat := 4300

/-- `int(text)`; none where it raises ValueError. -/
def parseInt (text : String) : Option Int :=
  let s := (strip text).toList
  if maxStrDigits < (s.filter fun c => (digitValue c).isSome).length then none
  else
    match s with
    | '-' :: digits => (readNat digits).map fun n => -(n : Int)
    | '+' :: digits => (readNat digits).map fun n => (n : Int)
    | digits => (readNat digits).map fun n => (n : Int)

theorem lower_append (a b : String) : lower (a ++ b) = lower a ++ lower b := by
  rw [← String.toList_inj]
  simp only [lower, String.toList_map, String.toList_append, List.map_append]

theorem contains_iff {needle text : String} :
    contains needle text = true ↔ needle.toList <:+: text.toList := by
  simp [contains]

/-- No text that ends before the gap and goes on behind it spells the needle. -/
theorem contains_append {needle a b : String}
    (h : ∀ l₁ l₂, l₁ ≠ [] → l₂ ≠ [] → needle.toList = l₁ ++ l₂ → l₁ <:+ a.toList →
      ¬l₂ <+: b.toList) :
    contains needle (a ++ b) = (contains needle a || contains needle b) := by
  rw [Bool.eq_iff_iff, Bool.or_eq_true, contains_iff, contains_iff, contains_iff,
    String.toList_append, List.infix_append_iff_ne_nil]
  constructor
  · rintro (ha | hb | ⟨l₁, l₂, h₁, h₂, hn, hs, hp⟩)
    · exact Or.inl ha
    · exact Or.inr hb
    · exact absurd hp (h l₁ l₂ h₁ h₂ hn hs)
  · rintro (ha | hb)
    · exact Or.inl ha
    · exact Or.inr (Or.inl hb)

/-- A character the needle lacks separates. -/
theorem contains_append_of_separator {needle a b : String} {c : Char} (hb : b.toList.head? = some c)
    (hc : c ∉ needle.toList) : contains needle (a ++ b) = (contains needle a || contains needle b) := by
  apply contains_append
  intro l₁ l₂ _ h₂ hn _ hp
  obtain ⟨d, l, rfl⟩ := List.exists_cons_of_ne_nil h₂
  have hd : d = c := by
    obtain ⟨rest, hr⟩ := hp
    rw [← hr] at hb
    exact Option.some.inj hb
  apply hc
  rw [hn, ← hd]
  exact List.mem_append_right _ List.mem_cons_self

/-- No beginning of the needle ends the text in front. -/
theorem contains_append_of_no_overlap {needle a b : String}
    (h : ∀ k, k < needle.toList.length → 0 < k → ¬needle.toList.take k <:+ a.toList) :
    contains needle (a ++ b) = (contains needle a || contains needle b) := by
  apply contains_append
  intro l₁ l₂ h₁ h₂ hn hs _
  have hl₁ := List.length_pos_iff.mpr h₁
  have hl₂ := List.length_pos_iff.mpr h₂
  have ht : needle.toList.take l₁.length = l₁ := by rw [hn, List.take_left]
  have hk : l₁.length < needle.toList.length := by
    rw [hn, List.length_append]
    omega
  exact h l₁.length hk hl₁ (by rw [ht]; exact hs)

theorem startsWith_iff {pre text : String} :
    startsWith pre text = true ↔ pre.toList <+: text.toList := by
  simp [startsWith]

theorem endsWith_iff {suf text : String} :
    endsWith suf text = true ↔ suf.toList <:+ text.toList := by
  simp [endsWith]

theorem endsWith_iff_append {suf text : String} :
    endsWith suf text = true ↔ ∃ front : String, text = front ++ suf := by
  rw [endsWith_iff]
  constructor
  · rintro ⟨front, hf⟩
    refine ⟨String.ofList front, ?_⟩
    rw [← String.toList_inj, String.toList_append, String.toList_ofList, hf]
  · rintro ⟨front, rfl⟩
    rw [String.toList_append]
    exact List.suffix_append _ _

theorem strip_toList (s : String) :
    (strip s).toList = (s.toList.dropWhile isSpace).rdropWhile isSpace := by
  rw [strip, String.toList_ofList, List.rdropWhile]

theorem strip_eq_self_iff {s : String} : strip s = s ↔
    (∀ c ∈ s.toList.head?, isSpace c = false) ∧ ∀ c ∈ s.toList.getLast?, isSpace c = false := by
  rw [← String.toList_inj, strip_toList]
  constructor
  · intro h
    have hdrop : s.toList.dropWhile isSpace = s.toList := by
      apply (List.dropWhile_sublist isSpace).eq_of_length_le
      calc s.toList.length = ((s.toList.dropWhile isSpace).rdropWhile isSpace).length := by rw [h]
        _ ≤ (s.toList.dropWhile isSpace).length := List.IsPrefix.length_le (List.rdropWhile_prefix _ _)
    rw [hdrop, List.rdropWhile_eq_self_iff] at h
    refine ⟨fun c hc => ?_, fun c hc => ?_⟩
    · obtain ⟨l, hl⟩ := List.head?_eq_some_iff.mp hc
      rw [hl] at hdrop
      have hfirst := List.dropWhile_eq_self_iff.mp hdrop (Nat.succ_pos _)
      exact Bool.eq_false_iff.mpr hfirst
    · have hne : s.toList ≠ [] := by
        rintro hnil
        rw [hnil] at hc
        cases hc
      rw [List.getLast?_eq_some_getLast hne, Option.mem_some_iff] at hc
      exact hc ▸ Bool.eq_false_iff.mpr (h hne)
  · rintro ⟨hfirst, hlast⟩
    have hdrop : s.toList.dropWhile isSpace = s.toList := by
      rw [List.dropWhile_eq_self_iff]
      intro hl
      have hc := hfirst (s.toList[0]) (by rw [List.head?_eq_getElem?, List.getElem?_eq_getElem hl]; rfl)
      rw [hc]
      exact Bool.false_ne_true
    rw [hdrop, List.rdropWhile_eq_self_iff]
    intro hne
    rw [hlast _ (List.getLast?_eq_some_getLast hne)]
    exact Bool.false_ne_true

theorem strip_strip (s : String) : strip (strip s) = strip s := by
  rw [strip_eq_self_iff, strip_toList]
  refine ⟨fun c hc => ?_, fun c hc => ?_⟩
  · obtain ⟨l, hl⟩ := List.head?_eq_some_iff.mp hc
    obtain ⟨rest, hrest⟩ := List.rdropWhile_prefix isSpace (s.toList.dropWhile isSpace)
    rw [hl] at hrest
    have hne : s.toList.dropWhile isSpace ≠ [] := hrest ▸ List.cons_ne_nil c _
    have hhead := List.head_dropWhile_not isSpace hne
    have hc' : (s.toList.dropWhile isSpace).head hne = c := by
      simp only [← hrest, List.cons_append, List.head_cons]
    rwa [hc'] at hhead
  · have hne : (s.toList.dropWhile isSpace).rdropWhile isSpace ≠ [] := by
      intro hnil
      rw [hnil] at hc
      cases hc
    rw [List.getLast?_eq_some_getLast hne, Option.mem_some_iff] at hc
    exact hc ▸ Bool.eq_false_iff.mpr (List.rdropWhile_last_not isSpace _ hne)

end FritzboxVpn.Text
