import FritzboxVpn.Text
import Mathlib.Data.List.Forall2
import Mathlib.Tactic.NormNum

namespace FritzboxVpn.Uuid

open Text

/-- `text.replace(needle, "")`; the number counts what is left of a found needle. -/
def without (needle : List Char) : Nat → List Char → List Char
  | _, [] => []
  | k + 1, _ :: cs => without needle k cs
  | 0, c :: cs =>
      if needle.isPrefixOf (c :: cs) then without needle (needle.length - 1) cs
      else c :: without needle 0 cs

def isBrace (c : Char) : Bool := c = '\x7b' || c = '\x7d'

def stripped (p : Char → Bool) (text : List Char) : List Char :=
  ((text.dropWhile p).reverse.dropWhile p).reverse

def hexValue (c : Char) : Option Nat :=
  if 'a' ≤ c ∧ c ≤ 'f' then some (c.toNat - 87)
  else if 'A' ≤ c ∧ c ≤ 'F' then some (c.toNat - 55)
  else digitValue c

def readHex (n : Nat) : List Char → Option Nat
  | [] => some n
  | '_' :: c :: rest => (hexValue c).bind fun d => readHex (16 * n + d) rest
  | c :: rest => (hexValue c).bind fun d => readHex (16 * n + d) rest

def behindMark : List Char → List Char
  | '0' :: x :: rest =>
      if x = 'x' || x = 'X' then if rest.head? = some '_' then rest.tail else rest
      else '0' :: x :: rest
  | text => text

/-- `int(text, 16)` of a text without a minus sign. -/
def intBase16 (text : List Char) : Option Nat :=
  let digits := stripped isSpace text
  match behindMark (if digits.head? = some '+' then digits.tail else digits) with
  | [] => none
  | c :: rest => (hexValue c).bind fun d => readHex d rest

def parse (text : List Char) : Option Nat :=
  let hex := (stripped isBrace (without "uuid:".toList 0 (without "urn:".toList 0 text))).filter (· ≠ '-')
  if hex.length = 32 then (intBase16 hex).filter (· < 2 ^ 128) else none

def hexDigit (d : Nat) : Char := if d < 10 then Char.ofNat (48 + d) else Char.ofNat (87 + d)

def nibbles : Nat → Nat → List Nat
  | 0, _ => []
  | k + 1, n => nibbles k (n / 16) ++ [n % 16]

def text (n : Nat) : List Char :=
  let hex := (nibbles 32 n).map hexDigit
  hex.take 8 ++ '-' :: ((hex.drop 8).take 4 ++ '-' :: ((hex.drop 12).take 4 ++
    '-' :: ((hex.drop 16).take 4 ++ '-' :: hex.drop 20)))

structure IsDigit (c : Char) (d : Nat) : Prop where
  lt : d < 16
  value : hexValue c = some d
  plain : c ∉ ['u', ':', '-', '_', '+', 'x', 'X', '\x7b', '\x7d']
  space : isSpace c = false

theorem isDigit_hexDigit {d : Nat} (h : d < 16) {c : Char}
    (hc : c = hexDigit d ∨ c = (hexDigit d).toUpper) : IsDigit c d := by
  have hall : ∀ d < 16, ([hexDigit d, (hexDigit d).toUpper].all fun c => hexValue c = some d ∧
      c ∉ ['u', ':', '-', '_', '+', 'x', 'X', '\x7b', '\x7d'] ∧ isSpace c = false) = true := by
    decide +kernel
  obtain ⟨hvalue, hplain, hspace⟩ :=
    of_decide_eq_true (List.all_eq_true.mp (hall d h) c (by simpa using hc))
  exact ⟨h, hvalue, hplain, hspace⟩

inductive Digits : List Char → List Nat → Prop
  | nil : Digits [] []
  | hyphen {cs ds} (h : Digits cs ds) : Digits ('-' :: cs) ds
  | digit {c cs d ds} (hd : d < 16) (hc : c = hexDigit d ∨ c = (hexDigit d).toUpper) (h : Digits cs ds) :
      Digits (c :: cs) (d :: ds)

/-- A UUID as it may be written: 32 digits, in braces or not, behind any of the prefixes. -/
inductive Written : List Char → Nat → Prop
  | mk {marks : List (List Char)} {opened body closed ds}
      (hmarks : ∀ m ∈ marks, m = "urn:".toList ∨ m = "uuid:".toList)
      (hopened : ∀ c ∈ opened, isBrace c = true) (hclosed : ∀ c ∈ closed, isBrace c = true)
      (hbody : Digits body ds) (hlength : ds.length = 32) :
      Written (marks.flatten ++ (opened ++ (body ++ closed))) (ds.foldl (fun m d => 16 * m + d) 0)

section Digits

variable {cs cs' : List Char} {ds ds' : List Nat}

theorem Digits.append (h : Digits cs ds) (h' : Digits cs' ds') : Digits (cs ++ cs') (ds ++ ds') := by
  induction h with
  | nil => exact h'
  | hyphen _ ih => exact .hyphen ih
  | digit hd hc _ ih => exact .digit hd hc ih

theorem Digits.mem (h : Digits cs ds) {c : Char} (hc : c ∈ cs) : c = '-' ∨ ∃ d, IsDigit c d := by
  induction h with
  | nil => exact absurd hc List.not_mem_nil
  | hyphen _ ih =>
      rcases List.mem_cons.mp hc with rfl | hc
      · exact Or.inl rfl
      · exact ih hc
  | digit hd hcase _ ih =>
      rcases List.mem_cons.mp hc with rfl | hc
      · exact Or.inr ⟨_, isDigit_hexDigit hd hcase⟩
      · exact ih hc

theorem Digits.plain (h : Digits cs ds) {c : Char} (hc : c ∈ cs) :
    c ≠ 'u' ∧ c ≠ ':' ∧ isBrace c = false ∧ isSpace c = false := by
  rcases h.mem hc with rfl | ⟨d, hd⟩
  · decide +kernel
  · have hplain := hd.plain
    simp only [List.mem_cons, List.not_mem_nil, or_false, not_or] at hplain
    refine ⟨hplain.1, hplain.2.1, ?_, hd.space⟩
    rw [isBrace, Bool.or_eq_false_iff, decide_eq_false_iff_not, decide_eq_false_iff_not]
    exact hplain.2.2.2.2.2.2.2

theorem Digits.filter (h : Digits cs ds) : List.Forall₂ IsDigit (cs.filter (· ≠ '-')) ds := by
  induction h with
  | nil => exact .nil
  | hyphen _ ih =>
      rw [List.filter_cons_of_neg (by decide)]
      exact ih
  | digit hd hc _ ih =>
      have hdigit := isDigit_hexDigit hd hc
      rw [List.filter_cons_of_pos]
      · exact .cons hdigit ih
      · refine decide_eq_true fun he => hdigit.plain ?_
        rw [he]
        decide

end Digits

section Reading

variable {cs : List Char} {ds : List Nat} {t : List Char} {n : Nat}

end Reading

end FritzboxVpn.Uuid
