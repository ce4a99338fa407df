import Mathlib.Data.List.Basic

namespace FritzboxVpn.IpAddress

def split (sep : Char) : List Char → List (List Char)
  | [] => [[]]
  | c :: cs =>
      if c = sep then [] :: split sep cs
      else
        match split sep cs with
        | [] => [[c]]
        | part :: parts => (c :: part) :: parts

def isHexDigit (c : Char) : Bool :=
  c.isDigit || ('a' ≤ c && c ≤ 'f') || ('A' ≤ c && c ≤ 'F')

def decimal (digits : List Char) : Nat := digits.foldl (fun n c => 10 * n + (c.toNat - 48)) 0

/-- `IPv4Address._parse_octet`, as far as it accepts. -/
def isOctet (part : List Char) : Bool :=
  part ≠ [] && part.all Char.isDigit && part.length ≤ 3 && (part = ['0'] || part.head? ≠ some '0') &&
    decimal part ≤ 255

def ipv4Int (text : List Char) : Option Nat :=
  let octets := split '.' text
  if octets.length = 4 && octets.all isOctet then
    some (octets.foldl (fun n octet => 256 * n + decimal octet) 0)
  else none

def isHextet (part : List Char) : Bool := part ≠ [] && part.all isHexDigit && part.length ≤ 4

/-- An IPv4 suffix is written as two more hexadecimal parts. -/
def ipv6Parts (text : List Char) : Option (List (List Char)) :=
  let parts := split ':' text
  if parts.length < 3 then none
  else
    match parts.getLast? with
    | none => none
    | some last =>
        if last.contains '.' then
          (ipv4Int last).map fun n =>
            parts.dropLast ++ [Nat.toDigits 16 (n / 65536), Nat.toDigits 16 (n % 65536)]
        else some parts

/-- The parts on one side of a double colon; a first or last part that is
empty has to be the only one. -/
def sideParts (outer : Option (List Char)) (side : List (List Char)) : Option (List (List Char)) :=
  if outer = some [] then if side.length = 1 then some [] else none else some side

def hextetsAround (first : List Char) (interior : List (List Char)) (last : List Char) : Bool :=
  let high := first :: interior.takeWhile (· ≠ [])
  let low := (interior.dropWhile (· ≠ [])).tail ++ [last]
  match sideParts (some first) high, sideParts (some last) low with
  | some high, some low => high.length + low.length ≤ 7 && high.all isHextet && low.all isHextet
  | _, _ => false

def isIpv6Int (text : List Char) : Bool :=
  match ipv6Parts text with
  | some (first :: rest) =>
      let interior := rest.dropLast
      if 8 < rest.length then false
      else
        match interior.countP (· = []) with
        | 0 => rest.length = 7 && (first :: rest).all isHextet
        | 1 => hextetsAround first interior (rest.getLast?.getD [])
        | _ => false
  | _ => false

def splitScopeId (text : List Char) : Option (List Char) :=
  match text.dropWhile (· ≠ '%') with
  | [] => some text
  | _ :: scope =>
      if scope = [] || scope.contains '%' then none else some (text.takeWhile (· ≠ '%'))

def isIpv4 (text : List Char) : Bool := !text.contains '/' && (ipv4Int text).isSome

def isIpv6 (text : List Char) : Bool := !text.contains '/' && (splitScopeId text).any isIpv6Int

def isIpAddress (text : List Char) : Bool := isIpv4 text || isIpv6 text

theorem split_ne_nil (sep : Char) (text : List Char) : split sep text ≠ [] := by
  induction text with
  | nil => simp [split]
  | cons c text ih =>
      rw [split]
      split
      · simp
      · split <;> simp

theorem mem_split (sep : Char) {c : Char} {text : List Char} (h : c ∈ text) :
    c = sep ∨ ∃ part ∈ split sep text, c ∈ part := by
  induction text with
  | nil => cases h
  | cons d text ih =>
      rw [split]
      by_cases hd : d = sep
      · rw [if_pos hd]
        rcases List.mem_cons.mp h with rfl | h
        · exact Or.inl hd
        · rcases ih h with hc | ⟨part, hp, hc⟩
          · exact Or.inl hc
          · exact Or.inr ⟨part, List.mem_cons_of_mem _ hp, hc⟩
      · rw [if_neg hd]
        cases hs : split sep text with
        | nil => exact absurd hs (split_ne_nil sep text)
        | cons part parts =>
            rw [hs] at ih
            rcases List.mem_cons.mp h with rfl | h
            · exact Or.inr ⟨c :: part, by simp, by simp⟩
            · rcases ih h with hc | ⟨part', hp, hc⟩
              · exact Or.inl hc
              · right
                rcases List.mem_cons.mp hp with rfl | hp
                · exact ⟨d :: part', by simp, List.mem_cons_of_mem d hc⟩
                · exact ⟨part', List.mem_cons_of_mem _ hp, hc⟩

theorem split_of_notMem {sep : Char} {text : List Char} (h : sep ∉ text) :
    split sep text = [text] := by
  induction text with
  | nil => rfl
  | cons c text ih =>
      rw [List.mem_cons, not_or] at h
      rw [split, if_neg (Ne.symm h.1), ih h.2]

theorem isHexDigit_of_isDigit {c : Char} (h : c.isDigit = true) : isHexDigit c = true := by
  simp [isHexDigit, h]

def isAddressChar (c : Char) : Bool := isHexDigit c || c = ':' || c = '.'

theorem isAddressChar_of_ipv4Int {text : List Char} {n : Nat} (h : ipv4Int text = some n) {c : Char}
    (hc : c ∈ text) : c.isDigit = true ∨ c = '.' := by
  rw [ipv4Int] at h
  split at h
  · rename_i hoctets
    rw [Bool.and_eq_true, List.all_eq_true] at hoctets
    rcases mem_split '.' hc with hdot | ⟨part, hp, hcp⟩
    · exact Or.inr hdot
    · have hoctet := hoctets.2 part hp
      simp only [isOctet, Bool.and_eq_true, List.all_eq_true] at hoctet
      exact Or.inl (hoctet.1.1.1.2 c hcp)
  · cases h

theorem hex_of_isHextet {part : List Char} (h : isHextet part = true) {c : Char} (hc : c ∈ part) :
    isHexDigit c = true := by
  simp only [isHextet, Bool.and_eq_true, List.all_eq_true] at h
  exact h.1.2 c hc

/-- On either side of a double colon a part is a hextet or empty. -/
theorem hex_of_sideParts {outer : List Char} {side kept : List (List Char)} (hmem : outer ∈ side)
    (h : sideParts (some outer) side = some kept) (hk : kept.all isHextet = true)
    {part : List Char} (hp : part ∈ side) {c : Char} (hc : c ∈ part) : isHexDigit c = true := by
  rw [sideParts] at h
  split at h
  · rename_i houter
    split at h
    · rename_i hl
      obtain ⟨p, rfl⟩ := List.length_eq_one_iff.mp hl
      rw [List.mem_singleton] at hmem hp
      rw [hp, ← hmem, Option.some.inj houter] at hc
      cases hc
    · cases h
  · cases h
    exact hex_of_isHextet (List.all_eq_true.mp hk part hp) hc

theorem hex_of_hextetsAround {first last : List Char} {interior : List (List Char)}
    (h : hextetsAround first interior last = true) {part : List Char}
    (hp : part ∈ first :: (interior ++ [last])) {c : Char} (hc : c ∈ part) :
    isHexDigit c = true := by
  rw [hextetsAround] at h
  split at h
  · rename_i high low hhigh hlow
    simp only [Bool.and_eq_true] at h
    have hside : part ∈ first :: interior.takeWhile (· ≠ []) ∨ part = [] ∨
        part ∈ (interior.dropWhile (· ≠ [])).tail ++ [last] := by
      rw [← List.takeWhile_append_dropWhile (p := (· ≠ [])) (l := interior)] at hp
      cases hd : interior.dropWhile (· ≠ []) with
      | nil =>
          rw [hd] at hp
          simp only [List.append_nil, List.mem_cons, List.mem_append, List.tail_nil,
            List.nil_append] at hp ⊢
          tauto
      | cons middle tail =>
          have hmiddle : middle = [] := by
            have hhead := List.head_dropWhile_not (fun part : List Char => decide (part ≠ []))
              (l := interior) (by rw [hd]; exact List.cons_ne_nil middle tail)
            simp only [hd, List.head_cons] at hhead
            simpa using hhead
          rw [hd, hmiddle] at hp
          simp only [List.mem_cons, List.mem_append, List.tail_cons] at hp ⊢
          tauto
    rcases hside with hp | rfl | hp
    · exact hex_of_sideParts List.mem_cons_self hhigh h.1.2 hp hc
    · cases hc
    · exact hex_of_sideParts (by simp) hlow h.2 hp hc
  · cases h

/-- The parts of an accepted address are hexadecimal, but for an IPv4 suffix. -/
theorem hex_of_isIpv6Int {text : List Char} {parts : List (List Char)}
    (h : isIpv6Int text = true) (hparts : ipv6Parts text = some parts) {part : List Char}
    (hp : part ∈ parts) {c : Char} (hc : c ∈ part) : isHexDigit c = true := by
  rw [isIpv6Int, hparts] at h
  cases parts with
  | nil => cases hp
  | cons first rest =>
      dsimp only at h
      split at h
      · cases h
      · split at h
        · rw [Bool.and_eq_true, List.all_eq_true] at h
          exact hex_of_isHextet (h.2 part hp) hc
        · rename_i hone
          have hne : rest ≠ [] := by
            rintro rfl
            cases hone
          have hrest : rest.dropLast ++ [rest.getLast?.getD []] = rest := by
            rw [List.getLast?_eq_some_getLast hne, Option.getD_some, List.dropLast_append_getLast]
          rw [← hrest] at hp
          exact hex_of_hextetsAround h hp hc
        · cases h

theorem isAddressChar_of_isIpv6Int {text : List Char} (h : isIpv6Int text = true) {c : Char}
    (hc : c ∈ text) : isAddressChar c = true := by
  have hhex : isHexDigit c = true → isAddressChar c = true := fun hx => by simp [isAddressChar, hx]
  rcases mem_split ':' hc with hcolon | ⟨part, hp, hcp⟩
  · simp [isAddressChar, hcolon]
  · cases hparts : ipv6Parts text with
    | none => rw [isIpv6Int, hparts] at h; cases h
    | some parts =>
        have hkept : ∀ part ∈ parts, c ∈ part → isHexDigit c = true := fun part hp hc =>
          hex_of_isIpv6Int h hparts hp hc
        simp only [ipv6Parts] at hparts
        split at hparts
        · cases hparts
        · split at hparts
          · cases hparts
          · rename_i last hlast
            split at hparts
            · obtain ⟨n, hn, rfl⟩ := Option.map_eq_some_iff.mp hparts
              rw [← List.dropLast_append_getLast? last hlast, List.mem_append,
                List.mem_singleton] at hp
              rcases hp with hp | rfl
              · exact hhex (hkept part (List.mem_append_left _ hp) hcp)
              · rcases isAddressChar_of_ipv4Int hn hcp with hd | hdot
                · exact hhex (isHexDigit_of_isDigit hd)
                · simp [isAddressChar, hdot]
            · cases hparts
              exact hhex (hkept part hp hcp)

theorem colon_mem_of_isIpv6Int {text : List Char} (h : isIpv6Int text = true) : ':' ∈ text := by
  by_contra hc
  have hnone : ipv6Parts text = none := by
    rw [ipv6Parts, split_of_notMem hc]
    rfl
  rw [isIpv6Int, hnone] at h
  cases h

/-- An IPv6 address, with or without a scope id, has a colon. -/
theorem colon_mem_of_isIpv6 {text : List Char} (h : isIpv6 text = true) : ':' ∈ text := by
  rw [isIpv6, Bool.and_eq_true, Option.any_eq_true] at h
  obtain ⟨-, address, hsplit, haddress⟩ := h
  have hc := colon_mem_of_isIpv6Int haddress
  rw [splitScopeId] at hsplit
  split at hsplit
  · cases hsplit
    exact hc
  · split at hsplit
    · cases hsplit
    · cases hsplit
      exact (List.takeWhile_sublist _).subset hc

end FritzboxVpn.IpAddress
