import FritzboxVpn.IpAddress
import Mathlib.Data.List.TakeWhile

namespace FritzboxVpn.Uri

open IpAddress (isHexDigit isIpv6Int isAddressChar isAddressChar_of_isIpv6Int)

def cut (sep : Char) (text : List Char) : List Char × Option (List Char) :=
  (text.takeWhile (· ≠ sep), (text.dropWhile (· ≠ sep)).tail?)

def led (sep : Char) (part : Option (List Char)) : List Char := part.elim [] (sep :: ·)

def isUnreserved (c : Char) : Bool := c.isAlphanum || ['-', '.', '_', '~'].contains c

def isSubDelim (c : Char) : Bool :=
  ['!', '$', '&', '(', ')', '*', '+', ',', ';', '='].contains c || c.toNat = 39

def isPchar (c : Char) : Bool := isUnreserved c || isSubDelim c || c = ':' || c = '@'

def encoded (allowed : Char → Bool) : List Char → Bool
  | [] => true
  | c :: cs =>
      if c = '%' then
        match cs with
        | a :: b :: rest => isHexDigit a && isHexDigit b && encoded allowed rest
        | _ => false
      else allowed c && encoded allowed cs

structure Authority where
  userinfo : Option (List Char)
  host : List Char
  port : Option (List Char)
deriving DecidableEq

structure Url where
  scheme : List Char
  authority : Authority
  path : List Char
  query : Option (List Char)
  fragment : Option (List Char)
deriving DecidableEq

def Authority.text (a : Authority) : List Char :=
  (a.userinfo.elim [] (· ++ ['@'])) ++ (a.host ++ led ':' a.port)

def Url.text (url : Url) : List Char :=
  url.scheme ++ ':' :: '/' :: '/' ::
    (url.authority.text ++ (url.path ++ led '?' url.query ++ led '#' url.fragment))

def isScheme : List Char → Bool
  | [] => false
  | c :: cs => c.isAlpha && cs.all fun d => d.isAlphanum || d = '+' || d = '-' || d = '.'

def isRegName (host : List Char) : Bool := encoded (fun c => isUnreserved c || isSubDelim c) host

def isLiteralChar (c : Char) : Bool := isUnreserved c || isSubDelim c || c = ':'

/-- "v" 1*HEXDIG "." 1*( unreserved / sub-delims / ":" ) -/
def isIpvFuture : List Char → Bool
  | [] => false
  | v :: text =>
      (v = 'v' || v = 'V') && (cut '.' text).1 ≠ [] && (cut '.' text).1.all isHexDigit &&
        (cut '.' text).2.any fun address => address ≠ [] && address.all isLiteralChar

def isIpLiteral (host : List Char) : Bool :=
  host.head? = some '[' && host.getLast? = some ']' &&
    (isIpv6Int host.tail.dropLast || isIpvFuture host.tail.dropLast)

/-- A dotted IPv4 address is a registered name as far as the characters go. -/
def isHost (host : List Char) : Bool := isRegName host || isIpLiteral host

def Authority.valid (a : Authority) : Bool :=
  a.userinfo.all (encoded isLiteralChar) && isHost a.host && a.port.all (·.all Char.isDigit)

def isPath (path : List Char) : Bool :=
  path = [] || (path.head? = some '/' && encoded (fun c => isPchar c || c = '/') path)

def isQuery (query : List Char) : Bool := encoded (fun c => isPchar c || c = '/' || c = '?') query

def Url.valid (url : Url) : Bool :=
  isScheme url.scheme && url.authority.valid && isPath url.path && url.query.all isQuery &&
    url.fragment.all isQuery

def splitHost (text : List Char) : Option (List Char × Option (List Char)) :=
  if text.head? = some '[' then
    match cut ']' text with
    | (literal, some []) => some (literal ++ [']'], none)
    | (literal, some (':' :: port)) => some (literal ++ [']'], some port)
    | _ => none
  else some (cut ':' text)

def parseAuthority (text : List Char) : Option Authority :=
  match cut '@' text with
  | (_, none) => (splitHost text).map fun p => ⟨none, p.1, p.2⟩
  | (userinfo, some rest) => (splitHost rest).map fun p => ⟨some userinfo, p.1, p.2⟩

def endsAuthority (c : Char) : Bool := c = '/' || c = '?' || c = '#'

/-- A URL of the form scheme "://" authority path [ "?" query ] [ "#" fragment ]. -/
def parse (text : List Char) : Option Url :=
  match cut ':' text with
  | (scheme, some ('/' :: '/' :: rest)) =>
      let behind := rest.dropWhile (!endsAuthority ·)
      let (hierarchy, fragment) := cut '#' behind
      let (path, query) := cut '?' hierarchy
      (parseAuthority (rest.takeWhile (!endsAuthority ·))).bind fun authority =>
        let url : Url := ⟨scheme, authority, path, query, fragment⟩
        if url.valid then some url else none
  | _ => none

@[simp]
theorem led_none (sep : Char) : led sep none = [] := rfl

@[simp]
theorem led_some (sep : Char) (part : List Char) : led sep (some part) = sep :: part := rfl

theorem cut_text (sep : Char) (text : List Char) :
    (cut sep text).1 ++ led sep (cut sep text).2 = text := by
  rw [cut]
  conv_rhs => rw [← List.takeWhile_append_dropWhile (p := (· ≠ sep)) (l := text)]
  congr 1
  cases hd : text.dropWhile (· ≠ sep) with
  | nil => rfl
  | cons c rest =>
      have hc := List.head_dropWhile_not (fun x : Char => decide (x ≠ sep)) (l := text)
        (by rw [hd]; exact List.cons_ne_nil c rest)
      simp only [hd, List.head_cons] at hc
      have hc : c = sep := by simpa using hc
      rw [hc]
      rfl

theorem cut_joined {sep : Char} {a : List Char} (ha : sep ∉ a) (b : Option (List Char)) :
    cut sep (a ++ led sep b) = (a, b) := by
  have hall : ∀ c ∈ a, decide (c ≠ sep) = true := fun c hc =>
    decide_eq_true fun he => ha (he ▸ hc)
  rw [cut, List.takeWhile_append_of_pos hall, List.dropWhile_append_of_pos hall]
  cases b with
  | none => simp [led]
  | some b => simp [led]

theorem takeWhile_append_stop {p : Char → Bool} {a b : List Char} (ha : ∀ c ∈ a, p c = true)
    (hb : ∀ c, b.head? = some c → p c = false) :
    (a ++ b).takeWhile p = a ∧ (a ++ b).dropWhile p = b := by
  rw [List.takeWhile_append_of_pos ha, List.dropWhile_append_of_pos ha]
  cases b with
  | nil => simp
  | cons c b => simp [hb c rfl]

theorem mem_encoded {allowed : Char → Bool} {cs : List Char} (h : encoded allowed cs = true)
    {c : Char} (hc : c ∈ cs) : allowed c = true ∨ c = '%' ∨ isHexDigit c = true := by
  fun_induction encoded allowed cs with
  | case1 => cases hc
  | case2 a b rest ih =>
      simp only [Bool.and_eq_true] at h
      simp only [List.mem_cons] at hc
      rcases hc with rfl | rfl | rfl | hc
      · exact Or.inr (Or.inl rfl)
      · exact Or.inr (Or.inr h.1.1)
      · exact Or.inr (Or.inr h.1.2)
      · exact ih h.2 hc
  | case3 => cases h
  | case4 d cs hd ih =>
      rw [Bool.and_eq_true] at h
      rcases List.mem_cons.mp hc with rfl | hc
      · exact Or.inl h.1
      · exact ih h.2 hc

theorem encoded_of_all {allowed : Char → Bool} {cs : List Char}
    (h : ∀ c ∈ cs, c ≠ '%' ∧ allowed c = true) : encoded allowed cs = true := by
  induction cs with
  | nil => rfl
  | cons c cs ih =>
      obtain ⟨hne, ha⟩ := h c List.mem_cons_self
      unfold encoded
      rw [if_neg hne, ha, Bool.true_and]
      exact ih fun d hd => h d (List.mem_cons_of_mem c hd)

theorem notMem_of_encoded {allowed : Char → Bool} {cs : List Char} (h : encoded allowed cs = true)
    {sep : Char} (hs : (allowed sep || sep = '%' || isHexDigit sep) = false) : sep ∉ cs := by
  intro hc
  simp only [Bool.or_eq_false_iff, decide_eq_false_iff_not] at hs
  rcases mem_encoded h hc with ha | he | hx
  · rw [hs.1.1] at ha
    cases ha
  · exact hs.1.2 he
  · rw [hs.2] at hx
    cases hx

theorem splitHost_text {text host : List Char} {port : Option (List Char)}
    (h : splitHost text = some (host, port)) : host ++ led ':' port = text := by
  rw [splitHost] at h
  split at h
  · have ht := cut_text ']' text
    split at h
    · rename_i literal hc
      cases h
      rw [hc] at ht
      simpa [led] using ht
    · rename_i literal port' hc
      cases h
      rw [hc] at ht
      simpa [led] using ht
    · cases h
  · cases h
    exact cut_text ':' text

theorem parseAuthority_text {text : List Char} {a : Authority} (h : parseAuthority text = some a) :
    a.text = text := by
  have ht := cut_text '@' text
  rw [parseAuthority] at h
  split at h
  · rename_i userinfo hc
    obtain ⟨⟨host, port⟩, hs, rfl⟩ := Option.map_eq_some_iff.mp h
    rw [Authority.text, splitHost_text hs, Option.elim_none, List.nil_append]
  · rename_i userinfo rest hc
    obtain ⟨⟨host, port⟩, hs, rfl⟩ := Option.map_eq_some_iff.mp h
    rw [Authority.text, splitHost_text hs]
    rw [hc] at ht
    simpa [led] using ht

/-- What is parsed is a valid URL, and nothing of the text is lost. -/
theorem parse_sound {text : List Char} {url : Url} (h : parse text = some url) :
    url.valid = true ∧ url.text = text := by
  have hscheme := cut_text ':' text
  rw [parse] at h
  split at h
  · rename_i scheme rest hc
    obtain ⟨authority, ha, hurl⟩ := Option.bind_eq_some_iff.mp h
    dsimp only at hurl
    split at hurl
    · rename_i hvalid
      cases hurl
      refine ⟨hvalid, ?_⟩
      set behind := rest.dropWhile (!endsAuthority ·)
      have hpath : (cut '?' (cut '#' behind).1).1 ++ led '?' (cut '?' (cut '#' behind).1).2 ++
          led '#' (cut '#' behind).2 = behind := by
        rw [cut_text, cut_text]
      rw [hc] at hscheme
      change scheme ++ ':' :: '/' :: '/' :: (authority.text ++
        ((cut '?' (cut '#' behind).1).1 ++ led '?' (cut '?' (cut '#' behind).1).2 ++
          led '#' (cut '#' behind).2)) = text
      rw [parseAuthority_text ha, hpath, List.takeWhile_append_dropWhile]
      exact hscheme
    · cases hurl
  · cases h

theorem isIpLiteral_iff {host : List Char} : isIpLiteral host = true ↔
    ∃ inner, host = '[' :: (inner ++ [']']) ∧ (isIpv6Int inner || isIpvFuture inner) = true := by
  rw [isIpLiteral]
  cases host with
  | nil => simp
  | cons c rest =>
      simp only [List.head?_cons, Option.some.injEq, Bool.and_eq_true, decide_eq_true_eq,
        List.tail_cons, List.cons.injEq]
      constructor
      · rintro ⟨⟨rfl, hlast⟩, hinner⟩
        have hne : rest ≠ [] := by
          rintro rfl
          simp at hlast
        refine ⟨rest.dropLast, ⟨rfl, ?_⟩, hinner⟩
        rw [List.getLast?_cons, List.getLast?_eq_some_getLast hne, Option.getD_some,
          Option.some.injEq] at hlast
        rw [← hlast, List.dropLast_append_getLast]
      · rintro ⟨inner, ⟨rfl, rfl⟩, hinner⟩
        rw [List.getLast?_cons, List.getLast?_concat, List.dropLast_concat]
        exact ⟨⟨rfl, rfl⟩, hinner⟩

def outsideLiteral (sep : Char) : Bool :=
  !(isLiteralChar sep || isAddressChar sep || sep = 'v' || sep = 'V')

theorem notMem_literal {inner : List Char} (h : (isIpv6Int inner || isIpvFuture inner) = true)
    {sep : Char} (hs : outsideLiteral sep = true) : sep ∉ inner := by
  intro hc
  simp only [outsideLiteral, Bool.not_eq_true', Bool.or_eq_false_iff, decide_eq_false_iff_not] at hs
  rcases Bool.or_eq_true _ _ ▸ h with h6 | hf
  · have ha := isAddressChar_of_isIpv6Int h6 hc
    rw [hs.1.1.2] at ha
    cases ha
  · cases inner with
    | nil => cases hc
    | cons v text =>
        simp only [isIpvFuture, Bool.and_eq_true, Bool.or_eq_true, decide_eq_true_eq] at hf
        obtain ⟨⟨⟨hv, -⟩, hversion⟩, haddress⟩ := hf
        obtain ⟨address, hcut, haddress⟩ := (Option.any_eq_true _ _).mp haddress
        rw [Bool.and_eq_true, List.all_eq_true] at haddress
        rw [List.all_eq_true] at hversion
        rcases List.mem_cons.mp hc with rfl | hc
        · tauto
        · rw [← cut_text '.' text, hcut, led, Option.elim_some, List.mem_append, List.mem_cons] at hc
          rcases hc with hc | rfl | hc
          · have hx := hversion sep hc
            simp [isAddressChar, hx] at hs
          · simp [isAddressChar] at hs
          · have hl := haddress.2 sep hc
            rw [hs.1.1.1] at hl
            cases hl

theorem splitHost_joined {host : List Char} {port : Option (List Char)} (h : isHost host = true) :
    splitHost (host ++ led ':' port) = some (host, port) := by
  rcases Bool.or_eq_true _ _ ▸ h with hreg | hlit
  · have hcolon : ':' ∉ host := notMem_of_encoded hreg (by decide)
    have hbracket : '[' ∉ host := notMem_of_encoded hreg (by decide)
    have hhead : (host ++ led ':' port).head? ≠ some '[' := by
      cases host with
      | nil => cases port <;> simp [led]
      | cons c host =>
          rintro he
          have hc : c = '[' := by simpa using he
          exact hbracket (hc ▸ List.mem_cons_self)
    rw [splitHost, if_neg hhead, cut_joined hcolon]
  · obtain ⟨inner, rfl, hinner⟩ := isIpLiteral_iff.mp hlit
    have hclose : ']' ∉ '[' :: inner := by
      rw [List.mem_cons, not_or]
      exact ⟨by decide, notMem_literal hinner (by decide)⟩
    have htext : '[' :: (inner ++ [']']) ++ led ':' port =
        ('[' :: inner) ++ led ']' (some (led ':' port)) := by
      simp [led]
    rw [splitHost, htext, cut_joined hclose, if_pos (by simp)]
    cases port with
    | none => rfl
    | some port => rfl

/-- A delimiter outside the hosts and the ports. -/
theorem notMem_hostPort {host : List Char} {port : Option (List Char)} (hh : isHost host = true)
    (hp : port.all (·.all Char.isDigit) = true) {sep : Char}
    (hs : (outsideLiteral sep && !(sep = '%' || isHexDigit sep || sep = '[' || sep = ']')) = true) :
    sep ∉ host ++ led ':' port := by
  simp only [Bool.and_eq_true, Bool.not_eq_true', Bool.or_eq_false_iff,
    decide_eq_false_iff_not] at hs
  obtain ⟨hout, ⟨⟨hpercent, hhex⟩, hopen⟩, hclose⟩ := hs
  have hout' := hout
  simp only [outsideLiteral, isLiteralChar, Bool.not_eq_true', Bool.or_eq_false_iff,
    decide_eq_false_iff_not] at hout'
  rw [List.mem_append, not_or]
  constructor
  · rcases Bool.or_eq_true _ _ ▸ hh with hreg | hlit
    · apply notMem_of_encoded hreg
      simp [hout'.1.1.1.1, hpercent, hhex]
    · obtain ⟨inner, rfl, hinner⟩ := isIpLiteral_iff.mp hlit
      have hni := notMem_literal hinner hout
      simp [hopen, hclose, hni]
  · cases port with
    | none => simp [led]
    | some port =>
        intro hc
        rcases List.mem_cons.mp hc with hcolon | hc
        · exact hout'.1.1.1.2 hcolon
        · have hd := List.all_eq_true.mp hp sep hc
          rw [IpAddress.isHexDigit_of_isDigit hd] at hhex
          cases hhex

theorem parseAuthority_valid {a : Authority} (h : a.valid = true) :
    parseAuthority a.text = some a := by
  obtain ⟨userinfo, host, port⟩ := a
  simp only [Authority.valid, Bool.and_eq_true] at h
  obtain ⟨⟨hu, hh⟩, hp⟩ := h
  have hat : '@' ∉ host ++ led ':' port := notMem_hostPort hh hp (by decide)
  cases userinfo with
  | none =>
      have hcut : cut '@' (host ++ led ':' port) = (host ++ led ':' port, none) := by
        simpa [led] using cut_joined hat none
      simp only [Authority.text, Option.elim_none, List.nil_append, parseAuthority, hcut,
        splitHost_joined hh, Option.map_some]
  | some userinfo =>
      have hnot : '@' ∉ userinfo := notMem_of_encoded hu (by decide)
      have hcut := cut_joined hnot (some (host ++ led ':' port))
      simp only [led, Option.elim_some] at hcut
      simp only [Authority.text, Option.elim_some, List.append_assoc, List.singleton_append, led,
        parseAuthority, hcut]
      have hsplit : splitHost (host ++ led ':' port) = some (host, port) := splitHost_joined hh
      simp only [led] at hsplit
      rw [hsplit, Option.map_some]

theorem endsAuthority_notMem {a : Authority} (h : a.valid = true) {c : Char} (hc : c ∈ a.text) :
    endsAuthority c = false := by
  obtain ⟨userinfo, host, port⟩ := a
  simp only [Authority.valid, Bool.and_eq_true] at h
  obtain ⟨⟨hu, hh⟩, hp⟩ := h
  have hnot : ∀ sep, sep = '/' ∨ sep = '?' ∨ sep = '#' → c ≠ sep := by
    rintro sep hsep rfl
    rw [Authority.text, List.mem_append] at hc
    rcases hc with hc | hc
    · cases userinfo with
      | none => cases hc
      | some userinfo =>
          rcases List.mem_append.mp hc with hc | hc
          · refine notMem_of_encoded hu ?_ hc
            rcases hsep with rfl | rfl | rfl <;> decide
          · rcases hsep with rfl | rfl | rfl <;> simp at hc
    · refine notMem_hostPort hh hp ?_ hc
      rcases hsep with rfl | rfl | rfl <;> decide
  simp [endsAuthority, hnot]

/-- Every valid URL is what its text is parsed to. -/
theorem parse_complete {url : Url} (h : url.valid = true) : parse url.text = some url := by
  obtain ⟨scheme, authority, path, query, fragment⟩ := url
  have hvalid := h
  simp only [Url.valid, Bool.and_eq_true] at h
  obtain ⟨⟨⟨⟨hscheme, hauthority⟩, hpath⟩, hquery⟩, -⟩ := h
  have hcolon : ':' ∉ scheme := by
    cases scheme with
    | nil => cases hscheme
    | cons c cs =>
        simp only [isScheme, Bool.and_eq_true, List.all_eq_true] at hscheme
        rw [List.mem_cons, not_or]
        refine ⟨?_, fun hc => ?_⟩
        · rintro rfl
          exact absurd hscheme.1 (by decide)
        · exact absurd (hscheme.2 ':' hc) (by decide)
  have hpathchars : path = [] ∨ encoded (fun c => isPchar c || c = '/') path = true := by
    simp only [isPath, Bool.or_eq_true, Bool.and_eq_true, decide_eq_true_eq] at hpath
    tauto
  have hpathnot : ∀ sep, (isPchar sep || sep = '/' || sep = '%' || isHexDigit sep) = false →
      sep ∉ path := by
    intro sep hsep hc
    rcases hpathchars with rfl | he
    · cases hc
    · exact notMem_of_encoded he hsep hc
  have hhash : '#' ∉ path ++ led '?' query := by
    rw [List.mem_append, not_or]
    refine ⟨hpathnot '#' (by decide), ?_⟩
    cases query with
    | none => simp [led]
    | some query =>
        have hq : '#' ∉ query := notMem_of_encoded hquery (by decide)
        simp [led, hq]
  have hbehind : ∀ c, ((path ++ led '?' query) ++ led '#' fragment).head? = some c →
      endsAuthority c = true := by
    intro c hc
    simp only [isPath, Bool.or_eq_true, Bool.and_eq_true, decide_eq_true_eq] at hpath
    rcases hpath with rfl | ⟨hslash, -⟩
    · cases query with
      | some query =>
          obtain rfl : '?' = c := by simpa [led] using hc
          rfl
      | none =>
          cases fragment with
          | none => cases hc
          | some fragment =>
              obtain rfl : '#' = c := by simpa [led] using hc
              rfl
    · cases path with
      | nil => cases hslash
      | cons d path =>
          simp only [List.head?_cons, Option.some.injEq] at hslash
          simp only [List.cons_append, List.head?_cons, Option.some.injEq] at hc
          simp [← hc, hslash, endsAuthority]
  have hscheme' : cut ':' (Url.text ⟨scheme, authority, path, query, fragment⟩) =
      (scheme, some ('/' :: '/' :: (authority.text ++
        (path ++ led '?' query ++ led '#' fragment)))) := cut_joined hcolon (some _)
  obtain ⟨htake, hdrop⟩ := takeWhile_append_stop (p := (!endsAuthority ·))
    (fun c hc => by rw [endsAuthority_notMem hauthority hc]; rfl)
    (fun c hc => by rw [hbehind c hc]; rfl)
  rw [parse, hscheme']
  simp only [htake, hdrop, cut_joined hhash, cut_joined (hpathnot '?' (by decide)),
    parseAuthority_valid hauthority, Option.bind_some, hvalid, if_true]

/-- The texts of valid URLs, each read in one way only. -/
theorem parse_iff {text : List Char} {url : Url} :
    parse text = some url ↔ url.valid = true ∧ url.text = text := by
  constructor
  · exact parse_sound
  · rintro ⟨hvalid, rfl⟩
    exact parse_complete hvalid

end FritzboxVpn.Uri
