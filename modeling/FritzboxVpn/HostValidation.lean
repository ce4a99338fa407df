import FritzboxVpn.Session
import FritzboxVpn.Uri

namespace FritzboxVpn.HostValidation

open Constants Exceptions IpAddress JsonValue Session Text Uri

/-- `str.isalnum` of one character; outside ASCII it is a parameter. -/
structure CharClass where
  isalnum : Char → Bool
  ascii : ∀ c : Char, c.toNat < 128 → isalnum c = c.isAlphanum

def invalid (message : String) : PyError := otherError message

def validateHost (chars : CharClass) : Json → Except PyError String
  | .str host =>
      if host = "" then .error (invalid "Host must be a non-empty string")
      else if isIpAddress host.toList then .ok host
      else if 253 < host.length then .error (invalid "Hostname too long (max 253 characters)")
      else if (host.toList.all fun c => chars.isalnum c || c = '.' || c = '-') = false then
        .error (invalid "Invalid hostname format")
      else if startsWith "." host || endsWith "." host || startsWith "-" host || endsWith "-" host then
        .error (invalid "Hostname cannot start or end with dot or hyphen")
      else .ok host
  | _ => .error (invalid "Host must be a non-empty string")

def protocolText : Protocol → String
  | .http => protocolHttp
  | .https => protocolHttps

def baseUrl (protocol : Protocol) (host : String) : String := protocolText protocol ++ ("://" ++ host)

def loginUrl (protocol : Protocol) (host : String) (version2 : Bool) : String :=
  baseUrl protocol host ++ (apiLogin ++ if version2 then "?version=2" else "")

def loginPageHttpUrl (host apiPath query : String) : String :=
  protocolHttp ++ ("://" ++ (host ++ (apiPath ++ if query ≠ "" then "?" ++ query else "")))

def hostText (host : String) : List Char :=
  if isIpv6 host.toList then '[' :: (host.toList ++ [']']) else host.toList

/-- The login URL leads to the host, and to nothing else. -/
def HostContacted (protocol : Protocol) (version2 : Bool) (host : String) : Prop :=
  ∃ url, parse (loginUrl protocol host version2).toList = some url ∧
    url.authority = ⟨none, hostText host, none⟩

def isPlain (c : Char) : Bool := c.isAlphanum || c = '.' || c = '-'

theorem toNat_lt_of_isAlphanum {c : Char} (h : c.isAlphanum = true) : c.toNat < 128 := by
  change (decide (c.val ≥ 'A'.val ∧ c.val ≤ 'Z'.val) || c.val ≥ 'a'.val && c.val ≤ 'z'.val ||
    c.val ≥ '0'.val && c.val ≤ '9'.val) = true at h
  simp only [Bool.or_eq_true, Bool.and_eq_true, decide_eq_true_eq, ge_iff_le,
    UInt32.le_iff_toNat_le] at h
  have hZ : 'Z'.val.toNat = 90 := rfl
  have hz : 'z'.val.toNat = 122 := rfl
  have h9 : '9'.val.toNat = 57 := rfl
  change c.val.toNat < 128
  omega

theorem toNat_lt_of_regName {c : Char}
    (h : (isUnreserved c || isSubDelim c) = true ∨ c = '%' ∨ isHexDigit c = true) :
    c.toNat < 128 := by
  have hmem : ∀ l : List Char, l.all (·.toNat < 128) = true → l.contains c = true → c.toNat < 128 := by
    intro l hl hc
    simpa using List.all_eq_true.mp hl c (List.contains_iff_mem.mp hc)
  simp only [isUnreserved, isSubDelim, Bool.or_eq_true, decide_eq_true_eq] at h
  rcases h with ((ha | hu) | hs | hs) | rfl | hx
  · exact toNat_lt_of_isAlphanum ha
  · exact hmem _ (by decide) hu
  · exact hmem _ (by decide) hs
  · omega
  · decide
  · simp only [isHexDigit, Char.isDigit, Bool.or_eq_true, Bool.and_eq_true, decide_eq_true_eq] at hx
    have hf : 'f'.val.toNat = 102 := rfl
    have hF : 'F'.val.toNat = 70 := rfl
    have h9 : '9'.val.toNat = 57 := rfl
    simp only [Char.le_def, ge_iff_le, UInt32.le_iff_toNat_le] at hx
    change c.val.toNat < 128
    omega

/-- The characters of an accepted host that is no IPv6 address. -/
theorem accepted_char {chars : CharClass} {host result : String}
    (h : validateHost chars (.str host) = .ok result) (h6 : isIpv6 host.toList = false) {c : Char}
    (hc : c ∈ host.toList) : isPlain c = true ∨ chars.isalnum c = true := by
  rw [validateHost] at h
  split at h
  · cases h
  · split at h
    · rename_i hip
      rw [isIpAddress, h6, Bool.or_false, isIpv4, Bool.and_eq_true] at hip
      obtain ⟨n, hn⟩ := Option.isSome_iff_exists.mp hip.2
      left
      rcases isAddressChar_of_ipv4Int hn hc with hd | hdot
      · simp [isPlain, Char.isAlphanum, hd]
      · simp [isPlain, hdot]
    · split at h
      · cases h
      · split at h
        · cases h
        · rename_i hall
          rw [Bool.not_eq_false, List.all_eq_true] at hall
          have hchar := hall c hc
          simp only [Bool.or_eq_true, decide_eq_true_eq] at hchar
          rcases hchar with (ha | hdot) | hdash
          · exact Or.inr ha
          · simp [isPlain, hdot]
          · simp [isPlain, hdash]

theorem loginUrl_toList (protocol : Protocol) (host : String) (version2 : Bool) :
    (loginUrl protocol host version2).toList = (protocolText protocol).toList ++
      ':' :: '/' :: '/' :: (host.toList ++ (apiLogin.toList ++
        led '?' (if version2 then some "version=2".toList else none))) := by
  rw [loginUrl, baseUrl]
  simp only [String.toList_append]
  cases version2 with
  | false => simp [led]
  | true => simp [led]

theorem parse_loginUrl {host : String} (h : ∀ c ∈ host.toList, isPlain c = true)
    (protocol : Protocol) (version2 : Bool) :
    parse (loginUrl protocol host version2).toList =
      some ⟨(protocolText protocol).toList, ⟨none, host.toList, none⟩, apiLogin.toList,
        if version2 then some "version=2".toList else none, none⟩ := by
  have hhost : isHost host.toList = true := by
    rw [isHost, isRegName, encoded_of_all, Bool.true_or]
    intro c hc
    have hplain := h c hc
    simp only [isPlain, Bool.or_eq_true, decide_eq_true_eq] at hplain
    rcases hplain with (ha | rfl) | rfl
    · refine ⟨?_, by simp [isUnreserved, ha]⟩
      rintro rfl
      exact absurd ha (by decide)
    · decide
    · decide
  have hscheme : isScheme (protocolText protocol).toList = true := by
    cases protocol <;> decide +kernel
  have hpath : isPath apiLogin.toList = true := by decide +kernel
  have hquery : (if version2 then some "version=2".toList else none : Option (List Char)).all
      isQuery = true := by
    cases version2 <;> decide +kernel
  rw [parse_iff, loginUrl_toList]
  refine ⟨?_, ?_⟩
  · unfold Url.valid Authority.valid
    rw [hscheme, hhost, hpath, hquery]
    rfl
  · simp only [Url.text, Authority.text, led_none, Option.elim_none, List.nil_append,
      List.append_nil]

/-- The fallback takes the path and the query of the first URL and comes to the
login URL over HTTP. -/
theorem loginPageHttpUrl_eq (host : String) (version2 : Bool) :
    loginPageHttpUrl host apiLogin (if version2 then "version=2" else "") =
      loginUrl .http host version2 := by
  rw [loginPageHttpUrl, loginUrl, baseUrl, String.append_assoc, String.append_assoc]
  cases version2 <;> rfl

theorem count_bracket (protocol : Protocol) (host : String) (version2 : Bool) :
    (loginUrl protocol host version2).toList.count '[' = host.toList.count '[' := by
  have hscheme : (protocolText protocol).toList.count '[' = 0 := by
    cases protocol <;> decide +kernel
  have hpath : apiLogin.toList.count '[' = 0 := by decide +kernel
  have hquery : (led '?' (if version2 then some "version=2".toList else none)).count '[' = 0 := by
    cases version2 <;> decide +kernel
  rw [loginUrl_toList, List.count_append, List.count_cons_of_ne (by decide),
    List.count_cons_of_ne (by decide), List.count_cons_of_ne (by decide), List.count_append,
    List.count_append, hscheme, hpath, hquery, Nat.zero_add, Nat.add_zero]

/-- An accepted host is the one contacted exactly if it is spelled with the
ASCII letters, digits, dots and hyphens of a host name. -/
theorem hostContacted_iff {chars : CharClass} {host : String}
    (h : validateHost chars (.str host) = .ok host) (protocol : Protocol) (version2 : Bool) :
    HostContacted protocol version2 host ↔ ∀ c ∈ host.toList, isPlain c = true := by
  constructor
  · rintro ⟨url, hparse, hauthority⟩
    obtain ⟨hvalid, htext⟩ := parse_iff.mp hparse
    simp only [Url.valid, Authority.valid, hauthority, Bool.and_eq_true] at hvalid
    have hhost := hvalid.1.1.1.2.1.2
    cases h6 : isIpv6 host.toList with
    | true =>
        -- the brackets of the literal are nowhere in the text
        have hcount := congrArg (List.count '[') htext
        rw [count_bracket, Url.text, hauthority, Authority.text, hostText, h6, if_pos rfl] at hcount
        simp only [List.count_append, List.count_cons, Option.elim_none, List.nil_append] at hcount
        simp at hcount
        omega
    | false =>
        rw [hostText, h6, if_neg Bool.false_ne_true] at hhost
        intro c hc
        rcases accepted_char h h6 hc with hplain | halnum
        · exact hplain
        · have hascii : c.toNat < 128 := by
            rcases Bool.or_eq_true _ _ ▸ hhost with hreg | hlit
            · exact toNat_lt_of_regName (mem_encoded hreg hc)
            · obtain ⟨inner, he, -⟩ := isIpLiteral_iff.mp hlit
              have hopen : '[' ∈ host.toList := by
                rw [he]
                exact List.mem_cons_self
              rcases accepted_char h h6 hopen with hplain | halnum'
              · exact absurd hplain (by decide)
              · rw [chars.ascii '[' (by decide)] at halnum'
                exact absurd halnum' (by decide)
          rw [chars.ascii c hascii] at halnum
          simp [isPlain, halnum]
  · intro hplain
    have h6 : isIpv6 host.toList = false := by
      rw [Bool.eq_false_iff]
      intro h6
      exact absurd (hplain ':' (colon_mem_of_isIpv6 h6)) (by decide)
    refine ⟨_, parse_loginUrl hplain protocol version2, ?_⟩
    rw [hostText, h6, if_neg Bool.false_ne_true]

def asciiChars : CharClass := ⟨Char.isAlphanum, fun _ _ => rfl⟩

theorem accepted_of_address {chars : CharClass} {host : String} (hne : host ≠ "")
    (h : isIpAddress host.toList = true) : validateHost chars (.str host) = .ok host := by
  rw [validateHost, if_neg hne, if_pos h]

theorem loopback_accepted : validateHost asciiChars (.str "::1") = .ok "::1" :=
  accepted_of_address (by decide) (by decide +kernel)

/-- The URL made of an IPv6 address is none, and one made of an address with a
scope id leads to another host. -/
theorem ipv6_leads_elsewhere :
    (validateHost asciiChars (.str "::1%25@other.example") = .ok "::1%25@other.example" ∧
      ∃ url, parse (loginUrl .https "::1%25@other.example" true).toList = some url ∧
        url.authority = ⟨some "::1%25".toList, "other.example".toList, none⟩) ∧
    ¬ ∀ (chars : CharClass) (host : String), validateHost chars (.str host) = .ok host →
      ∀ protocol version2, HostContacted protocol version2 host := by
  refine ⟨⟨accepted_of_address (by decide) (by decide +kernel), ?_⟩, ?_⟩
  · have hparse : (parse (loginUrl .https "::1%25@other.example" true).toList).map Url.authority =
        some ⟨some "::1%25".toList, "other.example".toList, none⟩ := by decide +kernel
    exact Option.map_eq_some_iff.mp hparse
  · intro h
    obtain ⟨url, hurl, -⟩ := h asciiChars "::1" loopback_accepted .https false
    have hnone : parse (loginUrl .https "::1" false).toList = none := by decide +kernel
    rw [hnone] at hurl
    cases hurl

theorem fritzBox_contacted : HostContacted .https true "fritz.box" := by
  have haccepted : validateHost asciiChars (.str "fritz.box") = .ok "fritz.box" := by
    rw [validateHost, if_neg (by decide), if_neg (by decide +kernel), if_neg (by decide +kernel),
      if_neg (by decide +kernel), if_neg (by decide +kernel)]
  have hplain : "fritz.box".toList.all isPlain = true := by decide +kernel
  exact (hostContacted_iff haccepted .https true).mpr (List.all_eq_true.mp hplain)

end FritzboxVpn.HostValidation
