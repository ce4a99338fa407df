import FritzboxVpn.RegistryRows
import FritzboxVpn.UniqueIdCodec
import Mathlib.Data.List.TakeWhile

namespace FritzboxVpn.EntityIds

open Constants HomeAssistant RegistryRows Text UniqueIdCodec

def isDigit (c : Char) : Bool := (digitValue c).isSome

/-- The match of `^(.+)_(\d+)$`: what stands in front of the last underscore,
and the digits behind it. -/
def splitNumber (objectId : String) : Option (String × String) :=
  let text := objectId.toList
  let body := if text.getLast? = some '\n' then text.dropLast else text
  let digits := (body.reverse.takeWhile isDigit).reverse
  match body.reverse.dropWhile isDigit with
  | '_' :: front =>
      if digits = [] ∨ front = [] ∨ '\n' ∈ front then none
      else some (String.ofList front.reverse, String.ofList digits)
  | _ => none

def entityIdBase (e : EntityId) : Option EntityId :=
  (splitNumber e.objectId).map fun p => ⟨e.domain, p.1⟩

def entityIdSuffixNumber (e : EntityId) : Option Nat :=
  (splitNumber e.objectId).bind fun p => (parseInt p.2).map Int.toNat

def suffixRank (e : EntityId) : Nat :=
  match entityIdSuffixNumber e with
  | none | some 0 => 10000
  | some n => n

def entityIdText (e : EntityId) : String := e.domain ++ "." ++ e.objectId

def expectedObjectIdForDeviceSuffix (slugify : String → String) (deviceName : String)
    (uniqueIdSuffix : UniqueIdSuffix) : String :=
  if uniqueIdSuffix = .switch then slugify deviceName
  else slugify (deviceName ++ " " ++ uniqueIdSuffix.token)

/-- Python's `or` on names that may be missing. -/
def deviceName (d : DeviceRow) : Option String :=
  (d.nameByUser.filter (· ≠ "")).or (d.name.filter (· ≠ ""))

def expectedEntityIdForRegistryEntry (slugify : String → String) (R : Registries) (entry : EntityRow) :
    Option EntityId :=
  match uniqueIdSuffixFromEntityUniqueId entry.uniqueId with
  | none => none
  | some suffix =>
      ((entry.deviceId.filter (· ≠ "")).bind R.asyncGetDeviceById).bind fun device =>
        (deviceName device).map fun name =>
          ⟨entry.entityId.domain, expectedObjectIdForDeviceSuffix slugify name suffix⟩

theorem expectedEntityId_iff {slugify : String → String} {R : Registries} {entry : EntityRow}
    {e : EntityId} : expectedEntityIdForRegistryEntry slugify R entry = some e ↔
      ∃ suffix d name, uniqueIdSuffixFromEntityUniqueId entry.uniqueId = some suffix ∧ d ∈ R.devices ∧
        entry.deviceId = some d.id ∧ d.id ≠ "" ∧ deviceName d = some name ∧
          e = ⟨entry.entityId.domain, expectedObjectIdForDeviceSuffix slugify name suffix⟩ := by
  rw [expectedEntityIdForRegistryEntry]
  constructor
  · intro h
    split at h
    next => cases h
    next suffix hsuffix =>
      obtain ⟨d, hd, hname⟩ := Option.bind_eq_some_iff.mp h
      obtain ⟨deviceId, hid, hget⟩ := Option.bind_eq_some_iff.mp hd
      obtain ⟨hmem, rfl⟩ := Registries.asyncGetDeviceById_iff.mp hget
      obtain ⟨hid, hne⟩ := Option.filter_eq_some_iff.mp hid
      obtain ⟨name, hdevice, rfl⟩ := Option.map_eq_some_iff.mp hname
      exact ⟨suffix, d, name, hsuffix, hmem, hid, by simpa using hne, hdevice, rfl⟩
  · rintro ⟨suffix, d, name, hsuffix, hmem, hid, hne, hname, rfl⟩
    have hget : R.asyncGetDeviceById d.id = some d := Registries.asyncGetDeviceById_iff.mpr ⟨hmem, rfl⟩
    have hfilter : entry.deviceId.filter (· ≠ "") = some d.id :=
      Option.filter_eq_some_iff.mpr ⟨hid, by simpa using hne⟩
    simp only [hsuffix, hfilter, Option.bind_some, hget, hname, Option.map_some]

theorem entityIdBase_domain {e base : EntityId} (h : entityIdBase e = some base) :
    base.domain = e.domain := by
  obtain ⟨p, -, rfl⟩ := Option.map_eq_some_iff.mp h
  rfl

/-- A base is shorter than what it is the base of. -/
theorem splitNumber_length {objectId front digits : String}
    (h : splitNumber objectId = some (front, digits)) :
    front.toList.length < objectId.toList.length := by
  rw [splitNumber] at h
  generalize hb : (if objectId.toList.getLast? = some '\n' then objectId.toList.dropLast
    else objectId.toList) = body at h
  have hlen : body.length ≤ objectId.toList.length := by
    rw [← hb]
    split
    · rw [List.length_dropLast]
      omega
    · exact le_rfl
  split at h
  next rest hrest =>
    split at h
    next => cases h
    next =>
      cases h
      have hsub := (List.dropWhile_sublist isDigit (l := body.reverse)).length_le
      rw [hrest] at hsub
      simp only [List.length_cons, List.length_reverse] at hsub
      simp only [String.toList_ofList, List.length_reverse]
      omega
  next => cases h

/-- The id is the base with an underscore and a number behind it; Python's `$`
lets one line break follow. -/
structure Numbered (base e : EntityId) : Prop where
  domain : e.domain = base.domain
  objectId : ∃ digits tail, digits ≠ [] ∧ (∀ c ∈ digits, isDigit c = true) ∧ (tail = [] ∨ tail = ['\n']) ∧
    e.objectId.toList = base.objectId.toList ++ '_' :: digits ++ tail

theorem splitNumber_spec {objectId front digits : String}
    (h : splitNumber objectId = some (front, digits)) :
    digits.toList ≠ [] ∧ (∀ c ∈ digits.toList, isDigit c = true) ∧
      ∃ tail, (tail = [] ∨ tail = ['\n']) ∧
        objectId.toList = front.toList ++ '_' :: digits.toList ++ tail := by
  rw [splitNumber] at h
  generalize hb : (if objectId.toList.getLast? = some '\n' then objectId.toList.dropLast
    else objectId.toList) = body at h
  have htail : ∃ tail, (tail = [] ∨ tail = ['\n']) ∧ objectId.toList = body ++ tail := by
    split at hb
    next hlast =>
      refine ⟨['\n'], Or.inr rfl, ?_⟩
      rw [← hb]
      exact (List.dropLast_append_getLast? _ hlast).symm
    next => exact ⟨[], Or.inl rfl, by rw [hb, List.append_nil]⟩
  obtain ⟨tail, htail, hobject⟩ := htail
  split at h
  next rest hrest =>
    split at h
    next => cases h
    next hne =>
      cases h
      push Not at hne
      have hbody : body = rest.reverse ++ '_' :: (body.reverse.takeWhile isDigit).reverse := by
        have hsplit := List.takeWhile_append_dropWhile (p := isDigit) (l := body.reverse)
        rw [hrest] at hsplit
        have hrev := congrArg List.reverse hsplit
        rw [List.reverse_reverse, List.reverse_append, List.reverse_cons, List.append_assoc] at hrev
        exact hrev.symm
      refine ⟨?_, ?_, tail, htail, ?_⟩
      · rw [String.toList_ofList]
        exact hne.1
      · intro c hc
        rw [String.toList_ofList, List.mem_reverse] at hc
        exact List.mem_takeWhile_imp hc
      · rw [String.toList_ofList, String.toList_ofList, hobject]
        nth_rewrite 1 [hbody]
        rfl
  next => cases h

theorem numbered_of_base {e base : EntityId} (h : entityIdBase e = some base) : Numbered base e := by
  obtain ⟨⟨front, digits⟩, hs, rfl⟩ := Option.map_eq_some_iff.mp h
  obtain ⟨hne, hdigits, tail, htail, hobject⟩ := splitNumber_spec hs
  exact ⟨rfl, digits.toList, tail, hne, hdigits, htail, hobject⟩

theorem entityIdBase_length {e base : EntityId} (h : entityIdBase e = some base) :
    base.objectId.toList.length < e.objectId.toList.length := by
  obtain ⟨⟨front, digits⟩, hs, rfl⟩ := Option.map_eq_some_iff.mp h
  exact splitNumber_length hs

theorem entityIdBase_ne {e base : EntityId} (h : entityIdBase e = some base) : base ≠ e := by
  rintro rfl
  exact lt_irrefl _ (entityIdBase_length h)

example : entityIdBase ⟨"switch", "office_2_3"⟩ = some ⟨"switch", "office_2"⟩ ∧
    entityIdBase ⟨"switch", "office_"⟩ = none ∧ suffixRank ⟨"switch", "office_07"⟩ = 7 := by
  decide +kernel

end FritzboxVpn.EntityIds
