import FritzboxVpn.UidIdentity

namespace FritzboxVpn.UniqueIdCodec

open Constants Text UidIdentity

def uniqueIdRest (uniqueId : String) : String :=
  String.ofList (uniqueId.toList.drop uniqueIdPrefix.toList.length)

def uniqueIdSuffixFromEntityUniqueId (uniqueId : String) : Option UniqueIdSuffix :=
  if startsWith uniqueIdPrefix uniqueId then
    uniqueIdSuffixes.find? fun suffix => endsWith ("_" ++ suffix.token) (uniqueIdRest uniqueId)
  else none

def connectionUidFromEntityUniqueId (uniqueId : String) : Option String :=
  match uniqueIdSuffixFromEntityUniqueId uniqueId with
  | none => none
  | some suffix =>
      let rest := (uniqueIdRest uniqueId).toList
      some (String.ofList (rest.take (rest.length - (suffix.token.toList.length + 1))))

def Decodes (uniqueId connectionUid : String) (suffix : UniqueIdSuffix) : Prop :=
  connectionUidFromEntityUniqueId uniqueId = some connectionUid ∧
    uniqueIdSuffixFromEntityUniqueId uniqueId = some suffix

instance (uniqueId connectionUid : String) (suffix : UniqueIdSuffix) :
    Decidable (Decodes uniqueId connectionUid suffix) :=
  inferInstanceAs (Decidable (_ ∧ _))

theorem entityUniqueId_toList (c : String) (s : UniqueIdSuffix) :
    (entityUniqueId c s).toList =
      uniqueIdPrefix.toList ++ (c.toList ++ ("_" ++ s.token).toList) := by
  simp [entityUniqueId, String.toList_append, List.append_assoc]

theorem uniqueIdRest_entityUniqueId (c : String) (s : UniqueIdSuffix) :
    uniqueIdRest (entityUniqueId c s) = c ++ ("_" ++ s.token) := by
  apply String.ext
  rw [uniqueIdRest, String.toList_ofList, entityUniqueId_toList, List.drop_left,
    ← String.toList_append]

theorem startsWith_entityUniqueId (c : String) (s : UniqueIdSuffix) :
    startsWith uniqueIdPrefix (entityUniqueId c s) = true := by
  rw [startsWith_iff, entityUniqueId_toList]
  exact List.prefix_append _ _

theorem append_token_inj {c c' : String} {s s' : UniqueIdSuffix} :
    c ++ ("_" ++ s.token) = c' ++ ("_" ++ s'.token) ↔
      (c = c' ∧ s = s') ∨ (s = .vpnUid ∧ s' = .uid ∧ c' = c ++ "_vpn") ∨
        (s = .uid ∧ s' = .vpnUid ∧ c = c' ++ "_vpn") := by
  have hr : ∀ x y : String, x = y ↔ x.toList.reverse = y.toList.reverse := fun x y => by
    rw [List.reverse_inj, String.toList_inj]
  cases s <;> cases s' <;>
    simp [hr, UniqueIdSuffix.token, String.toList_append, eq_comm]

theorem entityUniqueId_inj {c c' : String} {s s' : UniqueIdSuffix} :
    entityUniqueId c s = entityUniqueId c' s' ↔
      (c = c' ∧ s = s') ∨ (s = .vpnUid ∧ s' = .uid ∧ c' = c ++ "_vpn") ∨
        (s = .uid ∧ s' = .vpnUid ∧ c = c' ++ "_vpn") := by
  rw [← append_token_inj, ← String.toList_inj, entityUniqueId_toList, entityUniqueId_toList,
    List.append_cancel_left_eq, ← String.toList_append, ← String.toList_append, String.toList_inj]

theorem Decodes.eq {u c : String} {s : UniqueIdSuffix} (h : Decodes u c s) :
    u = entityUniqueId c s := by
  obtain ⟨hc, hs⟩ := h
  have hpre : startsWith uniqueIdPrefix u = true := by
    by_contra hn
    simp [uniqueIdSuffixFromEntityUniqueId, hn] at hs
  have hend : endsWith ("_" ++ s.token) (uniqueIdRest u) = true := by
    rw [uniqueIdSuffixFromEntityUniqueId, if_pos hpre] at hs
    simpa using List.find?_some hs
  rw [startsWith_iff] at hpre
  rw [endsWith_iff] at hend
  obtain ⟨rest, hrest⟩ := hpre
  have hr : (uniqueIdRest u).toList = rest := by
    rw [uniqueIdRest, String.toList_ofList, ← hrest, List.drop_left]
  rw [hr] at hend
  obtain ⟨front, hfront⟩ := hend
  have hl : ("_" ++ s.token).toList.length = s.token.toList.length + 1 := by
    simp [String.toList_append]
  have hcf : c.toList = front := by
    simp only [connectionUidFromEntityUniqueId, hs, hr, Option.some.injEq] at hc
    rw [← hc, String.toList_ofList, ← hl, ← hfront, List.length_append, Nat.add_sub_cancel,
      List.take_left]
  rw [← String.toList_inj, entityUniqueId_toList, ← hrest, ← hfront, hcf]

/-- The decoder's tests on a unique id of ours: a suffix is found in another
one's id only where vpn_uid shows up in a uid. -/
theorem endsWith_token_iff {c : String} {s t : UniqueIdSuffix} :
    endsWith ("_" ++ t.token) (c ++ ("_" ++ s.token)) = true ↔
      t = s ∨ (t = .vpnUid ∧ s = .uid ∧ endsWith "_vpn" c = true) ∨ (t = .uid ∧ s = .vpnUid) := by
  rw [endsWith_iff_append, endsWith_iff_append]
  simp only [append_token_inj]
  constructor
  · rintro ⟨front, ⟨-, h⟩ | ⟨h1, h2, -⟩ | ⟨h1, h2, h3⟩⟩
    · exact Or.inl h.symm
    · exact Or.inr (Or.inr ⟨h2, h1⟩)
    · exact Or.inr (Or.inl ⟨h2, h1, front, h3⟩)
  · rintro (h | ⟨h1, h2, front, h3⟩ | ⟨h1, h2⟩)
    · exact ⟨c, Or.inl ⟨rfl, h.symm⟩⟩
    · exact ⟨front, Or.inr (Or.inr ⟨h2, h1, h3⟩)⟩
    · exact ⟨c ++ "_vpn", Or.inr (Or.inl ⟨h2, h1, rfl⟩)⟩

theorem suffix_entityUniqueId (c : String) (s : UniqueIdSuffix)
    (h : s = .uid → endsWith "_vpn" c = false) :
    uniqueIdSuffixFromEntityUniqueId (entityUniqueId c s) = some s := by
  have hd : ∀ t : UniqueIdSuffix, endsWith ("_" ++ t.token) (c ++ ("_" ++ s.token)) =
      decide (t = s ∨ (t = .vpnUid ∧ s = .uid ∧ endsWith "_vpn" c = true) ∨
        (t = .uid ∧ s = .vpnUid)) := fun t =>
    Bool.eq_iff_iff.mpr (endsWith_token_iff.trans (decide_eq_true_iff).symm)
  rw [uniqueIdSuffixFromEntityUniqueId, if_pos (startsWith_entityUniqueId c s),
    uniqueIdRest_entityUniqueId]
  simp only [hd]
  cases s with
  | vpnUid | connected | status | switch => simp [uniqueIdSuffixes]
  | uid => simp [uniqueIdSuffixes, h rfl]

/-- Decoding inverts encoding, except for the uid sensor of a connection whose
UID ends in _vpn: that one reads as a vpn_uid sensor. -/
theorem decodes_entityUniqueId (c : String) (s : UniqueIdSuffix)
    (h : s = .uid → endsWith "_vpn" c = false) : Decodes (entityUniqueId c s) c s := by
  have hs := suffix_entityUniqueId c s h
  refine ⟨?_, hs⟩
  have hl : s.token.toList.length + 1 = ("_" ++ s.token).toList.length := by
    simp [String.toList_append]
  simp only [connectionUidFromEntityUniqueId, hs, uniqueIdRest_entityUniqueId, Option.some.injEq]
  rw [String.toList_append, List.length_append, hl, Nat.add_sub_cancel, List.take_left,
    String.ofList_toList]

theorem decodes_vpn_uid (c : String) : Decodes (entityUniqueId (c ++ "_vpn") .uid) c .vpnUid := by
  have he : entityUniqueId (c ++ "_vpn") .uid = entityUniqueId c .vpnUid :=
    entityUniqueId_inj.mpr (Or.inr (Or.inr ⟨rfl, rfl, rfl⟩))
  rw [he]
  exact decodes_entityUniqueId c .vpnUid (by simp)

end FritzboxVpn.UniqueIdCodec
