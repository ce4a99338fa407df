import FritzboxVpn.Orphans
import FritzboxVpn.Parsing

namespace FritzboxVpn.CodecLaw

open Constants JsonValue Orphans Parsing RegistryRows Text UidIdentity UniqueIdCodec

structure ConnectionUid (c : String) : Prop where
  nonempty : c ≠ ""
  trimmed : strip c = c

theorem connectionUid_iff {c : String} :
    ConnectionUid c ↔ ∃ repr rawUid, normalizeConnectionUid repr rawUid = some c := by
  constructor
  · intro h
    refine ⟨fun _ => "", some (.str c), ?_⟩
    simp only [normalizeConnectionUid, pyStr_str, h.trimmed, if_neg h.nonempty]
  · rintro ⟨repr, rawUid, h⟩
    cases rawUid with
    | none => cases h
    | some v =>
        rw [normalizeConnectionUid] at h
        split at h
        next => cases h
        next hne =>
          cases h
          exact ⟨hne, strip_strip _⟩

/-- The entity of a connection reads back, and while the connection is listed
nothing takes its row for an orphan or a shadow. -/
structure ReadsBack (c : String) (s : UniqueIdSuffix) : Prop where
  decodes : Decodes (entityUniqueId c s) c s
  kept : ∀ R entryId currentUids r, c ∈ currentUids → r.uniqueId = entityUniqueId c s →
    r ∉ orphanedEntityEntries R entryId currentUids ∧ r ∉ unexpectedEntityEntries R entryId

def ReadOnlyIfOurs (u : String) : Prop :=
  ∀ c s, Decodes u c s → ∃ c' s', ConnectionUid c' ∧ u = entityUniqueId c' s'

/-- What stands between prefix and suffix is no UID, also not with `_vpn` behind
it where the suffix is that of the VPN UID. -/
def Misfit (u : String) : Prop :=
  ∃ c s, u = entityUniqueId c s ∧ ¬ ConnectionUid c ∧ ¬ (s = .vpnUid ∧ ConnectionUid (c ++ "_vpn"))

theorem kept_of_decodes {c : String} {s : UniqueIdSuffix} (h : Decodes (entityUniqueId c s) c s)
    {R : Registries} {entryId : String} {currentUids : Finset String} {r : EntityRow}
    (hc : c ∈ currentUids) (hr : r.uniqueId = entityUniqueId c s) :
    r ∉ orphanedEntityEntries R entryId currentUids ∧ r ∉ unexpectedEntityEntries R entryId := by
  have hread : connectionUidFromEntityUniqueId r.uniqueId = some c := hr ▸ h.1
  constructor
  · intro hmem
    exact (mem_orphanedEntityEntries.mp hmem).2.not_listed ⟨c, hc, hread⟩
  · intro hmem
    have hshadow := (List.mem_filter.mp hmem).2
    rw [isUnexpected, hread, Option.isNone_some, Bool.and_false] at hshadow
    cases hshadow

theorem readsBack_iff (c : String) (s : UniqueIdSuffix) :
    ReadsBack c s ↔ ¬ (s = .uid ∧ endsWith "_vpn" c = true) := by
  constructor
  · rintro h ⟨rfl, hend⟩
    obtain ⟨front, rfl⟩ := endsWith_iff_append.mp hend
    have hs := h.decodes.2
    rw [(decodes_vpn_uid front).2] at hs
    cases hs
  · intro h
    have hd : Decodes (entityUniqueId c s) c s := decodes_entityUniqueId c s fun hs =>
      Bool.eq_false_iff.mpr fun hend => h ⟨hs, hend⟩
    exact ⟨hd, fun _ _ _ _ hc hr => kept_of_decodes hd hc hr⟩

/-- Whatever stands between prefix and suffix, the decoder reads something. -/
theorem decodes_exists (c : String) (s : UniqueIdSuffix) : ∃ c' s', Decodes (entityUniqueId c s) c' s' := by
  by_cases h : s = .uid ∧ endsWith "_vpn" c = true
  · obtain ⟨rfl, hend⟩ := h
    obtain ⟨front, rfl⟩ := endsWith_iff_append.mp hend
    exact ⟨front, .vpnUid, decodes_vpn_uid front⟩
  · exact ⟨c, s, ((readsBack_iff c s).mpr h).decodes⟩

theorem connectionUid_append_vpn {c : String} (h : ConnectionUid c) : ConnectionUid (c ++ "_vpn") := by
  obtain ⟨hfirst, -⟩ := strip_eq_self_iff.mp h.trimmed
  have hne : c.toList ≠ [] := fun hnil => h.nonempty (String.toList_inj.mp hnil)
  refine ⟨fun he => ?_, strip_eq_self_iff.mpr ⟨fun d hd => hfirst d ?_, fun d hd => ?_⟩⟩
  · have hlen := congrArg (fun t : String => t.toList.length) he
    simp [String.toList_append] at hlen
  · rwa [String.toList_append, List.head?_append_of_ne_nil _ hne] at hd
  · rw [String.toList_append, List.getLast?_append_of_ne_nil _ (by decide)] at hd
    have hd : d = 'n' := (Option.some.inj hd).symm
    rw [hd]
    decide

theorem readOnlyIfOurs_iff (u : String) : ReadOnlyIfOurs u ↔ ¬ Misfit u := by
  constructor
  · rintro h ⟨c, s, rfl, hc, hvpn⟩
    obtain ⟨c₁, s₁, hd⟩ := decodes_exists c s
    obtain ⟨c', s', hc', he⟩ := h c₁ s₁ hd
    rcases entityUniqueId_inj.mp he with ⟨rfl, -⟩ | ⟨hs, -, rfl⟩ | ⟨-, -, rfl⟩
    · exact hc hc'
    · exact hvpn ⟨hs, hc'⟩
    · exact hc (connectionUid_append_vpn hc')
  · intro h c s hd
    by_cases hc : ConnectionUid c
    · exact ⟨c, s, hc, hd.eq⟩
    · by_cases hvpn : s = .vpnUid ∧ ConnectionUid (c ++ "_vpn")
      · obtain ⟨rfl, hc'⟩ := hvpn
        exact ⟨c ++ "_vpn", .uid, hc', hd.eq.trans (entityUniqueId_inj.mpr (Or.inr (Or.inl ⟨rfl, rfl, rfl⟩)))⟩
      · exact absurd ⟨c, s, hd.eq, hc, hvpn⟩ h

def LawfulAt (c : String) (s : UniqueIdSuffix) (u : String) : Prop :=
  (ConnectionUid c → ReadsBack c s) ∧ ReadOnlyIfOurs u

/-- The codec of the unique ids is one up to the uid sensor of a UID that ends in
`_vpn`, and it reads more than the ids of connections. -/
theorem codec_iff (c : String) (s : UniqueIdSuffix) (u : String) : LawfulAt c s u ↔
    ¬ (ConnectionUid c ∧ s = .uid ∧ endsWith "_vpn" c = true) ∧ ¬ Misfit u := by
  rw [LawfulAt, readOnlyIfOurs_iff, readsBack_iff]
  exact and_congr_left fun _ => (not_and).symm

/-- The uid sensor of a connection office_vpn reads as the VPN UID sensor of a
connection office. -/
theorem codec_fails : ¬ ∀ c s u, LawfulAt c s u := by
  intro h
  have hread := (h "office_vpn" .uid "").1 ⟨by decide, by decide⟩
  exact (readsBack_iff "office_vpn" .uid).mp hread ⟨rfl, by decide⟩

/-- A unique id without a UID is read as one of the UID that is empty. -/
example : Decodes "fritzbox_vpn__switch" "" .switch := by decide

end FritzboxVpn.CodecLaw
