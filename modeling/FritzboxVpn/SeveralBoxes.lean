import FritzboxVpn.PlatformSetup
import Mathlib.Data.Set.Lattice
import Mathlib.Order.CompletePartialOrder

namespace FritzboxVpn.SeveralBoxes

open Constants Coordinator CoordinatorSteps HomeAssistant JsonValue OrderedDict PlatformSetup Runs
  UidIdentity UniqueIdCodec

def uniqueIdsOf (uids : Set String) : Set String :=
  {i | ∃ uid ∈ uids, ∃ suffix, i = entityUniqueId uid suffix}

/-- Two boxes list no UID in common, and none whose vpn_uid sensor would take
the unique id of a uid sensor. -/
structure Apart (uids uids' : Set String) : Prop where
  shared : ∀ uid ∈ uids, uid ∉ uids'
  vpn : ∀ uid ∈ uids, uid ++ "_vpn" ∉ uids'
  vpn' : ∀ uid ∈ uids', uid ++ "_vpn" ∉ uids

theorem uniqueIdsOf_disjoint_iff {uids uids' : Set String} :
    Disjoint (uniqueIdsOf uids) (uniqueIdsOf uids') ↔ Apart uids uids' := by
  rw [Set.disjoint_left]
  constructor
  · intro h
    refine ⟨fun uid hu hu' => ?_, fun uid hu hu' => ?_, fun uid hu hu' => ?_⟩
    · exact h ⟨uid, hu, .switch, rfl⟩ ⟨uid, hu', .switch, rfl⟩
    · exact h ⟨uid, hu, .vpnUid, rfl⟩
        ⟨uid ++ "_vpn", hu', .uid, entityUniqueId_inj.mpr (Or.inr (Or.inl ⟨rfl, rfl, rfl⟩))⟩
    · exact h ⟨uid ++ "_vpn", hu', .uid, rfl⟩
        ⟨uid, hu, .vpnUid, entityUniqueId_inj.mpr (Or.inr (Or.inr ⟨rfl, rfl, rfl⟩))⟩
  · rintro h i ⟨uid, hu, suffix, rfl⟩ ⟨uid', hu', suffix', he⟩
    rcases entityUniqueId_inj.mp he with ⟨rfl, -⟩ | ⟨-, -, rfl⟩ | ⟨-, -, rfl⟩
    · exact h.shared uid hu hu'
    · exact h.vpn uid hu hu'
    · exact h.vpn' uid' hu' hu

structure LoadedEntry where
  entryId : String
  state : PlatformSetup.State

def vpnDeviceIdentifier (entry : LoadedEntry) (connectionUid : String) : Identifier :=
  [domain, entry.entryId, connectionUid]

/-- The devices of different entries have different identifiers, whatever the
boxes list. -/
theorem vpnDeviceIdentifier_ne {a b : LoadedEntry} (h : a.entryId ≠ b.entryId) (uid uid' : String) :
    vpnDeviceIdentifier a uid ≠ vpnDeviceIdentifier b uid' := by
  intro he
  simp only [vpnDeviceIdentifier, List.cons.injEq] at he
  exact h he.2.1

def handedIds (order : IterationOrder) (platform : RuntimePlatform) (entry : LoadedEntry) : List String :=
  (setupVpnPlatform order platform entry.state).1.map VpnEntity.uniqueId

theorem mem_handedIds {order : IterationOrder} {platform : RuntimePlatform} {entry : LoadedEntry}
    {i : String} : i ∈ handedIds order platform entry ↔
      ∃ uid ∈ entry.state.dataKeys, ∃ suffix ∈ platformSuffixes platform, i = entityUniqueId uid suffix := by
  rw [handedIds, setupVpnPlatform, List.mem_map]
  constructor
  · rintro ⟨e, he, rfl⟩
    obtain ⟨hu, -, suffix, hs, hid⟩ := mem_createEntities.mp he
    exact ⟨e.connectionUid, mem_toList.mp hu, suffix, hs, hid⟩
  · rintro ⟨uid, hu, suffix, hs, rfl⟩
    obtain ⟨payload, hp⟩ := PlatformSetup.mem_dataKeys.mp hu
    exact ⟨⟨uid, entityUniqueId uid suffix, payload⟩,
      mem_createEntities.mpr ⟨mem_toList.mpr hu, hp, suffix, hs, rfl⟩, rfl⟩

theorem exists_platform (suffix : UniqueIdSuffix) : ∃ platform, suffix ∈ platformSuffixes platform := by
  cases suffix with
  | switch => exact ⟨.switch, by decide⟩
  | connected => exact ⟨.binarySensor, by decide⟩
  | status | uid | vpnUid => exact ⟨.sensor, by decide⟩

theorem exists_handedIds (order : IterationOrder) {entry : LoadedEntry} {i : String} :
    (∃ platform, i ∈ handedIds order platform entry) ↔ i ∈ uniqueIdsOf entry.state.dataKeys := by
  constructor
  · rintro ⟨platform, hi⟩
    obtain ⟨uid, hu, suffix, -, he⟩ := mem_handedIds.mp hi
    exact ⟨uid, hu, suffix, he⟩
  · rintro ⟨uid, hu, suffix, he⟩
    obtain ⟨platform, hs⟩ := exists_platform suffix
    exact ⟨platform, mem_handedIds.mpr ⟨uid, hu, suffix, hs, he⟩⟩

/-- The setups of two entries hand over different unique ids exactly where the
listings of their boxes are apart. -/
theorem handedIds_disjoint_iff (order order' : IterationOrder) (a b : LoadedEntry) :
    (∀ platform platform', (handedIds order platform a).Disjoint (handedIds order' platform' b)) ↔
      Apart a.state.dataKeys b.state.dataKeys := by
  rw [← uniqueIdsOf_disjoint_iff, Set.disjoint_left]
  constructor
  · intro h i hi hi'
    obtain ⟨platform, hp⟩ := (exists_handedIds order).mpr hi
    obtain ⟨platform', hp'⟩ := (exists_handedIds order').mpr hi'
    exact h platform platform' hp hp'
  · intro h platform platform' i hi hi'
    exact h ((exists_handedIds order).mp ⟨platform, hi⟩) ((exists_handedIds order').mp ⟨platform', hi'⟩)

section Runs

variable {order order' : IterationOrder} {platform platform' : RuntimePlatform}
  {hist hist' : List PlatformRecord} {s s' : PlatformSetup.State}

theorem output_listed (h : Run (platformMachine order platform) hist s) {r : PlatformRecord}
    (hr : r ∈ hist) {e : VpnEntity} (he : e ∈ r.output) : ListedIn hist e.connectionUid ∧
      ∃ suffix, e.uniqueId = entityUniqueId e.connectionUid suffix := by
  induction h with
  | start => cases hr
  | step h i ih =>
      rename_i hist s
      rcases List.mem_cons.mp hr with rfl | hr
      · have handed : ∀ {uids}, HandsOver order platform s i uids →
            ListedIn ((platformMachine order platform).record s i :: hist) e.connectionUid ∧
              ∃ suffix, e.uniqueId = entityUniqueId e.connectionUid suffix := by
          intro uids ho
          change e ∈ (step order platform s i).1 at he
          rw [ho.output] at he
          obtain ⟨hu, -, suffix, -, hid⟩ := mem_createEntities.mp he
          have hlisted := (tracking_of_run h).listed _ (ho.listed (mem_toList.mp hu))
          exact ⟨hlisted.later, suffix, hid⟩
        cases i with
        | setup =>
            obtain ⟨uids, ho, -⟩ := setup_handsOver order platform s
            exact handed ho
        | addNewEntities =>
            obtain ⟨uids, ho, -⟩ := task_handsOver order platform s
            exact handed ho
        | update data remap => cases he
        | updateFailed => cases he
        | clearKnownUids uids => cases he
      · obtain ⟨hlisted, hid⟩ := ih hr
        exact ⟨hlisted.later, hid⟩

/-- Nor do the later tasks of two entries, as long as their listings stay apart. -/
theorem outputs_disjoint (h : Run (platformMachine order platform) hist s)
    (h' : Run (platformMachine order' platform') hist' s')
    (hapart : Apart {uid | ListedIn hist uid} {uid | ListedIn hist' uid}) :
    (hist.flatMap fun r => r.output.map VpnEntity.uniqueId).Disjoint
      (hist'.flatMap fun r => r.output.map VpnEntity.uniqueId) := by
  intro i hi hi'
  obtain ⟨r, hr, hi⟩ := List.mem_flatMap.mp hi
  obtain ⟨e, he, rfl⟩ := List.mem_map.mp hi
  obtain ⟨r', hr', hi'⟩ := List.mem_flatMap.mp hi'
  obtain ⟨e', he', hid⟩ := List.mem_map.mp hi'
  obtain ⟨hlisted, suffix, hsuffix⟩ := output_listed h hr he
  obtain ⟨hlisted', suffix', hsuffix'⟩ := output_listed h' hr' he'
  have hdisjoint := Set.disjoint_left.mp (uniqueIdsOf_disjoint_iff.mpr hapart)
  exact hdisjoint ⟨e.connectionUid, hlisted, suffix, hsuffix⟩
    ⟨e'.connectionUid, hlisted', suffix', hid.symm.trans hsuffix'⟩

end Runs

def officeEntry (entryId : String) : LoadedEntry :=
  { entryId, state := { data := some (office "vpncfg1") } }

/-- Two boxes that number their connections alike. -/
theorem officeEntry_handedIds_meet : ∃ a b, a.entryId ≠ b.entryId ∧
    ¬ ∀ platform platform', (handedIds sortedOrder platform a).Disjoint
      (handedIds sortedOrder platform' b) := by
  refine ⟨officeEntry "entry", officeEntry "second", by decide, fun h => ?_⟩
  have hi : entityUniqueId "vpncfg1" .switch ∈ handedIds sortedOrder .switch (officeEntry "entry") :=
    mem_handedIds.mpr ⟨"vpncfg1", by decide +kernel, .switch, by decide, rfl⟩
  have hi' : entityUniqueId "vpncfg1" .switch ∈ handedIds sortedOrder .switch (officeEntry "second") :=
    mem_handedIds.mpr ⟨"vpncfg1", by decide +kernel, .switch, by decide, rfl⟩
  exact h .switch .switch hi hi'

end FritzboxVpn.SeveralBoxes
