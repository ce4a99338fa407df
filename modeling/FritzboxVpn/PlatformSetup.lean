import FritzboxVpn.CoordinatorSteps

namespace FritzboxVpn.PlatformSetup

open Constants Coordinator CoordinatorSteps HomeAssistant JsonValue OrderedDict RemapAtomicity Runs
  UidIdentity UidRemap UniqueIdCodec

structure VpnEntity where
  connectionUid : String
  uniqueId : String
  connectionData : Json

def platformSuffixes : RuntimePlatform → List UniqueIdSuffix
  | .switch => [.switch]
  | .sensor => [.status, .uid, .vpnUid]
  | .binarySensor => [.connected]

def vpnEntitiesForConnections (data : Option (Dict String Json)) (uids : List String)
    (createEntities : String → Json → List VpnEntity) : List VpnEntity :=
  match data with
  | none => []
  | some data =>
      uids.flatMap fun uid =>
        match data.get? uid with
        | none => []
        | some payload => createEntities uid payload

def createEntities (platform : RuntimePlatform) (data : Option (Dict String Json)) (uids : List String) :
    List VpnEntity :=
  vpnEntitiesForConnections data uids fun uid payload =>
    (platformSuffixes platform).map fun s => ⟨uid, entityUniqueId uid s, payload⟩

structure AppliedRemap where
  pairs : Dict String String
  isRenaming : Renaming pairs

theorem renaming_of_applied {env : Env} {c : Coordinator.State} {connections : Dict String Json}
    {mapping applied : Dict String String} {api : RegistryApi} {hass hass' : Hass} {entryId : String}
    (hm : remapDecision env c connections = .ok mapping)
    (hr : remapConnectionUids api hass entryId mapping = (.ok applied, hass')) : Renaming applied := by
  have ren : Renaming mapping := NamesMatch.renaming (remapDecision_ok hm)
  refine ⟨fun ho ho' => ren.injective (remap_ok_subset hr ho) (remap_ok_subset hr ho'), ?_⟩
  intro o n hn
  have hnone := ren.fresh (remap_ok_subset hr hn)
  rw [Option.eq_none_iff_forall_ne_some]
  intro m hm
  rw [remap_ok_subset hr hm] at hnone
  cases hnone

/-- What the platform setup shares with its listener: the data of the
coordinator, the tracked UIDs, and the tasks that have not run yet. -/
structure State where
  data : Option (Dict String Json) := none
  runtime : RuntimeData := ⟨∅, ∅, ∅⟩
  setUp : Bool := false
  pending : Nat := 0

namespace State

def dataKeys (s : State) : Finset String :=
  match s.data with
  | none => ∅
  | some data => data.keys

def addKnown (s : State) (platform : RuntimePlatform) (uids : Finset String) : State :=
  { s with runtime := s.runtime.addKnownUids uids platform }

def known (s : State) (platform : RuntimePlatform) : Finset String :=
  s.runtime.platformTracking platform

def onCoordinatorUpdate (s : State) : State :=
  if s.setUp then { s with pending := s.pending + 1 } else s

end State

def setupVpnPlatform (order : IterationOrder) (platform : RuntimePlatform) (s : State) :
    List VpnEntity × State :=
  (createEntities platform s.data (order.toList s.dataKeys),
    { s.addKnown platform s.dataKeys with setUp := true })

def addNewEntities (order : IterationOrder) (platform : RuntimePlatform) (s : State) :
    List VpnEntity × State :=
  let newUids := s.dataKeys \ s.known platform
  if newUids = ∅ then ([], s)
  else
    let newEntities := createEntities platform s.data (order.toList newUids)
    if newEntities.isEmpty then ([], s)
    else
      let built := (newEntities.map VpnEntity.connectionUid).toFinset
      let addedUids := if built = ∅ then newUids ∩ s.dataKeys else built
      if addedUids = ∅ then ([], s) else (newEntities, s.addKnown platform addedUids)

/-- An update replaces the data in one step with the remap it applies: nothing
else runs in between. -/
inductive Event
  | setup
  | update (data : Dict String Json) (remap : AppliedRemap)
  | updateFailed
  | addNewEntities
  | clearKnownUids (uids : Finset String)

def step (order : IterationOrder) (platform : RuntimePlatform) (s : State) : Event → List VpnEntity × State
  | .setup => if s.setUp then ([], s) else setupVpnPlatform order platform s
  | .update data remap =>
      ([], { s with data := some data, runtime := s.runtime.remapKnownUids remap.pairs }.onCoordinatorUpdate)
  | .updateFailed => ([], s.onCoordinatorUpdate)
  | .addNewEntities =>
      match s.pending with
      | 0 => ([], s)
      | n + 1 => addNewEntities order platform { s with pending := n }
  | .clearKnownUids uids => ([], { s with runtime := s.runtime.clearKnownUids uids })

def platformMachine (order : IterationOrder) (platform : RuntimePlatform) :
    Machine State Event (List VpnEntity) := ⟨{}, step order platform⟩

abbrev PlatformRecord := Record State Event (List VpnEntity)

variable {order : IterationOrder} {platform : RuntimePlatform}

def clearedUids (platform : RuntimePlatform) (r : PlatformRecord) : Finset String :=
  match r.input with
  | .clearKnownUids uids => uids ∩ r.before.known platform
  | _ => ∅

def live (platform : RuntimePlatform) : List PlatformRecord → List VpnEntity
  | [] => []
  | r :: hist =>
      r.output ++ (live platform hist).filter fun e => e.connectionUid ∉ clearedUids platform r

def remappedAway (platform : RuntimePlatform) : List PlatformRecord → Finset String
  | [] => ∅
  | r :: hist =>
      match r.input with
      | .update _ remap =>
          (remappedAway platform hist ∪ (remap.pairs.keys ∩ r.before.known platform)) \ r.after.known platform
      | _ => remappedAway platform hist

def Covered : List PlatformRecord → String → Prop
  | [], _ => False
  | r :: hist, uid =>
      Covered hist uid ∨ (∃ e ∈ r.output, e.connectionUid = uid) ∨
        ∃ data remap o, r.input = .update data remap ∧ remap.pairs.get? o = some uid ∧ Covered hist o

def ListedIn (hist : List PlatformRecord) (uid : String) : Prop :=
  ∃ r ∈ hist, ∃ data remap, r.input = .update data remap ∧ uid ∈ data.keys

structure Undisturbed (platform : RuntimePlatform) (hist : List PlatformRecord) : Prop where
  away : ∀ r earlier, r :: earlier <:+ hist → r.input = .addNewEntities →
    Disjoint r.before.dataKeys (remappedAway platform earlier)
  legible : platform = .sensor → ∀ uid, ListedIn hist uid → ¬ ListedIn hist (uid ++ "_vpn")

theorem mem_createEntities {data : Option (Dict String Json)} {uids : List String} {e : VpnEntity} :
    e ∈ createEntities platform data uids ↔ e.connectionUid ∈ uids ∧
      (data.bind fun data => data.get? e.connectionUid) = some e.connectionData ∧
        ∃ s ∈ platformSuffixes platform, e.uniqueId = entityUniqueId e.connectionUid s := by
  obtain ⟨uid, uniqueId, payload⟩ := e
  cases data with
  | none => simp [createEntities, vpnEntitiesForConnections]
  | some data =>
      rw [createEntities, vpnEntitiesForConnections, List.mem_flatMap, Option.bind_some]
      constructor
      · rintro ⟨u, hu, he⟩
        cases hget : data.get? u with
        | none =>
            rw [hget] at he
            cases he
        | some p =>
            rw [hget, List.mem_map] at he
            obtain ⟨s, hs, heq⟩ := he
            cases heq
            exact ⟨hu, hget, s, hs, rfl⟩
      · rintro ⟨hu, hget, s, hs, hid⟩
        refine ⟨uid, hu, ?_⟩
        dsimp only at hget hid
        rw [hget, List.mem_map, hid]
        exact ⟨s, hs, rfl⟩

theorem platformSuffixes_nonempty (platform : RuntimePlatform) : ∃ s, s ∈ platformSuffixes platform := by
  cases platform with
  | switch => exact ⟨_, List.mem_cons_self⟩
  | sensor => exact ⟨_, List.mem_cons_self⟩
  | binarySensor => exact ⟨_, List.mem_cons_self⟩

theorem mem_dataKeys {s : State} {uid : String} :
    uid ∈ s.dataKeys ↔ ∃ payload, (s.data.bind fun data => data.get? uid) = some payload := by
  rw [State.dataKeys]
  cases s.data with
  | none => simp
  | some data => exact Dict.mem_keys_iff

theorem exists_created {s : State} {uids : Finset String} (hsub : uids ⊆ s.dataKeys) {uid : String}
    (hu : uid ∈ uids) :
    ∃ e ∈ createEntities platform s.data (order.toList uids), e.connectionUid = uid := by
  obtain ⟨payload, hget⟩ := mem_dataKeys.mp (hsub hu)
  obtain ⟨suffix, hs⟩ := platformSuffixes_nonempty platform
  exact ⟨⟨uid, entityUniqueId uid suffix, payload⟩,
    mem_createEntities.mpr ⟨mem_toList.mpr hu, hget, suffix, hs, rfl⟩, rfl⟩

theorem created_uids {s : State} {uids : Finset String} (hsub : uids ⊆ s.dataKeys) :
    ((createEntities platform s.data (order.toList uids)).map VpnEntity.connectionUid).toFinset = uids := by
  ext uid
  rw [List.mem_toFinset, List.mem_map]
  constructor
  · rintro ⟨e, he, rfl⟩
    exact mem_toList.mp (mem_createEntities.mp he).1
  · intro hu
    exact exists_created hsub hu

theorem addNewEntities_eq (order : IterationOrder) (platform : RuntimePlatform) (s : State) :
    addNewEntities order platform s =
      (createEntities platform s.data (order.toList (s.dataKeys \ s.known platform)),
        s.addKnown platform (s.dataKeys \ s.known platform)) := by
  rw [addNewEntities]
  by_cases hnew : s.dataKeys \ s.known platform = ∅
  · have hnil : order.toList ∅ = [] := by
      rw [← List.toFinset_eq_empty_iff, order.toFinset]
    have hsame : s.addKnown platform ∅ = s := by
      rw [State.addKnown]
      cases platform <;> simp [RuntimeData.addKnownUids]
    rw [if_pos hnew, hnew, hnil, hsame]
    cases s.data <;> rfl
  · have hbuilt : ((createEntities platform s.data (order.toList (s.dataKeys \ s.known platform))).map
        VpnEntity.connectionUid).toFinset = s.dataKeys \ s.known platform :=
      created_uids Finset.sdiff_subset
    have hne : (createEntities platform s.data
        (order.toList (s.dataKeys \ s.known platform))).isEmpty = false := by
      rw [List.isEmpty_eq_false_iff]
      intro he
      rw [he] at hbuilt
      exact hnew hbuilt.symm
    simp only [if_neg hnew, hne, Bool.false_eq_true, if_false, hbuilt]

structure HandsOver (order : IterationOrder) (platform : RuntimePlatform) (s : State) (e : Event)
    (uids : Finset String) : Prop where
  listed : uids ⊆ s.dataKeys
  output : (step order platform s e).1 = createEntities platform s.data (order.toList uids)
  known : (step order platform s e).2.known platform = s.known platform ∪ uids
  data : (step order platform s e).2.data = s.data
  untracked : uids = ∅ ∨ s.setUp = false ∨ e = .addNewEntities ∧ Disjoint uids (s.known platform)

theorem handsOver_nothing {s : State} {e : Event} (hout : (step order platform s e).1 = [])
    (hknown : (step order platform s e).2.known platform = s.known platform)
    (hdata : (step order platform s e).2.data = s.data) : HandsOver order platform s e ∅ := by
  refine ⟨Finset.empty_subset _, ?_, ?_, hdata, Or.inl rfl⟩
  · rw [hout]
    apply Eq.symm
    apply List.eq_nil_iff_forall_not_mem.mpr
    intro e he
    exact Finset.notMem_empty _ (mem_toList.mp (mem_createEntities.mp he).1)
  · rw [hknown, Finset.union_empty]

@[simp]
theorem addKnown_known (s : State) (uids : Finset String) :
    (s.addKnown platform uids).known platform = s.known platform ∪ uids :=
  RuntimeData.platformTracking_addKnownUids s.runtime uids platform

theorem setup_handsOver (order : IterationOrder) (platform : RuntimePlatform) (s : State) :
    ∃ uids, HandsOver order platform s .setup uids ∧
      (if s.setUp then (step order platform s .setup).2 = s else uids = s.dataKeys) := by
  cases h : s.setUp with
  | true =>
      have hstep : step order platform s .setup = ([], s) := by rw [step, if_pos h]
      refine ⟨∅, handsOver_nothing (by rw [hstep]) (by rw [hstep]) (by rw [hstep]), ?_⟩
      rw [if_pos rfl, hstep]
  | false =>
      have hstep : step order platform s .setup = setupVpnPlatform order platform s := by
        simp [step, h]
      refine ⟨s.dataKeys, ⟨subset_rfl, ?_, ?_, ?_, Or.inr (Or.inl h)⟩, rfl⟩
      · rw [hstep, setupVpnPlatform]
      · rw [hstep]
        exact addKnown_known s s.dataKeys
      · rw [hstep]
        rfl

theorem task_handsOver (order : IterationOrder) (platform : RuntimePlatform) (s : State) :
    ∃ uids, HandsOver order platform s .addNewEntities uids ∧
      (if s.pending = 0 then uids = ∅ ∧ (step order platform s .addNewEntities).2 = s
        else s.dataKeys ⊆ s.known platform ∪ uids) := by
  cases h : s.pending with
  | zero =>
      have hstep : step order platform s .addNewEntities = ([], s) := by simp [step, h]
      refine ⟨∅, handsOver_nothing (by rw [hstep]) (by rw [hstep]) (by rw [hstep]), ?_⟩
      rw [if_pos rfl, hstep]
      exact ⟨rfl, rfl⟩
  | succ n =>
      have hstep : step order platform s .addNewEntities =
          addNewEntities order platform { s with pending := n } := by simp [step, h]
      rw [addNewEntities_eq] at hstep
      refine ⟨s.dataKeys \ s.known platform, ⟨Finset.sdiff_subset, ?_, ?_, ?_, ?_⟩, ?_⟩
      · rw [hstep]
        rfl
      · rw [hstep]
        exact addKnown_known { s with pending := n } _
      · rw [hstep]
        rfl
      · exact Or.inr (Or.inr ⟨rfl, Finset.sdiff_disjoint⟩)
      · rw [if_neg (Nat.succ_ne_zero n), Finset.union_sdiff_self_eq_union]
        exact Finset.subset_union_right

theorem mem_known_update {s : State} {data : Dict String Json} {remap : AppliedRemap} {uid : String} :
    uid ∈ (step order platform s (.update data remap)).2.known platform ↔
      (uid ∈ s.known platform ∧ uid ∉ remap.pairs.keys) ∨
        ∃ o ∈ s.known platform, remap.pairs.get? o = some uid := by
  have hknown : (step order platform s (.update data remap)).2.known platform =
      remapKnown (s.known platform) remap.pairs.entries := by
    rw [step, State.onCoordinatorUpdate, State.known]
    dsimp only
    split
    · exact RuntimeData.platformTracking_remapKnownUids s.runtime remap.pairs platform
    · exact RuntimeData.platformTracking_remapKnownUids s.runtime remap.pairs platform
  have hfresh : ∀ p ∈ remap.pairs.entries, p.2 ∉ remap.pairs.entries.map Prod.fst := by
    rintro ⟨o, n⟩ hp hk
    have hn := remap.isRenaming.fresh (Dict.mem_entries_iff.mp hp)
    exact Dict.get?_eq_none_iff.mp hn hk
  rw [hknown, mem_remapKnown remap.pairs.nodup hfresh, ← Dict.mem_keys]
  apply or_congr_right
  constructor
  · rintro ⟨⟨o, n⟩, hp, ho, rfl⟩
    exact ⟨o, ho, Dict.mem_entries_iff.mp hp⟩
  · rintro ⟨o, ho, hp⟩
    exact ⟨(o, uid), Dict.mem_entries_iff.mpr hp, ho, rfl⟩

theorem ListedIn.later {r : PlatformRecord} {hist : List PlatformRecord} {uid : String}
    (h : ListedIn hist uid) : ListedIn (r :: hist) uid := by
  obtain ⟨r', hr, hrest⟩ := h
  exact ⟨r', List.mem_cons_of_mem r hr, hrest⟩

theorem live_cons {r : PlatformRecord} {hist : List PlatformRecord} (h : clearedUids platform r = ∅) :
    live platform (r :: hist) = r.output ++ live platform hist := by
  rw [live, h]
  simp

/-- What holds of the tracked UIDs in every run: a handed-over entity is
tracked, unless a remap took its UID away. -/
structure Tracking (platform : RuntimePlatform) (hist : List PlatformRecord) (s : State) : Prop where
  listed : ∀ uid ∈ s.dataKeys, ListedIn hist uid
  built : ∀ e ∈ live platform hist, ListedIn hist e.connectionUid ∧
    ∃ suffix ∈ platformSuffixes platform, e.uniqueId = entityUniqueId e.connectionUid suffix
  tracked : ∀ e ∈ live platform hist,
    e.connectionUid ∈ s.known platform ∪ remappedAway platform hist
  started : s.setUp = false → live platform hist = [] ∧ s.pending = 0

section Steps

variable {hist : List PlatformRecord} {s : State} {e : Event} {uids : Finset String}

theorem dataKeys_congr {s s' : State} (h : s'.data = s.data) : s'.dataKeys = s.dataKeys := by
  rw [State.dataKeys, h, State.dataKeys]

abbrev recordOf (order : IterationOrder) (platform : RuntimePlatform) (s : State) (e : Event) :
    PlatformRecord := (platformMachine order platform).record s e

theorem Tracking.handsOver (ht : Tracking platform hist s) (ho : HandsOver order platform s e uids)
    (he : e = .setup ∨ e = .addNewEntities)
    (hstart : (step order platform s e).2.setUp = false →
      uids = ∅ ∧ s.setUp = false ∧ (step order platform s e).2.pending = 0) :
    Tracking platform (recordOf order platform s e :: hist) (step order platform s e).2 := by
  have hclear : clearedUids platform (recordOf order platform s e) = ∅ := by
    rcases he with rfl | rfl <;> rfl
  have haway : remappedAway platform (recordOf order platform s e :: hist) = remappedAway platform hist := by
    rcases he with rfl | rfl <;> rfl
  have hlive : live platform (recordOf order platform s e :: hist) =
      createEntities platform s.data (order.toList uids) ++ live platform hist := by
    rw [live_cons hclear, ← ho.output]
    rfl
  refine ⟨?_, ?_, ?_, ?_⟩
  · intro uid hu
    rw [dataKeys_congr ho.data] at hu
    exact (ht.listed uid hu).later
  · intro e' hmem
    rw [hlive, List.mem_append] at hmem
    rcases hmem with hmem | hmem
    · obtain ⟨hu, -, hs⟩ := mem_createEntities.mp hmem
      exact ⟨(ht.listed _ (ho.listed (mem_toList.mp hu))).later, hs⟩
    · exact ⟨(ht.built e' hmem).1.later, (ht.built e' hmem).2⟩
  · intro e' hmem
    rw [hlive, List.mem_append] at hmem
    rw [ho.known, haway]
    rcases hmem with hmem | hmem
    · have hu := mem_toList.mp (mem_createEntities.mp hmem).1
      exact Finset.mem_union_left _ (Finset.mem_union_right _ hu)
    · rcases Finset.mem_union.mp (ht.tracked e' hmem) with hk | ha
      · exact Finset.mem_union_left _ (Finset.mem_union_left _ hk)
      · exact Finset.mem_union_right _ ha
  · intro hs
    obtain ⟨rfl, hs, hp⟩ := hstart hs
    refine ⟨?_, hp⟩
    rw [hlive, (ht.started hs).1, List.append_nil]
    apply List.eq_nil_iff_forall_not_mem.mpr
    intro e' hmem
    exact Finset.notMem_empty _ (mem_toList.mp (mem_createEntities.mp hmem).1)

theorem Tracking.update (ht : Tracking platform hist s) (data : Dict String Json) (remap : AppliedRemap) :
    Tracking platform (recordOf order platform s (.update data remap) :: hist)
      (step order platform s (.update data remap)).2 := by
  have hlive : live platform (recordOf order platform s (.update data remap) :: hist) =
      live platform hist := live_cons rfl
  have hdata : (step order platform s (.update data remap)).2.dataKeys = data.keys := by
    rw [step, State.onCoordinatorUpdate]
    dsimp only
    split <;> rfl
  have hstart : (step order platform s (.update data remap)).2.setUp = s.setUp ∧
      (s.setUp = false → (step order platform s (.update data remap)).2.pending = s.pending) := by
    rw [step, State.onCoordinatorUpdate]
    dsimp only
    cases s.setUp <;> simp
  refine ⟨?_, ?_, ?_, ?_⟩
  · intro uid hu
    rw [hdata] at hu
    exact ⟨_, List.mem_cons_self, data, remap, rfl, hu⟩
  · intro e hmem
    rw [hlive] at hmem
    exact ⟨(ht.built e hmem).1.later, (ht.built e hmem).2⟩
  · intro e hmem
    rw [hlive] at hmem
    have haway : remappedAway platform (recordOf order platform s (.update data remap) :: hist) =
        (remappedAway platform hist ∪ (remap.pairs.keys ∩ s.known platform)) \
          (step order platform s (.update data remap)).2.known platform := rfl
    rw [Finset.mem_union, haway, Finset.mem_sdiff]
    by_cases hk : e.connectionUid ∈ (step order platform s (.update data remap)).2.known platform
    · exact Or.inl hk
    · refine Or.inr ⟨?_, hk⟩
      rcases Finset.mem_union.mp (ht.tracked e hmem) with hold | ha
      · apply Finset.mem_union_right
        refine Finset.mem_inter.mpr ⟨?_, hold⟩
        by_contra hn
        exact hk (mem_known_update.mpr (Or.inl ⟨hold, hn⟩))
      · exact Finset.mem_union_left _ ha
  · intro hs
    have hs' : s.setUp = false := hstart.1 ▸ hs
    rw [hlive, hstart.2 hs']
    exact ht.started hs'

theorem Tracking.updateFailed (ht : Tracking platform hist s) :
    Tracking platform (recordOf order platform s .updateFailed :: hist)
      (step order platform s .updateFailed).2 := by
  have hlive : live platform (recordOf order platform s .updateFailed :: hist) = live platform hist :=
    live_cons rfl
  have hsame : (step order platform s .updateFailed).2.dataKeys = s.dataKeys ∧
      (step order platform s .updateFailed).2.known platform = s.known platform ∧
        (step order platform s .updateFailed).2.setUp = s.setUp ∧
          (s.setUp = false → (step order platform s .updateFailed).2.pending = s.pending) := by
    rw [step, State.onCoordinatorUpdate]
    cases hs : s.setUp with
    | true => exact ⟨rfl, rfl, rfl, fun h => absurd h (by decide)⟩
    | false => exact ⟨rfl, rfl, hs, fun _ => rfl⟩
  refine ⟨?_, ?_, ?_, ?_⟩
  · intro uid hu
    exact (ht.listed uid (hsame.1 ▸ hu)).later
  · intro e hmem
    rw [hlive] at hmem
    exact ⟨(ht.built e hmem).1.later, (ht.built e hmem).2⟩
  · intro e hmem
    rw [hlive] at hmem
    rw [hsame.2.1]
    exact ht.tracked e hmem
  · intro hs
    have hs' : s.setUp = false := hsame.2.2.1 ▸ hs
    rw [hlive, hsame.2.2.2 hs']
    exact ht.started hs'

theorem Tracking.clear (ht : Tracking platform hist s) (uids : Finset String) :
    Tracking platform (recordOf order platform s (.clearKnownUids uids) :: hist)
      (step order platform s (.clearKnownUids uids)).2 := by
  have hlive : live platform (recordOf order platform s (.clearKnownUids uids) :: hist) =
      (live platform hist).filter fun e => e.connectionUid ∉ uids ∩ s.known platform := rfl
  have hknown : (step order platform s (.clearKnownUids uids)).2.known platform =
      s.known platform \ uids := RuntimeData.platformTracking_clearKnownUids s.runtime uids platform
  refine ⟨fun uid hu => (ht.listed uid hu).later, ?_, ?_, ?_⟩
  · intro e hmem
    rw [hlive, List.mem_filter] at hmem
    exact ⟨(ht.built e hmem.1).1.later, (ht.built e hmem.1).2⟩
  · intro e hmem
    rw [hlive, List.mem_filter, decide_eq_true_eq, Finset.mem_inter] at hmem
    rw [hknown]
    rcases Finset.mem_union.mp (ht.tracked e hmem.1) with hk | ha
    · apply Finset.mem_union_left
      exact Finset.mem_sdiff.mpr ⟨hk, fun hu => hmem.2 ⟨hu, hk⟩⟩
    · exact Finset.mem_union_right _ ha
  · intro hs
    rw [hlive, (ht.started hs).1]
    exact ⟨rfl, (ht.started hs).2⟩

end Steps

theorem setUp_task (order : IterationOrder) (platform : RuntimePlatform) (s : State) :
    (step order platform s .addNewEntities).2.setUp = s.setUp := by
  rw [step]
  cases s.pending with
  | zero => rfl
  | succ n =>
      dsimp only
      rw [addNewEntities_eq]
      rfl

theorem tracking_of_run {hist : List PlatformRecord} {s : State}
    (h : Run (platformMachine order platform) hist s) : Tracking platform hist s := by
  refine Run.invariant ?_ ?_ h
  · refine ⟨fun uid hu => ?_, fun e he => ?_, fun e he => ?_, fun _ => ⟨rfl, rfl⟩⟩
    · cases hu
    · cases he
    · cases he
  · intro hist s i hrun ih
    cases i with
    | setup =>
        obtain ⟨uids, ho, -⟩ := setup_handsOver order platform s
        apply ih.handsOver ho (Or.inl rfl)
        intro hs
        rw [step] at hs
        cases h : s.setUp with
        | true => simp [h] at hs
        | false => simp [h, setupVpnPlatform] at hs
    | update data remap => exact ih.update data remap
    | updateFailed => exact ih.updateFailed
    | addNewEntities =>
        obtain ⟨uids, ho, hpending⟩ := task_handsOver order platform s
        apply ih.handsOver ho (Or.inr rfl)
        intro hs
        have hs' : s.setUp = false := setUp_task order platform s ▸ hs
        have hp := (ih.started hs').2
        rw [if_pos hp] at hpending
        refine ⟨hpending.1, hs', ?_⟩
        rw [hpending.2, hp]
    | clearKnownUids uids => exact ih.clear uids

/-- Unique ids tell the entities of a platform apart, but for the sensors of a
connection and of the one named like it with _vpn behind. -/
theorem uniqueId_inj {u v : String} {s t : UniqueIdSuffix} (hs : s ∈ platformSuffixes platform)
    (ht : t ∈ platformSuffixes platform) (huv : platform = .sensor → v ≠ u ++ "_vpn")
    (hvu : platform = .sensor → u ≠ v ++ "_vpn") (h : entityUniqueId u s = entityUniqueId v t) :
    u = v ∧ s = t := by
  rcases entityUniqueId_inj.mp h with h | ⟨rfl, rfl, hv⟩ | ⟨rfl, rfl, hu⟩
  · exact h
  · cases platform with
    | switch => simp [platformSuffixes] at hs
    | sensor => exact absurd hv (huv rfl)
    | binarySensor => simp [platformSuffixes] at hs
  · cases platform with
    | switch => simp [platformSuffixes] at hs
    | sensor => exact absurd hu (hvu rfl)
    | binarySensor => simp [platformSuffixes] at hs

theorem created_nodup {data : Option (Dict String Json)} {uids : List String} (hn : uids.Nodup)
    (hl : platform = .sensor → ∀ u ∈ uids, u ++ "_vpn" ∉ uids) :
    ((createEntities platform data uids).map VpnEntity.uniqueId).Nodup := by
  cases data with
  | none => exact List.nodup_nil
  | some data =>
      have hids : ∀ uid, (match data.get? uid with
          | none => []
          | some payload => (platformSuffixes platform).map fun s =>
              (⟨uid, entityUniqueId uid s, payload⟩ : VpnEntity)).map VpnEntity.uniqueId =
            if uid ∈ data.keys then (platformSuffixes platform).map (entityUniqueId uid) else [] := by
        intro uid
        cases hget : data.get? uid with
        | none => simp [Dict.get?_eq_none_iff.mp hget]
        | some payload => simp [Dict.mem_keys_iff.mpr ⟨payload, hget⟩, Function.comp_def]
      rw [createEntities, vpnEntitiesForConnections, List.map_flatMap]
      simp only [hids]
      rw [List.nodup_flatMap]
      refine ⟨?_, ?_⟩
      · intro uid hu
        split
        · apply List.Nodup.map_on
          · intro s hs t ht h
            have hself : ∀ v : String, v ≠ v ++ "_vpn" := fun v hv => by
              have hlen := congrArg String.length hv
              simp at hlen
            exact (uniqueId_inj hs ht (fun _ => hself uid) (fun _ => hself uid) h).2
          · cases platform <;> decide
        · exact List.nodup_nil
      · apply hn.pairwise_of_forall_ne
        intro u hu v hv hne i hi hj
        dsimp only at hi hj
        split at hi
        · split at hj
          · obtain ⟨s, hs, rfl⟩ := List.mem_map.mp hi
            obtain ⟨t, ht, he⟩ := List.mem_map.mp hj
            refine hne (uniqueId_inj hs ht ?_ ?_ he.symm).1
            · exact fun hp h => hl hp u hu (h ▸ hv)
            · exact fun hp h => hl hp v hv (h ▸ hu)
          · cases hj
        · cases hi

section Handing

variable {hist : List PlatformRecord} {s : State}

theorem handed_nodup {e : Event} {uids : Finset String} (ht : Tracking platform hist s)
    (ho : HandsOver order platform s e uids) (hn : ((live platform hist).map VpnEntity.uniqueId).Nodup)
    (haway : e = .addNewEntities → Disjoint s.dataKeys (remappedAway platform hist))
    (hlegible : platform = .sensor → ∀ uid, ListedIn hist uid → ¬ ListedIn hist (uid ++ "_vpn")) :
    ((createEntities platform s.data (order.toList uids) ++ live platform hist).map
      VpnEntity.uniqueId).Nodup := by
  have hlisted : ∀ u ∈ uids, ListedIn hist u := fun u hu => ht.listed u (ho.listed hu)
  rw [List.map_append, List.nodup_append]
  refine ⟨?_, hn, ?_⟩
  · apply created_nodup (order.nodup uids)
    intro hp u hu hv
    exact hlegible hp u (hlisted u (mem_toList.mp hu)) (hlisted _ (mem_toList.mp hv))
  · intro i hi j hj hij
    obtain ⟨e₁, he₁, rfl⟩ := List.mem_map.mp hi
    obtain ⟨e₂, he₂, rfl⟩ := List.mem_map.mp hj
    obtain ⟨hu₁, -, s₁, hs₁, hid₁⟩ := mem_createEntities.mp he₁
    obtain ⟨hlist₂, s₂, hs₂, hid₂⟩ := ht.built e₂ he₂
    have hu := mem_toList.mp hu₁
    have hlist₁ := hlisted _ hu
    rw [hid₁, hid₂] at hij
    have hsame : e₁.connectionUid = e₂.connectionUid := by
      refine (uniqueId_inj hs₁ hs₂ ?_ ?_ hij).1
      · exact fun hp he => hlegible hp _ hlist₁ (he ▸ hlist₂)
      · exact fun hp he => hlegible hp _ hlist₂ (he ▸ hlist₁)
    rcases ho.untracked with rfl | hs | ⟨rfl, hd⟩
    · exact Finset.notMem_empty _ hu
    · rw [(ht.started hs).1] at he₂
      cases he₂
    · rcases Finset.mem_union.mp (ht.tracked e₂ he₂) with hk | ha
      · exact Finset.disjoint_left.mp hd hu (hsame ▸ hk)
      · exact Finset.disjoint_left.mp (haway rfl) (ho.listed hu) (hsame ▸ ha)

theorem Undisturbed.tail {r : PlatformRecord} (h : Undisturbed platform (r :: hist)) :
    Undisturbed platform hist :=
  ⟨fun r' earlier hs => h.away r' earlier (hs.trans (List.suffix_cons r hist)),
    fun hp uid hu hv => h.legible hp uid hu.later hv.later⟩

theorem live_nodup (h : Run (platformMachine order platform) hist s)
    (hc : Undisturbed platform hist) : ((live platform hist).map VpnEntity.uniqueId).Nodup := by
  induction h with
  | start => exact List.nodup_nil
  | step h i ih =>
      rename_i hist s
      have ht := tracking_of_run h
      have hn := ih hc.tail
      have hlegible := hc.tail.legible
      have hquiet : ∀ {r : PlatformRecord}, r.output = [] →
          ((live platform (r :: hist)).map VpnEntity.uniqueId).Nodup := by
        intro r hr
        rw [live, hr, List.nil_append]
        exact hn.sublist (List.filter_sublist.map _)
      have hgive : ∀ {e : Event} {uids : Finset String}, HandsOver order platform s e uids →
          clearedUids platform (recordOf order platform s e) = ∅ →
            (e = .addNewEntities → Disjoint s.dataKeys (remappedAway platform hist)) →
              ((live platform (recordOf order platform s e :: hist)).map VpnEntity.uniqueId).Nodup := by
        intro e uids ho hclear haway
        rw [live_cons hclear]
        change (((step order platform s e).1 ++ live platform hist).map VpnEntity.uniqueId).Nodup
        rw [ho.output]
        exact handed_nodup ht ho hn haway hlegible
      cases i with
      | setup =>
          obtain ⟨uids, ho, -⟩ := setup_handsOver order platform s
          apply hgive ho rfl
          intro he
          cases he
      | addNewEntities =>
          obtain ⟨uids, ho, -⟩ := task_handsOver order platform s
          apply hgive ho rfl
          intro _
          exact hc.away _ hist (List.suffix_refl _) rfl
      | update data remap => exact hquiet rfl
      | updateFailed => exact hquiet rfl
      | clearKnownUids uids => exact hquiet rfl

end Handing

theorem Covered.later {r : PlatformRecord} {hist : List PlatformRecord} {uid : String}
    (h : Covered hist uid) : Covered (r :: hist) uid := Or.inl h

theorem covered_output {s : State} {hist : List PlatformRecord} {e : Event} {uids : Finset String}
    (ho : HandsOver order platform s e uids) {uid : String} (hu : uid ∈ uids) :
    Covered (recordOf order platform s e :: hist) uid := by
  refine Or.inr (Or.inl ?_)
  change ∃ e' ∈ (step order platform s e).1, e'.connectionUid = uid
  rw [ho.output]
  exact exists_created ho.listed hu

structure AllCovered (platform : RuntimePlatform) (hist : List PlatformRecord) (s : State) : Prop where
  known : ∀ uid ∈ s.known platform, Covered hist uid
  listed : s.setUp = true → s.pending = 0 → ∀ uid ∈ s.dataKeys, Covered hist uid

theorem AllCovered.handsOver {s : State} {hist : List PlatformRecord} {e : Event} {uids : Finset String}
    (h : AllCovered platform hist s) (ho : HandsOver order platform s e uids)
    (hall : s.dataKeys ⊆ s.known platform ∪ uids ∨ (step order platform s e).2 = s) :
    AllCovered platform (recordOf order platform s e :: hist) (step order platform s e).2 := by
  have hknown : ∀ uid ∈ s.known platform ∪ uids, Covered (recordOf order platform s e :: hist) uid := by
    intro uid hu
    rcases Finset.mem_union.mp hu with hk | hu
    · exact (h.known uid hk).later
    · exact covered_output ho hu
  refine ⟨?_, ?_⟩
  · rw [ho.known]
    exact hknown
  · intro hs hp uid hu
    rw [dataKeys_congr ho.data] at hu
    rcases hall with hsub | hsame
    · exact hknown uid (hsub hu)
    · rw [hsame] at hs hp
      exact (h.listed hs hp uid hu).later

theorem pending_notified {s : State} (hs : s.onCoordinatorUpdate.setUp = true) :
    s.onCoordinatorUpdate.pending ≠ 0 := by
  rw [State.onCoordinatorUpdate] at hs ⊢
  split at hs
  next h => simp [h]
  next h => exact absurd hs h

theorem covered_of_run {hist : List PlatformRecord} {s : State}
    (h : Run (platformMachine order platform) hist s) : AllCovered platform hist s := by
  refine Run.invariant ?_ ?_ h
  · refine ⟨fun uid hu => ?_, fun hs => ?_⟩
    · cases platform <;> exact absurd hu (Finset.notMem_empty uid)
    · cases hs
  · intro hist s i hrun ih
    cases i with
    | setup =>
        obtain ⟨uids, ho, hset⟩ := setup_handsOver order platform s
        apply ih.handsOver ho
        split at hset
        · exact Or.inr hset
        · exact Or.inl (hset ▸ Finset.subset_union_right)
    | addNewEntities =>
        obtain ⟨uids, ho, hpending⟩ := task_handsOver order platform s
        apply ih.handsOver ho
        split at hpending
        · exact Or.inr hpending.2
        · exact Or.inl hpending
    | update data remap =>
        refine ⟨?_, ?_⟩
        · intro uid hu
          change uid ∈ (step order platform s (.update data remap)).2.known platform at hu
          rcases mem_known_update.mp hu with ⟨hk, -⟩ | ⟨o, hk, ho⟩
          · exact (ih.known uid hk).later
          · exact Or.inr (Or.inr ⟨data, remap, o, rfl, ho, ih.known o hk⟩)
        · intro hs hp
          exact absurd hp (pending_notified hs)
    | updateFailed =>
        refine ⟨?_, ?_⟩
        · intro uid hu
          apply Covered.later
          apply ih.known uid
          change uid ∈ s.onCoordinatorUpdate.known platform at hu
          rw [State.onCoordinatorUpdate] at hu
          split at hu <;> exact hu
        · intro hs hp
          exact absurd hp (pending_notified hs)
    | clearKnownUids uids =>
        refine ⟨?_, fun hs hp uid hu => (ih.listed hs hp uid hu).later⟩
        intro uid hu
        have hknown : (step order platform s (.clearKnownUids uids)).2.known platform =
            s.known platform \ uids :=
          RuntimeData.platformTracking_clearKnownUids s.runtime uids platform
        change uid ∈ (step order platform s (.clearKnownUids uids)).2.known platform at hu
        rw [hknown] at hu
        exact (ih.known uid (Finset.mem_sdiff.mp hu).1).later

theorem Undisturbed.suffix {hist earlier : List PlatformRecord} (h : Undisturbed platform hist)
    (hs : earlier <:+ hist) : Undisturbed platform earlier := by
  have hlisted : ∀ {uid}, ListedIn earlier uid → ListedIn hist uid := by
    rintro uid ⟨r, hr, hrest⟩
    exact ⟨r, hs.subset hr, hrest⟩
  exact ⟨fun r before hb => h.away r before (hb.trans hs),
    fun hp uid hu hv => h.legible hp uid (hlisted hu) (hlisted hv)⟩

/-- No unique id is handed over twice where no task meets a UID that was
remapped away, and no listed connection is left without an entity. -/
theorem handed_once_and_covered {hist : List PlatformRecord} {s : State}
    (h : Run (platformMachine order platform) hist s) (hc : Undisturbed platform hist) :
    (∀ earlier, earlier <:+ hist → ((live platform earlier).map VpnEntity.uniqueId).Nodup) ∧
      (s.setUp = true → s.pending = 0 → ∀ uid ∈ s.dataKeys, Covered hist uid) := by
  refine ⟨?_, (covered_of_run h).listed⟩
  rintro earlier ⟨later, rfl⟩
  obtain ⟨s', hs'⟩ := h.of_append
  exact live_nodup hs' (hc.suffix (List.suffix_append later earlier))

def noRemap : AppliedRemap := ⟨Dict.empty, ⟨fun h => absurd h (by simp), fun h => absurd h (by simp)⟩⟩

theorem renaming_office : Renaming (Dict.ofList [("a", "n")]) := by
  have hmap : nameBijectionUidRemap (fun _ => "") ["a"] ["n"] (Dict.ofList [("a", "Office")])
      (office "n") = .ok (Dict.ofList [("a", "n")]) := by decide +kernel
  exact NamesMatch.renaming (nameBijectionUidRemap_ok (by decide) (by decide) hmap)

/-- The connection a is renamed to n, and then the box lists a again. -/
def returnedOffice : List Event :=
  [.addNewEntities, .update (office "a") noRemap, .addNewEntities,
    .update (office "n") ⟨Dict.ofList [("a", "n")], renaming_office⟩, .setup, .update (office "a") noRemap]

theorem handed_again : ∃ hist s, Run (platformMachine sortedOrder .switch) hist s ∧
    ¬ ((live .switch hist).map VpnEntity.uniqueId).Nodup :=
  ⟨_, _, run_play (platformMachine sortedOrder .switch) returnedOffice, by decide +kernel⟩

def secondOffice : List Event :=
  [.addNewEntities, .update (office "b") noRemap, .setup, .update (office "a") noRemap]

theorem handed_once_secondOffice :
    (∀ earlier, earlier <:+ ((platformMachine sortedOrder .switch).play secondOffice).1 →
        ((live .switch earlier).map VpnEntity.uniqueId).Nodup) ∧
      (((platformMachine sortedOrder .switch).play secondOffice).2.setUp = true →
        ((platformMachine sortedOrder .switch).play secondOffice).2.pending = 0 →
          ∀ uid ∈ ((platformMachine sortedOrder .switch).play secondOffice).2.dataKeys,
            Covered ((platformMachine sortedOrder .switch).play secondOffice).1 uid) := by
  apply handed_once_and_covered (run_play (platformMachine sortedOrder .switch) secondOffice)
  refine ⟨?_, fun hp => absurd hp (by decide)⟩
  intro r earlier hs hi
  simp only [secondOffice, Machine.play, List.suffix_cons_iff, List.suffix_nil, List.cons.injEq,
    reduceCtorEq, or_false] at hs
  rcases hs with ⟨rfl, rfl⟩ | ⟨rfl, rfl⟩ | ⟨rfl, rfl⟩ | ⟨rfl, rfl⟩
  · decide +kernel
  · cases hi
  · cases hi
  · cases hi

end FritzboxVpn.PlatformSetup
