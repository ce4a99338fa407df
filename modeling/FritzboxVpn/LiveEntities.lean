import FritzboxVpn.AliasMoves

namespace FritzboxVpn.LiveEntities

open AliasMoves AliasResolution Coordinator CoordinatorSteps Entity Exceptions HomeAssistant JsonValue
  OrderedDict PlatformSetup RemapAtomicity Runs UidIdentity

/-- A loaded entry with one of its platforms: the coordinator, the registries with the
tracked UIDs, the listener tasks that have not run yet, and the entities handed over. -/
structure State where
  coordinator : Coordinator.State := {}
  hass : Hass
  setUp : Bool := false
  pending : Nat := 0
  entities : List VpnEntity := []

def platformEntities (platform : RuntimePlatform) (uid : String) (payload : Json) : List VpnEntity :=
  (platformSuffixes platform).map fun s => ⟨uid, entityUniqueId uid s, payload⟩

variable (env : Env) (platform : RuntimePlatform)

namespace State

def runtime (s : State) : RuntimeData :=
  (runtimeFromHass s.hass (env.entryId.getD "")).getD ⟨∅, ∅, ∅⟩

def known (s : State) : Finset String := (s.runtime env).platformTracking platform

def view (s : State) : PlatformSetup.State := ⟨s.coordinator.data, s.runtime env, s.setUp, s.pending⟩

def handOver (s : State) (made : List VpnEntity × PlatformSetup.State) : State :=
  { s with hass := s.hass.withRuntime (env.entryId.getD "") made.2.runtime, setUp := made.2.setUp,
           pending := made.2.pending, entities := s.entities ++ made.1 }

def showing (s : State) (uid : String) : List VpnEntity :=
  s.entities.filter fun e => s.coordinator.resolveConnectionUid e.connectionUid = uid

end State

inductive Event
  | poll (p : Poll)
  | setup
  | addNewEntities
  | others (entities : EntityRegistry) (devices : DeviceRegistry)

/-- The listeners hear of every update but a failed one after another. -/
def step (s : State) : Event → State
  | .poll p =>
      let polled := Coordinator.poll env s.hass s.coordinator p
      { s with coordinator := polled.1.2, hass := polled.2,
               pending := if s.setUp && (polled.1.2.lastUpdateSuccess || s.coordinator.lastUpdateSuccess)
                 then s.pending + 1 else s.pending }
  | .setup => s.handOver env (PlatformSetup.step env.order platform (s.view env) .setup)
  | .addNewEntities => s.handOver env (PlatformSetup.step env.order platform (s.view env) .addNewEntities)
  | .others entities devices => { s with hass := { s.hass with entities := entities, devices := devices } }

def entitiesMachine (hass : Hass) : Machine State Event Unit :=
  ⟨⟨{}, hass, false, 0, []⟩, fun s e => ((), step env platform s e)⟩

abbrev EntitiesRecord := Record State Event Unit

def ListsNoAlias (r : EntitiesRecord) : Prop :=
  ∀ p connections, r.input = .poll p → p.fetch = .ok connections →
    ∀ u ∈ connections.keys, r.before.coordinator.uidRemap.get? u = none

structure Sound (s : State) : Prop where
  settled : Settled s.coordinator
  loaded : ∃ runtime, runtimeFromHass s.hass (env.entryId.getD "") = some runtime
  tracked : s.known env platform ⊆ s.coordinator.seenUids
  current : ∀ u ∈ s.known env platform, s.coordinator.uidRemap.get? u = none
  started : s.setUp = false → s.known env platform = ∅ ∧ s.pending = 0
  complete : s.setUp = true → s.pending = 0 → s.coordinator.dataKeys ⊆ s.known env platform
  shows : ∀ e ∈ s.entities, s.coordinator.resolveConnectionUid e.connectionUid ∈ s.known env platform
  once : ∀ u ∈ s.known env platform, ∃ o payload, s.showing u = platformEntities platform o payload

variable {env platform}

section Views

variable {s : State}

@[simp]
theorem view_dataKeys : (s.view env).dataKeys = s.coordinator.dataKeys := rfl

@[simp]
theorem view_known : (s.view env).known platform = s.known env platform := rfl

theorem runtime_eq {runtime : RuntimeData}
    (h : runtimeFromHass s.hass (env.entryId.getD "") = some runtime) : s.runtime env = runtime := by
  rw [State.runtime, h, Option.getD_some]

theorem handOver_known (made : List VpnEntity × PlatformSetup.State) :
    (s.handOver env made).known env platform = made.2.known platform := by
  have hrun : (s.handOver env made).runtime env = made.2.runtime :=
    runtime_eq (runtimeFromHass_withRuntime _ _ _)
  rw [State.known, hrun, PlatformSetup.State.known]

end Views

section Created

variable {data : Option (Dict String Json)} {resolve : String → String} {uids : List String}

theorem filter_created_of_notMem (hself : ∀ uid ∈ uids, resolve uid = uid) {u : String} (hu : u ∉ uids) :
    (createEntities platform data uids).filter (fun e => resolve e.connectionUid = u) = [] := by
  rw [List.filter_eq_nil_iff]
  intro e he
  have hmem := (mem_createEntities.mp he).1
  rw [hself _ hmem, decide_eq_true_eq]
  rintro rfl
  exact hu hmem

theorem createEntities_cons (uid : String) (uids : List String) :
    createEntities platform data (uid :: uids) =
      createEntities platform data [uid] ++ createEntities platform data uids := by
  rw [createEntities, createEntities, createEntities]
  cases data with
  | none => rfl
  | some data => simp [vpnEntitiesForConnections]

theorem filter_created (hself : ∀ uid ∈ uids, resolve uid = uid) (hnd : uids.Nodup) {u : String}
    {payload : Json} (hu : u ∈ uids) (hget : (data.bind fun data => data.get? u) = some payload) :
    (createEntities platform data uids).filter (fun e => resolve e.connectionUid = u) =
      platformEntities platform u payload := by
  induction uids with
  | nil => cases hu
  | cons uid uids ih =>
      obtain ⟨huid, hrest⟩ := List.forall_mem_cons.mp hself
      rw [List.nodup_cons] at hnd
      rw [createEntities_cons, List.filter_append]
      rcases List.mem_cons.mp hu with rfl | hin
      · rw [filter_created_of_notMem hrest hnd.1, List.append_nil]
        obtain ⟨d, rfl, hpayload⟩ := Option.bind_eq_some_iff.mp hget
        simp [createEntities, vpnEntitiesForConnections, platformEntities, hpayload, huid]
      · have hne : u ∉ [uid] := by
          rw [List.mem_singleton]
          rintro rfl
          exact hnd.1 hin
        have hself' : ∀ v ∈ [uid], resolve v = v := by simpa using huid
        rw [filter_created_of_notMem hself' hne, List.nil_append]
        exact ih hrest hnd.2 hin

end Created

section Steps

variable {s : State} {e : PlatformSetup.Event} {uids : Finset String}

theorem Sound.showing_nil (h : Sound env platform s) {u : String} (hu : u ∉ s.known env platform) :
    s.showing u = [] := by
  rw [State.showing, List.filter_eq_nil_iff]
  intro e he
  rw [decide_eq_true_eq]
  rintro rfl
  exact hu (h.shows e he)

theorem Sound.handOver (h : Sound env platform s)
    (ho : HandsOver env.order platform (s.view env) e uids)
    (hnew : Disjoint uids (s.known env platform))
    (hset : (PlatformSetup.step env.order platform (s.view env) e).2.setUp = false → s.setUp = false ∧
      uids = ∅ ∧ (PlatformSetup.step env.order platform (s.view env) e).2.pending = 0)
    (hall : (PlatformSetup.step env.order platform (s.view env) e).2.setUp = true →
      (PlatformSetup.step env.order platform (s.view env) e).2.pending = 0 →
        s.coordinator.dataKeys ⊆ s.known env platform ∪ uids) :
    Sound env platform (s.handOver env (PlatformSetup.step env.order platform (s.view env) e)) := by
  have hknown : (s.handOver env (PlatformSetup.step env.order platform (s.view env) e)).known env platform =
      s.known env platform ∪ uids := (handOver_known _).trans ho.known
  have hentities : (s.handOver env (PlatformSetup.step env.order platform (s.view env) e)).entities =
      s.entities ++ createEntities platform s.coordinator.data (env.order.toList uids) :=
    congrArg (s.entities ++ ·) ho.output
  have hlisted : ∀ u ∈ uids, u ∈ s.coordinator.dataKeys := fun u hu => ho.listed hu
  have hself : ∀ u ∈ env.order.toList uids, s.coordinator.resolveConnectionUid u = u := fun u hu =>
    State.resolveConnectionUid_of_none (h.settled.unaliased u (hlisted u (mem_toList.mp hu)))
  refine ⟨h.settled, ⟨_, runtimeFromHass_withRuntime _ _ _⟩, ?_, ?_, ?_, ?_, ?_, ?_⟩
  · rw [hknown]
    exact Finset.union_subset h.tracked fun u hu => h.settled.listed (hlisted u hu)
  · intro u hu
    rw [hknown] at hu
    rcases Finset.mem_union.mp hu with hu | hu
    · exact h.current u hu
    · exact h.settled.unaliased u (hlisted u hu)
  · intro hs
    obtain ⟨hs, rfl, hp⟩ := hset hs
    rw [hknown, (h.started hs).1, Finset.union_empty]
    exact ⟨rfl, hp⟩
  · intro hs hp
    rw [hknown]
    exact hall hs hp
  · intro e' he'
    rw [hentities, List.mem_append] at he'
    rw [hknown, Finset.mem_union]
    rcases he' with he' | he'
    · exact Or.inl (h.shows e' he')
    · have hmem := (mem_createEntities.mp he').1
      exact Or.inr ((hself _ hmem).symm ▸ mem_toList.mp hmem)
  · intro u hu
    rw [hknown] at hu
    have hshow : (s.handOver env (PlatformSetup.step env.order platform (s.view env) e)).showing u =
        s.showing u ++ (createEntities platform s.coordinator.data (env.order.toList uids)).filter
          (fun e => s.coordinator.resolveConnectionUid e.connectionUid = u) := by
      rw [State.showing, hentities, List.filter_append]
      rfl
    rw [hshow]
    rcases Finset.mem_union.mp hu with hu | hu
    · have hout : u ∉ env.order.toList uids := fun hm =>
        Finset.disjoint_left.mp hnew (mem_toList.mp hm) hu
      rw [filter_created_of_notMem hself hout, List.append_nil]
      exact h.once u hu
    · obtain ⟨payload, hget⟩ := PlatformSetup.mem_dataKeys.mp (ho.listed hu)
      change (s.coordinator.data.bind fun data => data.get? u) = some payload at hget
      rw [h.showing_nil (Finset.disjoint_left.mp hnew hu), List.nil_append,
        filter_created hself (env.order.nodup uids) (mem_toList.mpr hu) hget]
      exact ⟨u, payload, rfl⟩

theorem Sound.disjoint (h : Sound env platform s) (ho : HandsOver env.order platform (s.view env) e uids) :
    Disjoint uids (s.known env platform) := by
  rcases ho.untracked with rfl | hs | ⟨-, hd⟩
  · exact Finset.disjoint_empty_left _
  · rw [(h.started hs).1]
    exact Finset.disjoint_empty_right _
  · exact hd

theorem Sound.setup (h : Sound env platform s) : Sound env platform (step env platform s .setup) := by
  obtain ⟨uids, ho, hcase⟩ := setup_handsOver env.order platform (s.view env)
  have hset : (PlatformSetup.step env.order platform (s.view env) .setup).2.setUp = true := by
    rw [PlatformSetup.step]
    split
    next hs => exact hs
    next => rfl
  apply h.handOver ho (h.disjoint ho)
  · intro hs
    rw [hset] at hs
    cases hs
  · intro _ hp
    split at hcase
    next hs =>
      rw [hcase] at hp
      exact (h.complete hs hp).trans Finset.subset_union_left
    next =>
      rw [hcase]
      exact Finset.subset_union_right

theorem Sound.addNewEntities (h : Sound env platform s) :
    Sound env platform (step env platform s .addNewEntities) := by
  obtain ⟨uids, ho, hcase⟩ := task_handsOver env.order platform (s.view env)
  have hset : (PlatformSetup.step env.order platform (s.view env) .addNewEntities).2.setUp = s.setUp :=
    setUp_task env.order platform (s.view env)
  apply h.handOver ho (h.disjoint ho)
  · intro hs
    rw [hset] at hs
    have hp : (s.view env).pending = 0 := (h.started hs).2
    rw [if_pos hp] at hcase
    refine ⟨hs, hcase.1, ?_⟩
    rw [hcase.2]
    exact hp
  · intro hs hp
    rw [hset] at hs
    split at hcase
    next =>
      rw [hcase.2] at hp
      exact (h.complete hs hp).trans Finset.subset_union_left
    next => exact hcase

theorem Sound.others (h : Sound env platform s) (entities : EntityRegistry) (devices : DeviceRegistry) :
    Sound env platform (step env platform s (.others entities devices)) :=
  ⟨h.settled, h.loaded, h.tracked, h.current, h.started, h.complete, h.shows, h.once⟩

theorem data_of_failed {hass hass' : Hass} {c c' : Coordinator.State} {p : Poll} {report : Report}
    (h : PollStep env hass c p report c' hass') (hfailed : c'.lastUpdateSuccess = false) :
    c'.dataKeys = c.dataKeys := by
  cases h with
  | accepted => cases hfailed
  | emptyRefused => rfl
  | authentication err c₁ hass' hf ha text =>
      have hs : (scheduleReauth env hass' c₁).2.dataKeys = c₁.dataKeys := by
        rcases scheduleReauth_cases env c₁ hass' with h | h
        · rw [h]
        · rw [h]
          rfl
      have heq := hf.eq
      exact hs.trans (by rw [heq]; rfl)
  | connectivity err c₁ hass' hf ha text =>
      have heq := hf.eq
      exact (armRecovery_dataKeys env c₁ p).trans (by rw [heq]; rfl)

theorem mem_known_poll {hass' : Hass} {c' : Coordinator.State} {applied : Dict String String}
    (h : Sound env platform s) (hm : Moves env s.hass hass' s.coordinator c' applied) {s' : State}
    (hs : s'.hass = hass') {u : String} :
    u ∈ s'.known env platform ↔ ∃ v ∈ s.known env platform, moved applied v = u := by
  obtain ⟨runtime, hrun⟩ := h.loaded
  have hknown : s'.known env platform = remapKnown (s.known env platform) applied.entries := by
    rw [State.known, State.known, runtime_eq hrun, runtime_eq (hs ▸ hm.runtime runtime hrun),
      RuntimeData.platformTracking_remapKnownUids]
  have hfresh : ∀ p ∈ applied.entries, p.2 ∉ applied.entries.map Prod.fst := by
    rintro ⟨o, n⟩ hp
    exact Dict.get?_eq_none_iff.mp (hm.isRenaming.fresh (Dict.mem_entries_iff.mp hp))
  rw [hknown, mem_remapKnown applied.nodup hfresh, ← Dict.mem_keys, ← Dict.get?_eq_none_iff]
  constructor
  · rintro (⟨hu, hnone⟩ | ⟨⟨o, n⟩, hp, ho, rfl⟩)
    · exact ⟨u, hu, moved_of_none hnone⟩
    · exact ⟨o, ho, moved_of_some (Dict.mem_entries_iff.mp hp)⟩
  · rintro ⟨v, hv, rfl⟩
    cases hget : applied.get? v with
    | none =>
        rw [moved_of_none hget]
        exact Or.inl ⟨hv, hget⟩
    | some n =>
        rw [moved_of_some hget]
        exact Or.inr ⟨(v, n), Dict.mem_entries_iff.mpr hget, hv, rfl⟩

/-- Two seen UIDs do not become one. -/
theorem moved_inj {hass hass' : Hass} {c c' : Coordinator.State} {applied : Dict String String}
    (hm : Moves env hass hass' c c' applied) {u v : String} (hu : u ∈ c.seenUids) (hv : v ∈ c.seenUids)
    (h : moved applied u = moved applied v) : u = v := by
  cases hgu : applied.get? u with
  | none =>
      rw [moved_of_none hgu] at h
      cases hgv : applied.get? v with
      | none => rwa [moved_of_none hgv] at h
      | some n =>
          rw [moved_of_some hgv] at h
          exact absurd (h ▸ hu) (hm.pair v n hgv).2.1
  | some m =>
      rw [moved_of_some hgu] at h
      cases hgv : applied.get? v with
      | none =>
          rw [moved_of_none hgv] at h
          exact absurd (h ▸ hv) (hm.pair u m hgu).2.1
      | some n =>
          rw [moved_of_some hgv] at h
          exact hm.isRenaming.injective (h ▸ hgu) hgv

theorem Sound.resolves_moved {hass' : Hass} {c' : Coordinator.State} {applied : Dict String String}
    (h : Sound env platform s) (hm : Moves env s.hass hass' s.coordinator c' applied) {e : VpnEntity}
    (he : e ∈ s.entities) : c'.resolveConnectionUid e.connectionUid =
      moved applied (s.coordinator.resolveConnectionUid e.connectionUid) :=
  hm.resolves (h.current _ (h.shows e he))

/-- The entities that show a tracked connection go on showing it under its new UID. -/
theorem Sound.showing_moved {hass' : Hass} {c' : Coordinator.State} {applied : Dict String String}
    (h : Sound env platform s) (hm : Moves env s.hass hass' s.coordinator c' applied) (s' : State)
    (hc : s'.coordinator = c') (hentities : s'.entities = s.entities) {v : String}
    (hv : v ∈ s.known env platform) : s'.showing (moved applied v) = s.showing v := by
  rw [State.showing, hc, hentities]
  apply List.filter_congr
  intro e he
  rw [h.resolves_moved hm he, decide_eq_decide]
  refine ⟨fun heq => ?_, fun heq => by rw [heq]⟩
  exact moved_inj hm (h.tracked (h.shows e he)) (h.tracked hv) heq

theorem Sound.poll (h : Sound env platform s) {p : Poll}
    (hlist : ∀ connections, p.fetch = .ok connections →
      ∀ u ∈ connections.keys, s.coordinator.uidRemap.get? u = none) :
    Sound env platform (step env platform s (.poll p)) := by
  have hstep := poll_step env s.hass s.coordinator p
  obtain ⟨hsettled, applied, hm⟩ := poll_moves hstep h.settled hlist
  have hknown : ∀ {u}, u ∈ (step env platform s (.poll p)).known env platform ↔
      ∃ v ∈ s.known env platform, moved applied v = u := mem_known_poll h hm rfl
  refine ⟨hsettled, ?_, ?_, ?_, ?_, ?_, ?_, ?_⟩
  · obtain ⟨runtime, hrun⟩ := h.loaded
    exact ⟨_, hm.runtime runtime hrun⟩
  · intro u hu
    obtain ⟨v, hv, rfl⟩ := hknown.mp hu
    exact hm.seen v (h.tracked hv)
  · intro u hu
    obtain ⟨v, hv, rfl⟩ := hknown.mp hu
    exact hm.current (h.current v hv)
  · intro hs
    have hs' : s.setUp = false := hs
    obtain ⟨hempty, hp⟩ := h.started hs'
    refine ⟨?_, ?_⟩
    · rw [Finset.eq_empty_iff_forall_notMem]
      intro u hu
      obtain ⟨v, hv, -⟩ := hknown.mp hu
      rw [hempty] at hv
      exact Finset.notMem_empty v hv
    · rw [step, hs']
      exact hp
  · intro hs hp u hu
    have hs' : s.setUp = true := hs
    simp only [step, hs', Bool.true_and] at hp
    split at hp
    · cases hp
    · next hquiet =>
      rw [Bool.not_eq_true, Bool.or_eq_false_iff] at hquiet
      have hcurrent := hsettled.unaliased u hu
      change u ∈ (Coordinator.poll env s.hass s.coordinator p).1.2.dataKeys at hu
      rw [data_of_failed hstep hquiet.1] at hu
      refine hknown.mpr ⟨u, h.complete hs' hp hu, moved_of_none ?_⟩
      rw [Option.eq_none_iff_forall_ne_some]
      intro n hn
      rw [(hm.remap u n).mpr (Or.inl hn)] at hcurrent
      cases hcurrent
  · intro e he
    exact hknown.mpr ⟨_, h.shows e he, (h.resolves_moved hm he).symm⟩
  · intro u hu
    obtain ⟨v, hv, rfl⟩ := hknown.mp hu
    rw [h.showing_moved hm (step env platform s (.poll p)) rfl rfl hv]
    exact h.once v hv

end Steps

theorem sound_of_run {hass : Hass} {hist : List EntitiesRecord} {s : State}
    (h : Run (entitiesMachine env platform hass) hist s)
    (hload : runtimeFromHass hass (env.entryId.getD "") = some ⟨∅, ∅, ∅⟩)
    (hlist : ∀ r ∈ hist, ListsNoAlias r) : Sound env platform s := by
  refine Run.invariant_under (P := fun _ s => Sound env platform s) ?_ ?_ h hlist
  · have hknown : (entitiesMachine env platform hass).init.known env platform = ∅ := by
      rw [State.known, runtime_eq hload]
      cases platform <;> rfl
    refine ⟨⟨?_, ?_, ?_⟩, ⟨_, hload⟩, ?_, ?_, ?_, ?_, ?_, ?_⟩
    · exact Finset.empty_subset _
    · exact fun u hu => absurd hu (Finset.notMem_empty u)
    · intro o n hn
      cases hn
    · rw [hknown]
      exact Finset.empty_subset _
    · rw [hknown]
      exact fun u hu => absurd hu (Finset.notMem_empty u)
    · exact fun _ => ⟨hknown, rfl⟩
    · intro hs
      cases hs
    · intro e he
      cases he
    · rw [hknown]
      exact fun u hu => absurd hu (Finset.notMem_empty u)
  · intro hist s e hrun hr hs
    cases e with
    | poll p => exact hs.poll fun connections hf => hr p connections rfl hf
    | setup => exact hs.setup
    | addNewEntities => exact hs.addNewEntities
    | others entities devices => exact hs.others entities devices

structure Dashboard (env : Env) (platform : RuntimePlatform) (s : State) : Prop where
  once : ∀ u, s.showing u = [] ∨ ∃ o payload, s.showing u = platformEntities platform o payload
  complete : s.setUp = true → s.pending = 0 → ∀ u ∈ s.coordinator.dataKeys, s.showing u ≠ []
  available : ∀ u ∈ s.coordinator.dataKeys, ∀ e ∈ s.showing u,
    connectionAvailable s.coordinator e.connectionUid = s.coordinator.lastUpdateSuccess ∧
      connectionData s.coordinator e.connectionUid = s.coordinator.data.bind (·.get? u)
  toggles : ∀ u, ∀ e ∈ s.showing u, ∀ (β : Type) (hass : Hass)
    (asyncToggleVpn : String → Bool → β → Except PyError Bool × β) (enable : Bool) (box : β),
    ((toggleVpn env hass s.coordinator asyncToggleVpn e.connectionUid enable box).1,
      (toggleVpn env hass s.coordinator asyncToggleVpn e.connectionUid enable box).2.2) =
        asyncToggleVpn u enable box

theorem platformEntities_ne_nil (uid : String) (payload : Json) :
    platformEntities platform uid payload ≠ [] := by
  cases platform <;> simp [platformEntities, platformSuffixes]

/-- Whatever outages, remaps and partial lists a run has, and in whatever order the
listener tasks get their turns: a connection is shown by at most one set of entities, by
one once the tasks are done, and these show it, are available with it and switch it. -/
theorem one_set_of_entities {hass : Hass} {hist : List EntitiesRecord} {s : State}
    (h : Run (entitiesMachine env platform hass) hist s)
    (hload : runtimeFromHass hass (env.entryId.getD "") = some ⟨∅, ∅, ∅⟩)
    (hlist : ∀ r ∈ hist, ListsNoAlias r) : Dashboard env platform s := by
  have hsound := sound_of_run h hload hlist
  have hshowing : ∀ {u e}, e ∈ s.showing u → s.coordinator.resolveConnectionUid e.connectionUid = u := by
    intro u e he
    exact of_decide_eq_true (List.mem_filter.mp he).2
  refine ⟨?_, ?_, ?_, ?_⟩
  · intro u
    by_cases hu : u ∈ s.known env platform
    · exact Or.inr (hsound.once u hu)
    · exact Or.inl (hsound.showing_nil hu)
  · intro hs hp u hu hnil
    obtain ⟨o, payload, hshow⟩ := hsound.once u (hsound.complete hs hp hu)
    exact platformEntities_ne_nil o payload (hshow.symm.trans hnil)
  · intro u hu e he
    rw [connectionAvailable, connectionData, hshowing he, decide_eq_true hu, Bool.and_true]
    exact ⟨rfl, rfl⟩
  · intro u e he β hass asyncToggleVpn enable box
    rw [toggleVpn_box, hshowing he]

def renamedOffice : List Event :=
  [.addNewEntities, .poll ⟨.ok (office "b"), 3, 3⟩,
    .poll ⟨.error (connectionError "connection refused"), 2, 2⟩, .setup,
    .poll ⟨.ok (office "a"), 1, 1⟩]

theorem renamedOffice_dashboard : Dashboard memoryEnv .switch
    ((entitiesMachine memoryEnv .switch (AliasSafety.officeSwitch "a")).play renamedOffice).2 := by
  apply one_set_of_entities (run_play _ renamedOffice)
  · decide +kernel
  · have hempty : ∀ s : State, s.coordinator.uidRemap = Dict.empty → ∀ u,
        s.coordinator.uidRemap.get? u = none := by
      intro s hs u
      rw [hs]
      rfl
    simp only [renamedOffice, Machine.play, List.forall_mem_cons]
    refine ⟨?_, ?_, ?_, ?_, ?_, by simp⟩
    · intro p connections hi
      cases hi
    · exact fun p connections _ _ u _ => hempty _ (by decide +kernel) u
    · exact fun p connections _ _ u _ => hempty _ (by decide +kernel) u
    · intro p connections hi
      cases hi
    · exact fun p connections _ _ u _ => hempty _ (by decide +kernel) u

/-- The switch made for the old UID is the one that shows the new one. -/
example : (((entitiesMachine memoryEnv .switch (AliasSafety.officeSwitch "a")).play renamedOffice).2.showing
      "b").map VpnEntity.connectionUid = ["a"] := by decide +kernel

end FritzboxVpn.LiveEntities
