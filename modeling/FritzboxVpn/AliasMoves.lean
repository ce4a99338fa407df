import FritzboxVpn.AliasResolution
import FritzboxVpn.AliasSafety
import FritzboxVpn.OutageHistory
import FritzboxVpn.PlatformSetup

namespace FritzboxVpn.AliasMoves

open AliasResolution AliasSafety Chains Coordinator CoordinatorSteps HomeAssistant JsonValue OrderedDict
  OutageRemap RemapAtomicity RemapWrites UidRemap

variable {env : Env}

/-- What the coordinator knows of the list it has and of the UIDs it redirects, as long
as the box does not list one of these. -/
structure Settled (c : State) : Prop where
  listed : c.dataKeys ⊆ c.seenUids
  unaliased : Unaliased c
  nameless : ∀ o n, c.uidRemap.get? o = some n → c.uidNames.get? o = none

theorem Settled.remember {c : State} {connections : Dict String Json} (h : Settled c)
    (hlist : ∀ u ∈ connections.keys, c.uidRemap.get? u = none) :
    Settled (rememberConnectionNames env c connections) := by
  refine ⟨h.listed, h.unaliased, ?_⟩
  intro o n hn
  rw [get?_rememberConnectionNames, h.nameless o n hn, Option.or_none]
  cases hname : connectionName env connections o with
  | none => rfl
  | some name =>
      have hnone := hlist o (connectionName_mem hname)
      rw [rememberConnectionNames_uidRemap] at hn
      rw [hn] at hnone
      cases hnone

theorem Settled.rememberData {c : State} (h : Settled c) : Settled (rememberData env c) := by
  rw [Coordinator.rememberData]
  split
  · exact h
  · next data hd =>
    have hkeys : c.dataKeys = data.keys := by
      rw [State.dataKeys, hd]
    have hseen : Settled { c with seenUids := c.seenUids ∪ data.keys } :=
      ⟨fun u hu => Finset.mem_union_left _ (h.listed hu), h.unaliased, h.nameless⟩
    apply hseen.remember
    intro u hu
    exact h.unaliased u (hkeys ▸ hu)

def moved (applied : Dict String String) (uid : String) : String := (applied.get? uid).getD uid

theorem moved_of_some {applied : Dict String String} {o n : String} (h : applied.get? o = some n) :
    moved applied o = n := by
  rw [moved, h, Option.getD_some]

theorem moved_of_none {applied : Dict String String} {uid : String} (h : applied.get? uid = none) :
    moved applied uid = uid := by
  rw [moved, h, Option.getD_none]

structure Moves (env : Env) (hass hass' : Hass) (c c' : State) (applied : Dict String String) : Prop where
  isRenaming : Renaming applied
  pair : ∀ o n, applied.get? o = some n →
    c.uidRemap.get? o = none ∧ n ∉ c.seenUids ∧ c.uidRemap.get? n = none
  remap : ∀ o n, c'.uidRemap.get? o = some n ↔
    applied.get? o = some n ∨ applied.get? o = none ∧ c.uidRemap.get? o = some n
  seen : ∀ u ∈ c.seenUids, moved applied u ∈ c'.seenUids
  runtime : ∀ runtime, runtimeFromHass hass (env.entryId.getD "") = some runtime →
    runtimeFromHass hass' (env.entryId.getD "") = some (runtime.remapKnownUids applied)

section Seen

variable {connections : Dict String Json}

theorem seen_foldl_kept (l : List (String × String)) {c : State} {u : String} (hu : u ∈ c.seenUids)
    (hkey : u ∉ l.map Prod.fst) : u ∈ (l.foldl (noteRemapped env connections) c).seenUids := by
  induction l generalizing c with
  | nil => exact hu
  | cons p l ih =>
      rw [List.map_cons, List.mem_cons, not_or] at hkey
      apply ih ?_ hkey.2
      exact Finset.mem_insert_of_mem (Finset.mem_erase.mpr ⟨hkey.1, hu⟩)

theorem seen_foldl_new (l : List (String × String)) {c : State} {p : String × String} (hp : p ∈ l)
    (hkey : p.2 ∉ l.map Prod.fst) : p.2 ∈ (l.foldl (noteRemapped env connections) c).seenUids := by
  induction l generalizing c with
  | nil => cases hp
  | cons q l ih =>
      rw [List.map_cons, List.mem_cons, not_or] at hkey
      rcases List.mem_cons.mp hp with rfl | hp
      · exact seen_foldl_kept l (Finset.mem_insert_self _ _) hkey.2
      · exact ih hp hkey.2

theorem noteApplied_moved {applied : Dict String String} (ren : Renaming applied) {c : State} {u : String}
    (hu : u ∈ c.seenUids) : moved applied u ∈ (noteApplied env connections c applied).seenUids := by
  cases hget : applied.get? u with
  | none =>
      rw [moved_of_none hget]
      exact seen_foldl_kept _ hu (Dict.get?_eq_none_iff.mp hget)
  | some n =>
      rw [moved_of_some hget]
      exact seen_foldl_new applied.entries (p := (u, n)) (Dict.mem_entries_iff.mpr hget)
        (Dict.get?_eq_none_iff.mp (ren.fresh hget))

theorem noteApplied_nameless {applied : Dict String String} {c : State} {o : String}
    (hfresh : ∀ u, applied.get? u ≠ some o) (h : c.uidNames.get? o = none) :
    (noteApplied env connections c applied).uidNames.get? o = none := by
  have hfold : ∀ (l : List (String × String)) (c : State), (∀ q ∈ l, q.2 ≠ o) →
      c.uidNames.get? o = none → (l.foldl (noteRemapped env connections) c).uidNames.get? o = none := by
    intro l
    induction l with
    | nil => exact fun c _ hc => hc
    | cons q l ih =>
        intro c hl hc
        apply ih _ fun q' hq' => hl q' (List.mem_cons_of_mem q hq')
        rw [noteRemapped_uidNames c q (hl q List.mem_cons_self), hc, ite_self]
  apply hfold applied.entries c ?_ h
  rintro ⟨u, v⟩ hq rfl
  exact hfresh u (Dict.mem_entries_iff.mp hq)

end Seen

/-- A UID that leads nowhere leads nowhere from where the remap takes it. -/
theorem Moves.current {hass hass' : Hass} {c c' : State} {applied : Dict String String}
    (h : Moves env hass hass' c c' applied) {u : String} (hu : c.uidRemap.get? u = none) :
    c'.uidRemap.get? (moved applied u) = none := by
  have hoff : ∀ x, applied.get? x = none → c.uidRemap.get? x = none → c'.uidRemap.get? x = none := by
    intro x ha hx
    rw [Option.eq_none_iff_forall_ne_some]
    intro m hm
    rcases (h.remap x m).mp hm with hm | ⟨-, hm⟩
    · rw [ha] at hm
      cases hm
    · rw [hx] at hm
      cases hm
  cases hget : applied.get? u with
  | none =>
      rw [moved_of_none hget]
      exact hoff u hget hu
  | some n =>
      rw [moved_of_some hget]
      exact hoff n (h.isRenaming.fresh hget) (h.pair u n hget).2.2

/-- The chain of a UID up to where it resolves to is kept, and goes on to where the remap
takes its end. -/
theorem Moves.resolves {hass hass' : Hass} {c c' : State} {applied : Dict String String}
    (h : Moves env hass hass' c c' applied) {u : String}
    (hend : c.uidRemap.get? (c.resolveConnectionUid u) = none) :
    c'.resolveConnectionUid u = moved applied (c.resolveConnectionUid u) := by
  obtain ⟨n, -, hf⟩ := follows_resolveConnectionUid c u
  generalize c.resolveConnectionUid u = r at hend hf
  obtain ⟨l, hpasses, hnd, -, -, -⟩ := hf.passes
  have hon : ∀ x y, c.uidRemap.get? x = some y → c'.uidRemap.get? x = some y := by
    intro x y hx
    refine (h.remap x y).mpr (Or.inr ⟨?_, hx⟩)
    rw [Option.eq_none_iff_forall_ne_some]
    intro m hm
    rw [(h.pair x m hm).1] at hx
    cases hx
  have hkept := hpasses.mono hon
  have hnone := h.current hend
  cases hget : applied.get? r with
  | none =>
      rw [moved_of_none hget] at hnone ⊢
      exact resolveConnectionUid_eq (hkept.follows hnd (by simp) (Or.inl hnone))
  | some m =>
      rw [moved_of_some hget] at hnone ⊢
      have hstep := hkept.trans (.step ((h.remap r m).mpr (Or.inl hget)) (.here m))
      have hr : r ∉ l := hpasses.end_notMem hend
      refine resolveConnectionUid_eq (hstep.follows ?_ (by simp) (Or.inl hnone))
      rw [List.nodup_append]
      refine ⟨hnd, List.nodup_singleton r, ?_⟩
      rintro x hx y hy rfl
      exact hr (List.mem_singleton.mp hy ▸ hx)

def Nameless (c : State) : Prop := ∀ o n, c.uidRemap.get? o = some n → c.uidNames.get? o = none

/-- Only outside recovery the names of the data are noted once more. -/
theorem finishPoll_settled {c : State} {p : Poll} {connections : Dict String Json} (h : Nameless c)
    (hdata : c.inRecovery = false → Settled c)
    (hlist : ∀ u ∈ connections.keys, c.uidRemap.get? u = none) :
    Settled { (finishPoll env c p connections).2 with
      data := some connections, lastUpdateSuccess := true } := by
  have hremap : (finishPoll env c p connections).2.uidRemap = c.uidRemap :=
    finishPoll_uidRemap env c p connections
  refine ⟨?_, ?_, ?_⟩
  · change connections.keys ⊆ (finishPoll env c p connections).2.seenUids
    rw [finishPoll_seenUids]
    exact Finset.subset_union_right
  · intro u hu
    change (finishPoll env c p connections).2.uidRemap.get? u = none
    rw [hremap]
    exact hlist u hu
  · intro o n hn
    change (finishPoll env c p connections).2.uidRemap.get? o = some n at hn
    rw [hremap] at hn
    change (noteSuccessfulPoll (trackPoll env c connections.keys).2 connections p.later).uidNames.get? o = none
    rw [noteSuccessfulPoll_uidNames]
    cases hrec : c.inRecovery with
    | true =>
        rw [trackPoll_inside env c hrec]
        exact h o n hn
    | false =>
        rw [trackPoll_outside env c hrec]
        exact (hdata hrec).rememberData.nameless o n (by rwa [rememberData_uidRemap])

section Runtime

variable {api : RegistryApi} {hass hass' : Hass} {entryId : String} {mapping applied : Dict String String}

theorem remapKnownUids_empty (runtime : RuntimeData) : runtime.remapKnownUids Dict.empty = runtime := rfl

theorem runtimeFromHass_congr (h : hass'.configEntries = hass.configEntries) :
    runtimeFromHass hass' entryId = runtimeFromHass hass entryId := by
  rw [runtimeFromHass, h, runtimeFromHass]

theorem remap_runtime (h : remapConnectionUids api hass entryId mapping = (.ok applied, hass'))
    {runtime : RuntimeData} (hrun : runtimeFromHass hass entryId = some runtime) :
    runtimeFromHass hass' entryId = some (runtime.remapKnownUids applied) := by
  rw [remapConnectionUids] at h
  split at h
  · cases h
    exact hrun
  · rcases applyPairs_spec api (remapPlan hass entryId mapping) entryId mapping.entries hass
        Dict.empty with ⟨hass₁, hp, hw⟩ | ⟨e, hass₁, before, pair, es, ds, hp, -, -⟩
    · rw [hp] at h
      simp only [(runtimeFromHass_congr hw.configEntries).trans hrun] at h
      split at h
      · next hempty =>
        cases h
        rw [runtimeFromHass_congr hw.configEntries, hrun, Option.some.injEq]
        have hnil := List.isEmpty_iff.mp hempty
        rw [RuntimeData.remapKnownUids, hnil]
        rfl
      · cases h
        exact runtimeFromHass_withRuntime _ _ _
    · rw [hp] at h
      cases h

end Runtime

theorem Moves.nothing {hass hass' : Hass} {c c' : State} (hremap : c'.uidRemap = c.uidRemap)
    (hseen : c.seenUids ⊆ c'.seenUids)
    (hrun : runtimeFromHass hass' (env.entryId.getD "") = runtimeFromHass hass (env.entryId.getD "")) :
    Moves env hass hass' c c' Dict.empty := by
  refine ⟨⟨?_, ?_⟩, ?_, ?_, ?_, ?_⟩
  · intro o o' n h
    cases h
  · intro o n h
    cases h
  · intro o n h
    cases h
  · intro o n
    rw [hremap]
    exact ⟨fun h => Or.inr ⟨rfl, h⟩, fun h => (h.resolve_left (by simp)).2⟩
  · intro u hu
    exact hseen hu
  · intro runtime h
    rw [hrun, h, remapKnownUids_empty]

theorem failing_settled {hass hass' : Hass} {c c₁ : State} {p : Poll} {err : Exceptions.PyError}
    (hf : Failing env hass c p err c₁ hass') (hc : Settled c)
    (hlist : ∀ connections, p.fetch = .ok connections → ∀ u ∈ connections.keys, c.uidRemap.get? u = none) :
    Settled c₁ ∧ runtimeFromHass hass' (env.entryId.getD "") = runtimeFromHass hass (env.entryId.getD "") := by
  cases hf with
  | fetch => exact ⟨hc, rfl⟩
  | registry connections hass' hfetch hrec hr =>
      exact ⟨hc.remember (hlist connections hfetch),
        runtimeFromHass_congr (applyUidRemap_error_configEntries hr)⟩

/-- A UID that a remap is decided on still has its name, so it was not redirected before. -/
theorem remapDecision_unaliased {c : State} {connections : Dict String Json} {mapping : Dict String String}
    (hm : remapDecision env c connections = .ok mapping) (hc : Nameless c) {o n : String}
    (hn : mapping.get? o = some n) : c.uidRemap.get? o = none := by
  have hmatch := remapDecision_ok hm
  obtain ⟨ho, -, -⟩ := (hmatch.get?_iff o n).mp hn
  obtain ⟨name, hname⟩ := hmatch.matching.left_labelled o (List.mem_toFinset.mpr ho)
  obtain ⟨raw, hraw⟩ := of_trimmed hname
  rw [Option.eq_none_iff_forall_ne_some]
  intro m hr
  rw [hc o m hr] at hraw
  cases hraw

theorem accepted_moves {hass hass' : Hass} {c c₂ : State} {p : Poll} {connections : Dict String Json}
    (hc : Settled c) (hlist : ∀ u ∈ connections.keys, c.uidRemap.get? u = none)
    (hr : applyUidRemapIfNeeded env hass c connections = (.ok c₂, hass')) :
    Settled { (finishPoll env c₂ p connections).2 with data := some connections, lastUpdateSuccess := true } ∧
      ∃ applied, Moves env hass hass' c { (finishPoll env c₂ p connections).2 with
        data := some connections, lastUpdateSuccess := true } applied := by
  have hseen : c₂.seenUids ⊆ (finishPoll env c₂ p connections).2.seenUids := by
    rw [finishPoll_seenUids, Finset.union_assoc]
    exact Finset.subset_union_left
  have hremap := finishPoll_uidRemap env c₂ p connections
  have hcurrent : ∀ u ∈ connections.keys, c₂.uidRemap.get? u = none := fun u hu =>
    applyUidRemap_listed hr hu (hlist u hu)
  rcases applyUidRemap_cases env hass c connections with
    ⟨he, -⟩ | ⟨id, mapping, hdue, hm, ⟨applied, h', hrun, he⟩ | ⟨e, h', -, he⟩⟩
  · rw [he] at hr
    cases hr
    exact ⟨finishPoll_settled hc.nameless (fun _ => hc) hlist, Dict.empty, Moves.nothing hremap hseen rfl⟩
  · rw [he] at hr
    cases hr
    have ren := PlatformSetup.renaming_of_applied hm hrun
    have hpair : ∀ o n, applied.get? o = some n →
        c.uidRemap.get? o = none ∧ n ∉ c.seenUids ∧ c.uidRemap.get? n = none := by
      intro o n hn
      have hn' := remap_ok_subset hrun hn
      obtain ⟨hkey, hnew⟩ := Finset.mem_sdiff.mp (remapDecision_mem hm hn').2
      exact ⟨remapDecision_unaliased hm hc.nameless hn', hnew, hlist n hkey⟩
    have hnameless : Nameless (noteApplied env connections c applied) := by
      intro o n hn
      rcases (noteApplied_uidRemap env connections c applied).mp hn with ha | ⟨-, hold⟩
      · apply noteApplied_uidNames c ha
        intro u hu
        rw [ren.fresh hu] at ha
        cases ha
      · apply noteApplied_nameless ?_ (hc.nameless o n hold)
        intro u hu
        rw [(hpair u o hu).2.2] at hold
        cases hold
    have hrec : (noteApplied env connections c applied).inRecovery = true :=
      (noteApplied_sameRecovery env connections c applied).inRecovery.trans hdue.recovering
    refine ⟨finishPoll_settled hnameless ?_ hcurrent, applied, ren, hpair, ?_, ?_, ?_⟩
    · intro hout
      rw [hrec] at hout
      cases hout
    · intro o n
      exact Eq.to_iff (congrArg (fun d : Dict String String => d.get? o = some n) hremap) |>.trans
        (noteApplied_uidRemap env connections c applied)
    · exact fun u hu => hseen (noteApplied_moved ren hu)
    · intro runtime hbefore
      rw [hdue.entry] at hbefore ⊢
      exact remap_runtime hrun hbefore
  · rw [he] at hr
    cases hr

/-- What every poll does, as long as the box lists no redirected UID. -/
theorem poll_moves {hass hass' : Hass} {c c' : State} {p : Poll} {report : Report}
    (h : PollStep env hass c p report c' hass') (hc : Settled c)
    (hlist : ∀ connections, p.fetch = .ok connections → ∀ u ∈ connections.keys, c.uidRemap.get? u = none) :
    Settled c' ∧ ∃ applied, Moves env hass hass' c c' applied := by
  cases h with
  | accepted connections c₁ c₂ hass' hf hin hr =>
      have hsettled : Settled c₁ ∧ c₁.uidRemap = c.uidRemap ∧ c₁.seenUids = c.seenUids := by
        cases hin with
        | asIs => exact ⟨hc, rfl, rfl⟩
        | cap => exact ⟨⟨hc.listed, hc.unaliased, hc.nameless⟩, rfl, rfl⟩
      obtain ⟨hs, hremap, hseen⟩ := hsettled
      have hlist' : ∀ u ∈ connections.keys, c₁.uidRemap.get? u = none := by
        rw [hremap]
        exact hlist connections hf
      obtain ⟨hdone, applied, hm⟩ := accepted_moves (p := p) (hs.remember hlist') hlist' hr
      refine ⟨hdone, applied, hm.isRenaming, ?_, ?_, ?_, hm.runtime⟩
      · rw [← hremap, ← hseen]
        exact hm.pair
      · rw [← hremap]
        exact hm.remap
      · rw [← hseen]
        exact hm.seen
  | emptyRefused => exact ⟨⟨hc.listed, hc.unaliased, hc.nameless⟩, Dict.empty, Moves.nothing rfl subset_rfl rfl⟩
  | authentication err c₁ hass' hf ha text =>
      obtain ⟨hs, hrun⟩ := failing_settled hf hc hlist
      have hsame : Settled (scheduleReauth env hass' c₁).2 ∧
          (scheduleReauth env hass' c₁).2.uidRemap = c.uidRemap ∧
            (scheduleReauth env hass' c₁).2.seenUids = c.seenUids := by
        have heq := hf.eq
        rcases scheduleReauth_cases env c₁ hass' with h | h
        · rw [h]
          exact ⟨hs, by rw [heq], by rw [heq]⟩
        · rw [h]
          exact ⟨⟨hs.listed, hs.unaliased, hs.nameless⟩, by rw [heq], by rw [heq]⟩
      exact ⟨⟨hsame.1.listed, hsame.1.unaliased, hsame.1.nameless⟩, Dict.empty,
        Moves.nothing hsame.2.1 hsame.2.2.symm.subset hrun⟩
  | connectivity err c₁ hass' hf ha text =>
      obtain ⟨hs, hrun⟩ := failing_settled hf hc hlist
      have harm : Settled (rememberData env c₁) := hs.rememberData
      have heq := hf.eq
      refine ⟨⟨harm.listed, harm.unaliased, harm.nameless⟩, Dict.empty, Moves.nothing ?_ ?_ hrun⟩
      · change (armRecovery env c₁ p).uidRemap = c.uidRemap
        rw [armRecovery_uidRemap, heq]
      · change c.seenUids ⊆ (armRecovery env c₁ p).seenUids
        rw [armRecovery_seenUids, heq]
        exact Finset.subset_union_left

end FritzboxVpn.AliasMoves
