import FritzboxVpn.OutageHistory

namespace FritzboxVpn.DeletedConnections

open Constants Coordinator CoordinatorSteps Exceptions HomeAssistant JsonValue OrderedDict OutageHistory
  OutageRemap RecoveryCap RemapAtomicity Runs UidRemap

variable {env : Env}

structure KeepsSeen (c c' : State) (listed : String → Prop) : Prop where
  remap : c.uidRemap = Dict.empty
  seen : c.seenUids ⊆ c'.seenUids
  listed : ∀ u, listed u → u ∈ c'.seenUids

theorem noteApplied_empty {connections : Dict String Json} {c : State} {applied : Dict String String}
    (h : (noteApplied env connections c applied).uidRemap = Dict.empty) :
    c.uidRemap = Dict.empty ∧ noteApplied env connections c applied = c := by
  have hnone : ∀ o n, ¬ (applied.get? o = some n ∨ (applied.get? o = none ∧ c.uidRemap.get? o = some n)) := by
    intro o n hn
    have hget := (noteApplied_uidRemap env connections c applied).mpr hn
    rw [h] at hget
    cases hget
  have happlied : applied = Dict.empty := by
    rw [Dict.eq_empty_iff]
    intro o
    rw [Option.eq_none_iff_forall_ne_some]
    exact fun n hn => hnone o n (Or.inl hn)
  subst happlied
  refine ⟨?_, rfl⟩
  rw [Dict.eq_empty_iff]
  intro o
  rw [Option.eq_none_iff_forall_ne_some]
  exact fun n hn => hnone o n (Or.inr ⟨rfl, hn⟩)

theorem applyUidRemap_empty {hass hass' : Hass} {c c₂ : State} {connections : Dict String Json}
    (h : applyUidRemapIfNeeded env hass c connections = (.ok c₂, hass'))
    (hr : c₂.uidRemap = Dict.empty) : c.uidRemap = Dict.empty ∧ c₂ = c := by
  rcases applyUidRemap_cases env hass c connections with
    ⟨he, -⟩ | ⟨entryId, mapping, -, -, ⟨applied, h', -, he⟩ | ⟨e, h', -, he⟩⟩
  · rw [he] at h
    cases h
    exact ⟨hr, rfl⟩
  · rw [he] at h
    cases h
    exact noteApplied_empty hr
  · rw [he] at h
    cases h

theorem poll_keepsSeen {hass hass' : Hass} {c c' : State} {p : Poll} {report : Report}
    (h : PollStep env hass c p report c' hass') (hr : c'.uidRemap = Dict.empty) :
    KeepsSeen c c' fun u => ∃ connections, report.outcome = .ok connections ∧ u ∈ connections.keys := by
  have herror : ∀ {failed : UpdateFailed} {u : String}, report.outcome = .error failed →
      ¬ ∃ connections, report.outcome = .ok connections ∧ u ∈ connections.keys := by
    rintro failed u he ⟨connections, ho, -⟩
    rw [he] at ho
    cases ho
  cases h with
  | accepted connections c₁ c₂ hass' hf hin happ =>
      have hr₂ : c₂.uidRemap = Dict.empty := (finishPoll_uidRemap env c₂ p connections).symm.trans hr
      obtain ⟨hr₁, rfl⟩ := applyUidRemap_empty happ hr₂
      have hseen := finishPoll_seenUids env (rememberConnectionNames env c₁ connections) p connections
      have hc₁ : c₁.uidRemap = c.uidRemap ∧ c₁.seenUids = c.seenUids := by
        cases hin with
        | asIs => exact ⟨rfl, rfl⟩
        | cap => exact ⟨rfl, rfl⟩
      refine ⟨hc₁.1.symm.trans hr₁, ?_, ?_⟩
      · intro u hu
        change u ∈ (finishPoll env (rememberConnectionNames env c₁ connections) p connections).2.seenUids
        rw [hseen, rememberConnectionNames_seenUids, hc₁.2]
        exact Finset.mem_union_left _ (Finset.mem_union_left _ hu)
      · rintro u ⟨connections', ho, hu⟩
        cases ho
        change u ∈ (finishPoll env (rememberConnectionNames env c₁ connections) p connections).2.seenUids
        rw [hseen]
        exact Finset.mem_union_right _ hu
  | emptyRefused connections hf he hrec hhad hmax report hout hnew =>
      obtain ⟨failed, ho, -⟩ := hout
      exact ⟨hr, subset_rfl, fun u hu => absurd hu (herror ho)⟩
  | authentication err c₁ hass' hc ha text =>
      have hs : (scheduleReauth env hass' c₁).2.uidRemap = c₁.uidRemap ∧
          (scheduleReauth env hass' c₁).2.seenUids = c₁.seenUids := by
        rcases scheduleReauth_cases env c₁ hass' with h | h
        all_goals
          rw [h]
          exact ⟨rfl, rfl⟩
      have hc' : c₁.uidRemap = c.uidRemap ∧ c₁.seenUids = c.seenUids := by
        rw [hc.eq]
        exact ⟨rfl, rfl⟩
      refine ⟨(hs.1.trans hc'.1).symm.trans hr, ?_, fun u hu => absurd hu (herror rfl)⟩
      exact (hs.2.trans hc'.2).symm.subset
  | connectivity err c₁ hass' hc ha text =>
      have hc' : c₁.uidRemap = c.uidRemap ∧ c₁.seenUids = c.seenUids := by
        rw [hc.eq]
        exact ⟨rfl, rfl⟩
      refine ⟨((armRecovery_uidRemap env c₁ p).trans hc'.1).symm.trans hr, ?_,
        fun u hu => absurd hu (herror rfl)⟩
      intro u hu
      change u ∈ (armRecovery env c₁ p).seenUids
      rw [armRecovery_seenUids, hc'.2]
      exact Finset.mem_union_left _ hu

/-- Without an earlier remap everything that was ever listed is still seen. -/
theorem seen_of_neverRemapped {hist : List PollRecord} {c : State} (h : Run (pollMachine env) hist c)
    (hr : c.uidRemap = Dict.empty) {u : String} (hu : Listed hist u) : u ∈ c.seenUids := by
  induction h with
  | start =>
      obtain ⟨r, hmem, -⟩ := hu
      cases hmem
  | step h i ih =>
      rename_i hist c
      have hk := poll_keepsSeen (poll_step env i.1 c i.2) hr
      obtain ⟨r, hmem, hout⟩ := hu
      rcases List.mem_cons.mp hmem with rfl | hmem
      · exact hk.listed u hout
      · exact hk.seen (ih hk.remap ⟨r, hmem, hout⟩)

section Outage

variable {hist : List PollRecord} {c : State} {listing listing' : Dict String Json}

/-- Something else was listed before: there are more UIDs gone than new. -/
theorem remapDecision_of_deleted (h : Run (pollMachine env) hist c) (hout : Outage listing hist)
    (hr : c.uidRemap = Dict.empty) (hnames : SameNames env listing listing')
    (hfresh : ∀ u ∈ listing'.keys, ¬ Listed hist u) {d : String} (hd : Listed hist d)
    (hgone : d ∉ listing.keys) (mapping : Dict String String) :
    remapDecision env (rememberConnectionNames env c listing') listing' ≠ .ok mapping := by
  apply remapDecision_refused
  have hknown := (knows_listed h).seen
  have hremoved : c.seenUids \ listing'.keys = c.seenUids := by
    rw [Finset.sdiff_eq_self_iff_disjoint, Finset.disjoint_left]
    exact fun u hu hn => hfresh u hn (hknown u hu)
  have hadded : listing'.keys \ c.seenUids = listing'.keys := by
    rw [Finset.sdiff_eq_self_iff_disjoint, Finset.disjoint_left]
    exact fun u hn hu => hfresh u hn (hknown u hu)
  have hlt : listing.keys.card < c.seenUids.card := by
    apply Finset.card_lt_card
    refine ⟨(outageState_of_run h hout).seen, ?_⟩
    exact fun hsub => hgone (hsub (seen_of_neverRemapped h hr hd))
  have hcard := hnames.card_eq
  rw [rememberConnectionNames_seenUids, hremoved, hadded]
  omega

/-- The poll after the outage remaps the last listing exactly where nothing
else was ever listed, unless unique ids run into each other. -/
theorem remapped_iff_never_deleted {hass : Hass} {entryId : String} {runtime : RuntimeData}
    {p : Poll} (h : Run (pollMachine env) hist c) (hout : Outage listing hist)
    (hr : c.uidRemap = Dict.empty) (hentry : env.entryId = some entryId) (hid : entryId ≠ "")
    (hload : Loaded hass entryId runtime) (hreg : Registered hass entryId listing listing')
    (hnames : SameNames env listing listing') (hfresh : ∀ u ∈ listing'.keys, ¬ Listed hist u)
    (hp : p.fetch = .ok listing') :
    (∀ o n, Renames env listing listing' o n →
        (poll env hass c p).1.2.resolveConnectionUid o = n ∧
          Moved hass (poll env hass c p).2 entryId o n) ↔
      listing.keys = ∅ ∨
        ((∀ u, Listed hist u → u ∈ listing.keys) ∧ ¬ Entangled env listing listing') := by
  have hunmoved : listing.keys ≠ ∅ → (poll env hass c p).1.2.uidRemap = c.uidRemap →
      ¬ ∀ o n, Renames env listing listing' o n →
        (poll env hass c p).1.2.resolveConnectionUid o = n ∧
          Moved hass (poll env hass c p).2 entryId o n := by
    intro hne hmap hall
    obtain ⟨o, ho⟩ := Finset.nonempty_iff_ne_empty.mpr hne
    obtain ⟨n, hn⟩ := Renames.exists_new hnames ho
    have hres := (hall o n hn).1
    rw [State.resolveConnectionUid_of_none (by rw [hmap, hr]; rfl)] at hres
    exact hfresh n hn.new (hres ▸ hout.listed ho)
  by_cases hne : listing.keys = ∅
  · refine ⟨fun _ => Or.inl hne, ?_⟩
    intro _ o n hn
    have ho := hn.old
    rw [hne] at ho
    exact absurd ho (Finset.notMem_empty o)
  · by_cases hall : ∀ u, Listed hist u → u ∈ listing.keys
    · have hfull := fullList_of_run h hout hnames hfresh hall
      rcases hfull.poll hne hload hreg hentry hid hp (fun n _ => by rw [hr]; rfl) with
        ⟨hent, -, hdone⟩ | ⟨hent, -, hmap⟩
      · refine ⟨fun _ => Or.inr ⟨hall, hent⟩, ?_⟩
        exact fun _ o n hn => ⟨hdone.resolves hn, hdone.moved o n hn⟩
      · refine ⟨fun hc => absurd hc (hunmoved hne hmap), ?_⟩
        rintro (hc | ⟨-, hc⟩)
        · exact absurd hc hne
        · exact absurd hent hc
    · refine ⟨?_, ?_⟩
      · intro hc
        rw [not_forall] at hall
        obtain ⟨d, hd⟩ := hall
        rw [Classical.not_imp] at hd
        have hempty : listing'.isEmpty = false := hnames.isEmpty_right hne
        obtain ⟨hun, -⟩ := poll_of_refused hp hempty
          (remapDecision_of_deleted h hout hr hnames hfresh hd.1 hd.2)
        exact absurd hc (hunmoved hne hun.uidRemap)
      · rintro (hc | ⟨hc, -⟩)
        · exact absurd hc hne
        · exact absurd hc hall

end Outage

def deletedLab : List (Hass × Poll) :=
  [failedPoll 4, listingPoll (office "a") 3, listingPoll (office "a") 2, listingPoll (office "a") 1,
    listingPoll (officeAndLab "a" "b") 0]

/-- The connection that was deleted long before the outage keeps the other one
from being recognised. -/
theorem deleted_connection_blocks : ∃ hist c, Run (pollMachine memoryEnv) hist c ∧
    c.uidRemap = Dict.empty ∧ "b" ∈ c.confirmedOrphanUids ∧ Outage (office "a") hist ∧
      Loaded home "entry" ⟨∅, ∅, ∅⟩ ∧ Registered home "entry" (office "a") (office "n") ∧
        SameNames memoryEnv (office "a") (office "n") ∧ (∀ u ∈ (office "n").keys, ¬ Listed hist u) ∧
          ¬ ∀ o n, Renames memoryEnv (office "a") (office "n") o n →
            (poll memoryEnv home c ⟨.ok (office "n"), 5, 5⟩).1.2.resolveConnectionUid o = n ∧
              Moved home (poll memoryEnv home c ⟨.ok (office "n"), 5, 5⟩).2 "entry" o n := by
  refine ⟨_, _, run_play (pollMachine memoryEnv) deletedLab, by decide +kernel, by decide +kernel,
    Outage.of_failedPoll rfl _ _, home_loaded, home_registered, sameNames_office, by decide +kernel, ?_⟩
  intro h
  have hr := (h "a" "n" ⟨by decide +kernel, by decide +kernel, by decide +kernel⟩).1
  revert hr
  decide +kernel

def officesOutage : List (Hass × Poll) := [failedPoll 1, listingPoll (officeAndLab "a" "b") 0]

theorem remapped_offices :
    (∀ o n, Renames memoryEnv (officeAndLab "a" "b") (officeAndLab "n" "m") o n →
        (poll memoryEnv home ((pollMachine memoryEnv).play officesOutage).2
            ⟨.ok (officeAndLab "n" "m"), 2, 2⟩).1.2.resolveConnectionUid o = n ∧
          Moved home (poll memoryEnv home ((pollMachine memoryEnv).play officesOutage).2
            ⟨.ok (officeAndLab "n" "m"), 2, 2⟩).2 "entry" o n) ↔
      (officeAndLab "a" "b").keys = ∅ ∨
        ((∀ u, Listed ((pollMachine memoryEnv).play officesOutage).1 u → u ∈ (officeAndLab "a" "b").keys) ∧
          ¬ Entangled memoryEnv (officeAndLab "a" "b") (officeAndLab "n" "m")) :=
  remapped_iff_never_deleted (run_play (pollMachine memoryEnv) officesOutage)
    (Outage.of_failedPoll rfl _ _) (by decide +kernel) rfl (by decide) home_loaded home_registered_both
    sameNames_officeAndLab (by decide +kernel) rfl

end FritzboxVpn.DeletedConnections
