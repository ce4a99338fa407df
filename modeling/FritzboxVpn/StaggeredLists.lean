import FritzboxVpn.OutageHistory

namespace FritzboxVpn.StaggeredLists

open Constants Coordinator CoordinatorSteps Exceptions HomeAssistant JsonValue OrderedDict OutageHistory
  OutageRemap RecoveryCap RemapAtomicity Runs UidRemap

variable {env : Env} {listing listing' part : Dict String Json}

structure Reveals (env : Env) (listing' part : Dict String Json) (r : PollRecord) : Prop where
  fetch : r.input.2.fetch = .ok part
  successful : r.output.outcome = .ok part
  nonempty : part.isEmpty = false
  subset : part.keys ⊆ listing'.keys
  names : ∀ u ∈ part.keys, connectionName env part u = connectionName env listing' u

theorem Reveals.connectionName_eq {r : PollRecord} (h : Reveals env listing' part r)
    (hk : part.keys = listing'.keys) : connectionName env part = connectionName env listing' := by
  have hnone : ∀ {d : Dict String Json} {u : String}, u ∉ d.keys → connectionName env d u = none := by
    intro d u hu
    rw [connectionName, Dict.get?_eq_none_iff.mpr hu]
    rfl
  funext u
  by_cases hu : u ∈ part.keys
  · exact h.names u hu
  · rw [hnone hu, hnone (hk ▸ hu)]

/-- More UIDs are gone than new ones listed: no list of the new UIDs is ever
taken for a renaming. -/
structure Behind (listing listing' : Dict String Json) (c : State) : Prop where
  old : listing.keys ⊆ c.seenUids
  new : ∃ n ∈ listing'.keys, n ∈ c.seenUids

section Counting

variable {c : State} {r : PollRecord}
  (hnames : SameNames env listing listing') (hfresh : ∀ u ∈ listing'.keys, u ∉ listing.keys)

include hnames hfresh in
theorem refused_of_fewer (hold : listing.keys ⊆ c.seenUids) (hsub : part.keys ⊆ listing'.keys)
    (hlt : (part.keys \ c.seenUids).card < listing'.keys.card) (mapping : Dict String String) :
    remapDecision env (rememberConnectionNames env c part) part ≠ .ok mapping := by
  apply remapDecision_refused
  have hremoved : listing.keys ⊆ c.seenUids \ part.keys := by
    intro u hu
    exact Finset.mem_sdiff.mpr ⟨hold hu, fun hn => hfresh u (hsub hn) hu⟩
  have hle := Finset.card_le_card hremoved
  have hcard := hnames.card_eq
  rw [rememberConnectionNames_seenUids]
  omega

include hnames hfresh in
theorem Behind.refused (h : Behind listing listing' c) (hsub : part.keys ⊆ listing'.keys)
    (mapping : Dict String String) :
    remapDecision env (rememberConnectionNames env c part) part ≠ .ok mapping := by
  apply refused_of_fewer hnames hfresh h.old hsub
  obtain ⟨n, hn, hs⟩ := h.new
  apply Finset.card_lt_card
  refine ⟨fun u hu => hsub (Finset.mem_sdiff.mp hu).1, ?_⟩
  exact fun hall => (Finset.mem_sdiff.mp (hall hn)).2 hs

include hnames hfresh in
/-- A later partial or full list leaves the aliases as they are. -/
theorem Behind.step (h : Behind listing listing' r.before)
    (hr : r = (pollMachine env).record r.before r.input) (hrev : Reveals env listing' part r) :
    Behind listing listing' r.after ∧ r.after.uidRemap = r.before.uidRemap := by
  have hun : Unremapped r.before part r.after := by
    rw [after_eq hr]
    exact (poll_of_refused hrev.fetch hrev.nonempty (h.refused hnames hfresh hrev.subset)).1
  have hgrow : r.before.seenUids ⊆ r.after.seenUids := by
    rw [hun.seenUids, Finset.union_assoc]
    exact Finset.subset_union_left
  obtain ⟨n, hn, hs⟩ := h.new
  exact ⟨⟨h.old.trans hgrow, n, hn, hgrow hs⟩, hun.uidRemap⟩

include hnames hfresh in
/-- A first list that lacks a connection remaps nothing and blocks the rest. -/
theorem behind_of_partial (hseen : r.before.seenUids = listing.keys)
    (hr : r = (pollMachine env).record r.before r.input) (hrev : Reveals env listing' part r)
    (hpart : part.keys ≠ listing'.keys) :
    Behind listing listing' r.after ∧ r.after.uidRemap = r.before.uidRemap := by
  have hlt : (part.keys \ r.before.seenUids).card < listing'.keys.card := by
    have hle := Finset.card_le_card (Finset.sdiff_subset (s := part.keys) (t := r.before.seenUids))
    have hss := Finset.card_lt_card (lt_of_le_of_ne hrev.subset hpart)
    omega
  have hun : Unremapped r.before part r.after := by
    rw [after_eq hr]
    exact (poll_of_refused hrev.fetch hrev.nonempty
      (refused_of_fewer hnames hfresh hseen.symm.subset hrev.subset hlt)).1
  obtain ⟨n, hn⟩ : part.keys.Nonempty := by
    rw [Finset.nonempty_iff_ne_empty]
    intro he
    have hne := hrev.nonempty
    rw [Dict.isEmpty_iff.mpr he] at hne
    cases hne
  refine ⟨⟨?_, n, hrev.subset hn, ?_⟩, hun.uidRemap⟩
  · rw [hun.seenUids, hseen, Finset.union_assoc]
    exact Finset.subset_union_left
  · rw [hun.seenUids]
    exact Finset.mem_union_right _ hn

end Counting

structure CaughtUp (env : Env) (listing listing' : Dict String Json) (c : State) : Prop where
  seen : listing'.keys ⊆ c.seenUids
  remapped : ∀ o n, Renames env listing listing' o n → c.uidRemap.get? o = some n
  current : ∀ n ∈ listing'.keys, c.uidRemap.get? n = none

theorem CaughtUp.resolves {c : State} (h : CaughtUp env listing listing' c) {o n : String}
    (hr : Renames env listing listing' o n) : c.resolveConnectionUid o = n :=
  State.resolveConnectionUid_of_some (h.remapped o n hr) (h.current n hr.new)

theorem CaughtUp.step {r : PollRecord} (h : CaughtUp env listing listing' r.before)
    (hr : r = (pollMachine env).record r.before r.input) (hrev : Reveals env listing' part r) :
    CaughtUp env listing listing' r.after := by
  have hun : Unremapped r.before part r.after := by
    rw [after_eq hr]
    exact (poll_of_nothing_new hrev.fetch hrev.nonempty (hrev.subset.trans h.seen)).1
  refine ⟨?_, ?_, ?_⟩
  · rw [hun.seenUids, Finset.union_assoc]
    exact h.seen.trans Finset.subset_union_left
  · rw [hun.uidRemap]
    exact h.remapped
  · rw [hun.uidRemap]
    exact h.current

section Staggered

variable {hist polls : List PollRecord} {first : PollRecord} {c : State} {entryId : String}
  {runtime : RuntimeData}

/-- Successful polls that list parts of the new listing, the first of them
with the given part and the last with all of it. -/
structure Staggered (env : Env) (listing' part : Dict String Json) (first : PollRecord) (polls : List PollRecord) :
    Prop where
  start : Reveals env listing' part first
  later : ∀ r ∈ polls, ∃ part, Reveals env listing' part r
  complete : ∀ r rest, polls ++ [first] = r :: rest →
    ∃ full, Reveals env listing' full r ∧ full.keys = listing'.keys

/-- Where the first list is the full one, it is remapped. -/
theorem caughtUp_of_full {hist : List PollRecord} (h : Run (pollMachine env) hist first.before)
    (hr : first = (pollMachine env).record first.before first.input) (hout : Outage listing hist)
    (hseen : first.before.seenUids = listing.keys) (hentry : env.entryId = some entryId)
    (hid : entryId ≠ "") (hload : Loaded first.input.1 entryId runtime)
    (hreg : Registered first.input.1 entryId listing listing') (hnames : SameNames env listing listing')
    (hfresh : ∀ u ∈ listing'.keys, ¬ Listed hist u) (hne : listing.keys ≠ ∅)
    (hrev : Reveals env listing' part first) (hfull : part.keys = listing'.keys) :
    CaughtUp env listing listing' first.after := by
  have hn : connectionName env part = connectionName env listing' := hrev.connectionName_eq hfull
  have hunused : ∀ n ∈ part.keys, first.before.uidRemap.get? n = none := by
    intro n hmem
    rw [Option.eq_none_iff_forall_ne_some]
    intro m hm
    exact hfresh n (hfull ▸ hmem) ((knows_listed h).remap n m hm).1
  have hlist : FullList env first.before listing part := by
    refine ⟨outageState_of_run h hout, hseen, ?_, ?_⟩
    · rw [SameNames, hn, hfull]
      exact hnames
    · exact fun u hu ho => hfresh u (hfull ▸ hu) (hout.listed ho)
  have hrenames : ∀ o n, Renames env listing listing' o n → Renames env listing part o n := by
    rintro o n ⟨h1, h2, h3⟩
    exact ⟨h1, hfull.symm ▸ h2, hn.symm ▸ h3⟩
  have hreg' : Registered first.input.1 entryId listing part :=
    ⟨hreg.old, fun u hu => hreg.new u (hfull ▸ hu)⟩
  rcases hlist.poll hne hload hreg' hentry hid hrev.fetch hunused with
    ⟨-, -, hdone⟩ | ⟨-, ⟨failed, hfailed⟩, -⟩
  · rw [← after_eq hr] at hdone
    refine ⟨?_, ?_, ?_⟩
    · rw [← hfull]
      exact Finset.subset_union_right.trans hdone.seen
    · exact fun o n hon => hdone.remapped o n (hrenames o n hon)
    · exact fun n hmem => hdone.current n (hfull ▸ hmem)
  · have hs := hrev.successful
    rw [hr] at hs
    change (poll env first.input.1 first.before first.input.2).1.1.outcome = .ok part at hs
    rw [hs] at hfailed
    cases hfailed

/-- A staggered listing is recognised exactly where its first list is the full
one. -/
theorem staggered_remapped_iff (h : Run (pollMachine env) (polls ++ first :: hist) c)
    (hout : Outage listing hist) (hseen : first.before.seenUids = listing.keys)
    (hentry : env.entryId = some entryId) (hid : entryId ≠ "")
    (hload : Loaded first.input.1 entryId runtime)
    (hreg : Registered first.input.1 entryId listing listing') (hnames : SameNames env listing listing')
    (hfresh : ∀ u ∈ listing'.keys, ¬ Listed hist u) (hpolls : Staggered env listing' part first polls) :
    (∀ o n, Renames env listing listing' o n → c.resolveConnectionUid o = n) ↔
      part.keys = listing'.keys := by
  obtain ⟨s, hs⟩ := h.of_append
  obtain ⟨hrun, hr, -⟩ := hs.of_cons
  have hunlisted : ∀ u ∈ listing'.keys, u ∉ listing.keys := fun u hu ho => hfresh u hu (hout.listed ho)
  have hne : listing.keys ≠ ∅ := by
    intro he
    have hcard := hnames.card_eq
    rw [he, Finset.card_empty] at hcard
    have hempty : part.keys = ∅ :=
      Finset.subset_empty.mp (Finset.card_eq_zero.mp hcard.symm ▸ hpolls.start.subset)
    have hnonempty := hpolls.start.nonempty
    rw [Dict.isEmpty_iff.mpr hempty] at hnonempty
    cases hnonempty
  constructor
  · intro hall
    by_contra hpart
    obtain ⟨hbehind, hmap⟩ := behind_of_partial hnames hunlisted hseen hr hpolls.start hpart
    have hkept : Behind listing listing' c ∧ c.uidRemap = first.before.uidRemap := by
      refine h.invariant_since (P := fun c => Behind listing listing' c ∧
        c.uidRemap = first.before.uidRemap) ⟨hbehind, hmap⟩ ?_
      intro r hmem hrec hb
      obtain ⟨part', hrev⟩ := hpolls.later r hmem
      obtain ⟨hb', hm'⟩ := hb.1.step hnames hunlisted hrec hrev
      exact ⟨hb', hm'.trans hb.2⟩
    obtain ⟨o, ho⟩ := Finset.nonempty_iff_ne_empty.mpr hne
    obtain ⟨n, hn⟩ := Renames.exists_new hnames ho
    have hres := hall o n hn
    rcases c.resolveConnectionUid_cases o with he | ⟨u, hu⟩
    · rw [hres] at he
      exact hunlisted n hn.new (he ▸ ho)
    · rw [hres, hkept.2] at hu
      exact hfresh n hn.new ((knows_listed hrun).remap u n hu).2
  · intro hfull o n hon
    have hstart := caughtUp_of_full hrun hr hout hseen hentry hid hload hreg hnames hfresh hne
      hpolls.start hfull
    have hend : CaughtUp env listing listing' c := by
      refine h.invariant_since hstart ?_
      intro r hmem hrec hc
      obtain ⟨part', hrev⟩ := hpolls.later r hmem
      exact hc.step hrec hrev
    exact hend.resolves hon

end Staggered

def InsideWindow (r : PollRecord) : Prop :=
  ∃ until_, r.before.recoveringUntil = some until_ ∧ r.input.2.later < until_

instance (r : PollRecord) : Decidable (InsideWindow r) :=
  match h : r.before.recoveringUntil with
  | none => isFalse fun ⟨_, hu, _⟩ => by rw [h] at hu; cases hu
  | some until_ => decidable_of_iff (r.input.2.later < until_) ⟨fun hl => ⟨until_, h, hl⟩,
      fun ⟨_, hu, hl⟩ => by rw [h] at hu; cases hu; exact hl⟩

def bothOutage : List (Hass × Poll) := [failedPoll 1, listingPoll (officeAndLab "a" "b") 0]

def homePoll (connections : Dict String Json) (t : ℚ) : Hass × Poll := (home, ⟨.ok connections, t, t⟩)

def bothStaggered : List (Hass × Poll) :=
  homePoll (officeAndLab "n" "m") 3 :: homePoll (office "n") 2 :: bothOutage

theorem reveals_homePoll {c : State} {t : ℚ} (hne : part.isEmpty = false)
    (ho : (poll memoryEnv home c (homePoll part t).2).1.1.outcome.isOk = true)
    (hsub : part.keys ⊆ listing'.keys)
    (hnames : ∀ u ∈ part.keys, connectionName memoryEnv part u = connectionName memoryEnv listing' u) :
    Reveals memoryEnv listing' part ((pollMachine memoryEnv).record c (homePoll part t)) :=
  ⟨rfl, outcome_of_fetch rfl ho, hne, hsub, hnames⟩

def officeReveal : PollRecord :=
  (pollMachine memoryEnv).record ((pollMachine memoryEnv).play bothOutage).2 (homePoll (office "n") 2)

def bothReveal : PollRecord :=
  (pollMachine memoryEnv).record ((pollMachine memoryEnv).play (homePoll (office "n") 2 :: bothOutage)).2
    (homePoll (officeAndLab "n" "m") 3)

theorem run_bothStaggered : Run (pollMachine memoryEnv)
    ([bothReveal] ++ officeReveal :: ((pollMachine memoryEnv).play bothOutage).1)
    ((pollMachine memoryEnv).play bothStaggered).2 := run_play (pollMachine memoryEnv) bothStaggered

theorem bothStaggered_staggered :
    Staggered memoryEnv (officeAndLab "n" "m") (office "n") officeReveal [bothReveal] := by
  have hfull : Reveals memoryEnv (officeAndLab "n" "m") (officeAndLab "n" "m") bothReveal :=
    reveals_homePoll rfl (by decide +kernel) subset_rfl fun _ _ => rfl
  refine ⟨reveals_homePoll rfl (by decide +kernel) (by decide +kernel) (by decide +kernel), ?_, ?_⟩
  · intro r hr
    rw [List.mem_singleton] at hr
    exact ⟨_, hr ▸ hfull⟩
  · intro r rest hr
    rw [List.singleton_append, List.cons.injEq] at hr
    exact ⟨_, hr.1 ▸ hfull, rfl⟩

theorem outage_bothOutage :
    Outage (officeAndLab "a" "b") ((pollMachine memoryEnv).play bothOutage).1 :=
  Outage.of_failedPoll rfl _ _

/-- Of two connections the box lists one first: neither is recognised, and the
full list comes too late. -/
theorem staggered_not_remapped : ∃ hist polls first c,
    Run (pollMachine memoryEnv) (polls ++ first :: hist) c ∧ Outage (officeAndLab "a" "b") hist ∧
      first.before.seenUids = (officeAndLab "a" "b").keys ∧
        Loaded first.input.1 "entry" ⟨∅, ∅, ∅⟩ ∧
          Registered first.input.1 "entry" (officeAndLab "a" "b") (officeAndLab "n" "m") ∧
            SameNames memoryEnv (officeAndLab "a" "b") (officeAndLab "n" "m") ∧
              (∀ u ∈ (officeAndLab "n" "m").keys, ¬ Listed hist u) ∧
                Staggered memoryEnv (officeAndLab "n" "m") (office "n") first polls ∧
                  (∀ r ∈ polls ++ [first], InsideWindow r) ∧
                    ¬ ∀ o n, Renames memoryEnv (officeAndLab "a" "b") (officeAndLab "n" "m") o n →
                      c.resolveConnectionUid o = n := by
  refine ⟨_, _, _, _, run_bothStaggered, outage_bothOutage, by decide +kernel, home_loaded,
    home_registered_both, sameNames_officeAndLab, by decide +kernel, bothStaggered_staggered,
    by decide +kernel, ?_⟩
  intro h
  have hr := h "a" "n" ⟨by decide +kernel, by decide +kernel, by decide +kernel⟩
  revert hr
  decide +kernel

theorem staggered_remapped_both :
    (∀ o n, Renames memoryEnv (officeAndLab "a" "b") (officeAndLab "n" "m") o n →
        ((pollMachine memoryEnv).play bothStaggered).2.resolveConnectionUid o = n) ↔
      (office "n").keys = (officeAndLab "n" "m").keys :=
  staggered_remapped_iff run_bothStaggered outage_bothOutage (by decide +kernel) rfl (by decide)
    home_loaded home_registered_both sameNames_officeAndLab (by decide +kernel) bothStaggered_staggered

end FritzboxVpn.StaggeredLists
