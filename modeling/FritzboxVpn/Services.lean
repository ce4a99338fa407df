import FritzboxVpn.HomeAssistant
import FritzboxVpn.Runs
import FritzboxVpn.Text
import Mathlib.Data.Finset.SDiff

namespace FritzboxVpn.Services

open Constants Exceptions HomeAssistant OrderedDict Runs Text

structure State where
  serviceRegistrationFlag : Bool := false
  services : Finset String := ∅
  entries : Dict String ConfigEntryState := Dict.empty

def bothServices : Finset String := {serviceRemoveUnavailableEntities, serviceRepairEntityIdSuffixes}

def registerServicesIfNeeded (s : State) : State :=
  if s.serviceRegistrationFlag then s
  else { s with serviceRegistrationFlag := true, services := s.services ∪ bothServices }

def asyncSetup (s : State) : State := registerServicesIfNeeded s

def asyncLoadedEntries (s : State) : List String :=
  (s.entries.entries.filter fun p => p.2 = .loaded).map Prod.fst

structure SetupAnswers where
  firstRefresh : Except PyError Unit
  registries : Except PyError Unit
  platforms : Except PyError Unit
  cleanup : Except PyError Unit

inductive SetupOutcome
  | returned (ok : Bool)
  | authFailed
  | notReady
  | raised

def asyncSetupEntry (a : SetupAnswers) : SetupOutcome :=
  match a.firstRefresh with
  | .error err =>
      if errorIndicatorAuth.any fun ind => contains ind (lower err.message) then .authFailed
      else .notReady
  | .ok () =>
      match a.registries with
      | .error _ => .raised
      | .ok () =>
          match a.platforms with
          | .error _ => .returned false
          | .ok () =>
              match a.cleanup with
              | .error _ => .raised
              | .ok () => .returned true

structure UnloadAnswers where
  platforms : Except PyError Bool
  close : Except PyError Unit

def asyncUnloadEntry (s : State) (entryId : String) (a : UnloadAnswers) : Except PyError Bool × State :=
  match a.platforms with
  | .error err => (.error err, s)
  | .ok false => (.ok false, s)
  | .ok true =>
      match a.close with
      | .error err => (.error err, s)
      | .ok () =>
          let otherLoaded := (asyncLoadedEntries s).filter fun e => e ≠ entryId
          if otherLoaded.isEmpty && s.serviceRegistrationFlag then
            (.ok true, { s with serviceRegistrationFlag := false, services := s.services \ bothServices })
          else (.ok true, s)

def stateAfterSetup : SetupOutcome → ConfigEntryState
  | .returned true => .loaded
  | .returned false | .authFailed | .raised => .setupError
  | .notReady => .setupRetry

inductive Event
  | setup (entryId : String) (a : SetupAnswers)
  | unload (entryId : String) (a : UnloadAnswers)

/-- A reload is an unload and a setup; a failed unload leaves a state that
cannot be set up. -/
def reload (entryId : String) (u : UnloadAnswers) (a : SetupAnswers) : List Event :=
  [.setup entryId a, .unload entryId u]

/-- The manager of the config entries: it asks the integration to unload only
what is loaded. -/
def step (s : State) : Event → State
  | .setup entryId a =>
      match s.entries.get? entryId with
      | some .loaded | some .setupError | some .failedUnload => s
      | some .notLoaded | some .setupRetry | none =>
          { s with entries := s.entries.insert entryId (stateAfterSetup (asyncSetupEntry a)) }
  | .unload entryId a =>
      match s.entries.get? entryId with
      | some .loaded =>
          match asyncUnloadEntry s entryId a with
          | (.ok true, s') => { s' with entries := s'.entries.insert entryId .notLoaded }
          | (_, s') => { s' with entries := s'.entries.insert entryId .failedUnload }
      | some .setupError | some .setupRetry =>
          { s with entries := s.entries.insert entryId .notLoaded }
      | some .notLoaded | some .failedUnload | none => s

def servicesMachine : Machine State Event Unit := ⟨asyncSetup {}, fun s e => ((), step s e)⟩

abbrev EventRecord := Record State Event Unit

def AnyLoaded (s : State) : Prop := ∃ entryId, s.entries.get? entryId = some .loaded

def Unloads (r : EventRecord) : Prop :=
  ∃ entryId a, r.input = .unload entryId a ∧ r.before.entries.get? entryId = some .loaded ∧
    r.after.entries.get? entryId = some .notLoaded

def Loads (r : EventRecord) : Prop :=
  ∃ entryId, r.before.entries.get? entryId ≠ some .loaded ∧
    r.after.entries.get? entryId = some .loaded

/-- Both services are there while an entry is loaded, and neither is once the
last one was unloaded. -/
structure ServicesFollow (r : EventRecord) : Prop where
  present : AnyLoaded r.after → bothServices ⊆ r.after.services
  absent : Unloads r → ¬ AnyLoaded r.after → Disjoint bothServices r.after.services

def Emptied (hist : List EventRecord) : Prop := ∃ r ∈ hist, Unloads r ∧ ¬ AnyLoaded r.after

inductive Restarted : List EventRecord → Prop
  | now {r hist} (h : Loads r) (he : Emptied hist) : Restarted (r :: hist)
  | before {r hist} (h : Restarted hist) : Restarted (r :: hist)

inductive Step (s : State) : Event → State → Prop
  | idle (e) : Step s e s
  | setup (entryId a state) (h : s.entries.get? entryId ≠ some .loaded) :
      Step s (.setup entryId a) { s with entries := s.entries.insert entryId state }
  | dropped (entryId a) (h : s.entries.get? entryId ≠ some .loaded) :
      Step s (.unload entryId a) { s with entries := s.entries.insert entryId .notLoaded }
  | failed (entryId a) (h : s.entries.get? entryId = some .loaded) :
      Step s (.unload entryId a) { s with entries := s.entries.insert entryId .failedUnload }
  | unloaded (entryId a other) (h : s.entries.get? entryId = some .loaded) (hne : other ≠ entryId)
      (ho : s.entries.get? other = some .loaded) :
      Step s (.unload entryId a) { s with entries := s.entries.insert entryId .notLoaded }
  | last (entryId a) (h : s.entries.get? entryId = some .loaded)
      (ho : ∀ other, other ≠ entryId → s.entries.get? other ≠ some .loaded) :
      Step s (.unload entryId a)
        ⟨false, if s.serviceRegistrationFlag then s.services \ bothServices else s.services,
          s.entries.insert entryId .notLoaded⟩

theorem mem_asyncLoadedEntries {s : State} {entryId : String} :
    entryId ∈ asyncLoadedEntries s ↔ s.entries.get? entryId = some .loaded := by
  rw [asyncLoadedEntries, List.mem_map]
  constructor
  · rintro ⟨⟨e, state⟩, hp, rfl⟩
    rw [List.mem_filter, decide_eq_true_eq] at hp
    rw [← hp.2]
    exact Dict.mem_entries_iff.mp hp.1
  · intro h
    refine ⟨(entryId, .loaded), ?_, rfl⟩
    rw [List.mem_filter]
    exact ⟨Dict.mem_entries_iff.mpr h, rfl⟩

theorem otherLoaded_isEmpty {s : State} {entryId : String} :
    ((asyncLoadedEntries s).filter fun e => e ≠ entryId).isEmpty = true ↔
      ∀ other, other ≠ entryId → s.entries.get? other ≠ some .loaded := by
  rw [List.isEmpty_iff, List.filter_eq_nil_iff]
  constructor
  · intro h other hne ho
    have hn := h other (mem_asyncLoadedEntries.mpr ho)
    rw [decide_eq_true_eq, not_not] at hn
    exact hne hn
  · intro h other ho
    rw [decide_eq_true_eq]
    exact fun hne => h other hne (mem_asyncLoadedEntries.mp ho)

theorem unload_step {s : State} {entryId : String} (h : s.entries.get? entryId = some .loaded)
    (a : UnloadAnswers) : Step s (.unload entryId a) (step s (.unload entryId a)) := by
  simp only [step, h, asyncUnloadEntry]
  cases a.platforms with
  | error err => exact Step.failed entryId a h
  | ok unloaded =>
      cases unloaded with
      | false => exact Step.failed entryId a h
      | true =>
          cases a.close with
          | error err => exact Step.failed entryId a h
          | ok =>
              cases hempty : ((asyncLoadedEntries s).filter fun e => e ≠ entryId).isEmpty with
              | true =>
                  have hlast := Step.last entryId a h (otherLoaded_isEmpty.mp hempty)
                  cases hflag : s.serviceRegistrationFlag with
                  | true => simpa [hempty, hflag] using hlast
                  | false =>
                      obtain ⟨flag, services, entries⟩ := s
                      cases hflag
                      simpa [hempty] using hlast
              | false =>
                  have hn := mt otherLoaded_isEmpty.mpr (Bool.eq_false_iff.mp hempty)
                  rw [not_forall] at hn
                  obtain ⟨other, ho⟩ := hn
                  rw [Classical.not_imp, not_not] at ho
                  simpa [hempty] using Step.unloaded entryId a other h ho.1 ho.2

theorem step_spec (s : State) (e : Event) : Step s e (step s e) := by
  cases e with
  | setup entryId a =>
      rw [step]
      split
      all_goals first
        | exact Step.idle _
        | exact Step.setup entryId a _ (by simp [*])
  | unload entryId a =>
      by_cases h : s.entries.get? entryId = some .loaded
      · exact unload_step h a
      · rw [step]
        split
        next hl => exact absurd hl h
        all_goals first
          | exact Step.idle _
          | exact Step.dropped entryId a h

def Guarded (s : State) : Prop :=
  s.services = if s.serviceRegistrationFlag then bothServices else ∅

theorem guarded_step {s s' : State} {e : Event} (h : Step s e s') (hg : Guarded s) : Guarded s' := by
  cases h with
  | idle | setup | dropped | failed | unloaded => exact hg
  | last entryId a h ho =>
      rw [Guarded] at hg ⊢
      cases hflag : s.serviceRegistrationFlag with
      | true => simp [hg, hflag]
      | false => simp [hg, hflag]

theorem guarded_of_run {hist : List EventRecord} {s : State} (h : Run servicesMachine hist s) :
    Guarded s := by
  refine Run.invariant (P := fun _ s => Guarded s) ?_ ?_ h
  · rfl
  · intro hist s i hrun ih
    exact guarded_step (step_spec _ i) ih

theorem anyLoaded_insert {s : State} {entryId : String} {state : ConfigEntryState}
    {flag : Bool} {services : Finset String} (hne : state ≠ .loaded)
    (h : AnyLoaded ⟨flag, services, s.entries.insert entryId state⟩) :
    ∃ other, other ≠ entryId ∧ s.entries.get? other = some .loaded := by
  obtain ⟨other, ho⟩ := h
  change (s.entries.insert entryId state).get? other = some .loaded at ho
  by_cases he : other = entryId
  · rw [he, Dict.get?_insert_self, Option.some.injEq] at ho
    exact absurd ho hne
  · rw [Dict.get?_insert_ne _ he] at ho
    exact ⟨other, he, ho⟩

/-- The unload of the last entry is the one step that drops the flag. -/
theorem lastUnload_iff {r : EventRecord} (h : Step r.before r.input r.after) :
    (Unloads r ∧ ¬ AnyLoaded r.after) ↔ ∃ entryId a, r.input = .unload entryId a ∧
      r.before.entries.get? entryId = some .loaded ∧
        (∀ other, other ≠ entryId → r.before.entries.get? other ≠ some .loaded) ∧
          r.after = ⟨false, if r.before.serviceRegistrationFlag then r.before.services \ bothServices
            else r.before.services, r.before.entries.insert entryId .notLoaded⟩ := by
  constructor
  · rintro ⟨⟨entryId, a, hi, hb, ha⟩, hno⟩
    obtain ⟨before, input, output, after⟩ := r
    dsimp only at h hi hb ha hno
    subst hi
    cases h with
    | idle => exact absurd ⟨entryId, hb⟩ hno
    | dropped _ _ hn => exact absurd hb hn
    | failed =>
        change (before.entries.insert entryId .failedUnload).get? entryId = _ at ha
        rw [Dict.get?_insert_self] at ha
        cases ha
    | unloaded _ _ other _ hne ho =>
        exact absurd ⟨other, (Dict.get?_insert_ne _ hne _).trans ho⟩ hno
    | last _ _ _ ho => exact ⟨entryId, a, rfl, hb, ho, rfl⟩
  · rintro ⟨entryId, a, hi, hb, ho, ha⟩
    refine ⟨⟨entryId, a, hi, hb, ?_⟩, ?_⟩
    · rw [ha]
      exact Dict.get?_insert_self _ _ _
    · rw [ha]
      intro hany
      obtain ⟨other, hne, hloaded⟩ := anyLoaded_insert (by decide) hany
      exact ho other hne hloaded

theorem flag_step {r : EventRecord} (h : Step r.before r.input r.after) :
    r.after.serviceRegistrationFlag = false ↔
      r.before.serviceRegistrationFlag = false ∨ (Unloads r ∧ ¬ AnyLoaded r.after) := by
  constructor
  · intro hf
    by_cases hlast : Unloads r ∧ ¬ AnyLoaded r.after
    · exact Or.inr hlast
    · left
      rw [lastUnload_iff h] at hlast
      obtain ⟨before, input, output, after⟩ := r
      dsimp only at h hf hlast ⊢
      cases h with
      | idle | setup | dropped | failed | unloaded => exact hf
      | last entryId a hb ho => exact absurd ⟨entryId, a, rfl, hb, ho, rfl⟩ hlast
  · rintro (hf | hlast)
    · obtain ⟨before, input, output, after⟩ := r
      dsimp only at h hf ⊢
      cases h with
      | idle | setup | dropped | failed | unloaded => exact hf
      | last => rfl
    · obtain ⟨entryId, a, -, -, -, ha⟩ := (lastUnload_iff h).mp hlast
      rw [ha]

theorem flag_of_run {hist : List EventRecord} {s : State} (h : Run servicesMachine hist s) :
    s.serviceRegistrationFlag = false ↔ Emptied hist := by
  refine Run.invariant (P := fun hist s => s.serviceRegistrationFlag = false ↔ Emptied hist) ?_ ?_ h
  · refine ⟨fun hf => ?_, ?_⟩
    · cases hf
    · rintro ⟨r, hr, -⟩
      cases hr
  · intro hist s i hrun ih
    have hstep := flag_step (r := servicesMachine.record s i) (step_spec s i)
    rw [Emptied, List.exists_mem_cons_iff, ← Emptied, ← ih]
    exact hstep.trans or_comm

theorem unloaded_of_emptied {hist : List EventRecord} {s : State} (h : Run servicesMachine hist s)
    (he : Emptied hist) (hno : ¬ Restarted hist) : ¬ AnyLoaded s := by
  induction h with
  | start =>
      obtain ⟨r, hr, -⟩ := he
      cases hr
  | step h i ih =>
      rename_i hist s
      have hno' : ¬ Restarted hist := fun hr => hno (Restarted.before hr)
      obtain ⟨r, hr, hlast⟩ := he
      rcases List.mem_cons.mp hr with rfl | hr
      · exact hlast.2
      · have hs := ih ⟨r, hr, hlast⟩ hno'
        rintro ⟨entryId, ha⟩
        apply hno
        exact Restarted.now ⟨entryId, fun hb => hs ⟨entryId, hb⟩, ha⟩ ⟨r, hr, hlast⟩

theorem servicesFollow_of_not_restarted {r : EventRecord} {hist : List EventRecord} {s : State}
    (h : Run servicesMachine (r :: hist) s) (hno : ¬ Restarted (r :: hist)) : ServicesFollow r := by
  obtain ⟨hrun, hr, rfl⟩ := h.of_cons
  have hguard := guarded_of_run h
  refine ⟨?_, ?_⟩
  · intro hany
    have hflag : r.after.serviceRegistrationFlag ≠ false := by
      intro hf
      exact unloaded_of_emptied h ((flag_of_run h).mp hf) hno hany
    rw [Guarded, if_pos (Bool.eq_true_of_not_eq_false hflag)] at hguard
    exact hguard.symm.subset
  · intro hun hnone
    have hf : r.after.serviceRegistrationFlag = false :=
      (flag_of_run h).mpr ⟨r, List.mem_cons_self, hun, hnone⟩
    rw [Guarded, hf] at hguard
    rw [hguard]
    exact Finset.disjoint_empty_right _

/-- The services follow the loaded entries exactly in the runs in which no
entry is loaded again after the last one was unloaded. -/
theorem servicesFollow_iff_not_restarted {hist : List EventRecord} {s : State}
    (h : Run servicesMachine hist s) : (∀ r ∈ hist, ServicesFollow r) ↔ ¬ Restarted hist := by
  induction h with
  | start =>
      refine ⟨fun _ hr => ?_, fun _ r hr => ?_⟩
      · cases hr
      · cases hr
  | step h i ih =>
      rename_i hist s
      have hrun := h.step i
      constructor
      · intro hall hr
        cases hr with
        | now hload hempty =>
            obtain ⟨entryId, -, ha⟩ := hload
            have hfollow := hall _ List.mem_cons_self
            have hf : (servicesMachine.step s i).2.serviceRegistrationFlag = false := by
              rw [flag_of_run hrun]
              obtain ⟨r, hr, hlast⟩ := hempty
              exact ⟨r, List.mem_cons_of_mem _ hr, hlast⟩
            have hguard := guarded_of_run hrun
            rw [Guarded, hf] at hguard
            have hmem := hfollow.present ⟨entryId, ha⟩ (Finset.mem_insert_self _ _)
            change _ ∈ (servicesMachine.step s i).2.services at hmem
            rw [hguard] at hmem
            exact Finset.notMem_empty _ hmem
        | before hr => exact ih.mp (fun r hmem => hall r (List.mem_cons_of_mem _ hmem)) hr
      · intro hno r hmem
        rcases List.mem_cons.mp hmem with rfl | hmem
        · exact servicesFollow_of_not_restarted hrun hno
        · exact ih.mpr (fun hr => hno (Restarted.before hr)) r hmem

def setupOk : SetupAnswers := ⟨.ok (), .ok (), .ok (), .ok ()⟩

def unloadOk : UnloadAnswers := ⟨.ok true, .ok ()⟩

def reloaded : List Event := reload "entry" unloadOk setupOk ++ [.setup "entry" setupOk]

/-- After the reload of the only entry the entry is loaded and the services
are gone. -/
theorem services_lost_on_reload : ∃ hist s, Run servicesMachine hist s ∧ AnyLoaded s ∧
    s.services = ∅ ∧ ¬ ∀ r ∈ hist, ServicesFollow r := by
  have hrun := run_play servicesMachine reloaded
  have hloaded : AnyLoaded (servicesMachine.play reloaded).2 := ⟨"entry", by decide +kernel⟩
  have hgone : (servicesMachine.play reloaded).2.services = ∅ := by decide +kernel
  refine ⟨_, _, hrun, hloaded, hgone, ?_⟩
  intro h
  have hsub := (h _ List.mem_cons_self).present hloaded
  change bothServices ⊆ (servicesMachine.play reloaded).2.services at hsub
  rw [hgone] at hsub
  revert hsub
  decide +kernel

theorem Restarted.emptied {hist : List EventRecord} (h : Restarted hist) : Emptied hist := by
  induction h with
  | now _ he =>
      obtain ⟨r, hr, hlast⟩ := he
      exact ⟨r, List.mem_cons_of_mem _ hr, hlast⟩
  | before _ ih =>
      obtain ⟨r, hr, hlast⟩ := ih
      exact ⟨r, List.mem_cons_of_mem _ hr, hlast⟩

def bothLoaded : List Event :=
  reload "cellar" unloadOk setupOk ++ [.setup "cellar" setupOk, .setup "entry" setupOk]

theorem servicesFollow_bothLoaded : ¬Restarted (servicesMachine.play bothLoaded).1 ∧
    ∀ r ∈ (servicesMachine.play bothLoaded).1, ServicesFollow r := by
  have hrun := run_play servicesMachine bothLoaded
  have hno : ¬Restarted (servicesMachine.play bothLoaded).1 := by
    intro h
    have hflag := (flag_of_run hrun).mpr h.emptied
    revert hflag
    decide +kernel
  exact ⟨hno, (servicesFollow_iff_not_restarted hrun).mpr hno⟩

end FritzboxVpn.Services
