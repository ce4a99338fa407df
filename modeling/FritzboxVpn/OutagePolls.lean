import FritzboxVpn.OutageHistory
import FritzboxVpn.OutageRegistries

namespace FritzboxVpn.OutagePolls

open Constants Coordinator CoordinatorSteps Exceptions HomeAssistant JsonValue OrderedDict OutageHistory
  OutageRegistries OutageRemap RecoveryCap RefusedRemaps RemapAtomicity Runs UidIdentity UidRemap

variable {env : Env}

def registriesAfter (env : Env) (r : PollRecord) : Hass := (poll env r.input.1 r.before r.input.2).2

/-- No failing poll had got a list: with one in hand it fails on a refused registry write. -/
def NoWriteRefused (hist : List PollRecord) : Prop :=
  ∀ r ∈ hist, ConnectivityFailure r → ∃ err, r.input.2.fetch = .error err

variable {hass hass' : Hass} {c c' : State} {r : PollRecord} {entryId : String} {old : Finset String}
  {origin : Hass} {hist : List PollRecord}

theorem failing_of_connectivity {p : Poll} {report : Report} (h : PollStep env hass c p report c' hass')
    (hd : ∃ failed, report.outcome = .error failed ∧ failed.kind = .connectivity) :
    ∃ err c₁, Failing env hass c p err c₁ hass' ∧
      c' = { armRecovery env c₁ p with lastUpdateSuccess := false } := by
  obtain ⟨failed, ho, hk⟩ := hd
  cases h with
  | accepted connections c₁ c₂ hass' hf hin hr => cases ho
  | emptyRefused connections hf he hrec hhad hmax report hout hnew =>
      obtain ⟨failed', ho', hk'⟩ := hout
      rw [ho', Except.error.injEq] at ho
      rw [← ho, hk'] at hk
      cases hk
  | authentication err c₁ hass' hc ha text =>
      rw [failAuthentication, Except.error.injEq] at ho
      rw [← ho] at hk
      cases hk
  | connectivity err c₁ hass' hc ha text => exact ⟨err, c₁, hc, rfl⟩

theorem failure_step (hr : r = (pollMachine env).record r.before r.input) (hd : ConnectivityFailure r) :
    ∃ err c₁, Failing env r.input.1 r.before r.input.2 err c₁ (registriesAfter env r) ∧
      r.after = { armRecovery env c₁ r.input.2 with lastUpdateSuccess := false } := by
  have hout : r.output = (poll env r.input.1 r.before r.input.2).1.1 := congrArg Record.output hr
  obtain ⟨failed, ho, hk⟩ := hd
  have hstep := poll_step env r.input.1 r.before r.input.2
  obtain ⟨err, c₁, hc, hafter⟩ := failing_of_connectivity hstep ⟨failed, hout ▸ ho, hk⟩
  exact ⟨err, c₁, hc, (after_eq hr).trans hafter⟩

structure Armed (env : Env) (c c' : State) : Prop where
  data : c'.data = c.data
  seenUids : c'.seenUids = c.seenUids ∪ c.dataKeys
  uidRemap : c'.uidRemap = c.uidRemap
  outage : ∀ listing, c.data = some listing → OutageState env c' listing

theorem armed_of_failure (hr : r = (pollMachine env).record r.before r.input)
    (hd : ConnectivityFailure r) : Armed env r.before r.after := by
  obtain ⟨err, c₁, hc, hafter⟩ := failure_step hr hd
  have hdata : c₁.data = r.before.data := by rw [hc.eq]
  have hseen : c₁.seenUids = r.before.seenUids := by rw [hc.eq]
  have hremap : c₁.uidRemap = r.before.uidRemap := by rw [hc.eq]
  rw [hafter]
  refine ⟨?_, ?_, ?_, ?_⟩
  · exact (armRecovery_data env c₁ r.input.2).trans hdata
  · refine (armRecovery_seenUids env c₁ r.input.2).trans ?_
    rw [hseen, State.dataKeys, hdata, State.dataKeys]
  · exact (armRecovery_uidRemap env c₁ r.input.2).trans hremap
  · exact fun listing h => OutageState.arm (hdata.trans h) r.input.2

theorem noWriteRefused_of_ok {connections : Dict String Json} (ho : r.output.outcome = .ok connections) :
    NoWriteRefused (r :: hist) ↔ NoWriteRefused hist := by
  refine List.forall_mem_cons.trans (and_iff_right ?_)
  rintro ⟨failed, hf, -⟩
  rw [ho] at hf
  cases hf

/-- The registries in the first outage: those it started with, or, after a refused
write, those with a remap half done. -/
inductive Meanwhile (entryId : String) (old : Finset String) (origin : Hass) (hist : List PollRecord)
    (hass : Hass) : Prop
  | spared (h : NoWriteRefused hist) (hg : GrowsAside entryId origin hass)
  | halfDone (h : ¬ NoWriteRefused hist) (o : String) (hl : Left entryId old origin hass o)

theorem Meanwhile.aside {runtime : RuntimeData} (h : Meanwhile entryId old origin hist hass)
    (hg : GrowsAside entryId hass hass') (hload : Loaded hass' entryId runtime) :
    Meanwhile entryId old origin hist hass' := by
  cases h with
  | spared h hg₀ => exact Meanwhile.spared h (hg₀.trans hg)
  | halfDone h o hl => exact Meanwhile.halfDone h o (hl.aside hg hload)

theorem fromOld_of_decision {connections : Dict String Json} {mapping : Dict String String}
    (h : remapDecision env c connections = .ok mapping) : FromOld c.seenUids mapping :=
  ⟨fun hn => (Finset.mem_sdiff.mp (remapDecision_mem h hn).1).1,
    fun hn => (Finset.mem_sdiff.mp (remapDecision_mem h hn).2).2⟩

/-- The devices of the old UIDs are their own. -/
theorem not_sharedDevice_of_old {mapping : Dict String String}
    (hhas : ∀ u ∈ old, HasEntities hass entryId u) (hm : FromOld old mapping) :
    ¬ SharedDevice hass entryId mapping := by
  rintro ⟨d, hd, o₁, o₂, n₁, n₂, hne, hn₁, -, hi₁, hi₂, -⟩
  obtain ⟨d', hd', hi', hone⟩ := (hhas o₁ (hm.keys hn₁)).device
  have he : d = d' := hass.devices.disjoint d hd d' hd' _ hi₁ hi'
  subst he
  exact hne (hone o₂ hi₂).symm

theorem Meanwhile.failure {runtime : RuntimeData} (h : Meanwhile entryId old origin hist r.input.1)
    (hr : r = (pollMachine env).record r.before r.input) (hd : ConnectivityFailure r)
    (hload : Loaded r.input.1 entryId runtime) (hentry : env.entryId = some entryId)
    (hseen : r.before.seenUids = old) (hhas : ∀ u ∈ old, HasEntities origin entryId u) :
    Meanwhile entryId old origin (r :: hist) (registriesAfter env r) := by
  obtain ⟨err, c₁, hc, -⟩ := failure_step hr hd
  generalize registriesAfter env r = hass' at hc ⊢
  cases hc with
  | fetch hf =>
      cases h with
      | spared h hg => exact Meanwhile.spared (List.forall_mem_cons.mpr ⟨fun _ => ⟨err, hf⟩, h⟩) hg
      | halfDone h o hl =>
          exact Meanwhile.halfDone (fun hno => h (List.forall_mem_cons.mp hno).2) o hl
  | registry connections hass' hf hrec happ =>
      have hno : ¬ NoWriteRefused (r :: hist) := by
        intro hno
        obtain ⟨err', hf'⟩ := hno r List.mem_cons_self hd
        rw [hf] at hf'
        cases hf'
      rcases applyUidRemap_cases env r.input.1 (rememberConnectionNames env r.before connections)
        connections with ⟨he, -⟩ | ⟨e, mapping, hdue, hm, ⟨applied, h', -, he⟩ | ⟨err', h', hremap, he⟩⟩
      · rw [he] at happ
        cases happ
      · rw [he] at happ
        cases happ
      · rw [he] at happ
        cases happ
        obtain rfl : e = entryId := Option.some.inj (hdue.entry.symm.trans hentry)
        have hfrom : FromOld old mapping := by
          have hfrom := fromOld_of_decision hm
          rwa [rememberConnectionNames_seenUids, hseen] at hfrom
        have hpart := partly_of_refused hremap
        cases h with
        | spared h hg =>
            have hgrown : ∀ u ∈ old, HasEntities r.input.1 e u :=
              fun u hu => hasEntities_grows (hhas u hu) hg.toGrows
            obtain ⟨o, n, hon, hmoved⟩ := moved_of_refused (NamesMatch.renaming (remapDecision_ok hm))
              hload (not_sharedDevice_of_old hgrown hfrom) hremap
            exact Meanwhile.halfDone hno o (Left.start hload hg hfrom hpart hon hmoved)
        | halfDone h o hl => exact Meanwhile.halfDone hno o (hl.partly hfrom hpart)

structure Accepted (env : Env) (hass : Hass) (c : State) (connections : Dict String Json) (c₂ c' : State)
    (hass' : Hass) : Prop where
  applied : applyUidRemapIfNeeded env hass (rememberConnectionNames env c connections) connections =
    (.ok c₂, hass')
  uidRemap : c'.uidRemap = c₂.uidRemap
  seen : c.dataKeys ∪ connections.keys ⊆ c'.seenUids

theorem accepted_of_ok {p : Poll} {connections : Dict String Json} (hf : p.fetch = .ok connections)
    (hne : connections.isEmpty = false) (ho : (poll env hass c p).1.1.outcome = .ok connections) :
    ∃ c₂, Accepted env hass c connections c₂ (poll env hass c p).1.2 (poll env hass c p).2 := by
  rcases hr : applyUidRemapIfNeeded env hass (rememberConnectionNames env c connections) connections
    with ⟨_ | c₂, hass'⟩
  · obtain ⟨⟨failed, hfailed⟩, -⟩ := poll_of_apply_error hf hne hr
    rw [ho] at hfailed
    cases hfailed
  · refine ⟨c₂, ?_⟩
    rw [poll_of_apply_ok hf hne hr]
    have hdata : c₂.dataKeys = c.dataKeys := (applyUidRemap_sameRecovery hr).dataKeys
    refine ⟨hr, finishPoll_uidRemap env c₂ p connections, ?_⟩
    change _ ⊆ (finishPoll env c₂ p connections).2.seenUids
    rw [finishPoll_seenUids, hdata, Finset.union_assoc]
    exact Finset.subset_union_right

/-- The first UIDs that get an alias are those that are remapped. -/
theorem resolves_of_accepted {next : Dict String Json} {c₂ : State} {runtime : RuntimeData}
    (hload : Loaded hass entryId runtime) (hentry : env.entryId = some entryId) (hremap : c.uidRemap = Dict.empty)
    (hacc : Accepted env hass c next c₂ c' hass') (o : String) :
    c'.resolveConnectionUid o = o ∨ ∃ mapping applied,
      Applied hass entryId runtime mapping applied hass' ∧
        applied.get? o = some (c'.resolveConnectionUid o) := by
  have hnone : ∀ v, (rememberConnectionNames env c next).uidRemap.get? v = none := by
    intro v
    rw [rememberConnectionNames_uidRemap, hremap]
    rfl
  obtain ⟨happ, hremap', -⟩ := hacc
  rcases applyUidRemap_cases env hass (rememberConnectionNames env c next) next with
    ⟨he, -⟩ | ⟨e, mapping, hdue, hm, ⟨applied, h', hrun, he⟩ | ⟨err, h', -, he⟩⟩
  · rw [he] at happ
    cases happ
    exact Or.inl (State.resolveConnectionUid_of_none (hremap' ▸ hnone o))
  · obtain rfl : e = entryId := Option.some.inj (hdue.entry.symm.trans hentry)
    rw [he] at happ
    cases happ
    have ren : Renaming mapping := NamesMatch.renaming (remapDecision_ok hm)
    rcases remap_result ren env.api hload with
      ⟨-, applied', hass₁, hrun', ha⟩ | ⟨-, err, hass₁, hrun', -⟩
    · rw [hrun] at hrun'
      cases hrun'
      have hget : ∀ v x, c'.uidRemap.get? v = some x ↔ applied.get? v = some x := by
        intro v x
        rw [hremap', noteApplied_uidRemap, hnone v]
        simp
      cases hx : c'.uidRemap.get? o with
      | none => exact Or.inl (State.resolveConnectionUid_of_none hx)
      | some x =>
          have hox := (hget o x).mp hx
          have hend : c'.uidRemap.get? x = none := by
            rw [Option.eq_none_iff_forall_ne_some]
            intro y hy
            have hxy := ((ha.get?_iff x y).mp ((hget x y).mp hy)).1
            rw [ren.fresh ((ha.get?_iff o x).mp hox).1] at hxy
            cases hxy
          rw [State.resolveConnectionUid_of_some hx hend]
          exact Or.inr ⟨mapping, applied, ha, hox⟩
    · rw [hrun] at hrun'
      cases hrun'
  · rw [he] at happ
    cases happ

end FritzboxVpn.OutagePolls
