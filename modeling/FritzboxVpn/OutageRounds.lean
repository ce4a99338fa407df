import FritzboxVpn.OutagePolls

namespace FritzboxVpn.OutageRounds

open Constants Coordinator CoordinatorSteps Exceptions HomeAssistant JsonValue KeyMatching OrderedDict
  OutageHistory OutagePolls OutageRegistries OutageRemap RecoveryCap RemapAtomicity Runs Text UidIdentity
  UidRemap UniqueIdCodec

variable {env : Env}

/-- Rounds of outages after a first listing. The dictionary is the last listing; inside
a round the optional registries are those it has started with. Between two rounds others
may add whatever they like, inside a round only what is not the integration's. -/
inductive Rounds (env : Env) (entryId : String) (first : Dict String Json) (origin : Hass) :
    ℕ → Dict String Json → Option Hass → Hass → List PollRecord → Prop
  | listed {r} (ho : r.output.outcome = .ok first) :
      Rounds env entryId first origin 0 first none (registriesAfter env r) [r]
  | begun {n current hass hist r runtime} (h : Rounds env entryId first origin n current none hass hist)
      (hd : ConnectivityFailure r) (hg : Grows hass r.input.1) (hload : Loaded r.input.1 entryId runtime)
      (horigin : n = 0 → r.input.1 = origin ∧ ∀ u ∈ first.keys, HasEntities origin entryId u) :
      Rounds env entryId first origin n current (some r.input.1) (registriesAfter env r) (r :: hist)
  | down {n current began hass hist r runtime}
      (h : Rounds env entryId first origin n current (some began) hass hist)
      (hd : ConnectivityFailure r) (hg : GrowsAside entryId hass r.input.1)
      (hload : Loaded r.input.1 entryId runtime) :
      Rounds env entryId first origin n current (some began) (registriesAfter env r) (r :: hist)
  | answered {n current next began hass hist r runtime}
      (h : Rounds env entryId first origin n current (some began) hass hist)
      (hf : r.input.2.fetch = .ok next) (ho : r.output.outcome = .ok next)
      (hnames : SameNames env current next) (hfresh : ∀ u ∈ next.keys, ¬ Listed hist u)
      (hg : GrowsAside entryId hass r.input.1) (hload : Loaded r.input.1 entryId runtime)
      (habsent : ∀ u ∈ next.keys, AbsentFrom began entryId u) :
      Rounds env entryId first origin (n + 1) next none (registriesAfter env r) (r :: hist)

/-- Every original UID stands for the connection of its name: it resolves to
the current UID, and so do its rows and its device. -/
structure Follows (env : Env) (entryId : String) (first current : Dict String Json)
    (hass hass' : Hass) (c : State) : Prop where
  resolves : ∀ o u, Renames env first current o u → c.resolveConnectionUid o = u
  rows : ∀ o u, Renames env first current o u → ∀ s, ∀ r ∈ hass.entities.rows,
    r.configEntryId = some entryId → r.uniqueId = entityUniqueId o s →
      r.withUniqueId (entityUniqueId u s) ∈ hass'.entities.rows
  devices : ∀ o u, Renames env first current o u → ∀ d ∈ hass.devices.devices,
    connectionIdentifier entryId o ∈ d.identifiers →
      ∃ d' ∈ hass'.devices.devices, d'.id = d.id ∧ connectionIdentifier entryId u ∈ d'.identifiers

/-- The uid row of a connection named front_vpn reads as the vpn_uid row of
front. It arrives where front is moved along with it. -/
def Legible (env : Env) (first current : Dict String Json) : Prop :=
  ∀ front n, Renames env first current (front ++ "_vpn") n →
    ∃ m, Renames env first current front m ∧ n = m ++ "_vpn"

section Registries

variable {entryId : String} {first next : Dict String Json} {hass hass₀ hass' : Hass}
  {runtime : RuntimeData} {c : State}

theorem Legible.row_moved (hl : Legible env first next) (hg : Grows hass₀ hass)
    (h : RemappedAll env entryId hass hass' first next c) {o u : String}
    (hr : Renames env first next o u) (s : UniqueIdSuffix) {r : RegistryEntry}
    (hmem : r ∈ hass₀.entities.rows) (hentry : r.configEntryId = some entryId)
    (hid : r.uniqueId = entityUniqueId o s) :
    r.withUniqueId (entityUniqueId u s) ∈ hass'.entities.rows := by
  by_cases hend : s = .uid ∧ endsWith "_vpn" o = true
  · obtain ⟨rfl, hend⟩ := hend
    obtain ⟨front, rfl⟩ := endsWith_iff_append.mp hend
    obtain ⟨m, hm, rfl⟩ := hl front u hr
    have hp : PairRow hass entryId front .vpnUid r :=
      ⟨hg.rows r hmem, hentry, hid ▸ decodes_vpn_uid front⟩
    have hmoved := (h.moved front m hm).rows r .vpnUid hp
    have he : entityUniqueId m .vpnUid = entityUniqueId (m ++ "_vpn") .uid :=
      entityUniqueId_inj.mpr (Or.inr (Or.inl ⟨rfl, rfl, rfl⟩))
    rwa [he] at hmoved
  · have hp : PairRow hass entryId o s r := by
      refine ⟨hg.rows r hmem, hentry, hid ▸ decodes_entityUniqueId o s ?_⟩
      intro hs
      rw [not_and, Bool.not_eq_true] at hend
      exact hend hs
    exact (h.moved o u hr).rows r s hp

theorem Follows.legible (hf : Follows env entryId first next hass₀ hass' c) (hg : Grows hass₀ hass)
    (h : RemappedAll env entryId hass hass' first next c)
    (hhas : ∀ u ∈ first.keys, HasEntities hass₀ entryId u)
    (hnames : SameNames env first next) (hfresh : ∀ u ∈ next.keys, u ∉ first.keys) :
    Legible env first next := by
  intro front n hr
  obtain ⟨r, hmem, hentry, -, hid⟩ := (hhas _ hr.old).rows .uid
  have hwant := hf.rows _ n hr .uid r hmem hentry hid
  have hdec : Decodes r.uniqueId front .vpnUid := hid ▸ decodes_vpn_uid front
  by_cases hfront : ∃ m, Renames env first next front m
  · obtain ⟨m, hm⟩ := hfront
    have hgot := (h.moved front m hm).rows r .vpnUid ⟨hg.rows r hmem, hentry, hdec⟩
    have he : entityUniqueId m .vpnUid = entityUniqueId n .uid :=
      congrArg RegistryEntry.uniqueId (EntityRegistry.eq_of_entityId hgot hwant rfl)
    rcases entityUniqueId_inj.mp he with ⟨-, hs⟩ | ⟨-, -, hn⟩ | ⟨hs, -⟩
    · cases hs
    · exact ⟨m, hm, hn⟩
    · cases hs
  · have hkept : r ∈ hass'.entities.rows := by
      apply h.kept r (hg.rows r hmem)
      intro o ho s hp
      have heq : o = front := Option.some.inj (hp.decodes.1.symm.trans hdec.1)
      obtain ⟨m, hm⟩ := Renames.exists_new hnames ho
      exact hfront ⟨m, heq ▸ hm⟩
    have he : r.uniqueId = entityUniqueId n .uid :=
      congrArg RegistryEntry.uniqueId (EntityRegistry.eq_of_entityId hkept hwant rfl)
    rw [hid] at he
    rcases entityUniqueId_inj.mp he with ⟨hn, -⟩ | ⟨hs, -⟩ | ⟨-, hs, -⟩
    · exact absurd hr.old (hn ▸ hfresh n hr.new)
    · cases hs
    · cases hs

/-- What one round leaves, by the names of the UIDs. -/
theorem follows_iff_legible (hg : Grows hass₀ hass)
    (h : RemappedAll env entryId hass hass' first next c)
    (hhas : ∀ u ∈ first.keys, HasEntities hass₀ entryId u)
    (hnames : SameNames env first next) (hfresh : ∀ u ∈ next.keys, u ∉ first.keys) :
    Follows env entryId first next hass₀ hass' c ↔ Legible env first next := by
  refine ⟨fun hf => hf.legible hg h hhas hnames hfresh, ?_⟩
  intro hl
  refine ⟨fun o u hr => h.resolves hr, ?_, ?_⟩
  · exact fun o u hr s r hmem hentry hid => hl.row_moved hg h hr s hmem hentry hid
  · intro o u hr d hd hi
    refine ⟨_, (h.moved o u hr).device d (hg.devices d hd) hi, rfl, ?_⟩
    exact Finset.mem_insert_self _ _

end Registries

section HalfDone

variable {entryId : String} {first next : Dict String Json} {hass hass' origin : Hass} {c c₂ c' : State}

theorem eq_append_vpn {u v : String} (h : entityUniqueId u .uid = entityUniqueId v .vpnUid) :
    u = v ++ "_vpn" := by
  rcases entityUniqueId_inj.mp h with ⟨-, hs⟩ | ⟨hs, -⟩ | ⟨-, -, h⟩
  · cases hs
  · cases hs
  · exact h

/-- After a refused write the connection that was moved is not recognised any more:
either nothing of it is left to remap, or what is left is another one's uid row. -/
theorem not_follows_of_left {runtime runtime₀ : RuntimeData} {o : String}
    (h : Left entryId first.keys origin hass o) (hload : Loaded hass entryId runtime)
    (hload₀ : Loaded origin entryId runtime₀) (hhas : ∀ u ∈ first.keys, HasEntities origin entryId u)
    (hnames : SameNames env first next) (hfresh : ∀ u ∈ next.keys, u ∉ first.keys)
    (hentry : env.entryId = some entryId) (hremap : c.uidRemap = Dict.empty)
    (hacc : Accepted env hass c next c₂ c' hass') :
    ¬ Follows env entryId first next origin hass' c' := by
  intro hf
  obtain ⟨u, hu⟩ := Renames.exists_new hnames h.old_mem
  rcases resolves_of_accepted hload hentry hremap hacc o with hres | ⟨mapping, applied, ha, hou⟩
  · exact hfresh u hu.new ((hres.symm.trans (hf.resolves o u hu)) ▸ h.old_mem)
  rw [hf.resolves o u hu, ha.get?_iff] at hou
  obtain ⟨hmap, hb, ⟨r, s, hp⟩ | ⟨d, hd, hi⟩⟩ := hou
  · obtain ⟨rfl, r₀, hr₀, hown₀, hid, o', ho', hdec⟩ := h.stray r hp.mem hp.own s hp.decodes
    obtain ⟨u', hu'⟩ := Renames.exists_new hnames ho'
    -- the stray row is a uid row of o', and it goes where the vpn_uid row of o should
    have hstray := ha.row_moved hp hmap hb
    have hwant := hf.rows o' u' hu' .uid r₀ hr₀ hown₀ hdec.eq
    have he := EntityRegistry.eq_of_entityId hwant hstray hid
    obtain rfl : u' = u ++ "_vpn" := eq_append_vpn (congrArg RegistryEntry.uniqueId he)
    -- so the uid sensor of o' and the vpn_uid sensor of o have to meet
    obtain ⟨rs, hrs, howns, hdoms, hids⟩ := (hhas o' ho').rows .uid
    obtain ⟨rv, hrv, hownv, hdomv, hidv⟩ := (hhas o h.old_mem).rows .vpnUid
    have hmeet : rs.withUniqueId (entityUniqueId (u ++ "_vpn") .uid) =
        rv.withUniqueId (entityUniqueId u .vpnUid) := by
      apply EntityRegistry.eq_of_uniqueKey (hf.rows o' _ hu' .uid rs hrs howns hids)
        (hf.rows o u hu .vpnUid rv hrv hownv hidv)
      have hsame : entityUniqueId (u ++ "_vpn") .uid = entityUniqueId u .vpnUid :=
        entityUniqueId_inj.mpr (Or.inr (Or.inr ⟨rfl, rfl, rfl⟩))
      change (rs.entityId.domain, rs.platform, _) = (rv.entityId.domain, rv.platform, _)
      rw [hdoms, hdomv, hload₀.own_platform rs hrs howns, hload₀.own_platform rv hrv hownv, hsame]
      rfl
    have hplace : rs.entityId = rv.entityId := by
      have hmeet := congrArg RegistryEntry.entityId hmeet
      exact hmeet
    have hrows : rs = rv := EntityRegistry.eq_of_entityId hrs hrv hplace
    obtain rfl : o' = o ++ "_vpn" := eq_append_vpn (hids.symm.trans ((congrArg _ hrows).trans hidv))
    have hvpn := decodes_vpn_uid o
    rw [← hdec.eq] at hvpn
    have hs := hvpn.2.symm.trans hdec.2
    cases hs
  · exact h.device d hd hi

end HalfDone

section Rounds

variable {entryId : String} {first current : Dict String Json} {origin hass : Hass} {n : ℕ}
  {began : Option Hass} {hist : List PollRecord} {c : State}

theorem data_of_ok {r : PollRecord} {connections : Dict String Json}
    (hr : r = (pollMachine env).record r.before r.input) (ho : r.output.outcome = .ok connections) :
    r.after.data = some connections := by
  rw [after_eq hr]
  apply poll_data
  rwa [hr] at ho

theorem Rounds.data (h : Rounds env entryId first origin n current began hass hist)
    (hrun : Run (pollMachine env) hist c) : c.data = some current := by
  induction h generalizing c with
  | listed ho =>
      obtain ⟨-, hr, rfl⟩ := hrun.of_cons
      exact data_of_ok hr ho
  | begun _ hd _ _ _ ih =>
      obtain ⟨hrun', hr, rfl⟩ := hrun.of_cons
      exact (armed_of_failure hr hd).data.trans (ih hrun')
  | down _ hd _ _ ih =>
      obtain ⟨hrun', hr, rfl⟩ := hrun.of_cons
      exact (armed_of_failure hr hd).data.trans (ih hrun')
  | answered _ _ ho =>
      obtain ⟨-, hr, rfl⟩ := hrun.of_cons
      exact data_of_ok hr ho

structure FirstOnly (first current : Dict String Json) (c : State) : Prop where
  current : current = first
  seenUids : c.seenUids = first.keys
  uidRemap : c.uidRemap = Dict.empty

theorem FirstOnly.failure {r : PollRecord} (h : FirstOnly first current r.before)
    (hdata : r.before.data = some current) (hr : r = (pollMachine env).record r.before r.input)
    (hd : ConnectivityFailure r) : FirstOnly first current r.after := by
  have harm := armed_of_failure hr hd
  refine ⟨h.current, ?_, harm.uidRemap.trans h.uidRemap⟩
  rw [harm.seenUids, h.seenUids, State.dataKeys, hdata, h.current]
  exact Finset.union_self first.keys

/-- Outside recovery an accepted list is added to what was seen. -/
theorem unremapped_outside {hass' : Hass} {c' : State} {p : Poll} {report : Report}
    {connections : Dict String Json} (h : PollStep env hass c p report c' hass')
    (hc : c.inRecovery = false) (ho : report.outcome = .ok connections) : Unremapped c connections c' := by
  cases h with
  | accepted connections' c₁ c₂ hass' hf hin hr =>
      obtain rfl : connections' = connections := Except.ok.inj ho
      have hc₁ : c₁ = c := by
        cases hin with
        | asIs => rfl
        | cap h => simp [hc] at h
      subst hc₁
      have hout : (rememberConnectionNames env c₁ connections').inRecovery = false := hc
      rw [applyUidRemapIfNeeded_outside hout] at hr
      cases hr
      exact ⟨finishPoll_uidRemap env _ p connections', finishPoll_seenUids env _ p connections', rfl⟩
  | emptyRefused connections' hf he hrec =>
      rw [hc] at hrec
      cases hrec
  | authentication => cases ho
  | connectivity => cases ho

theorem firstOnly_listed {r : PollRecord} (ho : r.output.outcome = .ok first)
    (hr : r = (pollMachine env).record r.before r.input) (hinit : r.before = (pollMachine env).init) :
    FirstOnly first first r.after := by
  have hout : r.output = (poll env r.input.1 r.before r.input.2).1.1 := congrArg Record.output hr
  have hstep := poll_step env r.input.1 r.before r.input.2
  have hun := unremapped_outside hstep (hinit ▸ rfl) (hout ▸ ho)
  rw [after_eq hr]
  refine ⟨rfl, ?_, ?_⟩
  · rw [hun.seenUids, hinit]
    exact Finset.empty_union first.keys
  · rw [hun.uidRemap, hinit]
    rfl

theorem Rounds.firstOnly (h : Rounds env entryId first origin n current began hass hist)
    (hrun : Run (pollMachine env) hist c) (hn : n = 0) : FirstOnly first current c := by
  induction h generalizing c with
  | listed ho =>
      obtain ⟨hrun', hr, rfl⟩ := hrun.of_cons
      exact firstOnly_listed ho hr hrun'.of_nil
  | begun h hd _ _ _ ih =>
      obtain ⟨hrun', hr, rfl⟩ := hrun.of_cons
      exact (ih hrun' hn).failure (h.data hrun') hr hd
  | down h hd _ _ ih =>
      obtain ⟨hrun', hr, rfl⟩ := hrun.of_cons
      exact (ih hrun' hn).failure (h.data hrun') hr hd
  | answered => exact absurd hn (Nat.succ_ne_zero _)

theorem Rounds.outageState {start : Hass}
    (h : Rounds env entryId first origin n current (some start) hass hist)
    (hrun : Run (pollMachine env) hist c) : OutageState env c current := by
  cases h with
  | begun h hd =>
      obtain ⟨hrun', hr, rfl⟩ := hrun.of_cons
      exact (armed_of_failure hr hd).outage current (h.data hrun')
  | down h hd =>
      obtain ⟨hrun', hr, rfl⟩ := hrun.of_cons
      exact (armed_of_failure hr hd).outage current (h.data hrun')

structure Origin (entryId : String) (first : Dict String Json) (origin : Hass) : Prop where
  loaded : ∃ runtime, Loaded origin entryId runtime
  has : ∀ u ∈ first.keys, HasEntities origin entryId u

theorem Rounds.start {start : Hass}
    (h : Rounds env entryId first origin n current (some start) hass hist) (hn : n = 0) :
    start = origin ∧ Origin entryId first origin := by
  generalize hb : some start = began at h
  induction h with
  | listed => cases hb
  | begun h hd hg hload horigin =>
      cases hb
      obtain ⟨he, hhas⟩ := horigin hn
      exact ⟨he, ⟨_, he ▸ hload⟩, hhas⟩
  | down _ _ _ _ ih => exact ih hn hb
  | answered => cases hb

theorem Rounds.meanwhile {start : Hass}
    (h : Rounds env entryId first origin n current (some start) hass hist)
    (hrun : Run (pollMachine env) hist c) (hn : n = 0) (hentry : env.entryId = some entryId) :
    Meanwhile entryId first.keys origin hist hass := by
  have horigin := h.start hn
  generalize hb : some start = began at h
  induction h generalizing c with
  | listed => cases hb
  | begun h hd hg hload =>
      cases hb
      obtain ⟨hrun', hr, rfl⟩ := hrun.of_cons
      obtain ⟨he, -, hhas⟩ := horigin
      have hseen := (h.firstOnly hrun' hn).seenUids
      cases h with
      | listed ho =>
          have hno := (noWriteRefused_of_ok ho).mpr (fun _ hr _ => absurd hr List.not_mem_nil)
          subst he
          exact Meanwhile.failure (Meanwhile.spared hno (GrowsAside.refl entryId _)) hr hd hload hentry
            hseen hhas
      | answered => exact absurd hn (Nat.succ_ne_zero _)
  | down h hd hg hload ih =>
      cases hb
      obtain ⟨hrun', hr, rfl⟩ := hrun.of_cons
      have hseen := (h.firstOnly hrun' hn).seenUids
      exact ((ih hrun' hn rfl).aside hg hload).failure hr hd hload hentry hseen horigin.2.has
  | answered => cases hb

theorem Rounds.listed_current (h : Rounds env entryId first origin n current began hass hist) :
    ∀ u ∈ current.keys, Listed hist u := by
  induction h with
  | listed ho => exact fun u hu => ⟨_, List.mem_cons_self, _, ho, hu⟩
  | begun _ _ _ _ _ ih => exact fun u hu => (ih u hu).later
  | down _ _ _ _ ih => exact fun u hu => (ih u hu).later
  | answered _ _ ho => exact fun u hu => ⟨_, List.mem_cons_self, _, ho, hu⟩

theorem Rounds.listed_first (h : Rounds env entryId first origin n current began hass hist) :
    ∀ u ∈ first.keys, Listed hist u := by
  induction h with
  | listed ho => exact fun u hu => ⟨_, List.mem_cons_self, _, ho, hu⟩
  | begun _ _ _ _ _ ih => exact fun u hu => (ih u hu).later
  | down _ _ _ _ ih => exact fun u hu => (ih u hu).later
  | answered _ _ _ _ _ _ _ _ ih => exact fun u hu => (ih u hu).later

theorem Rounds.current_ne (h : Rounds env entryId first origin n current began hass hist)
    (hne : first.keys ≠ ∅) : current.keys ≠ ∅ := by
  induction h with
  | listed => exact hne
  | begun _ _ _ _ _ ih => exact ih
  | down _ _ _ _ ih => exact ih
  | answered _ _ _ hnames _ _ _ _ ih =>
      obtain ⟨o, ho⟩ := Finset.nonempty_iff_ne_empty.mpr ih
      obtain ⟨n, hn⟩ := Renames.exists_new hnames ho
      exact Finset.ne_empty_of_mem hn.new

theorem Rounds.sameNames (h : Rounds env entryId first origin n current began hass hist)
    (hrun : Run (pollMachine env) hist c) (hn : 1 ≤ n) : SameNames env first current := by
  induction h generalizing c with
  | listed => omega
  | begun _ _ _ _ _ ih => exact ih hrun.of_cons.1 hn
  | down _ _ _ _ ih => exact ih hrun.of_cons.1 hn
  | @answered k _ _ _ _ _ _ _ h _ _ hnames _ _ _ _ ih =>
      rcases Nat.eq_zero_or_pos k with hk | hk
      · exact (h.firstOnly hrun.of_cons.1 hk).current ▸ hnames
      · exact (ih hrun.of_cons.1 hk).trans hnames

theorem accepted_of_record {r : PollRecord} {next : Dict String Json}
    (hr : r = (pollMachine env).record r.before r.input) (hf : r.input.2.fetch = .ok next)
    (hne : next.isEmpty = false) (ho : r.output.outcome = .ok next) :
    ∃ c₂, Accepted env r.input.1 r.before next c₂ r.after (registriesAfter env r) := by
  have hout : r.output = (poll env r.input.1 r.before r.input.2).1.1 := congrArg Record.output hr
  rw [after_eq hr]
  exact accepted_of_ok hf hne (hout ▸ ho)

/-- The UIDs of two listings have been seen, the last one and one before it. -/
def SeenTwice (current : Dict String Json) (hist : List PollRecord) (c : State) : Prop :=
  ∃ old : Finset String, old.card = current.keys.card ∧ Disjoint old current.keys ∧
    old ∪ current.keys ⊆ c.seenUids ∧ ∀ u ∈ old, Listed hist u

theorem SeenTwice.failure {r : PollRecord} (h : SeenTwice current hist r.before)
    (harm : Armed env r.before r.after) : SeenTwice current (r :: hist) r.after := by
  obtain ⟨old, hcard, hdisjoint, hseen, hlisted⟩ := h
  refine ⟨old, hcard, hdisjoint, ?_, fun u hu => (hlisted u hu).later⟩
  rw [harm.seenUids]
  exact hseen.trans Finset.subset_union_left

theorem Rounds.seenTwice (h : Rounds env entryId first origin n current began hass hist)
    (hrun : Run (pollMachine env) hist c) (hn : 1 ≤ n) (hne : first.keys ≠ ∅) :
    SeenTwice current hist c := by
  induction h generalizing c with
  | listed => omega
  | begun h hd _ _ _ ih =>
      obtain ⟨hrun', hr, rfl⟩ := hrun.of_cons
      exact (ih hrun' hn).failure (armed_of_failure hr hd)
  | down h hd _ _ ih =>
      obtain ⟨hrun', hr, rfl⟩ := hrun.of_cons
      exact (ih hrun' hn).failure (armed_of_failure hr hd)
  | @answered _ current _ _ _ _ r _ h hf ho hnames hfresh =>
      obtain ⟨hrun', hr, rfl⟩ := hrun.of_cons
      have hempty := hnames.isEmpty_right (h.current_ne hne)
      obtain ⟨c₂, hacc⟩ := accepted_of_record hr hf hempty ho
      have hdata : r.before.dataKeys = current.keys := by
        rw [State.dataKeys, h.data hrun']
      refine ⟨current.keys, hnames.card_eq, ?_, hdata ▸ hacc.seen, ?_⟩
      · rw [Finset.disjoint_left]
        exact fun u hu hn => hfresh u hn (h.listed_current u hu)
      · exact fun u hu => (h.listed_current u hu).later

/-- The first answer remaps everything, if no write was refused before it. -/
theorem Rounds.remapped {start : Hass} {next : Dict String Json} {r : PollRecord} {runtime : RuntimeData}
    (h : Rounds env entryId first origin 0 current (some start) hass hist)
    (hrun : Run (pollMachine env) hist r.before) (hr : r = (pollMachine env).record r.before r.input)
    (hne : first.keys ≠ ∅) (hentry : env.entryId = some entryId) (hid : entryId ≠ "")
    (hf : r.input.2.fetch = .ok next) (ho : r.output.outcome = .ok next)
    (hnames : SameNames env first next) (hfresh : ∀ u ∈ next.keys, ¬ Listed hist u)
    (hg : GrowsAside entryId origin r.input.1) (hload : Loaded r.input.1 entryId runtime)
    (habsent : ∀ u ∈ next.keys, AbsentFrom origin entryId u) :
    RemappedAll env entryId r.input.1 (registriesAfter env r) first next r.after := by
  obtain ⟨hcur, hseen, hremap⟩ := h.firstOnly hrun rfl
  subst hcur
  have hreg : Registered r.input.1 entryId current next :=
    ⟨fun u hu => hasEntities_grows ((h.start rfl).2.has u hu) hg.toGrows,
      fun u hu => absentFrom_aside (habsent u hu) hg⟩
  have hfull : FullList env r.before current next :=
    ⟨h.outageState hrun, hseen, hnames, fun u hn hu => hfresh u hn (h.listed_first u hu)⟩
  have hunused : ∀ u ∈ next.keys, r.before.uidRemap.get? u = none := by
    intro u _
    rw [hremap]
    rfl
  rcases hfull.poll hne hload hreg hentry hid hf hunused with ⟨-, -, hdone⟩ | ⟨-, ⟨failed, hfailed⟩, -⟩
  · rw [after_eq hr]
    exact hdone
  · have hok : (poll env r.input.1 r.before r.input.2).1.1.outcome = .ok next := by
      rw [hr] at ho
      exact ho
    rw [hok] at hfailed
    cases hfailed

/-- A later answer changes no alias, and none leads to the new UIDs. -/
theorem Rounds.lost {start : Hass} {next : Dict String Json} {r : PollRecord}
    (h : Rounds env entryId first origin n current (some start) hass hist)
    (hrun : Run (pollMachine env) hist r.before) (hr : r = (pollMachine env).record r.before r.input)
    (hn : 1 ≤ n) (hne : first.keys ≠ ∅) (hf : r.input.2.fetch = .ok next)
    (hnames : SameNames env current next) (hfresh : ∀ u ∈ next.keys, ¬ Listed hist u) :
    ¬ Follows env entryId first next origin (registriesAfter env r) r.after := by
  obtain ⟨old, hcard, hdisjoint, hseen, hlisted⟩ := h.seenTwice hrun hn hne
  have hrefused : ∀ mapping,
      remapDecision env (rememberConnectionNames env r.before next) next ≠ .ok mapping := by
    apply remapDecision_refused
    rw [rememberConnectionNames_seenUids]
    have hsub : old ∪ current.keys ⊆ r.before.seenUids \ next.keys := by
      intro u hu
      refine Finset.mem_sdiff.mpr ⟨hseen hu, fun hmem => hfresh u hmem ?_⟩
      rcases Finset.mem_union.mp hu with hu | hu
      · exact hlisted u hu
      · exact h.listed_current u hu
    have hremoved := Finset.card_le_card hsub
    have hadded := Finset.card_le_card (Finset.sdiff_subset (s := next.keys) (t := r.before.seenUids))
    have hpos := Finset.card_pos.mpr (Finset.nonempty_iff_ne_empty.mpr (h.current_ne hne))
    have hnext := hnames.card_eq
    rw [Finset.card_union_of_disjoint hdisjoint] at hremoved
    omega
  have hun : Unremapped r.before next r.after := by
    rw [after_eq hr]
    exact (poll_of_refused hf (hnames.isEmpty_right (h.current_ne hne)) hrefused).1
  intro hfollows
  obtain ⟨o, ho⟩ := Finset.nonempty_iff_ne_empty.mpr hne
  obtain ⟨u, hu⟩ := Renames.exists_new ((h.sameNames hrun hn).trans hnames) ho
  have hres := hfollows.resolves o u hu
  rcases r.after.resolveConnectionUid_cases o with he | ⟨v, hv⟩
  · exact hfresh u hu.new ((he.symm.trans hres) ▸ h.listed_first o ho)
  · rw [hun.uidRemap, hres] at hv
    exact hfresh u hu.new ((knows_listed hrun).remap v u hv).2

/-- After one round the connections are followed, as far as their unique ids
can be told apart and no write was refused on the way; after a second one they
are lost. -/
theorem follows_iff_one_round (h : Rounds env entryId first origin n current none hass hist)
    (hrun : Run (pollMachine env) hist c) (hn : 1 ≤ n) (hentry : env.entryId = some entryId)
    (hid : entryId ≠ "") :
    Follows env entryId first current origin hass c ↔
      first.keys = ∅ ∨ (n = 1 ∧ NoWriteRefused hist ∧ Legible env first current) := by
  by_cases hne : first.keys = ∅
  · refine ⟨fun _ => Or.inl hne, ?_⟩
    have hnone : ∀ o u, ¬ Renames env first current o u := by
      intro o u hr
      exact Finset.notMem_empty o (hne ▸ hr.old)
    exact fun _ => ⟨fun o u hr => absurd hr (hnone o u), fun o u hr => absurd hr (hnone o u),
      fun o u hr => absurd hr (hnone o u)⟩
  cases h with
  | listed => omega
  | @answered k previous _ start _ hist r _ h hf ho hnames hfresh hg hload habsent =>
      obtain ⟨hrun', hr, rfl⟩ := hrun.of_cons
      rw [noWriteRefused_of_ok ho]
      rcases Nat.eq_zero_or_pos k with rfl | hk
      · obtain ⟨hprev, -, hremap⟩ := h.firstOnly hrun' rfl
        subst hprev
        have hfirst : ∀ u ∈ current.keys, u ∉ previous.keys :=
          fun u hu hmem => hfresh u hu (h.listed_first u hmem)
        obtain ⟨rfl, ⟨runtime₀, hload₀⟩, hhas⟩ := h.start rfl
        cases (h.meanwhile hrun' rfl hentry).aside hg hload with
        | spared hno hgrow =>
            have hdone := h.remapped hrun' hr hne hentry hid hf ho hnames hfresh hgrow hload habsent
            rw [follows_iff_legible hgrow.toGrows hdone hhas hnames hfirst]
            simp [hne, hno]
        | halfDone hno o hl =>
            obtain ⟨c₂, hacc⟩ := accepted_of_record hr hf (hnames.isEmpty_right hne) ho
            have hlost := not_follows_of_left hl hload hload₀ hhas hnames hfirst hentry hremap hacc
            simp [hne, hno, hlost]
      · have hlost := h.lost hrun' hr hk hne hf hnames hfresh
        simp only [hne, hlost, false_or, false_iff]
        omega

end Rounds

def listsAt (hass : Hass) (connections : Dict String Json) (t : ℚ) : Hass × Poll :=
  (hass, ⟨.ok connections, t, t⟩)

def downAt (hass : Hass) (t : ℚ) : Hass × Poll :=
  (hass, ⟨.error (connectionError "connection refused"), t, t⟩)

theorem keys_officeAndLab (u v : String) : (officeAndLab u v).keys = {u, v} := by
  rw [officeAndLab, Dict.keys_ofList]
  simp

theorem sameNames_officeAndLab_again :
    SameNames memoryEnv (officeAndLab "n" "m") (officeAndLab "p" "q") :=
  Matching.of_image (by decide +kernel) (by decide +kernel) (by decide +kernel) (by decide +kernel)

def firstListing : PollRecord := (pollMachine memoryEnv).record {} (listsAt home (officeAndLab "a" "b") 0)

def firstDown : PollRecord := (pollMachine memoryEnv).record firstListing.after (downAt home 1)

def firstAnswer : PollRecord :=
  (pollMachine memoryEnv).record firstDown.after (listsAt home (officeAndLab "n" "m") 2)

def movedHome : Hass := registriesAfter memoryEnv firstAnswer

def secondDown : PollRecord := (pollMachine memoryEnv).record firstAnswer.after (downAt movedHome 3)

def secondAnswer : PollRecord :=
  (pollMachine memoryEnv).record secondDown.after (listsAt movedHome (officeAndLab "p" "q") 4)

def oneRound : List PollRecord := [firstAnswer, firstDown, firstListing]

def twoRounds : List PollRecord := secondAnswer :: secondDown :: oneRound

theorem oneRound_run : Run (pollMachine memoryEnv) oneRound firstAnswer.after := by
  have hlisting : Run (pollMachine memoryEnv) [firstListing] firstListing.after :=
    Run.start.record (listsAt home (officeAndLab "a" "b") 0)
  have hdown : Run (pollMachine memoryEnv) [firstDown, firstListing] firstDown.after :=
    hlisting.record (downAt home 1)
  exact hdown.record (listsAt home (officeAndLab "n" "m") 2)

theorem twoRounds_run : Run (pollMachine memoryEnv) twoRounds secondAnswer.after := by
  have hdown : Run (pollMachine memoryEnv) (secondDown :: oneRound) secondDown.after :=
    oneRound_run.record (downAt movedHome 3)
  exact hdown.record (listsAt movedHome (officeAndLab "p" "q") 4)

theorem outcome_listsAt {hass : Hass} {c : State} {connections : Dict String Json} {t : ℚ}
    (h : (poll memoryEnv hass c ⟨.ok connections, t, t⟩).1.1.outcome.isOk = true) :
    ((pollMachine memoryEnv).record c (listsAt hass connections t)).output.outcome = .ok connections :=
  outcome_of_fetch rfl h

theorem failure_downAt (hass : Hass) (c : State) (t : ℚ) :
    ConnectivityFailure ((pollMachine memoryEnv).record c (downAt hass t)) :=
  connectivityFailure_of_fetch rfl (by decide +kernel)

theorem registriesAfter_downAt (hass : Hass) (c : State) (t : ℚ) :
    registriesAfter memoryEnv ((pollMachine memoryEnv).record c (downAt hass t)) = hass := by
  obtain ⟨text, h⟩ := poll_of_fetch_error memoryEnv hass c
    (p := ⟨.error (connectionError "connection refused"), t, t⟩) rfl (by decide +kernel)
  exact congrArg Prod.snd h

/-- What the run of the first outage comes to: the answer is taken, and the new
UIDs were in no listing before. -/
theorem firstAnswer_evaluates :
    (poll memoryEnv home firstDown.after ⟨.ok (officeAndLab "n" "m"), 2, 2⟩).1.1.outcome.isOk = true ∧
      ∀ u ∈ (officeAndLab "n" "m").keys, ¬ Listed [firstDown, firstListing] u := by
  decide +kernel

theorem oneRound_rounds :
    Rounds memoryEnv "entry" (officeAndLab "a" "b") home 1 (officeAndLab "n" "m") none movedHome oneRound := by
  have hstart : Rounds memoryEnv "entry" (officeAndLab "a" "b") home 0 (officeAndLab "a" "b") none home
      [firstListing] := by
    have hhome : registriesAfter memoryEnv firstListing = home :=
      registries_of_outside (poll_step memoryEnv home {} ⟨.ok (officeAndLab "a" "b"), 0, 0⟩) rfl
    have h : Rounds memoryEnv "entry" (officeAndLab "a" "b") home 0 (officeAndLab "a" "b") none
        (registriesAfter memoryEnv firstListing) [firstListing] := Rounds.listed rfl
    rwa [hhome] at h
  have hdown : Rounds memoryEnv "entry" (officeAndLab "a" "b") home 0 (officeAndLab "a" "b") (some home)
      home [firstDown, firstListing] := by
    have h := hstart.begun (r := firstDown) (failure_downAt home firstListing.after 1) (Grows.refl home)
      home_loaded fun _ => ⟨rfl, ?_⟩
    · have hafter : registriesAfter memoryEnv firstDown = home :=
        registriesAfter_downAt home firstListing.after 1
      rwa [hafter] at h
    · intro u hu
      rw [keys_officeAndLab, Finset.mem_insert, Finset.mem_singleton] at hu
      exact home_hasEntities hu
  obtain ⟨houtcome, hfresh⟩ := firstAnswer_evaluates
  refine hdown.answered (r := firstAnswer) rfl (outcome_listsAt houtcome) sameNames_officeAndLab
    hfresh (GrowsAside.refl "entry" home) home_loaded ?_
  intro u hu
  rw [keys_officeAndLab, Finset.mem_insert, Finset.mem_singleton] at hu
  exact home_absent hu

/-- The registries after it: the entry is still loaded, nothing is named p or q. -/
theorem movedHome_evaluates :
    (runtimeFromHass movedHome "entry" = some ⟨∅, ∅, ∅⟩ ∧
      ∀ r ∈ movedHome.entities.rows, r.configEntryId = some "entry" → r.platform = Constants.domain) ∧
    ∀ u ∈ ["p", "q"],
      (∀ r ∈ movedHome.entities.rows, ∀ s ∈ uniqueIdSuffixes, r.uniqueId ≠ entityUniqueId u s) ∧
        ∀ d ∈ movedHome.devices.devices, connectionIdentifier "entry" u ∉ d.identifiers := by
  decide +kernel

theorem secondAnswer_evaluates :
    (poll memoryEnv movedHome secondDown.after ⟨.ok (officeAndLab "p" "q"), 4, 4⟩).1.1.outcome.isOk =
        true ∧
      (∀ u ∈ (officeAndLab "p" "q").keys, ¬ Listed (secondDown :: oneRound) u) ∧
        secondAnswer.after.resolveConnectionUid "a" ≠ "p" := by
  decide +kernel

theorem twoRounds_rounds : Rounds memoryEnv "entry" (officeAndLab "a" "b") home 2 (officeAndLab "p" "q")
    none (registriesAfter memoryEnv secondAnswer) twoRounds := by
  obtain ⟨hloaded, habsent⟩ := movedHome_evaluates
  have hload : Loaded movedHome "entry" ⟨∅, ∅, ∅⟩ := ⟨hloaded.1, hloaded.2⟩
  have hdown : Rounds memoryEnv "entry" (officeAndLab "a" "b") home 1 (officeAndLab "n" "m")
      (some movedHome) movedHome (secondDown :: oneRound) := by
    have h := oneRound_rounds.begun (r := secondDown) (failure_downAt movedHome firstAnswer.after 3)
      (Grows.refl movedHome) hload fun hn => absurd hn (by decide)
    have hafter : registriesAfter memoryEnv secondDown = movedHome :=
      registriesAfter_downAt movedHome firstAnswer.after 3
    rwa [hafter] at h
  obtain ⟨houtcome, hfresh, -⟩ := secondAnswer_evaluates
  refine hdown.answered (r := secondAnswer) rfl (outcome_listsAt houtcome) sameNames_officeAndLab_again
    hfresh (GrowsAside.refl "entry" movedHome) hload ?_
  intro u hu
  rw [keys_officeAndLab] at hu
  obtain ⟨hrows, hdevices⟩ := habsent u (by simpa using hu)
  exact AbsentFrom.of_suffixes hrows hdevices

/-- The second time the connections get new UIDs they are not recognised. -/
theorem second_outage_lost : ∃ n current hass hist c,
    Rounds memoryEnv "entry" (officeAndLab "a" "b") home n current none hass hist ∧
      Run (pollMachine memoryEnv) hist c ∧ 1 ≤ n ∧
        ¬ Follows memoryEnv "entry" (officeAndLab "a" "b") current home hass c := by
  refine ⟨_, _, _, _, _, twoRounds_rounds, twoRounds_run, by decide, ?_⟩
  intro h
  have hr : Renames memoryEnv (officeAndLab "a" "b") (officeAndLab "p" "q") "a" "p" :=
    ⟨by decide +kernel, by decide +kernel, by decide +kernel⟩
  exact secondAnswer_evaluates.2.2 (h.resolves "a" "p" hr)

theorem follows_office : Follows memoryEnv "entry" (officeAndLab "a" "b") (officeAndLab "n" "m") home
      movedHome firstAnswer.after ↔
    (officeAndLab "a" "b").keys = ∅ ∨ (1 = 1 ∧ NoWriteRefused oneRound ∧
      Legible memoryEnv (officeAndLab "a" "b") (officeAndLab "n" "m")) :=
  follows_iff_one_round oneRound_rounds oneRound_run (Nat.le_refl 1) rfl (by decide)

end FritzboxVpn.OutageRounds
