import FritzboxVpn.Entity
import FritzboxVpn.HealthyBox

namespace FritzboxVpn.SelfHealing

open AliasSafety Coordinator CoordinatorSteps Entity Exceptions FailedPolls FetchErrors HealthyBox HomeAssistant
  Interaction JsonValue Listings OrderedDict Runs Session
open ListingFallback (jsonAccount)

structure Turn where
  hass : Hass
  box : Box
  now : ℚ
  later : ℚ

abbrev PollingState : Type := Coordinator.State × Session.State

def pollingMachine (env : Env) (account : Account) : Machine PollingState Turn SessionPoll where
  init := ({}, {})
  step s turn :=
    let polled :=
      pollThroughSession env account turn.box.partner turn.hass s.1 s.2 turn.now turn.later
    (polled, (polled.coordinator, polled.session))

abbrev TurnRecord : Type := Record PollingState Turn SessionPoll

def Fetches (r : TurnRecord) : Prop := r.output.poll.fetch = .ok r.input.box.connections

def RegistryRaises (env : Env) (r : TurnRecord) : Prop :=
  ∃ e, (applyUidRemapIfNeeded env r.input.hass
    (rememberConnectionNames env r.before.1 r.input.box.connections) r.input.box.connections).1 =
      .error e

section Polls

variable {env : Env} {account : Account} {r : TurnRecord}

theorem fetch_cases (hb : Healthy account r.input.box) :
    (¬Stranded r.input.box r.before.2 ∧ ∃ w,
        fetch account r.input.box.partner r.before.2 = (.ok r.input.box.connections, w) ∧
        ∃ sid mode, Attached r.input.box w.trace w.state sid mode) ∨
      (Stranded r.input.box r.before.2 ∧ ∃ e w,
        fetch account r.input.box.partner r.before.2 = (.error e, w) ∧ Unreached e w) := by
  by_cases hs : Stranded r.input.box r.before.2
  · right
    refine ⟨hs, ?_⟩
    have hfetch := asyncGetVpnConnections_stranded (w := ⟨r.before.2, []⟩) hb hs
    rcases hf : fetch account r.input.box.partner r.before.2 with ⟨e | l, w⟩
    · exact ⟨e, w, rfl, hfetch.error hf⟩
    · exact (hfetch.value hf).elim
  · left
    refine ⟨hs, ?_⟩
    have hfetch := asyncGetVpnConnections_healthy (w := ⟨r.before.2, []⟩) hb hs
    rcases hf : fetch account r.input.box.partner r.before.2 with ⟨e | l, w⟩
    · exact (hfetch.error hf).elim
    · obtain ⟨rfl, hattached⟩ := hfetch.value hf
      exact ⟨w, rfl, hattached⟩

/-- A poll that got a listing keeps the session, and takes a listing that is not
empty, unless the registry raises. -/
theorem asyncUpdateData_of_listing (hass : Hass) (c : Coordinator.State) {p : Poll} {connections : Listing}
    (hf : p.fetch = .ok connections)
    (hno : ¬∃ e, (applyUidRemapIfNeeded env hass (rememberConnectionNames env c connections)
      connections).1 = .error e) :
    (asyncUpdateData env hass c p).1.1.sessionInvalidated = false ∧
      (connections.isEmpty = false →
        (asyncUpdateData env hass c p).1.1.outcome = .ok connections) := by
  have processed : ∀ c₁, (¬∃ e, (applyUidRemapIfNeeded env hass
      (rememberConnectionNames env c₁ connections) connections).1 = .error e) →
      (processConnections env hass c₁ p connections).1.1.sessionInvalidated = false ∧
        (processConnections env hass c₁ p connections).1.1.outcome = .ok connections := by
    intro c₁ hc₁
    rw [processConnections]
    cases hr : applyUidRemapIfNeeded env hass (rememberConnectionNames env c₁ connections)
        connections with
    | mk result hass' =>
        cases result with
        | error e =>
            rw [hr] at hc₁
            exact absurd ⟨e, rfl⟩ hc₁
        | ok c' => exact ⟨rfl, rfl⟩
  rw [asyncUpdateData, hf]
  simp only
  by_cases hguard : (connections.isEmpty && c.inRecovery && hadConnections c) = true
  · rw [if_pos hguard]
    have hempty : connections.isEmpty = true := by
      rw [Bool.and_eq_true, Bool.and_eq_true] at hguard
      exact hguard.1.1
    refine ⟨?_, fun hne => by rw [hempty] at hne; cases hne⟩
    split
    · refine (processed _ ?_).1
      rintro ⟨e, he⟩
      rw [applyUidRemapIfNeeded_outside (by rfl)] at he
      cases he
    · rfl
  · rw [if_neg hguard]
    exact ⟨(processed c hno).1, fun _ => (processed c hno).2⟩

theorem poll_of_listing (hass : Hass) (c : Coordinator.State) {p : Poll} {connections : Listing}
    (hf : p.fetch = .ok connections)
    (hno : ¬∃ e, (applyUidRemapIfNeeded env hass (rememberConnectionNames env c connections)
      connections).1 = .error e) :
    (poll env hass c p).1.1.sessionInvalidated = false ∧
      (connections.isEmpty = false → (poll env hass c p).1.1.outcome = .ok connections ∧
        (poll env hass c p).1.2.data = some connections ∧
        (poll env hass c p).1.2.lastUpdateSuccess = true) := by
  obtain ⟨hkept, htaken⟩ := asyncUpdateData_of_listing hass c hf hno
  refine ⟨hkept, fun hne => ?_⟩
  have hrefresh : ∀ report c', report.outcome = .ok connections →
      refresh report c' = { c' with data := some connections, lastUpdateSuccess := true } := by
    intro report c' h
    rw [refresh, h]
  have hpoll : (poll env hass c p).1.2 =
      refresh (asyncUpdateData env hass c p).1.1 (asyncUpdateData env hass c p).1.2 := rfl
  rw [hpoll, hrefresh _ _ (htaken hne)]
  exact ⟨htaken hne, rfl, rfl⟩

theorem record_eq (h : r = (pollingMachine env account).record r.before r.input) :
    r.output = pollThroughSession env account r.input.box.partner r.input.hass r.before.1 r.before.2
        r.input.now r.input.later ∧ r.after = (r.output.coordinator, r.output.session) :=
  ⟨congrArg Record.output h, by rw [congrArg Record.output h]; exact congrArg Record.after h⟩

/-- The poll of a session that is not stranded, and only that, gets the listing. -/
theorem fetches_iff (h : r = (pollingMachine env account).record r.before r.input)
    (hb : Healthy account r.input.box) : Fetches r ↔ ¬Stranded r.input.box r.before.2 := by
  rw [Fetches, (record_eq h).1]
  change (fetch account r.input.box.partner r.before.2).1 = _ ↔ _
  rcases fetch_cases hb with ⟨hno, w, hf, -⟩ | ⟨hs, e, w, hf, -⟩
  · rw [hf]
    exact iff_of_true rfl hno
  · rw [hf]
    refine iff_of_false ?_ (not_not.mpr hs)
    intro h
    cases h

/-- A poll that missed the listing of a healthy box starts the session over. -/
theorem starts_over_of_miss (h : r = (pollingMachine env account).record r.before r.input)
    (hb : Healthy account r.input.box) (hmiss : ¬Fetches r) : r.after.2 = ⟨none, .https, none⟩ := by
  rw [fetches_iff h hb, not_not] at hmiss
  rcases fetch_cases hb with ⟨hno, -⟩ | ⟨-, e, w, hf, hauth, -⟩
  · exact absurd hmiss hno
  · have hraised : authRaised e = false := by rw [authRaised, hauth, Bool.false_and]
    rw [(record_eq h).2, (record_eq h).1]
    have houtage : AsOutage env r.before.1 (pollThroughSession env account r.input.box.partner r.input.hass
        r.before.1 r.before.2 r.input.now r.input.later) := asOutage_of_error hf hraised hauth
    exact houtage.session

theorem not_stranded_fresh (box : Box) : ¬Stranded box ⟨none, .https, none⟩ :=
  not_stranded_iff.mpr (Or.inr ⟨rfl, rfl⟩)

/-- After a poll that got the listing the session is fresh, or holds to a protocol
that was served. -/
theorem session_of_fetches (h : r = (pollingMachine env account).record r.before r.input)
    (hb : Healthy account r.input.box) (hf : Fetches r) :
    r.after.2 = ⟨none, .https, none⟩ ∨ r.input.box.served r.after.2.protocol = true := by
  rw [fetches_iff h hb] at hf
  rcases fetch_cases hb with ⟨-, w, hw, sid, mode, hattached⟩ | ⟨hs, -⟩
  · rw [(record_eq h).2, (record_eq h).1, pollThroughSession, hw]
    simp only
    split
    · exact Or.inl rfl
    · exact Or.inr hattached.served
  · exact absurd hs hf

end Polls

section Runs

variable {env : Env} {account : Account} {earlier : List TurnRecord} {r r' : TurnRecord}
  {s : PollingState}

/-- Of two successive polls of a healthy box the later one misses the listing only
where the box stopped serving the protocol in between. -/
theorem later_poll_fetches (hrun : Run (pollingMachine env account) (r :: r' :: earlier) s)
    (hb : Healthy account r.input.box) (hb' : Healthy account r'.input.box) :
    Fetches r ∨ (Fetches r' ∧ ∃ protocol, r'.input.box.served protocol = true ∧
      r.input.box.served protocol = false) := by
  obtain ⟨hrun', hr, -⟩ := hrun.of_cons
  obtain ⟨-, hr', hbefore⟩ := hrun'.of_cons
  by_cases hf : Fetches r
  · exact Or.inl hf
  right
  have hstranded := hf
  rw [fetches_iff hr hb, not_not, hbefore] at hstranded
  have hnot : r'.after.2 ≠ ⟨none, .https, none⟩ := by
    intro hfresh
    rw [hfresh] at hstranded
    exact not_stranded_fresh _ hstranded
  have hf' : Fetches r' := by
    by_contra hmiss
    exact hnot (starts_over_of_miss hr' hb' hmiss)
  exact ⟨hf', r'.after.2.protocol, (session_of_fetches hr' hb' hf').resolve_left hnot, hstranded.1⟩

/-- In any run a healthy box is missed only by a session that is held to a protocol
it does not serve, and the next session is a fresh one. -/
theorem missed_only_when_stranded {hist : List TurnRecord}
    (hrun : Run (pollingMachine env account) hist s) :
    ∀ r ∈ hist, Healthy account r.input.box →
      (Fetches r ↔ ¬Stranded r.input.box r.before.2) ∧
        (¬Fetches r → ∀ box, ¬Stranded box r.after.2) := by
  intro r hr hb
  obtain ⟨later, earlier, rfl⟩ := List.append_of_mem hr
  obtain ⟨s', hs'⟩ := hrun.of_append
  obtain ⟨-, hrecord, -⟩ := hs'.of_cons
  refine ⟨fetches_iff hrecord hb, fun hmiss box => ?_⟩
  rw [starts_over_of_miss hrecord hb hmiss]
  exact not_stranded_fresh box

/-- Whatever came before, the second of two polls of a healthy box brings the entities
back: those whose connection is listed are available, and no others. -/
theorem second_poll_heals (hrun : Run (pollingMachine env account) (r :: r' :: earlier) s)
    (hb : Healthy account r.input.box) (hb' : Healthy account r'.input.box)
    (hserved : ∀ protocol, r'.input.box.served protocol = true → r.input.box.served protocol = true)
    (hne : r.input.box.connections.isEmpty = false) (hregistry : ¬RegistryRaises env r) :
    r.output.report.outcome = .ok r.input.box.connections ∧
      ∀ uid, connectionAvailable s.1 uid = true ↔
        s.1.resolveConnectionUid uid ∈ r.input.box.connections.keys := by
  have hfetch : Fetches r := by
    rcases later_poll_fetches hrun hb hb' with h | ⟨-, protocol, hyes, hno⟩
    · exact h
    · rw [hserved protocol hyes] at hno
      cases hno
  obtain ⟨-, hr, rfl⟩ := hrun.of_cons
  obtain ⟨hout, hafter⟩ := record_eq hr
  obtain ⟨-, htaken⟩ := poll_of_listing r.input.hass r.before.1 (p := r.output.poll) hfetch
    hregistry
  obtain ⟨houtcome, hdata, hsuccess⟩ := htaken hne
  have hreport : r.output.report = (poll env r.input.hass r.before.1 r.output.poll).1.1 := by
    rw [hout]
    rfl
  have hstate : r.after.1 = (poll env r.input.hass r.before.1 r.output.poll).1.2 := by
    rw [hafter, hout]
    rfl
  refine ⟨hreport ▸ houtcome, fun uid => ?_⟩
  rw [connectionAvailable, hstate, hsuccess, Bool.true_and, decide_eq_true_iff, mem_dataKeys, hdata]
  constructor
  · rintro ⟨data, hd, hmem⟩
    cases hd
    exact hmem
  · exact fun hmem => ⟨_, rfl, hmem⟩

end Runs

/-- The box of the next poll serves what was served, and still knows the SIDs. -/
structure Continues (box next : Box) : Prop where
  served : ∀ protocol, box.served protocol = true → next.served protocol = true
  lists : ∀ mode, box.lists mode = true → next.lists mode = true
  valid : ∀ trace sid, box.valid trace sid → next.valid [] sid

def OneRequest (r : TurnRecord) : Prop := ∃ x, r.output.exchanges = [x] ∧ isListing x.1 = true

section Steady

variable {env : Env} {account : Account} {r : TurnRecord}

theorem attached_of_continues {box next : Box} {trace : List Exchange} {s : Session.State} {sid : String}
    {mode : ListingMode} (h : Attached box trace s sid mode) (hnext : Continues box next) :
    Attached next [] s sid mode :=
  ⟨h.knows, h.cached, hnext.valid trace sid h.valid, hnext.served _ h.served, hnext.lists _ h.lists⟩

theorem not_stranded_of_attached {box : Box} {trace : List Exchange} {s : Session.State} {sid : String}
    {mode : ListingMode} (h : Attached box trace s sid mode) : ¬Stranded box s :=
  not_stranded_iff.mpr (Or.inl h.served)

theorem fetch_attached {box : Box} {s : Session.State} {sid : String} {mode : ListingMode}
    (hb : Healthy account box) (h : Attached box [] s sid mode) :
    fetch account box.partner s = (.ok box.connections, asked box ⟨s, []⟩ mode sid) := by
  have hyields : Yields box.partner ⟨s, []⟩ (asyncGetVpnConnections account)
      (fun l w => (Except.ok l, w) =
        ((.ok box.connections, asked box ⟨s, []⟩ mode sid) : Except PyError Listing × SessionWorld))
      (fun _ _ => False) := by
    rw [asyncGetVpnConnections, yields_tryCatch, fetchVpnConnectionsOnce, yields_bind, asyncGetSession,
      yields_bind, yields_read, h.knows]
    simp only [yields_pure]
    rw [yields_bind, yields_read, h.cached]
    simp only [yields_bind]
    apply fetch_listed hb h.served h.lists h.valid
    exact yields_pure.mpr rfl
  rcases hf : asyncGetVpnConnections account box.partner ⟨s, []⟩ with ⟨e | l, w⟩
  · exact (hyields.error hf).elim
  · exact hf.trans (hyields.value hf)

/-- A poll that got the listing leaves an attached session. -/
theorem attached_of_fetches (h : r = (pollingMachine env account).record r.before r.input)
    (hb : Healthy account r.input.box) (hf : Fetches r) (hregistry : ¬RegistryRaises env r) :
    ∃ sid mode, Attached r.input.box r.output.exchanges r.after.2 sid mode := by
  have hfetch := hf
  rw [fetches_iff h hb] at hf
  obtain ⟨hkept, -⟩ := poll_of_listing r.input.hass r.before.1 (p := r.output.poll) hfetch
    hregistry
  rcases fetch_cases hb with ⟨-, w, hw, hattached⟩ | ⟨hs, -⟩
  · obtain ⟨hout, hafter⟩ := record_eq h
    rw [hout] at hkept
    simp only [pollThroughSession, hw] at hkept
    rw [hafter, hout, pollThroughSession, hw]
    simp only [hkept]
    exact hattached
  · exact absurd hs hf

theorem step_attached {sid : String} {mode : ListingMode}
    (h : r = (pollingMachine env account).record r.before r.input) (hb : Healthy account r.input.box)
    (hin : Attached r.input.box [] r.before.2 sid mode) (hregistry : ¬RegistryRaises env r) :
    Fetches r ∧ OneRequest r ∧ r.after.2 = r.before.2 := by
  have hfetches : Fetches r := (fetches_iff h hb).mpr (not_stranded_of_attached hin)
  obtain ⟨hkept, -⟩ := poll_of_listing r.input.hass r.before.1 (p := r.output.poll) hfetches
    hregistry
  obtain ⟨hout, hafter⟩ := record_eq h
  have hw := fetch_attached hb hin
  refine ⟨hfetches, ?_, ?_⟩
  · have hlisting := isListing_listingRequest mode r.before.2.protocol sid
    refine ⟨r.input.box.exchange [] (listingRequest mode r.before.2.protocol sid), ?_, hlisting⟩
    rw [hout, pollThroughSession, hw]
    rfl
  · rw [hout] at hkept
    simp only [pollThroughSession, hw] at hkept
    rw [hafter, hout, pollThroughSession, hw]
    simp only [hkept]
    rfl

/-- Once a poll got the listing, the polls of a box that goes on as before make one
request each, and leave the session as it is. -/
theorem steady_polls {later earlier : List TurnRecord} {s : PollingState}
    (hrun : Run (pollingMachine env account) (later ++ r :: earlier) s) (hf : Fetches r)
    (hb : ∀ q ∈ later ++ [r], Healthy account q.input.box ∧ ¬RegistryRaises env q)
    (hchain : (later ++ [r]).IsChain fun q q' => Continues q'.input.box q.input.box) :
    s.2 = r.after.2 ∧ ∀ q ∈ later, Fetches q ∧ OneRequest q := by
  have hall : (∀ q ∈ later, Fetches q ∧ OneRequest q) ∧ s.2 = r.after.2 ∧
      ∃ q rest, later ++ [r] = q :: rest ∧ s = q.after ∧
        ∃ sid mode, Attached q.input.box q.output.exchanges s.2 sid mode := by
    induction later generalizing s with
    | nil =>
        have hlast : Run (pollingMachine env account) (r :: earlier) s := hrun
        obtain ⟨-, hr, rfl⟩ := hlast.of_cons
        obtain ⟨hbox, hregistry⟩ := hb r (List.mem_singleton_self r)
        have hnone : ∀ q ∈ ([] : List TurnRecord), Fetches q ∧ OneRequest q :=
          fun _ hq => absurd hq List.not_mem_nil
        exact ⟨hnone, rfl, r, [], rfl, rfl, attached_of_fetches hr hbox hf hregistry⟩
    | cons q later ih =>
        have hlast : Run (pollingMachine env account) (q :: (later ++ r :: earlier)) s := hrun
        obtain ⟨hrun', hq, rfl⟩ := hlast.of_cons
        obtain ⟨hbox, hregistry⟩ := hb q (List.mem_append_left [r] List.mem_cons_self)
        have hb' : ∀ q' ∈ later ++ [r], Healthy account q'.input.box ∧ ¬RegistryRaises env q' :=
          fun q' hq' => hb q' (List.mem_cons_of_mem q hq')
        have htail : (later ++ [r]).IsChain fun q q' => Continues q'.input.box q.input.box :=
          hchain.of_cons
        obtain ⟨hpolls, hsame, q', rest, heq, hs, sid, mode, hattached⟩ := ih hrun' hb' htail
        have hnext : Continues q'.input.box q.input.box := by
          rw [List.cons_append, heq, List.isChain_cons_cons] at hchain
          exact hchain.1
        obtain ⟨hfq, hone, hkept⟩ := step_attached hq hbox (attached_of_continues hattached hnext) hregistry
        refine ⟨?_, hkept.trans hsame, q, later ++ [r], rfl, rfl, ?_⟩
        · intro p hp
          rcases List.mem_cons.mp hp with rfl | hp
          · exact ⟨hfq, hone⟩
          · exact hpolls p hp
        · exact attached_of_fetches hq hbox hfq hregistry
  exact ⟨hall.2.1, hall.1⟩

end Steady

def officePoll (turn : Turn) (earlier : List Turn) : TurnRecord :=
  (pollingMachine memoryEnv jsonAccount).record
    ((pollingMachine memoryEnv jsonAccount).play earlier).2 turn

def outage : Turn := ⟨officeSwitch "a", { runningBox with partner := deadBox }, 0, 0⟩

def running (now : ℚ) : Turn := ⟨officeSwitch "a", runningBox, now, now⟩

theorem office_registry :
    (applyUidRemapIfNeeded memoryEnv (officeSwitch "a") (rememberConnectionNames memoryEnv
        (officePoll (running 60) [running 30, outage]).before.1 runningBox.connections)
      runningBox.connections).1.toBool = true ∧
    (applyUidRemapIfNeeded memoryEnv (officeSwitch "a") (rememberConnectionNames memoryEnv
        (officePoll (running 30) [outage]).before.1 runningBox.connections)
      runningBox.connections).1.toBool = true ∧ runningBox.connections.isEmpty = false := by
  decide +kernel

theorem not_raises_of_ok {env : Env} {r : TurnRecord} (h : (applyUidRemapIfNeeded env r.input.hass
    (rememberConnectionNames env r.before.1 r.input.box.connections) r.input.box.connections).1.toBool =
      true) : ¬RegistryRaises env r := by
  rintro ⟨e, he⟩
  rw [he] at h
  cases h

def officeState (turns : List Turn) : PollingState := ((pollingMachine memoryEnv jsonAccount).play turns).2

theorem office_run (turns : List Turn) : Run (pollingMachine memoryEnv jsonAccount)
    ((pollingMachine memoryEnv jsonAccount).play turns).1 (officeState turns) := run_play _ turns

theorem office_missed_only_when_stranded :
    (Fetches (officePoll (running 30) [outage]) ↔
        ¬Stranded runningBox (officePoll (running 30) [outage]).before.2) ∧
      (¬Fetches (officePoll (running 30) [outage]) →
        ∀ box, ¬Stranded box (officePoll (running 30) [outage]).after.2) :=
  missed_only_when_stranded (office_run [running 30, outage]) (officePoll (running 30) [outage])
    List.mem_cons_self runningBox_healthy

theorem office_second_poll_heals :
    (officePoll (running 60) [running 30, outage]).output.report.outcome =
        .ok runningBox.connections ∧
      ∀ uid, connectionAvailable (officeState [running 60, running 30, outage]).1 uid = true ↔
        (officeState [running 60, running 30, outage]).1.resolveConnectionUid uid ∈
          runningBox.connections.keys :=
  @second_poll_heals memoryEnv jsonAccount _ (officePoll (running 60) [running 30, outage])
    (officePoll (running 30) [outage]) _ (office_run [running 60, running 30, outage]) runningBox_healthy
    runningBox_healthy (fun _ h => h) office_registry.2.2
    (not_raises_of_ok office_registry.1)

theorem runningBox_continues : Continues runningBox runningBox :=
  ⟨fun _ h => h, fun _ h => h, fun _ _ h => h⟩

theorem office_steady_polls :
    (officeState [running 60, running 30, outage]).2 =
        (officePoll (running 30) [outage]).after.2 ∧
      ∀ q ∈ [officePoll (running 60) [running 30, outage]], Fetches q ∧ OneRequest q := by
  have hfetches : Fetches (officePoll (running 30) [outage]) := by
    apply (fetches_iff rfl runningBox_healthy).mpr
    exact fun h => absurd h.1 (by decide +kernel)
  refine @steady_polls memoryEnv jsonAccount (officePoll (running 30) [outage])
    [officePoll (running 60) [running 30, outage]] _ _ (office_run [running 60, running 30, outage]) hfetches ?_ ?_
  · intro q hq
    rcases List.mem_cons.mp hq with rfl | hq
    · exact ⟨runningBox_healthy, not_raises_of_ok office_registry.1⟩
    · rw [List.mem_singleton.mp hq]
      exact ⟨runningBox_healthy, not_raises_of_ok office_registry.2.1⟩
  · exact List.isChain_cons_cons.mpr ⟨runningBox_continues, List.IsChain.singleton _⟩

end FritzboxVpn.SelfHealing
