import FritzboxVpn.Entity
import FritzboxVpn.PayloadShape
import FritzboxVpn.RejectedLogins
import FritzboxVpn.Toggle

namespace FritzboxVpn.ToggleRejection

open AliasSafety Constants Coordinator CoordinatorSteps Exceptions FailedPolls FetchErrors
  HomeAssistant Interaction Interaction.Program JsonValue Listings OrderedDict Parsing PayloadShape
  RejectedLogins RetryCause Session SessionRequests Toggle

structure SessionToggle where
  result : Except PyError Bool
  coordinator : Coordinator.State
  exchanges : List Exchange

def toggleThroughSession (env : Env) (account : Account) (partner : Partner Request Answer)
    (hass : Hass) (c : Coordinator.State) (session : Session.State) (uid : String) (enable : Bool) :
    SessionToggle :=
  let toggled := Entity.toggleVpn env hass c
    (fun uid enable => asyncToggleVpn account uid enable partner) uid enable ⟨session, []⟩
  ⟨toggled.1, toggled.2.1, toggled.2.2.trace⟩

/-- The box rejected the credentials at a login. A PBKDF2 login that brings no SID
is not yet one: an MD5 login follows it. -/
def CredentialsRejected (lib : Library) (exchanges : List Exchange) : Prop :=
  ∃ x ∈ exchanges, rejectsMd5 lib x = true

structure Surfaces (env : Env) (hass : Hass) (c : Coordinator.State) (o : SessionToggle) : Prop where
  raised : ∃ e, o.result = .error e ∧ isAuthError e = true
  reauth : o.coordinator = (scheduleReauth env hass c).2

def RejectionsSurface (env : Env) (lib : Library) (hass : Hass) (c : Coordinator.State)
    (o : SessionToggle) : Prop :=
  CredentialsRejected lib o.exchanges → Surfaces env hass c o

def blamed (account : Account) (x : Exchange) : Bool :=
  misread account.host x || invalidSidAnswer account.lib x

structure OverWithLogin (account : Account) (exchanges : List Exchange) : Prop where
  noPut : ∀ x ∈ exchanges, isPut x.1 = false
  last : ∃ x ∈ exchanges.head?, blamed account x = true

structure Ends (account : Account) (result : Except PyError Bool) (w : SessionWorld) : Prop where
  value : ∀ b, result = .ok b → (∃ x ∈ w.trace, isPut x.1 = true) ∨
    ∃ x ∈ w.trace.head?, blamed account x = false
  raised : ∀ e, result = .error e → (∀ x ∈ w.trace, isPut x.1 = false) ∧ Explained account e w

section Asks

variable {account : Account} {uid : String} {enable : Bool} {sidRetry : Option (SessionM Bool)}

abbrev Anything (_ : Request) : Prop := True

theorem verifyToggle_asks : Asks Anything (verifyToggle account uid enable) := by
  apply (asyncGetVpnConnections_asks (fun _ _ => trivial) fun _ _ => trivial).bind
  intro newConnections
  split <;> exact asks_pure

theorem checkToggle_asks (response : Response) :
    Asks Anything (checkToggle account uid enable response) := by
  rw [checkToggle]
  split
  · exact (readText_asks response).bind fun _ => asks_pure
  · exact verifyToggle_asks

theorem answerToggle_asks (response : Response)
    (hretry : ∀ again, sidRetry = some again → Asks Anything again) :
    Asks Anything (answerToggle account uid enable sidRetry response) := by
  cases sidRetry with
  | none => exact checkToggle_asks response
  | some again =>
      rw [answerToggle]
      split
      · exact asks_update.bind fun _ => hretry again rfl
      · exact checkToggle_asks response

theorem putToggle_asks (vpnUid : Json)
    (hretry : ∀ again, sidRetry = some again → Asks Anything again) :
    Asks Anything (putToggle account uid enable sidRetry vpnUid) := by
  apply (asyncGetSession_asks fun _ _ => trivial).bind
  intro sid
  apply asks_read.bind
  intro s
  apply Asks.tryCatch ((send_asks trivial).bind fun response => answerToggle_asks response hretry)
  exact fun _ => asks_pure

theorem toggleOnce_asks (hretry : ∀ again, sidRetry = some again → Asks Anything again) :
    Asks Anything (toggleOnce account uid enable sidRetry) := by
  apply (asyncGetVpnConnections_asks (fun _ _ => trivial) fun _ _ => trivial).bind
  intro connections
  split
  · exact asks_pure
  · split
    · exact asks_pure
    · split
      · exact asks_pure
      · split
        · exact asks_pure
        · exact putToggle_asks _ hretry

end Asks

section Calls

variable {account : Account} {partner : Partner Request Answer} {w w' : SessionWorld} {uid : String}
  {enable : Bool} {sidRetry : Option (SessionM Bool)} {x : Exchange} {e : PyError}

theorem Calm.not_blamed (h : Calm account.lib x) : blamed account x = false := by
  obtain ⟨ht, hr, hs, hi⟩ := h
  rw [blamed, misread, namesHost, ht, hr, hs, hi]
  rfl

theorem blamed_of_listing {l : Listing} (h : listingOf account.lib x = some l) :
    blamed account x = false := by
  have hnone : transportError x = none := (Option.or_eq_none_iff.mp (outsideError_of_listing h)).1
  obtain ⟨mode, hmode, hsent⟩ := Option.bind_eq_some_iff.mp h
  obtain ⟨r, err | response⟩ := x
  · cases hsent
  · have hs : response.status = httpStatusOk := by
      by_contra hs
      rw [sentListing_of_status hs] at hsent
      cases hsent
    apply Calm.not_blamed
    apply calm_of_ok hs hnone
    cases r <;> first | rfl | cases hmode

theorem ends_of_put (b : Bool) (h : ∃ x ∈ w.trace, isPut x.1 = true) : Ends account (.ok b) w where
  value := fun _ _ => Or.inl h
  raised := fun _ he => by cases he

theorem ends_of_listing {l : Listing} (b : Bool) (h : FetchedLast account.lib l w) :
    Ends account (.ok b) w where
  value := by
    intro _ _
    obtain ⟨x, rest, hw, hx⟩ := h
    exact Or.inr ⟨x, by rw [hw]; rfl, blamed_of_listing hx⟩
  raised := fun _ he => by cases he

theorem ends_of_error (h : ∀ x ∈ w.trace, isPut x.1 = false) (he : Explained account e w) :
    Ends account (.error e) w where
  value := fun _ hb => by cases hb
  raised := by
    intro _ heq
    cases heq
    exact ⟨h, he⟩

theorem noPut_of_adds (h : ∀ x ∈ w.trace, isPut x.1 = false) (hadds : Adds NotPut w w') :
    ∀ x ∈ w'.trace, isPut x.1 = false := by
  obtain ⟨made, ht, hmade⟩ := hadds
  intro x hx
  rw [ht] at hx
  rcases List.mem_append.mp hx with hx | hx
  · exact hmade x hx
  · exact h x hx

theorem asyncGetSession_notPut (account : Account) : Asks NotPut (asyncGetSession account) := by
  apply asyncGetSession_asks
  intro r hr
  cases r <;> first | rfl | cases hr

/-- Behind the PUT every exception is caught. -/
theorem sendPut_ends {r : Request} (hr : isPut r = true)
    (hretry : ∀ again, sidRetry = some again → Asks Anything again) :
    Yields partner w
      (tryCatch
        (do
          let response ← send r
          answerToggle account uid enable sidRetry response)
        fun _ => pure false)
      (fun b w' => Ends account (.ok b) w') (fun e w' => Ends account (.error e) w') := by
  have hopens : Opens r (tryCatch
      (do
        let response ← send r
        answerToggle account uid enable sidRetry response)
      fun _ => pure false) w :=
    Opens.tryCatch (S := Anything)
      (send_opens.bind fun response => answerToggle_asks response hretry) fun _ => asks_pure
  have hput : ∀ b w', (∃ made a, w'.trace = made ++ (r, a) :: w.trace) →
      Ends account (.ok b) w' := by
    rintro b w' ⟨made, a, ht⟩
    refine ends_of_put b ⟨(r, a), ?_, hr⟩
    rw [ht]
    exact List.mem_append_right _ List.mem_cons_self
  have hsent : Yields partner w _ _ _ := hopens.yields
  rw [yields_tryCatch] at hsent ⊢
  exact hsent.mono hput fun _ w' h => yields_pure.mpr (hput false w' (yields_pure.mp h))

theorem putToggle_ends (hq : Quiet account.lib) (vpnUid : Json)
    (h : ∀ x ∈ w.trace, isPut x.1 = false)
    (hretry : ∀ again, sidRetry = some again → Asks Anything again) :
    Yields partner w (putToggle account uid enable sidRetry vpnUid)
      (fun b w' => Ends account (.ok b) w') (fun e w' => Ends account (.error e) w') := by
  rw [putToggle, yields_bind]
  refine ((asyncGetSession_notPut account).yields.and (asyncGetSession_yields hq)).mono ?_ ?_
  · intro sid w' _
    rw [yields_bind, yields_read]
    exact sendPut_ends rfl hretry
  · rintro e w' ⟨hadds, hexplained⟩
    exact ends_of_error (noPut_of_adds h hadds) hexplained

theorem toggleOnce_ends (hq : Quiet account.lib) (h : ∀ x ∈ w.trace, isPut x.1 = false)
    (hretry : ∀ again, sidRetry = some again → Asks Anything again) :
    Yields partner w (toggleOnce account uid enable sidRetry)
      (fun b w' => Ends account (.ok b) w') (fun e w' => Ends account (.error e) w') := by
  rw [toggleOnce, yields_bind]
  refine ((getConnections_asks account).yields.and
    (asyncGetVpnConnections_fetches.and (asyncGetVpnConnections_yields hq))).mono ?_ ?_
  · rintro connections w' ⟨hadds, hfetched, -⟩
    split
    · exact yields_pure.mpr (ends_of_listing false hfetched)
    · split
      · exact yields_pure.mpr (ends_of_listing false hfetched)
      · split
        · exact yields_pure.mpr (ends_of_listing false hfetched)
        · split
          · exact yields_pure.mpr (ends_of_listing true hfetched)
          · exact putToggle_ends hq _ (noPut_of_adds h hadds) hretry
  · rintro e w' ⟨hadds, -, hexplained⟩
    exact ends_of_error (noPut_of_adds h hadds) hexplained

theorem asyncToggleVpn_of_failed (h : asyncGetVpnConnections account partner w = (.error e, w')) :
    asyncToggleVpn account uid enable partner w = (.error e, w') :=
  bind_of_error h

/-- How the whole call ends, whatever is answered. -/
theorem asyncToggleVpn_ends (hq : Quiet account.lib) (uid : String) (enable : Bool)
    (partner : Partner Request Answer) (s : Session.State) :
    Ends account (asyncToggleVpn account uid enable partner ⟨s, []⟩).1
      (asyncToggleVpn account uid enable partner ⟨s, []⟩).2 := by
  apply (yields_result (P := fun result w' => Ends account result w')).mp
  apply toggleOnce_ends hq fun _ hx => absurd hx List.not_mem_nil
  intro again hagain
  cases hagain
  exact toggleOnce_asks fun _ h => by cases h

theorem Ends.authError_iff {result : Except PyError Bool} (h : Ends account result w) :
    (∃ e, result = .error e ∧ isAuthError e = true) ↔ OverWithLogin account w.trace := by
  constructor
  · rintro ⟨e, rfl, ha⟩
    obtain ⟨hno, -, x, rest, hw, hx⟩ := h.raised e rfl
    exact ⟨hno, x, by rw [hw]; rfl, hx.symm.trans ha⟩
  · rintro ⟨hno, x, hx, hblamed⟩
    cases result with
    | error e =>
        obtain ⟨-, -, y, rest, hw, hy⟩ := h.raised e rfl
        rw [hw, List.head?_cons, Option.mem_some_iff] at hx
        subst hx
        exact ⟨e, rfl, hy.trans hblamed⟩
    | ok b =>
        rcases h.value b rfl with ⟨y, hy, hput⟩ | ⟨y, hy, hcalm⟩
        · rw [hno y hy] at hput
          cases hput
        · rw [Option.mem_unique hx hy, hcalm] at hblamed
          cases hblamed

end Calls

section Commands

variable {account : Account} (env : Env) (partner : Partner Request Answer) (hass : Hass)
  (c : Coordinator.State) (session : Session.State) (uid : String) (enable : Bool)

theorem toggleThroughSession_exchanges :
    (toggleThroughSession env account partner hass c session uid enable).exchanges =
      (asyncToggleVpn account (c.resolveConnectionUid uid) enable partner ⟨session, []⟩).2.trace :=
  congrArg (fun x => x.2.trace) (Entity.toggleVpn_box env hass c
    (fun uid enable => asyncToggleVpn account uid enable partner) uid enable ⟨session, []⟩)

/-- The coordinator sees what the session raises. -/
theorem surfaces_iff :
    Surfaces env hass c (toggleThroughSession env account partner hass c session uid enable) ↔
      ∃ e, (asyncToggleVpn account (c.resolveConnectionUid uid) enable partner ⟨session, []⟩).1 =
        .error e ∧ isAuthError e = true := by
  rcases hrun : asyncToggleVpn account (c.resolveConnectionUid uid) enable partner ⟨session, []⟩ with
    ⟨e | b, w⟩
  · constructor
    · rintro ⟨⟨e', he, ha⟩, -⟩
      simp only [toggleThroughSession, Entity.toggleVpn, hrun] at he
      exact ⟨e', he, ha⟩
    · rintro ⟨e', he, ha⟩
      cases he
      refine ⟨⟨e, ?_, ha⟩, ?_⟩
      · simp only [toggleThroughSession, Entity.toggleVpn, hrun]
      · simp only [toggleThroughSession, Entity.toggleVpn, hrun, if_pos ha]
  · constructor
    · rintro ⟨⟨e', he, -⟩, -⟩
      simp only [toggleThroughSession, Entity.toggleVpn, hrun] at he
      cases he
    · rintro ⟨e', he, -⟩
      cases he

/-- Rejected credentials surface exactly when the call has sent no PUT and is over
with the rejected login. -/
theorem rejectionsSurface_iff (hq : Quiet account.lib) :
    RejectionsSurface env account.lib hass c
        (toggleThroughSession env account partner hass c session uid enable) ↔
      (CredentialsRejected account.lib
          (toggleThroughSession env account partner hass c session uid enable).exchanges →
        OverWithLogin account
          (toggleThroughSession env account partner hass c session uid enable).exchanges) := by
  have hends := asyncToggleVpn_ends hq (c.resolveConnectionUid uid) enable partner session
  rw [RejectionsSurface, surfaces_iff, hends.authError_iff, toggleThroughSession_exchanges]

end Commands

theorem rejectingBox_surfaces : RejectionsSurface memoryEnv flatLibrary (officeSwitch "wg0") {}
    (toggleThroughSession memoryEnv officeAccount rejectingBox (officeSwitch "wg0") {} {} "wg0"
      true) := by
  apply (rejectionsSurface_iff memoryEnv rejectingBox (officeSwitch "wg0") {} {} "wg0" true
    flatLibrary_quiet).mpr
  intro _
  obtain ⟨e, w, hfirst, hn⟩ := rejectingBox_first
  let first := firstFetch officeAccount rejectingBox {}
  let second := fetchVpnConnectionsOnce officeAccount rejectingBox
    ⟨invalidateSession first.2.state, first.2.trace⟩
  have hfails : second.1.toBool = false := by decide +kernel
  have hover : second.2.trace.all (fun x => !isPut x.1) = true ∧
      second.2.trace.head?.any (blamed officeAccount) = true := by
    decide +kernel
  have hfetch : fetch officeAccount rejectingBox {} = second := by
    rw [fetch_of_error hfirst, if_pos hn]
    simp only [second, first, hfirst]
  rcases hsecond : second with ⟨e' | l, w'⟩
  · rw [toggleThroughSession_exchanges,
      asyncToggleVpn_of_failed (hfetch.trans hsecond)]
    rw [hsecond, List.all_eq_true] at hover
    refine ⟨fun x hx => ?_, (Option.any_eq_true _ _).mp hover.2⟩
    exact (Bool.not_eq_true' _).mp (hover.1 x hx)
  · rw [hsecond] at hfails
    cases hfails

def oneConnection : Json :=
  lastPlace (.arr [.obj [(apiKeyUid, .str "wg0"), (apiKeyActive, .bool false)]])

/-- A box whose password was changed: it ends the session after the PUT, and
rejects the login. -/
def expiredBox : Partner Request Answer
  | _, .put _ _ _ _ => .ok ⟨200, "application/json", .ok ""⟩
  | earlier, .dataLua _ _ =>
      if earlier.any fun x => isPut x.1 then .ok ⟨403, "text/html", .ok "Forbidden"⟩ else jsonPage
  | earlier, r => rejectingBox earlier r

theorem expiredBox_run :
    let toggled := toggleThroughSession memoryEnv (documentAccount oneConnection) expiredBox
      (officeSwitch "wg0") {} loggedIn.state "wg0" true
    toggled.result.toOption = some false ∧
      toggled.exchanges.any (rejectsMd5 (documentLibrary oneConnection)) = true := by
  decide +kernel

/-- The login for the verification is rejected, and the call answers False. -/
theorem expiredBox_swallowed :
    (toggleThroughSession memoryEnv (documentAccount oneConnection) expiredBox (officeSwitch "wg0") {}
      loggedIn.state "wg0" true).result = .ok false ∧
    ¬RejectionsSurface memoryEnv (documentLibrary oneConnection) (officeSwitch "wg0") {}
      (toggleThroughSession memoryEnv (documentAccount oneConnection) expiredBox (officeSwitch "wg0") {}
        loggedIn.state "wg0" true) := by
  obtain ⟨hrun, hrejected⟩ := expiredBox_run
  have hresult := toOption_eq_some hrun
  refine ⟨hresult, fun h => ?_⟩
  obtain ⟨e, he, -⟩ := (h (List.any_eq_true.mp hrejected)).raised
  rw [hresult] at he
  cases he

end FritzboxVpn.ToggleRejection
