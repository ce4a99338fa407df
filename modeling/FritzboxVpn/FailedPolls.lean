import FritzboxVpn.AliasSafety
import FritzboxVpn.CoordinatorSteps
import FritzboxVpn.FetchErrors

namespace FritzboxVpn.FailedPolls

open AliasSafety Constants Coordinator CoordinatorSteps Exceptions FetchErrors HomeAssistant Interaction
  JsonValue OrderedDict Session

def fetch (account : Account) (partner : Partner Request Answer) (session : Session.State) :
    Except PyError (Dict String Json) × SessionWorld :=
  asyncGetVpnConnections account partner ⟨session, []⟩

structure SessionPoll where
  exchanges : List Exchange
  poll : Poll
  report : Report
  coordinator : Coordinator.State
  session : Session.State

/-- A failed fetch is prepared for the next one by invalidating the session. -/
def pollThroughSession (env : Env) (account : Account) (partner : Partner Request Answer)
    (hass : Hass) (c : Coordinator.State) (session : Session.State) (now later : ℚ) : SessionPoll :=
  let fetched := fetch account partner session
  let polled := poll env hass c ⟨fetched.1, now, later⟩
  { exchanges := fetched.2.trace
    poll := ⟨fetched.1, now, later⟩
    report := polled.1.1
    coordinator := polled.1.2
    session :=
      if polled.1.1.sessionInvalidated then invalidateSession fetched.2.state
      else fetched.2.state }

structure AsAuthentication (env : Env) (hass : Hass) (c : Coordinator.State) (o : SessionPoll) :
    Prop where
  outcome : ∃ message, o.report.outcome = .error ⟨message, none, .authentication⟩
  reauth : o.report.reauthStarted = (scheduleReauth env hass c).1
  coordinator : o.coordinator = { (scheduleReauth env hass c).2 with lastUpdateSuccess := false }

structure AsOutage (env : Env) (c : Coordinator.State) (o : SessionPoll) : Prop where
  outcome : ∃ message, o.report.outcome = .error ⟨message, some retryAfterSeconds, .connectivity⟩
  noReauth : o.report.reauthStarted = false
  coordinator : o.coordinator = { armRecovery env c o.poll with lastUpdateSuccess := false }
  session : o.session = ⟨none, .https, none⟩

def InvalidSidAnswered (lib : Library) (exchanges : List Exchange) : Prop :=
  ∃ x ∈ exchanges, invalidSidAnswer lib x = true

def RightlyClassified (env : Env) (lib : Library) (hass : Hass) (c : Coordinator.State)
    (o : SessionPoll) : Prop :=
  (AsAuthentication env hass c o → InvalidSidAnswered lib o.exchanges) ∧
    (¬AsAuthentication env hass c o → AsOutage env c o)

section Polls

variable {env : Env} {account : Account} {partner : Partner Request Answer} {hass : Hass}
  {c : Coordinator.State} {session : Session.State} {now later : ℚ} {e : PyError}
  {w : SessionWorld}

theorem authRaised_eq (h : e.isOSError = true → e.isConnectionError = true) :
    authRaised e = isAuthError e := by
  rw [authRaised]
  cases ht : e.isTimeoutError with
  | false => simp
  | true =>
      rw [h (e.timeout_os ht)]
      simp

theorem asAuthentication_of_error (hf : fetch account partner session = (.error e, w))
    (ha : authRaised e = true) :
    AsAuthentication env hass c
      (pollThroughSession env account partner hass c session now later) := by
  have hfetch : (Poll.mk (.error e) now later).fetch = .error e := rfl
  obtain ⟨text, hpoll⟩ := poll_of_fetch_authError env hass c hfetch ha
  rw [pollThroughSession, hf]
  simp only [hpoll]
  exact ⟨⟨text ++ e.message, rfl⟩, rfl, rfl⟩

theorem asOutage_of_error (hf : fetch account partner session = (.error e, w))
    (ha : authRaised e = false) (hi : isAuthError e = false) :
    AsOutage env c (pollThroughSession env account partner hass c session now later) := by
  have hfetch : (Poll.mk (.error e) now later).fetch = .error e := rfl
  obtain ⟨text, hpoll⟩ := poll_of_fetch_error env hass c hfetch ha
  have hinvalid : (failConnectivity env c ⟨.error e, now, later⟩ e text).1.sessionInvalidated =
      true := by
    rw [failConnectivity, hi]
    rfl
  rw [pollThroughSession, hf]
  simp only [hpoll, hinvalid, if_true]
  exact ⟨⟨text ++ e.message, rfl⟩, rfl, rfl, rfl⟩

theorem AsOutage.not_asAuthentication {o : SessionPoll} (h : AsOutage env c o) :
    ¬AsAuthentication env hass c o := by
  intro ha
  obtain ⟨m, hm⟩ := h.outcome
  obtain ⟨m', hm'⟩ := ha.outcome
  rw [hm] at hm'
  cases hm'

theorem fetch_explained (hq : Quiet account.lib) (hf : fetch account partner session = (.error e, w)) :
    Explained account e w :=
  (asyncGetVpnConnections_yields hq).error hf

/-- The last exchange of a failing fetch tells how the poll is treated. -/
theorem failed_poll (env : Env) (hass : Hass) (c : Coordinator.State) (now later : ℚ)
    (hq : Quiet account.lib)
    (hfails : (fetch account partner session).1.toBool = false) :
    ∃ x ∈ (fetch account partner session).2.trace.head?,
      ((misread account.host x || invalidSidAnswer account.lib x) = true ∧
        AsAuthentication env hass c
          (pollThroughSession env account partner hass c session now later)) ∨
      ((misread account.host x || invalidSidAnswer account.lib x) = false ∧
        AsOutage env c (pollThroughSession env account partner hass c session now later)) := by
  rcases hf : fetch account partner session with ⟨e | connections, w⟩
  · obtain ⟨hos, x, rest, hw, ha⟩ := fetch_explained hq hf
    refine ⟨x, by rw [hw]; rfl, ?_⟩
    have hraised := authRaised_eq hos
    cases hauth : isAuthError e with
    | true =>
        rw [hauth] at hraised ha
        exact Or.inl ⟨ha.symm, asAuthentication_of_error hf hraised⟩
    | false =>
        rw [hauth] at hraised ha
        exact Or.inr ⟨ha.symm, asOutage_of_error hf hraised hauth⟩
  · rw [hf] at hfails
    cases hfails

theorem asAuthentication_of_misread (hq : Quiet account.lib)
    (hfails : (fetch account partner session).1.toBool = false)
    (hlast : ∀ x ∈ (fetch account partner session).2.trace.head?, misread account.host x = true) :
    AsAuthentication env hass c
      (pollThroughSession env account partner hass c session now later) := by
  obtain ⟨x, hx, ⟨_, has⟩ | ⟨hno, _⟩⟩ := failed_poll env hass c now later hq hfails
  · exact has
  · rw [hlast x hx] at hno
    cases hno

/-- A failed poll is classified rightly exactly when some login POST was answered
with an invalid SID, or the last exchange is none that is misread. -/
theorem rightlyClassified_iff_not_misread (hq : Quiet account.lib)
    (hfails : (fetch account partner session).1.toBool = false) :
    RightlyClassified env account.lib hass c
        (pollThroughSession env account partner hass c session now later) ↔
      InvalidSidAnswered account.lib (fetch account partner session).2.trace ∨
        ∀ x ∈ (fetch account partner session).2.trace.head?, misread account.host x = false := by
  obtain ⟨x, hx, ⟨hyes, has⟩ | ⟨hno, hout⟩⟩ := failed_poll env hass c now later hq hfails
  · constructor
    · intro h
      exact Or.inl (h.1 has)
    · rintro (hsid | hlast)
      · exact ⟨fun _ => hsid, fun hn => absurd has hn⟩
      · rw [hlast x hx, Bool.false_or] at hyes
        refine ⟨fun _ => ⟨x, ?_, hyes⟩, fun hn => absurd has hn⟩
        exact List.mem_of_mem_head? hx
  · constructor
    · intro _
      refine Or.inr fun y hy => ?_
      rw [Option.mem_unique hy hx]
      exact (Bool.or_eq_false_iff.mp hno).1
    · intro _
      exact ⟨fun has => absurd has hout.not_asAuthentication, fun _ => hout⟩

end Polls

def textAfter (tag : List Char) : List Char → Option (List Char)
  | [] => none
  | c :: rest =>
      if tag.isPrefixOf (c :: rest) then
        some (((c :: rest).drop tag.length).takeWhile (· != '<'))
      else textAfter tag rest

def flatLibrary : Library where
  parseXml content := some fun tag =>
    (textAfter ("<" ++ tag ++ ">").toList content.toList).map String.ofList
  loads _ := .error (jsonDecodeError "Expecting value: line 1 column 1 (char 0)")
  repr _ := ""
  pbkdf2Hmac _ _ _ := .ok ⟨#[]⟩
  md5Hexdigest _ := "d41d8cd98f00b204e9800998ecf8427e"
  sleep _ := .ok ()

theorem flatLibrary_quiet : Quiet flatLibrary where
  loads := by
    intro content e h
    rw [← Except.error.inj h]
    exact ⟨rfl, by decide +kernel⟩
  pbkdf2Hmac := fun _ _ _ _ h => by cases h
  sleep := fun _ _ h => by cases h

def officeAccount : Account := ⟨"fritz.box", "admin", "secret", flatLibrary⟩

def startingBox : Partner Request Answer
  | _, .login _ _ _ _ => .ok ⟨503, "text/html", .ok "Service Unavailable"⟩
  | _, _ => .ok ⟨200, "text/xml", .ok
      "<SessionInfo><SID>0000000000000000</SID><Challenge>1234567z</Challenge></SessionInfo>"⟩

def deadBox : Partner Request Answer := fun _ _ =>
  .error ⟨clientConnectorError
    "Cannot connect to host fritz.box:443 ssl:False [Connect call failed]", rfl⟩

/-- The box answered no login POST with a SID, yet the user is asked for the password. -/
theorem startingBox_misread : ¬RightlyClassified memoryEnv flatLibrary (officeSwitch "a") {}
    (pollThroughSession memoryEnv officeAccount startingBox (officeSwitch "a") {} {} 0 0) := by
  intro h
  have has : AsAuthentication memoryEnv (officeSwitch "a") {}
      (pollThroughSession memoryEnv officeAccount startingBox (officeSwitch "a") {} {} 0 0) :=
    asAuthentication_of_misread flatLibrary_quiet (by decide +kernel) (by decide +kernel)
  obtain ⟨x, hx, hsid⟩ := h.1 has
  have hnone : (fetch officeAccount startingBox {}).2.trace.all
      (fun x => !invalidSidAnswer flatLibrary x) = true := by
    decide +kernel
  have hno := List.all_eq_true.mp hnone x hx
  rw [hsid] at hno
  cases hno

theorem deadBox_rightlyClassified : RightlyClassified memoryEnv flatLibrary (officeSwitch "a") {}
    (pollThroughSession memoryEnv officeAccount deadBox (officeSwitch "a") {} {} 0 0) := by
  apply (rightlyClassified_iff_not_misread flatLibrary_quiet (by decide +kernel)).mpr
  exact Or.inr (by decide +kernel)

end FritzboxVpn.FailedPolls
