import FritzboxVpn.LoginRace
import FritzboxVpn.Notes

namespace FritzboxVpn.BlockTime

open Constants Exceptions FailedPolls FetchErrors Interaction Interaction.Program LoginRace Notes
  Parsing SessionRequests Text
open Session (Account Answer Library Request Response calculatePbkdf2Response md5Response validSid
  fetchLoginPage getLoginPageHttp handleLoginError handleLoginPageError handleLoginPageHttpError
  isTransport loginPageError loginViaMd5 postMd5 postPbkdf2 readText send)

structure Sleep where
  made : Nat
  seconds : Int
deriving DecidableEq

abbrev TimedWorld : Type := World (Session.State × List Sleep) Request Answer

/-- The login of the session once more, with its pauses noted down. -/
abbrev TimedM (β : Type) : Type := Program (Session.State × List Sleep) Request Answer PyError β

def waitBlocktime (lib : Library) (content : String) : TimedM Unit :=
  match parseBlocktimeFromLoginXml lib.parseXml content with
  | none => pure ()
  | some blocktime =>
      if blocktime > 0 then do
        ended (lib.sleep blocktime)
        note fun trace sleeps => ⟨trace.length, blocktime⟩ :: sleeps
      else pure ()

def tryGetSessionViaPbkdf2 (account : Account) : TimedM (Option String) := do
  let content ← silently (fetchLoginPage account true)
  if content = "" then pure none
  else
    match parseChallengeFromLoginXml account.lib.parseXml content with
    | none => pure none
    | some challenge =>
        if startsWith "2$" challenge = false then pure none
        else do
          waitBlocktime account.lib content
          let response ← ended (calculatePbkdf2Response account.lib challenge account.password)
          let content ← silently (postPbkdf2 account response)
          pure (content.bind (validSid account.lib))

def asyncGetSession (account : Account) : TimedM String := do
  let s ← silently read
  match s.sid with
  | some sid => pure sid
  | none => do
      let sid ← tryCatch (tryGetSessionViaPbkdf2 account) fun err =>
        if err.isValueError then pure none else throw err
      match sid with
      | some sid => do
          silently (update fun s => { s with sid := some sid })
          pure sid
      | none => silently (loginViaMd5 account)

def servedPage (version2 : Bool) (x : Exchange) : Option String :=
  if isLoginPage x.1 && ofVersion version2 x.1 then pageText x.2 else none

def lastPage (version2 : Bool) : List Exchange → Option (String × Nat)
  | [] => none
  | x :: earlier =>
      match servedPage version2 x with
      | some content => some (content, earlier.length + 1)
      | none => lastPage version2 earlier

def slept (sleeps : List Sleep) (start stop : Nat) : Int :=
  (sleeps.filter fun sleep => start ≤ sleep.made && sleep.made ≤ stop).foldr
    (fun sleep total => sleep.seconds + total) 0

def challengeResponse (account : Account) (version2 : Bool) (challenge : String) :
    Except PyError String :=
  if version2 then calculatePbkdf2Response account.lib challenge account.password
  else .ok (md5Response account.lib challenge account.password)

/-- The response of a login POST is worked out from the challenge of the last page,
and since that page the session has slept for its BlockTime. -/
def Waited (account : Account) (sleeps : List Sleep) (version2 : Bool) (response : String)
    (earlier : List Exchange) : Prop :=
  ∃ content start challenge, lastPage version2 earlier = some (content, start) ∧
    parseChallengeFromLoginXml account.lib.parseXml content = some challenge ∧
    challengeResponse account version2 challenge = .ok response ∧
    ∀ blocktime, parseBlocktimeFromLoginXml account.lib.parseXml content = some blocktime →
      0 < blocktime → blocktime ≤ slept sleeps start earlier.length

def Respected (account : Account) (sleeps : List Sleep) (trace : List Exchange) : Prop :=
  ∀ protocol version2 username response a earlier,
    (Request.login protocol version2 username response, a) :: earlier <:+ trace →
      Waited account sleeps version2 response earlier

def asksToWait (lib : Library) (content : String) : Bool :=
  content ≠ "" && (parseChallengeFromLoginXml lib.parseXml content).getD "" ≠ "" &&
    (parseBlocktimeFromLoginXml lib.parseXml content).any (0 < ·)

def unheeded (lib : Library) (x : Exchange) : Bool := (servedPage false x).any (asksToWait lib)

section Forgetting

theorem forgets_waitBlocktime (lib : Library) (content : String) :
    Forgets (waitBlocktime lib content) (Session.waitBlocktime lib content) := by
  rw [waitBlocktime, Session.waitBlocktime]
  cases parseBlocktimeFromLoginXml lib.parseXml content with
  | none => exact forgets_pure ()
  | some blocktime =>
      by_cases hb : blocktime > 0
      · simp only [if_pos hb]
        exact (forgets_ended _).then_note _
      · simp only [if_neg hb]
        exact forgets_pure ()

theorem forgets_tryGetSessionViaPbkdf2 (account : Account) :
    Forgets (tryGetSessionViaPbkdf2 account) (Session.tryGetSessionViaPbkdf2 account) := by
  apply (forgets_silently _).bind
  intro content
  by_cases hc : content = ""
  · rw [if_pos hc, if_pos hc]
    exact forgets_pure none
  rw [if_neg hc, if_neg hc]
  cases parseChallengeFromLoginXml account.lib.parseXml content with
  | none => exact forgets_pure none
  | some challenge =>
      by_cases h2 : startsWith "2$" challenge = false
      · simp only [if_pos h2]
        exact forgets_pure none
      · simp only [if_neg h2]
        apply (forgets_waitBlocktime _ _).bind
        intro _
        apply (forgets_ended _).bind
        intro response
        exact (forgets_silently _).bind fun _ => forgets_pure _

/-- Without the notes it is the login of the session. -/
theorem forgets_asyncGetSession (account : Account) :
    Forgets (asyncGetSession account) (Session.asyncGetSession account) := by
  apply (forgets_silently read).bind
  intro s
  cases s.sid with
  | some sid => exact forgets_pure sid
  | none =>
      apply Forgets.bind
      · apply (forgets_tryGetSessionViaPbkdf2 account).tryCatch
        intro e
        cases e.isValueError with
        | true => exact forgets_pure none
        | false => exact forgets_throw e
      · intro sid
        cases sid with
        | some sid => exact (forgets_silently _).bind fun _ => forgets_pure sid
        | none => exact forgets_silently _

end Forgetting

structure Paged (version2 : Bool) (content : Option String) (x : Exchange) : Prop where
  page : isLoginPage x.1 = true
  version : ofVersion version2 x.1 = true
  text : pageText x.2 = content

def Unserved (version2 : Bool) (base trace : List Exchange) : Prop :=
  ∃ made, trace = made ++ base ∧ ∀ x ∈ made, Paged version2 none x

def Served (version2 : Bool) (content : String) (base trace : List Exchange) : Prop :=
  ∃ x earlier, trace = x :: earlier ∧ Paged version2 (some content) x ∧ Unserved version2 base earlier

def OnlyPages (version2 : Bool) (base trace : List Exchange) : Prop :=
  ∃ made, trace = made ++ base ∧
    ∀ x ∈ made, isLoginPage x.1 = true ∧ ofVersion version2 x.1 = true

section Pages

variable {account : Account} {partner : Partner Request Answer} {w w' : SessionWorld}
  {version2 : Bool} {base trace : List Exchange} {x : Exchange}

theorem unserved_refl (version2 : Bool) (base : List Exchange) : Unserved version2 base base :=
  ⟨[], rfl, fun _ hx => absurd hx List.not_mem_nil⟩

theorem Unserved.cons (h : Unserved version2 base trace) (hx : Paged version2 none x) :
    Unserved version2 base (x :: trace) := by
  obtain ⟨made, rfl, hmade⟩ := h
  exact ⟨x :: made, rfl, List.forall_mem_cons.mpr ⟨hx, hmade⟩⟩

theorem pageText_of_status {response : Response} (h : response.status ≠ httpStatusOk) :
    pageText (.ok response) = none :=
  if_neg h

theorem pageText_of_body {response : Response} {e : Session.TransportError}
    (h : response.body = .error e) : pageText (.ok response) = none := by
  rw [pageText, h]
  exact ite_self _

theorem pageText_of_content {response : Response} {content : String}
    (hs : response.status = httpStatusOk) (h : response.body = .ok content) :
    pageText (.ok response) = some content := by
  rw [pageText, if_pos hs, h]
  rfl

theorem trace_of_adds (h : Adds (fun _ : Request => False) w w') : w'.trace = w.trace := by
  obtain ⟨made, ht, hmade⟩ := h
  rw [ht, List.eq_nil_iff_forall_not_mem.mpr hmade, List.nil_append]

theorem handleLoginPageHttpError_unserved {ok : String → SessionWorld → Prop}
    (h : Unserved version2 base w.trace) (e : PyError) :
    Yields partner w (handleLoginPageHttpError account e) ok
      (fun _ w' => Unserved version2 base w'.trace) := by
  rw [handleLoginPageHttpError]
  split
  · exact yields_throw.mpr h
  · split <;> exact yields_throw.mpr h

theorem getLoginPageHttp_serves (h : Unserved version2 base w.trace) :
    Yields partner w (getLoginPageHttp account version2)
      (fun content w' => Served version2 content base w'.trace)
      (fun _ w' => Unserved version2 base w'.trace) := by
  have hversion : ofVersion version2 (.loginPageHttp version2) = true := beq_self_eq_true version2
  rw [getLoginPageHttp, yields_bind, yields_tryCatch, yields_bind]
  apply send_yields
  · intro response
    by_cases hs : response.status = httpStatusOk
    · rw [if_neg (not_not.mpr hs)]
      apply readText_yields
      · intro content hb
        rw [yields_bind, yields_update, yields_pure]
        exact ⟨_, _, rfl, ⟨rfl, hversion, pageText_of_content hs hb⟩, h⟩
      · intro e hb
        apply handleLoginPageHttpError_unserved
        exact h.cons ⟨rfl, hversion, pageText_of_body hb⟩
    · rw [if_pos hs, yields_throw]
      apply handleLoginPageHttpError_unserved
      exact h.cons ⟨rfl, hversion, pageText_of_status hs⟩
  · intro e
    apply handleLoginPageHttpError_unserved
    exact h.cons ⟨rfl, hversion, rfl⟩

theorem handleLoginPageError_serves (h : Unserved version2 base w.trace) (e : PyError) :
    Yields partner w (handleLoginPageError account version2 e)
      (fun content w' => Served version2 content base w'.trace)
      (fun _ w' => Unserved version2 base w'.trace) := by
  rw [handleLoginPageError, yields_bind, yields_read]
  split
  · split
    · exact yields_throw.mpr h
    · exact getLoginPageHttp_serves h
  · exact yields_throw.mpr h

theorem fetchLoginPage_serves (version2 : Bool) :
    Yields partner w (fetchLoginPage account version2)
      (fun content w' => Served version2 content w.trace w'.trace)
      (fun _ w' => Unserved version2 w.trace w'.trace) := by
  have hbase := unserved_refl version2 w.trace
  have hversion : ofVersion version2 (.loginPage w.state.protocol version2) = true :=
    beq_self_eq_true version2
  rw [fetchLoginPage, yields_bind, yields_read, yields_tryCatch, yields_bind]
  apply send_yields
  · intro response
    by_cases hs : response.status = httpStatusOk
    · rw [if_pos hs]
      apply readText_yields
      · intro content hb
        exact ⟨_, _, rfl, ⟨rfl, hversion, pageText_of_content hs hb⟩, hbase⟩
      · intro e hb
        apply handleLoginPageError_serves
        exact hbase.cons ⟨rfl, hversion, pageText_of_body hb⟩
    · have hrefused := hbase.cons (x := (.loginPage w.state.protocol version2, .ok response))
        ⟨rfl, hversion, pageText_of_status hs⟩
      rw [if_neg hs]
      split
      · -- The fallback failed, and the handler may fall back once more.
        refine (getLoginPageHttp_serves hrefused).mono (fun _ _ h => h) ?_
        exact fun e w' hw' => handleLoginPageError_serves hw' e
      · exact yields_throw.mpr (handleLoginPageError_serves hrefused _)
  · intro e
    apply handleLoginPageError_serves
    exact hbase.cons ⟨rfl, hversion, rfl⟩

theorem post_once {β : Type} {r : Request} {p : Response → Session.SessionM β}
    (hp : ∀ response, Asks (fun _ => False) (p response)) :
    Yields partner w (tryCatch (send r >>= p) (handleLoginError account))
      (fun _ w' => ∃ a, w'.trace = (r, a) :: w.trace)
      (fun _ w' => ∃ a, w'.trace = (r, a) :: w.trace) := by
  have caught : ∀ e w', (∃ a, w'.trace = (r, a) :: w.trace) →
      Yields partner w' (handleLoginError account e : Session.SessionM β)
        (fun _ w' => ∃ a, w'.trace = (r, a) :: w.trace)
        (fun _ w' => ∃ a, w'.trace = (r, a) :: w.trace) := by
    rintro e w' ⟨a, ha⟩
    have hasks : Asks (fun _ => False) (handleLoginError account e : Session.SessionM β) :=
      handleLoginError_asks e
    exact hasks.yields.mono (fun _ _ h => ⟨a, (trace_of_adds h).trans ha⟩) fun _ _ h =>
      ⟨a, (trace_of_adds h).trans ha⟩
  rw [yields_tryCatch, yields_bind]
  apply send_yields
  · intro response
    refine (hp response).yields.mono (fun _ _ h => ⟨_, trace_of_adds h⟩) ?_
    exact fun e w' h => caught e w' ⟨_, trace_of_adds h⟩
  · exact fun e => caught e.val _ ⟨_, rfl⟩

theorem postPbkdf2_posts (response : String) :
    Yields partner w (postPbkdf2 account response)
      (fun _ w' => ∃ a, w'.trace =
        (.login w.state.protocol true account.username response, a) :: w.trace)
      (fun _ w' => ∃ a, w'.trace =
        (.login w.state.protocol true account.username response, a) :: w.trace) := by
  rw [postPbkdf2, yields_bind, yields_read]
  apply post_once
  intro answered
  split
  · exact asks_pure
  · exact (readText_asks answered).bind fun _ => asks_pure

theorem postMd5_posts (response : String) :
    Yields partner w (postMd5 account response)
      (fun _ w' => ∃ a, w'.trace =
        (.login w.state.protocol false account.username response, a) :: w.trace)
      (fun _ w' => ∃ a, w'.trace =
        (.login w.state.protocol false account.username response, a) :: w.trace) := by
  rw [postMd5, yields_bind, yields_read]
  apply post_once
  intro answered
  split
  · exact asks_throw
  · exact readText_asks answered

end Pages

section Waiting

variable {account : Account} {sleeps : List Sleep} {version2 : Bool} {trace base : List Exchange}
  {x : Exchange} {content : String}

theorem lastPage_cons (h : Paged version2 (some content) x) :
    lastPage version2 (x :: trace) = some (content, trace.length + 1) := by
  have hserved : servedPage version2 x = some content := by
    rw [servedPage, h.page, h.version, h.text]
    rfl
  rw [lastPage, hserved]

theorem respected_cons_of_page (h : isLoginPage x.1 = true) :
    Respected account sleeps (x :: trace) ↔ Respected account sleeps trace := by
  constructor
  · intro hall protocol v username response a earlier hs
    exact hall protocol v username response a earlier (hs.trans (List.suffix_cons x trace))
  · intro hall protocol v username response a earlier hs
    rcases List.suffix_cons_iff.mp hs with heq | hs
    · obtain ⟨rfl, -⟩ := List.cons.inj heq
      cases h
    · exact hall protocol v username response a earlier hs

theorem respected_cons_of_post {protocol : Session.Protocol} {username response : String} {a : Answer} :
    Respected account sleeps ((.login protocol version2 username response, a) :: trace) ↔
      Waited account sleeps version2 response trace ∧ Respected account sleeps trace := by
  constructor
  · intro hall
    refine ⟨hall _ _ _ _ _ _ (List.suffix_refl _), ?_⟩
    intro protocol v username response a earlier hs
    exact hall protocol v username response a earlier (hs.trans (List.suffix_cons _ trace))
  · rintro ⟨hwaited, hall⟩ protocol v username response a earlier hs
    rcases List.suffix_cons_iff.mp hs with heq | hs
    · cases heq
      exact hwaited
    · exact hall protocol v username response a earlier hs

theorem Unserved.onlyPages (h : Unserved version2 base trace) : OnlyPages version2 base trace := by
  obtain ⟨made, rfl, hmade⟩ := h
  exact ⟨made, rfl, fun x hx => ⟨(hmade x hx).page, (hmade x hx).version⟩⟩

theorem Served.onlyPages (h : Served version2 content base trace) : OnlyPages version2 base trace := by
  obtain ⟨x, earlier, rfl, hx, hunserved⟩ := h
  obtain ⟨made, rfl, hmade⟩ := hunserved.onlyPages
  exact ⟨x :: made, rfl, List.forall_mem_cons.mpr ⟨⟨hx.page, hx.version⟩, hmade⟩⟩

theorem respected_of_onlyPages (h : OnlyPages version2 base trace) :
    Respected account sleeps trace ↔ Respected account sleeps base := by
  obtain ⟨made, rfl, hmade⟩ := h
  induction made with
  | nil => exact Iff.rfl
  | cons x made ih =>
      obtain ⟨hx, hrest⟩ := List.forall_mem_cons.mp hmade
      rw [List.cons_append, respected_cons_of_page hx.1, ih hrest]

theorem respected_nil (account : Account) (sleeps : List Sleep) : Respected account sleeps [] :=
  fun _ _ _ _ _ _ hs => absurd (List.suffix_nil.mp hs) (List.cons_ne_nil _ _)

theorem slept_of_earlier {start : Nat} (stop : Nat) (h : ∀ sleep ∈ sleeps, sleep.made < start) :
    slept sleeps start stop = 0 := by
  have hnone : sleeps.filter (fun sleep => start ≤ sleep.made && sleep.made ≤ stop) = [] := by
    apply List.filter_eq_nil_iff.mpr
    intro sleep hsleep
    have hlt := h sleep hsleep
    simp only [Bool.and_eq_true, decide_eq_true_eq]
    omega
  rw [slept, hnone]
  rfl

end Waiting

def pauses (lib : Library) (content : String) (made : Nat) : List Sleep :=
  match parseBlocktimeFromLoginXml lib.parseXml content with
  | none => []
  | some blocktime => if blocktime > 0 then [⟨made, blocktime⟩] else []

structure Patient (account : Account) (w : TimedWorld) : Prop where
  versions : ∀ x ∈ w.trace, ofVersion true x.1 = true
  respected : Respected account w.state.2 w.trace
  past : ∀ sleep ∈ w.state.2, sleep.made ≤ w.trace.length

section Pbkdf2

variable {account : Account} {partner : Partner Request Answer} {v : SessionWorld}
  {sleeps : List Sleep} {content : String}

theorem mem_pauses {lib : Library} {made : Nat} {sleep : Sleep}
    (h : sleep ∈ pauses lib content made) : sleep.made = made := by
  rw [pauses] at h
  split at h
  · cases h
  · split at h
    · rw [List.mem_singleton.mp h]
    · cases h

theorem slept_pauses {lib : Library} (made : Nat) {blocktime : Int}
    (h : parseBlocktimeFromLoginXml lib.parseXml content = some blocktime) (hpos : 0 < blocktime) :
    slept (pauses lib content made) made made = blocktime := by
  have hone : pauses lib content made = [⟨made, blocktime⟩] := by
    rw [pauses, h]
    exact if_pos hpos
  rw [hone]
  simp [slept]

theorem waitBlocktime_notes (content : String) :
    Yields partner (noted v []) (waitBlocktime account.lib content)
      (fun _ w' => w' = noted v (pauses account.lib content v.trace.length))
      (fun _ w' => w' = noted v []) := by
  rw [waitBlocktime, pauses]
  cases parseBlocktimeFromLoginXml account.lib.parseXml content with
  | none => exact yields_pure.mpr rfl
  | some blocktime =>
      by_cases hb : blocktime > 0
      · simp only [if_pos hb, yields_bind, yields_ended, yields_note]
        cases account.lib.sleep blocktime with
        | ok _ => rfl
        | error e => trivial
      · simp only [if_neg hb]
        exact yields_pure.mpr rfl

theorem patient_of_onlyPages (h : OnlyPages true [] v.trace)
    (hpast : ∀ sleep ∈ sleeps, sleep.made ≤ v.trace.length) : Patient account (noted v sleeps) where
  versions := by
    obtain ⟨made, ht, hmade⟩ := h
    intro x hx
    rw [noted_trace, ht, List.append_nil] at hx
    exact (hmade x hx).2
  respected := (respected_of_onlyPages h).mpr (respected_nil account sleeps)
  past := hpast

theorem patient_of_post {v' : SessionWorld} {protocol : Session.Protocol}
    {challenge response username : String} {a : Answer} (h : Served true content [] v.trace)
    (hchallenge : parseChallengeFromLoginXml account.lib.parseXml content = some challenge)
    (hresponse : calculatePbkdf2Response account.lib challenge account.password = .ok response)
    (ht : v'.trace = (.login protocol true username response, a) :: v.trace) :
    Patient account (noted v' (pauses account.lib content v.trace.length)) where
  versions := by
    have hpages : Patient account (noted v []) :=
      patient_of_onlyPages h.onlyPages fun _ hsleep => absurd hsleep List.not_mem_nil
    rw [noted_trace, ht]
    exact List.forall_mem_cons.mpr ⟨rfl, hpages.versions⟩
  respected := by
    simp only [noted_state, noted_trace, ht]
    apply respected_cons_of_post.mpr
    refine ⟨?_, (respected_of_onlyPages h.onlyPages).mpr (respected_nil account _)⟩
    obtain ⟨x, earlier, hv, hx, -⟩ := h
    rw [hv, List.length_cons]
    refine ⟨content, earlier.length + 1, challenge, lastPage_cons hx, hchallenge, hresponse, ?_⟩
    intro blocktime hb hpos
    rw [List.length_cons, slept_pauses _ hb hpos]
  past := by
    simp only [noted_state, noted_trace, ht, List.length_cons]
    intro sleep hsleep
    rw [mem_pauses hsleep]
    omega

theorem tryGetSessionViaPbkdf2_patient (s : Session.State) :
    Yields partner ⟨(s, []), []⟩ (tryGetSessionViaPbkdf2 account) (fun _ w' => Patient account w')
      (fun _ w' => Patient account w') := by
  have pages : ∀ v, OnlyPages true [] v.trace → Patient account (noted v []) := fun v h =>
    patient_of_onlyPages h fun _ hsleep => absurd hsleep List.not_mem_nil
  rw [tryGetSessionViaPbkdf2, yields_bind, yields_silently]
  refine (fetchLoginPage_serves true).mono ?_ fun _ v h => pages v h.onlyPages
  intro content v hserved
  have hpages := pages v hserved.onlyPages
  by_cases hc : content = ""
  · rw [if_pos hc]
    exact yields_pure.mpr hpages
  rw [if_neg hc]
  cases hchallenge : parseChallengeFromLoginXml account.lib.parseXml content with
  | none => exact yields_pure.mpr hpages
  | some challenge =>
      by_cases h2 : startsWith "2$" challenge = false
      · simp only [if_pos h2]
        exact yields_pure.mpr hpages
      simp only [if_neg h2, yields_bind]
      refine (waitBlocktime_notes content).mono ?_ fun _ _ h => h ▸ hpages
      rintro _ _ rfl
      rw [yields_ended]
      cases hresponse : calculatePbkdf2Response account.lib challenge account.password with
      | error e =>
          exact patient_of_onlyPages hserved.onlyPages fun sleep hsleep => (mem_pauses hsleep).le
      | ok response =>
          simp only [yields_silently, yields_pure, unnoted_noted, noted_state]
          refine (postPbkdf2_posts response).mono ?_ ?_
          · rintro _ v' ⟨a, ha⟩
            exact patient_of_post hserved hchallenge hresponse ha
          · rintro _ v' ⟨a, ha⟩
            exact patient_of_post hserved hchallenge hresponse ha

end Pbkdf2

def Told (account : Account) (w : TimedWorld) : Prop :=
  Respected account w.state.2 w.trace ↔ ∀ x ∈ w.trace, unheeded account.lib x = false

section Md5

variable {account : Account} {partner : Partner Request Answer} {v v' : SessionWorld}
  {sleeps : List Sleep} {content challenge : String} {x : Exchange} {earlier : List Exchange}

theorem unheeded_of_version {lib : Library} (h : ofVersion true x.1 = true) :
    unheeded lib x = false := by
  have hother : ofVersion false x.1 = false := by
    obtain ⟨r, a⟩ := x
    cases r with
    | loginPage protocol v => cases v <;> first | rfl | cases h
    | loginPageHttp v => cases v <;> first | rfl | cases h
    | login protocol v username response => cases v <;> first | rfl | cases h
    | _ => rfl
  rw [unheeded, servedPage, hother, Bool.and_false]
  rfl

theorem unheeded_of_paged {lib : Library} {text : Option String} (h : Paged false text x) :
    unheeded lib x = text.any (asksToWait lib) := by
  rw [unheeded, servedPage, h.page, h.version, h.text]
  rfl

theorem Patient.told {w : TimedWorld} (h : Patient account w) : Told account w :=
  iff_of_true h.respected fun x hx => unheeded_of_version (h.versions x hx)

theorem Patient.unheeded_of_unserved (h : Patient account (noted v sleeps))
    (hv : Unserved false v.trace earlier) : ∀ x ∈ earlier, unheeded account.lib x = false := by
  obtain ⟨made, rfl, hmade⟩ := hv
  intro x hx
  rcases List.mem_append.mp hx with hx | hx
  · exact unheeded_of_paged (hmade x hx)
  · exact unheeded_of_version (h.versions x hx)

theorem told_of_unserved (h : Patient account (noted v sleeps))
    (hv : Unserved false v.trace v'.trace) : Told account (noted v' sleeps) :=
  iff_of_true ((respected_of_onlyPages hv.onlyPages).mpr h.respected) (h.unheeded_of_unserved hv)

theorem told_of_served (h : Patient account (noted v sleeps))
    (hv : Served false content v.trace v'.trace) (hno : asksToWait account.lib content = false) :
    Told account (noted v' sleeps) := by
  refine iff_of_true ((respected_of_onlyPages hv.onlyPages).mpr h.respected) ?_
  obtain ⟨x, earlier, ht, hx, hunserved⟩ := hv
  rw [noted_trace, ht]
  exact List.forall_mem_cons.mpr
    ⟨(unheeded_of_paged hx).trans hno, h.unheeded_of_unserved hunserved⟩

/-- A POST of the MD5 login comes right after its page. -/
theorem waited_iff (hx : Paged false (some content) x) (hc : content ≠ "")
    (hchallenge : parseChallengeFromLoginXml account.lib.parseXml content = some challenge)
    (hne : challenge ≠ "") (hpast : ∀ sleep ∈ sleeps, sleep.made ≤ earlier.length) :
    Waited account sleeps false (md5Response account.lib challenge account.password) (x :: earlier) ↔
      unheeded account.lib x = false := by
  have hzero : slept sleeps (earlier.length + 1) (x :: earlier).length = 0 :=
    slept_of_earlier _ fun sleep hsleep => Nat.lt_succ_of_le (hpast sleep hsleep)
  have hasks : unheeded account.lib x =
      (parseBlocktimeFromLoginXml account.lib.parseXml content).any (0 < ·) := by
    rw [unheeded_of_paged hx, Option.any_some, asksToWait, hchallenge]
    simp [hc, hne]
  rw [hasks, Option.any_eq_false]
  constructor
  · rintro ⟨content', start, challenge', hlast, -, -, hwait⟩ blocktime hb
    rw [lastPage_cons hx] at hlast
    cases hlast
    have hle := hwait blocktime hb
    rw [hzero] at hle
    rw [decide_eq_false_iff_not]
    intro hpos
    have hnot := hle hpos
    omega
  · intro hnone
    refine ⟨content, earlier.length + 1, challenge, lastPage_cons hx, hchallenge, rfl, ?_⟩
    intro blocktime hb hpos
    have hno := hnone blocktime hb
    rw [decide_eq_true hpos] at hno
    cases hno

theorem told_of_post {protocol : Session.Protocol} {username : String} {a : Answer}
    {v'' : SessionWorld} (h : Patient account (noted v sleeps))
    (hv : Served false content v.trace v'.trace) (hc : content ≠ "")
    (hchallenge : parseChallengeFromLoginXml account.lib.parseXml content = some challenge)
    (hne : challenge ≠ "")
    (ht : v''.trace = (.login protocol false username
      (md5Response account.lib challenge account.password), a) :: v'.trace) :
    Told account (noted v'' sleeps) := by
  have hpages : Respected account sleeps v'.trace :=
    (respected_of_onlyPages hv.onlyPages).mpr h.respected
  obtain ⟨x, earlier, hv', hx, hunserved⟩ := hv
  have hpast : ∀ sleep ∈ sleeps, sleep.made ≤ earlier.length := by
    obtain ⟨made, rfl, -⟩ := hunserved
    intro sleep hsleep
    have hle : sleep.made ≤ v.trace.length := h.past sleep hsleep
    rw [List.length_append]
    omega
  rw [Told, noted_state, noted_trace, ht, respected_cons_of_post, and_iff_left hpages, hv',
    waited_iff hx hc hchallenge hne hpast, List.forall_mem_cons, List.forall_mem_cons]
  constructor
  · exact fun hno => ⟨rfl, hno, h.unheeded_of_unserved hunserved⟩
  · exact fun hall => hall.2.1

theorem loginViaMd5_told (h : Patient account (noted v sleeps)) :
    Yields partner (noted v sleeps) (silently (loginViaMd5 account)) (fun _ w' => Told account w')
      (fun _ w' => Told account w') := by
  rw [yields_silently, loginViaMd5_eq, yields_bind, md5Page, yields_tryCatch, unnoted_noted]
  refine (fetchLoginPage_serves false).mono ?_ ?_
  · intro content v' hserved
    rw [md5With]
    by_cases hc : content = ""
    · rw [if_pos hc, yields_throw]
      apply told_of_served h hserved
      rw [asksToWait, hc]
      rfl
    rw [if_neg hc]
    by_cases hne : (parseChallengeFromLoginXml account.lib.parseXml content).getD "" = ""
    · simp only [if_pos hne, yields_throw]
      apply told_of_served h hserved
      simp [asksToWait, hne]
    simp only [if_neg hne, yields_bind]
    obtain ⟨challenge, hchallenge⟩ : ∃ challenge,
        parseChallengeFromLoginXml account.lib.parseXml content = some challenge := by
      apply Option.ne_none_iff_exists'.mp
      intro hnone
      rw [hnone] at hne
      exact hne rfl
    simp only [hchallenge, Option.getD_some] at hne ⊢
    refine (postMd5_posts _).mono ?_ ?_
    · rintro content' v'' ⟨a, ha⟩
      have htold : ∀ s, Told account (noted ⟨s, v''.trace⟩ sleeps) := fun s =>
        told_of_post h hserved hc hchallenge hne ha
      cases validSid account.lib content' with
      | none => exact yields_throw.mpr (htold v''.state)
      | some sid =>
          simp only [yields_bind, yields_update, yields_pure]
          exact htold _
    · rintro _ v'' ⟨a, ha⟩
      exact told_of_post h hserved hc hchallenge hne ha
  · intro e v' hunserved
    split <;> exact yields_throw.mpr (told_of_unserved h hunserved)

theorem asyncGetSession_told (account : Account) (partner : Partner Request Answer)
    (s : Session.State) : Told account (asyncGetSession account partner ⟨(s, []), []⟩).2 := by
  have start : Patient account ⟨(s, []), []⟩ :=
    patient_of_onlyPages (v := ⟨s, []⟩) ⟨[], rfl, fun _ hx => absurd hx List.not_mem_nil⟩
      fun _ hsleep => absurd hsleep List.not_mem_nil
  have next : ∀ sid w, Patient account w → Yields partner w
      (match sid with
        | some sid => do
            silently (update fun s : Session.State => { s with sid := some sid })
            pure sid
        | none => silently (loginViaMd5 account))
      (fun _ w' => Told account w') (fun _ w' => Told account w') := by
    intro sid w h
    cases sid with
    | some sid =>
        simp only [yields_bind, yields_silently, yields_update, yields_pure]
        exact h.told
    | none =>
        obtain ⟨⟨s', sleeps⟩, trace⟩ := w
        exact loginViaMd5_told (v := ⟨s', trace⟩) h
  apply yields_world.mp
  rw [asyncGetSession, yields_bind, yields_silently, yields_read]
  cases hsid : s.sid with
  | some sid =>
      simp only [unnoted, hsid, yields_pure]
      exact start.told
  | none =>
      simp only [unnoted, hsid, yields_bind, yields_tryCatch]
      refine (tryGetSessionViaPbkdf2_patient s).mono (fun sid w h => next sid w h) ?_
      intro e w h
      by_cases hv : e.isValueError = true
      · rw [if_pos hv, yields_pure]
        exact next none w h
      · rw [if_neg hv, yields_throw]
        exact h.told

theorem asyncGetSession_trace (account : Account) (partner : Partner Request Answer)
    (s : Session.State) : (asyncGetSession account partner ⟨(s, []), []⟩).2.trace =
      (Session.asyncGetSession account partner ⟨s, []⟩).2.trace :=
  congrArg World.trace ((forgets_asyncGetSession account).world partner ⟨(s, []), []⟩)

end Md5

/-- Every login POST waits for the BlockTime of its page exactly when no page that
the MD5 login is served asks for it. -/
theorem respected_iff_noneUnheeded (account : Account) (partner : Partner Request Answer)
    (s : Session.State) :
    Respected account (asyncGetSession account partner ⟨(s, []), []⟩).2.state.2
        (Session.asyncGetSession account partner ⟨s, []⟩).2.trace ↔
      ∀ x ∈ (Session.asyncGetSession account partner ⟨s, []⟩).2.trace,
        unheeded account.lib x = false := by
  have htold := asyncGetSession_told account partner s
  rwa [Told, asyncGetSession_trace] at htold

def lockedBox : Partner Request Answer
  | _, .login _ _ _ _ => .ok ⟨200, "text/xml", .ok
      "<SessionInfo><SID>0000000000000000</SID></SessionInfo>"⟩
  | _, _ => .ok ⟨200, "text/xml", .ok
      "<SessionInfo><Challenge>1234567z</Challenge><BlockTime>60</BlockTime></SessionInfo>"⟩

/-- The POST is sent at once. -/
theorem lockedBox_unheeded :
    (asyncGetSession officeAccount lockedBox ⟨({}, []), []⟩).2.state.2 = [] ∧
    ¬Respected officeAccount (asyncGetSession officeAccount lockedBox ⟨({}, []), []⟩).2.state.2
      (Session.asyncGetSession officeAccount lockedBox ⟨{}, []⟩).2.trace := by
  refine ⟨by decide +kernel, fun h => ?_⟩
  rw [← asyncGetSession_trace] at h
  have hall := (asyncGetSession_told officeAccount lockedBox {}).mp h
  rw [asyncGetSession_trace] at hall
  have hsome : (Session.asyncGetSession officeAccount lockedBox ⟨{}, []⟩).2.trace.any
      (unheeded flatLibrary) = true := by
    decide +kernel
  obtain ⟨x, hx, hyes⟩ := List.any_eq_true.mp hsome
  have hno : unheeded flatLibrary x = false := hall x hx
  rw [hyes] at hno
  cases hno

end FritzboxVpn.BlockTime
