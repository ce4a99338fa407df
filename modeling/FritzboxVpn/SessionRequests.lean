import FritzboxVpn.Listings

namespace FritzboxVpn.SessionRequests

open Constants Exceptions FetchErrors Interaction Interaction.Program JsonValue Listings OrderedDict
  Parsing Session Text

def attemptsLogin : Request → Bool
  | .loginPage _ _ | .loginPageHttp _ | .login _ _ _ _ => true
  | _ => false

def isLoginPage : Request → Bool
  | .loginPage _ _ | .loginPageHttp _ => true
  | _ => false

def ofVersion (version2 : Bool) : Request → Bool
  | .loginPage _ v | .loginPageHttp v | .login _ v _ _ => v == version2
  | _ => false

def isPut : Request → Bool
  | .put _ _ _ _ => true
  | _ => false

section Silent

variable {S : Request → Prop} {account : Account} {β : Type}

theorem send_asks {r : Request} (h : S r) : Asks S (send r) := by
  apply (asks_request h).bind
  intro a
  cases a with
  | ok response => exact asks_pure
  | error e => exact asks_throw

theorem send_opens {r : Request} {w : SessionWorld} : Opens r (send r) w := by
  apply opens_request.bind (S := fun _ => True)
  intro a
  cases a with
  | ok response => exact asks_pure
  | error e => exact asks_throw

theorem readText_asks (response : Response) : Asks S (readText response) := by
  rw [readText]
  cases response.body with
  | ok content => exact asks_pure
  | error e => exact asks_throw

theorem raiseTransportError_asks (e : PyError) :
    Asks S (raiseTransportError account e : SessionM β) :=
  asks_update.bind fun _ => asks_throw

theorem handleLoginError_asks (e : PyError) : Asks S (handleLoginError account e : SessionM β) := by
  rw [handleLoginError]
  split
  · exact asks_throw
  · split
    · exact raiseTransportError_asks e
    · exact asks_throw

theorem handleListingError_asks (e : PyError) : Asks S (handleListingError account e : SessionM β) := by
  rw [handleListingError]
  split
  · exact raiseTransportError_asks e
  · exact asks_throw

theorem handleLoginPageHttpError_asks (e : PyError) :
    Asks S (handleLoginPageHttpError account e : SessionM β) := by
  rw [handleLoginPageHttpError]
  split
  · exact asks_throw
  · split <;> exact asks_throw

theorem validateVpnListingStatus_asks (response : Response) (source : String) :
    Asks S (validateVpnListingStatus response source) := by
  rw [validateVpnListingStatus]
  split
  · exact asks_throw
  · split
    · exact asks_update.bind fun _ => asks_throw
    · exact asks_pure

theorem missingJson_asks (requireJson : Bool) : Asks S (missingJson requireJson) := by
  cases requireJson with
  | true => exact asks_throw
  | false => exact asks_pure

theorem responseJsonDict_asks (lib : Library) (response : Response) (requireJson : Bool) :
    Asks S (responseJsonDict lib response requireJson) := by
  rw [responseJsonDict]
  split
  · exact missingJson_asks _
  · apply Asks.tryCatch
    · exact (readText_asks _).bind fun _ => asks_ended.bind fun _ => asks_pure
    · intro e
      split
      · exact missingJson_asks _
      · exact asks_throw

theorem waitBlocktime_asks (lib : Library) (content : String) : Asks S (waitBlocktime lib content) := by
  rw [waitBlocktime]
  split
  · exact asks_pure
  · split
    · exact asks_ended
    · exact asks_pure

end Silent

section Login

variable {account : Account} {S : Request → Prop}

theorem getLoginPageHttp_asks {v : Bool} (hpage : S (.loginPageHttp v)) :
    Asks S (getLoginPageHttp account v) := by
  apply Asks.bind
  · refine Asks.tryCatch ((send_asks hpage).bind fun response => ?_) handleLoginPageHttpError_asks
    split
    · exact asks_throw
    · exact readText_asks _
  · exact fun _ => asks_update.bind fun _ => asks_pure

theorem handleLoginPageError_asks {v : Bool} (hpage : S (.loginPageHttp v)) (e : PyError) :
    Asks S (handleLoginPageError account v e) := by
  apply asks_read.bind
  intro s
  split
  · split
    · exact asks_throw
    · exact getLoginPageHttp_asks hpage
  · exact asks_throw

def answerLoginPage (account : Account) (s : Session.State) (v : Bool) (response : Response) :
    SessionM String :=
  if response.status = httpStatusOk then readText response
  else if s.protocol = .https ∧ response.status ∈ httpsFallbackStatusCodes then
    getLoginPageHttp account v
  else throw (loginPageError response.status)

theorem answerLoginPage_asks {v : Bool} (hpage : S (.loginPageHttp v)) (s : Session.State)
    (response : Response) : Asks S (answerLoginPage account s v response) := by
  rw [answerLoginPage]
  split
  · exact readText_asks _
  · split
    · exact getLoginPageHttp_asks hpage
    · exact asks_throw

theorem fetchLoginPage_asks {v : Bool} (hpage : ∀ protocol, S (.loginPage protocol v))
    (hhttp : S (.loginPageHttp v)) : Asks S (fetchLoginPage account v) :=
  asks_read.bind fun s => Asks.tryCatch
    ((send_asks (hpage _)).bind fun response => answerLoginPage_asks hhttp s response)
    (handleLoginPageError_asks hhttp)

theorem postPbkdf2_asks (hS : ∀ r, ofVersion true r = true → S r) (response : String) :
    Asks S (postPbkdf2 account response) := by
  refine asks_read.bind fun s => Asks.tryCatch ((send_asks (hS _ rfl)).bind fun answered => ?_)
    handleLoginError_asks
  split
  · exact asks_pure
  · exact (readText_asks _).bind fun _ => asks_pure

def pbkdf2With (account : Account) (content : String) : SessionM (Option String) :=
  if content = "" then pure none
  else
    match parseChallengeFromLoginXml account.lib.parseXml content with
    | none => pure none
    | some challenge =>
        if startsWith "2$" challenge = false then pure none
        else do
          waitBlocktime account.lib content
          let response ← ended (calculatePbkdf2Response account.lib challenge account.password)
          let content ← postPbkdf2 account response
          pure (content.bind (validSid account.lib))

theorem pbkdf2With_asks (hS : ∀ r, ofVersion true r = true → S r) (content : String) :
    Asks S (pbkdf2With account content) := by
  rw [pbkdf2With]
  split
  · exact asks_pure
  · split
    · exact asks_pure
    · split
      · exact asks_pure
      · refine (waitBlocktime_asks _ _).bind fun _ => asks_ended.bind fun response => ?_
        exact (postPbkdf2_asks hS response).bind fun _ => asks_pure

theorem tryGetSessionViaPbkdf2_asks (hS : ∀ r, ofVersion true r = true → S r) :
    Asks S (tryGetSessionViaPbkdf2 account) :=
  (fetchLoginPage_asks (fun _ => hS _ rfl) (hS _ rfl)).bind fun content => pbkdf2With_asks hS content

theorem postMd5_asks (hS : ∀ r, ofVersion false r = true → S r) (response : String) :
    Asks S (postMd5 account response) := by
  refine asks_read.bind fun s => Asks.tryCatch ((send_asks (hS _ rfl)).bind fun answered => ?_)
    handleLoginError_asks
  split
  · exact asks_throw
  · exact readText_asks _

def md5With (account : Account) (content : String) : SessionM String :=
  if content = "" then
    throw (connectionError ("No response from " ++ nameFritzbox ++ " login page"))
  else
    let challenge := (parseChallengeFromLoginXml account.lib.parseXml content).getD ""
    if challenge = "" then
      throw (valueError "Could not parse login response XML or find challenge")
    else do
      let content ← postMd5 account (md5Response account.lib challenge account.password)
      match validSid account.lib content with
      | none => throw (valueError errorMsgLoginFailedSid)
      | some sid => do
          update fun s => { s with sid := some sid }
          pure sid

def md5Page (account : Account) : SessionM String :=
  tryCatch (fetchLoginPage account false) fun err =>
    if err.isConnectionError || err.isValueError then throw err
    else throw (connectionError ("Unexpected error: " ++ err.message))

theorem loginViaMd5_eq (account : Account) : loginViaMd5 account = md5Page account >>= md5With account :=
  rfl

theorem md5With_asks (hS : ∀ r, ofVersion false r = true → S r) (content : String) :
    Asks S (md5With account content) := by
  rw [md5With]
  split
  · exact asks_throw
  · simp only
    split
    · exact asks_throw
    · apply (postMd5_asks hS _).bind
      intro content
      split
      · exact asks_throw
      · exact asks_update.bind fun _ => asks_pure

theorem md5Page_asks (hpage : ∀ protocol, S (.loginPage protocol false)) (hhttp : S (.loginPageHttp false)) :
    Asks S (md5Page account) := by
  apply Asks.tryCatch (fetchLoginPage_asks hpage hhttp)
  intro e
  split <;> exact asks_throw

theorem loginViaMd5_asks (hS : ∀ r, ofVersion false r = true → S r) :
    Asks S (loginViaMd5 account) :=
  (md5Page_asks (fun _ => hS _ rfl) (hS _ rfl)).bind fun content => md5With_asks hS content

def pbkdf2OrNone (account : Account) : SessionM (Option String) :=
  tryCatch (tryGetSessionViaPbkdf2 account) fun err =>
    if err.isValueError then pure none else throw err

def keepOrLoginViaMd5 (account : Account) : Option String → SessionM String
  | some sid => do
      update fun s => { s with sid := some sid }
      pure sid
  | none => loginViaMd5 account

def login (account : Account) : SessionM String := pbkdf2OrNone account >>= keepOrLoginViaMd5 account

theorem asyncGetSession_eq (account : Account) :
    asyncGetSession account = read >>= fun s => match s.sid with
      | some sid => pure sid
      | none => login account := rfl

theorem pbkdf2OrNone_asks (hS : ∀ r, ofVersion true r = true → S r) : Asks S (pbkdf2OrNone account) := by
  apply Asks.tryCatch (tryGetSessionViaPbkdf2_asks hS)
  intro e
  split
  · exact asks_pure
  · exact asks_throw

theorem keepOrLoginViaMd5_asks (hS : ∀ r, ofVersion false r = true → S r) (sid : Option String) :
    Asks S (keepOrLoginViaMd5 account sid) := by
  cases sid with
  | some sid => exact asks_update.bind fun _ => asks_pure
  | none => exact loginViaMd5_asks hS

/-- A login asks for login pages and sends login POSTs, and nothing else. -/
theorem asyncGetSession_asks (hS : ∀ r, attemptsLogin r = true → S r) :
    Asks S (asyncGetSession account) := by
  rw [asyncGetSession_eq]
  apply asks_read.bind
  intro s
  split
  · exact asks_pure
  · have ofVersion_login : ∀ v r, ofVersion v r = true → attemptsLogin r = true := by
      intro v r hr
      cases r <;> first | rfl | cases hr
    exact (pbkdf2OrNone_asks fun r hr => hS r (ofVersion_login true r hr)).bind
      (keepOrLoginViaMd5_asks fun r hr => hS r (ofVersion_login false r hr))

theorem fetchLoginPage_opens {w : SessionWorld} (v : Bool) :
    Opens (.loginPage w.state.protocol v) (fetchLoginPage account v) w :=
  opens_read (Opens.tryCatch (S := fun _ => True)
    (send_opens.bind (S := fun _ => True) fun response => answerLoginPage_asks trivial _ response)
    (handleLoginPageError_asks trivial))

theorem loginViaMd5_opens {w : SessionWorld} :
    Opens (.loginPage w.state.protocol false) (loginViaMd5 account) w := by
  rw [loginViaMd5_eq]
  apply Opens.bind (S := fun _ => True) _ (md5With_asks fun _ _ => trivial)
  apply Opens.tryCatch (S := fun _ => True) (fetchLoginPage_opens false)
  intro e
  split <;> exact asks_throw

/-- Without a SID the login page of version 2 is asked for first. -/
theorem asyncGetSession_opens {w : SessionWorld} (h : w.state.sid = none) :
    Opens (.loginPage w.state.protocol true) (asyncGetSession account) w := by
  have any : ∀ v r, ofVersion v r = true → (fun _ => True) r := fun _ _ _ => trivial
  rw [asyncGetSession_eq]
  apply opens_read
  rw [h]
  apply Opens.bind _ (keepOrLoginViaMd5_asks (any false))
  apply Opens.tryCatch (S := fun _ => True)
    ((fetchLoginPage_opens true).bind fun content => pbkdf2With_asks (any true) content)
  intro e
  split
  · exact asks_pure
  · exact asks_throw

end Login

section Listings

variable {account : Account} {S : Request → Prop}

theorem fetchListingByMode_asks (hS : ∀ r, isListing r = true → S r) (sid : String)
    (mode : ListingMode) : Asks S (fetchListingByMode account sid mode) := by
  cases mode with
  | rest =>
      refine asks_read.bind fun s => Asks.tryCatch ((send_asks (hS _ rfl)).bind fun response => ?_)
        handleListingError_asks
      split
      · exact asks_pure
      · refine (validateVpnListingStatus_asks _ _).bind fun _ =>
          (responseJsonDict_asks _ _ _).bind fun data => ?_
        split
        · exact asks_pure
        · exact asks_ended
  | dataLua =>
      refine asks_read.bind fun s => Asks.tryCatch ((send_asks (hS _ rfl)).bind fun response => ?_)
        handleListingError_asks
      refine (validateVpnListingStatus_asks _ _).bind fun _ =>
        (responseJsonDict_asks _ _ _).bind fun data => ?_
      split <;> exact asks_pure

theorem probeListing_asks (hS : ∀ r, isListing r = true → S r) (sid : String)
    (preferred : Option ListingMode) (modes : List ListingMode) :
    Asks S (probeListing account sid preferred modes) := by
  induction modes with
  | nil => exact asks_update.bind fun _ => asks_throw
  | cons mode modes ih =>
      rw [probeListing]
      split
      · exact ih
      · apply (fetchListingByMode_asks hS sid mode).bind
        intro result
        split
        · exact asks_update.bind fun _ => asks_pure
        · exact ih

def fetchUnder (account : Account) (sid : String) : SessionM (Dict String Json) := do
  let s ← read
  match s.listingMode with
  | none => probeListing account sid none listingProbeOrder
  | some mode => do
      match ← fetchListingByMode account sid mode with
      | some result => pure result
      | none => do
          update fun s => { s with listingMode := none }
          probeListing account sid (some mode) listingProbeOrder

theorem fetchVpnConnectionsOnce_eq (account : Account) :
    fetchVpnConnectionsOnce account = asyncGetSession account >>= fetchUnder account := rfl

theorem fetchUnder_asks (hS : ∀ r, isListing r = true → S r) (sid : String) :
    Asks S (fetchUnder account sid) := by
  apply asks_read.bind
  intro s
  split
  · exact probeListing_asks hS sid _ _
  · rename_i mode _
    apply (fetchListingByMode_asks hS sid mode).bind
    intro result
    split
    · exact asks_pure
    · exact asks_update.bind fun _ => probeListing_asks hS sid _ _

theorem fetchVpnConnectionsOnce_asks (hlogin : ∀ r, attemptsLogin r = true → S r)
    (hlisting : ∀ r, isListing r = true → S r) : Asks S (fetchVpnConnectionsOnce account) :=
  (asyncGetSession_asks hlogin).bind fun sid => fetchUnder_asks hlisting sid

theorem asyncGetVpnConnections_asks (hlogin : ∀ r, attemptsLogin r = true → S r)
    (hlisting : ∀ r, isListing r = true → S r) : Asks S (asyncGetVpnConnections account) := by
  apply Asks.tryCatch (fetchVpnConnectionsOnce_asks hlogin hlisting)
  intro e
  split
  · exact asks_update.bind fun _ => fetchVpnConnectionsOnce_asks hlogin hlisting
  · exact asks_throw

theorem asyncGetVpnConnections_opens (account : Account) {w : SessionWorld} (h : w.state.sid = none) :
    Opens (.loginPage w.state.protocol true) (asyncGetVpnConnections account) w := by
  apply Opens.tryCatch (S := fun _ => True)
  · exact (asyncGetSession_opens h).bind fun sid => fetchUnder_asks (fun _ _ => trivial) sid
  · intro e
    split
    · exact asks_update.bind fun _ =>
        fetchVpnConnectionsOnce_asks (fun _ _ => trivial) fun _ _ => trivial
    · exact asks_throw

theorem fetchUnder_fetches {partner : Partner Request Answer} {w : SessionWorld} (sid : String) :
    Yields partner w (fetchUnder account sid) (FetchedLast account.lib) (fun _ _ => True) := by
  rw [fetchUnder, yields_bind, yields_read]
  cases w.state.listingMode with
  | none => exact probeListing_fetches sid _ _
  | some mode =>
      simp only [yields_bind]
      refine (fetchListingByMode_fetches sid mode).mono ?_ fun _ _ _ => trivial
      intro result w' hresult
      cases result with
      | some l => exact yields_pure.mpr (hresult l rfl)
      | none =>
          rw [yields_bind, yields_update]
          exact probeListing_fetches sid _ _

theorem fetchVpnConnectionsOnce_fetches {partner : Partner Request Answer} {w : SessionWorld} :
    Yields partner w (fetchVpnConnectionsOnce account) (FetchedLast account.lib)
      (fun _ _ => True) := by
  rw [fetchVpnConnectionsOnce_eq, yields_bind]
  have hany : Asks (fun _ => True) (asyncGetSession account) := asyncGetSession_asks fun _ _ => trivial
  exact hany.yields.mono (fun sid w'' _ => fetchUnder_fetches sid) fun _ _ _ => trivial

/-- The listing that is returned is the last one that was fetched. -/
theorem asyncGetVpnConnections_fetches {partner : Partner Request Answer} {w : SessionWorld} :
    Yields partner w (asyncGetVpnConnections account) (FetchedLast account.lib)
      (fun _ _ => True) := by
  rw [asyncGetVpnConnections, yields_tryCatch]
  refine fetchVpnConnectionsOnce_fetches.mono (fun _ _ h => h) ?_
  intro e w' _
  split
  · rw [yields_bind, yields_update]
    exact fetchVpnConnectionsOnce_fetches
  · rw [yields_throw]
    trivial

end Listings

end FritzboxVpn.SessionRequests
