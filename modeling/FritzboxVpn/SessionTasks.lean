import FritzboxVpn.Tasks
import FritzboxVpn.Toggle

namespace FritzboxVpn.SessionTasks

open Constants Exceptions Interaction JsonValue OrderedDict Parsing Tasks Tasks.Task Text Toggle
open Session (Account Answer Library ListingMode Protocol Request Response State calculatePbkdf2Response
  cannotConnect dataLuaConnections invalidateSession isJson isTransport listingProbeOrder loginPageError
  md5Response restConnections validSid)

/-- The calls of the session once more, with the places where they wait. -/
abbrev SessionT (β : Type) : Type := Task State Request Answer PyError β

def send (r : Request) : SessionT Response := do
  match ← Task.request r with
  | .ok response => pure response
  | .error err => throw err.val

def within {β : Type} (r : Request) (block : Response → SessionT β) : SessionT β := do
  let response ← send r
  leaving (block response)

def readText (response : Response) : SessionT String :=
  .pause (match response.body with
    | .ok content => pure content
    | .error err => throw err.val)

def raiseTransportError {β : Type} (account : Account) (err : PyError) : SessionT β := do
  Task.update invalidateSession
  throw (cannotConnect account err)

def handleLoginError {β : Type} (account : Account) (err : PyError) : SessionT β :=
  if err.isConnectionError then throw err
  else if isTransport err then raiseTransportError account err
  else throw err

def handleListingError {β : Type} (account : Account) (err : PyError) : SessionT β :=
  if isTransport err then raiseTransportError account err else throw err

def handleLoginPageHttpError {β : Type} (account : Account) (err : PyError) : SessionT β :=
  if err.isConnectionError then throw err
  else if isTransport err then throw (cannotConnect account err)
  else throw err

def getLoginPageHttp (account : Account) (version2 : Bool) : SessionT String := do
  let content ← tryCatch
    (within (.loginPageHttp version2) fun response =>
      if response.status ≠ httpStatusOk then throw (loginPageError response.status)
      else readText response)
    (handleLoginPageHttpError account)
  Task.update fun s => { s with protocol := .http }
  pure content

def handleLoginPageError (account : Account) (version2 : Bool) (err : PyError) : SessionT String := do
  let s ← Task.read
  if isTransport err then
    if s.protocol ≠ .https then throw (cannotConnect account err)
    else getLoginPageHttp account version2
  else throw err

/-- `self.protocol` is read again when the answer is there. -/
def fetchLoginPage (account : Account) (version2 : Bool) : SessionT String := do
  let s ← Task.read
  tryCatch
    (within (.loginPage s.protocol version2) fun response =>
      if response.status = httpStatusOk then readText response
      else do
        let s ← Task.read
        if s.protocol = .https ∧ response.status ∈ httpsFallbackStatusCodes then
          getLoginPageHttp account version2
        else throw (loginPageError response.status))
    (handleLoginPageError account version2)

def waitBlocktime (lib : Library) (content : String) : SessionT Unit :=
  match parseBlocktimeFromLoginXml lib.parseXml content with
  | none => pure ()
  | some blocktime => if blocktime > 0 then .pause (ended (lib.sleep blocktime)) else pure ()

def postPbkdf2 (account : Account) (response : String) : SessionT (Option String) := do
  let s ← Task.read
  tryCatch
    (within (.login s.protocol true account.username response) fun answered =>
      if answered.status ≠ httpStatusOk then pure none
      else do
        let content ← readText answered
        pure (some content))
    (handleLoginError account)

def tryGetSessionViaPbkdf2 (account : Account) : SessionT (Option String) := do
  let content ← fetchLoginPage account true
  if content = "" then pure none
  else
    match parseChallengeFromLoginXml account.lib.parseXml content with
    | none => pure none
    | some challenge =>
        if startsWith "2$" challenge = false then pure none
        else do
          waitBlocktime account.lib content
          let response ← ended (calculatePbkdf2Response account.lib challenge account.password)
          let content ← postPbkdf2 account response
          pure (content.bind (validSid account.lib))

def postMd5 (account : Account) (response : String) : SessionT String := do
  let s ← Task.read
  tryCatch
    (within (.login s.protocol false account.username response) fun answered =>
      if answered.status ≠ httpStatusOk then
        throw (connectionError ("Login failed: " ++ toString answered.status))
      else readText answered)
    (handleLoginError account)

def loginViaMd5 (account : Account) : SessionT String := do
  let content ← tryCatch (fetchLoginPage account false) fun err =>
    if err.isConnectionError || err.isValueError then throw err
    else throw (connectionError ("Unexpected error: " ++ err.message))
  if content = "" then
    throw (connectionError ("No response from " ++ nameFritzbox ++ " login page"))
  else
    let challenge := (parseChallengeFromLoginXml account.lib.parseXml content).getD ""
    if challenge = "" then
      throw (valueError "Could not parse login response XML or find challenge")
    else do
      let content ← postMd5 account (md5Response account.lib challenge account.password)
      match validSid account.lib content with
      | none => throw (valueError errorMsgLoginFailedSid)
      | some sid => do
          Task.update fun s => { s with sid := some sid }
          pure sid

def asyncGetSession (account : Account) : SessionT String := do
  let s ← Task.read
  match s.sid with
  | some sid => pure sid
  | none => do
      let sid ← tryCatch (tryGetSessionViaPbkdf2 account) fun err =>
        if err.isValueError then pure none else throw err
      match sid with
      | some sid => do
          Task.update fun s => { s with sid := some sid }
          pure sid
      | none => loginViaMd5 account

def validateVpnListingStatus (response : Response) (source : String) : SessionT Unit :=
  if response.status = httpStatusForbidden then throw (valueError errorMsgInvalidSid403)
  else if response.status ≠ httpStatusOk then do
    Task.update invalidateSession
    throw (connectionError
      ("Failed to get VPN connections" ++ source ++ (": HTTP " ++ toString response.status)))
  else pure ()

def missingJson (requireJson : Bool) : SessionT (Option (Dict String Json)) :=
  if requireJson then throw (valueError errorMsgInvalidSidHtml) else pure none

def responseJsonDict (lib : Library) (response : Response) (requireJson : Bool) :
    SessionT (Option (Dict String Json)) :=
  if isJson response = false then missingJson requireJson
  else
    tryCatch
      (do
        let content ← readText response
        let data ← ended (lib.loads content)
        pure (asDict data))
      fun err => if err.isJSONDecodeError then missingJson requireJson else throw err

def fetchVpnConnectionsViaRest (account : Account) (sid : String) :
    SessionT (Option (Dict String Json)) := do
  let s ← Task.read
  tryCatch
    (within (.restVpn s.protocol sid) fun response =>
      if response.status = httpStatusNotFound then pure none
      else do
        validateVpnListingStatus response " via REST"
        match ← responseJsonDict account.lib response false with
        | none => pure none
        | some data => ended (restConnections account.lib data))
    (handleListingError account)

def fetchVpnConnectionsViaDataLua (account : Account) (sid : String) :
    SessionT (Option (Dict String Json)) := do
  let s ← Task.read
  tryCatch
    (within (.dataLua s.protocol sid) fun response => do
      validateVpnListingStatus response ""
      match ← responseJsonDict account.lib response true with
      | none => pure none
      | some data => pure (dataLuaConnections account.lib data))
    (handleListingError account)

def fetchListingByMode (account : Account) (sid : String) :
    ListingMode → SessionT (Option (Dict String Json))
  | .rest => fetchVpnConnectionsViaRest account sid
  | .dataLua => fetchVpnConnectionsViaDataLua account sid

def probeListing (account : Account) (sid : String) (preferred : Option ListingMode) :
    List ListingMode → SessionT (Dict String Json)
  | [] => do
      Task.update invalidateSession
      throw (connectionError errorMsgVpnPayloadMissing)
  | mode :: modes =>
      if preferred = some mode then probeListing account sid preferred modes
      else do
        match ← fetchListingByMode account sid mode with
        | some result => do
            Task.update fun s => { s with listingMode := some mode }
            pure result
        | none => probeListing account sid preferred modes

def fetchVpnConnectionsOnce (account : Account) : SessionT (Dict String Json) := do
  let sid ← asyncGetSession account
  let s ← Task.read
  match s.listingMode with
  | none => probeListing account sid none listingProbeOrder
  | some mode => do
      match ← fetchListingByMode account sid mode with
      | some result => pure result
      | none => do
          Task.update fun s => { s with listingMode := none }
          probeListing account sid (some mode) listingProbeOrder

def asyncGetVpnConnections (account : Account) : SessionT (Dict String Json) :=
  tryCatch (fetchVpnConnectionsOnce account) fun err =>
    if err.isValueError && contains errorMsgInvalidSid err.message then do
      Task.update invalidateSession
      fetchVpnConnectionsOnce account
    else throw err

def verifyToggle (account : Account) (uid : String) (enable : Bool) : SessionT Bool := .pause do
  let newConnections ← asyncGetVpnConnections account
  match connectionOf newConnections uid with
  | none => pure false
  | some newConn => pure (equalsBool (activeOf newConn) enable)

def checkToggle (account : Account) (uid : String) (enable : Bool) (response : Response) :
    SessionT Bool :=
  if response.status ≠ httpStatusOk then do
    let _ ← readText response
    pure false
  else verifyToggle account uid enable

def answerToggle (account : Account) (uid : String) (enable : Bool) (sidRetry : Option (SessionT Bool))
    (response : Response) : SessionT Bool :=
  match sidRetry with
  | none => checkToggle account uid enable response
  | some again =>
      if response.status = httpStatusForbidden then do
        Task.update invalidateSession
        again
      else checkToggle account uid enable response

def putToggle (account : Account) (uid : String) (enable : Bool) (sidRetry : Option (SessionT Bool))
    (vpnUid : Json) : SessionT Bool := do
  let sid ← asyncGetSession account
  let s ← Task.read
  tryCatch
    (within (.put s.protocol sid (pyStr account.lib.repr vpnUid) enable) fun response =>
      answerToggle account uid enable sidRetry response)
    fun _ => pure false

def toggleOnce (account : Account) (uid : String) (enable : Bool) (sidRetry : Option (SessionT Bool)) :
    SessionT Bool := do
  let connections ← asyncGetVpnConnections account
  match connectionOf connections uid with
  | none => pure false
  | some conn =>
      match field conn apiKeyUid with
      | none => pure false
      | some vpnUid =>
          if truthy vpnUid = false then pure false
          else if equalsBool (activeOf conn) enable then pure true
          else putToggle account uid enable sidRetry vpnUid

def asyncToggleVpn (account : Account) (uid : String) (enable : Bool) : SessionT Bool :=
  toggleOnce account uid enable (some (toggleOnce account uid enable none))

section Run

variable {β : Type}

theorem run_send (r : Request) : run (send r) = Session.send r := by
  rw [send, Session.send, run_bind, run_request]
  refine congrArg _ (funext fun a => ?_)
  cases a <;> rfl

@[simp]
theorem run_within (r : Request) (block : Response → SessionT β) :
    run (within r block) = Session.send r >>= fun response => run (block response) := by
  simp only [within, run_bind, run_send, run_leaving]

@[simp]
theorem run_readText (response : Response) : run (readText response) = Session.readText response := by
  rw [readText, Session.readText, run_pause]
  cases response.body <;> rfl

theorem run_raiseTransportError (account : Account) (err : PyError) :
    run (raiseTransportError account err : SessionT β) = Session.raiseTransportError account err := by
  simp only [raiseTransportError, Session.raiseTransportError, run_bind, run_update, run_throw]

@[simp]
theorem run_handleLoginError (account : Account) (err : PyError) :
    run (handleLoginError account err : SessionT β) = Session.handleLoginError account err := by
  simp only [handleLoginError, Session.handleLoginError, run_ite, run_throw, run_raiseTransportError]

@[simp]
theorem run_handleListingError (account : Account) (err : PyError) :
    run (handleListingError account err : SessionT β) = Session.handleListingError account err := by
  simp only [handleListingError, Session.handleListingError, run_ite, run_throw, run_raiseTransportError]

@[simp]
theorem run_handleLoginPageHttpError (account : Account) (err : PyError) :
    run (handleLoginPageHttpError account err : SessionT β) =
      Session.handleLoginPageHttpError account err := by
  simp only [handleLoginPageHttpError, Session.handleLoginPageHttpError, run_ite, run_throw]

@[simp]
theorem run_getLoginPageHttp (account : Account) (version2 : Bool) :
    run (getLoginPageHttp account version2) = Session.getLoginPageHttp account version2 := by
  simp only [getLoginPageHttp, Session.getLoginPageHttp, run_bind, run_tryCatch, run_within, run_ite,
    run_throw, run_readText, run_handleLoginPageHttpError, run_update, run_pure]

@[simp]
theorem run_handleLoginPageError (account : Account) (version2 : Bool) (err : PyError) :
    run (handleLoginPageError account version2 err) = Session.handleLoginPageError account version2 err := by
  simp only [handleLoginPageError, Session.handleLoginPageError, run_bind, run_read, run_ite, run_throw,
    run_getLoginPageHttp]

theorem read_after_send (r : Request) (f : State → Response → Session.SessionM β) (partner : Partner Request Answer)
    (w : World State Request Answer) :
    (Session.send r >>= fun response => Program.read >>= fun s => f s response) partner w =
      (Session.send r >>= f w.state) partner w := by
  change Program.andThen (Session.send r) _ partner w = Program.andThen (Session.send r) _ partner w
  rw [Program.andThen, Program.andThen]
  have hstate : ∀ b w', Session.send r partner w = (.ok b, w') → w'.state = w.state := by
    intro b w' h
    rw [Session.send] at h
    change Program.andThen (Program.request r) _ partner w = (.ok b, w') at h
    rw [Program.andThen, Program.request] at h
    cases ha : partner w.trace r with
    | error err =>
        rw [ha] at h
        cases h
    | ok response =>
        rw [ha] at h
        cases h
        rfl
  cases hsend : Session.send r partner w with
  | mk result w' =>
      cases result with
      | error e => rfl
      | ok response =>
          rw [← hstate response w' hsend]
          rfl

@[simp]
theorem run_fetchLoginPage (account : Account) (version2 : Bool) :
    run (fetchLoginPage account version2) = Session.fetchLoginPage account version2 := by
  simp only [fetchLoginPage, Session.fetchLoginPage, run_bind, run_tryCatch, run_read, run_within, run_ite,
    run_readText, run_throw, run_getLoginPageHttp, run_handleLoginPageError]
  funext partner w
  have hinner := read_after_send (.loginPage w.state.protocol version2) (fun s response =>
    if response.status = httpStatusOk then Session.readText response
    else if s.protocol = .https ∧ response.status ∈ httpsFallbackStatusCodes then
      Session.getLoginPageHttp account version2
    else throw (loginPageError response.status)) partner w
  have hpush : ∀ response : Response, (Program.read >>= fun s : State =>
      if response.status = httpStatusOk then Session.readText response
      else if s.protocol = .https ∧ response.status ∈ httpsFallbackStatusCodes then
        Session.getLoginPageHttp account version2
      else throw (loginPageError response.status)) =
      if response.status = httpStatusOk then Session.readText response
      else Program.read >>= fun s : State =>
        if s.protocol = .https ∧ response.status ∈ httpsFallbackStatusCodes then
          Session.getLoginPageHttp account version2
        else throw (loginPageError response.status) := by
    intro response
    split <;> rfl
  simp only [hpush] at hinner
  change Program.handle _ _ partner w = Program.handle _ _ partner w
  rw [Program.handle, Program.handle, hinner]

@[simp]
theorem run_waitBlocktime (lib : Library) (content : String) :
    run (waitBlocktime lib content) = Session.waitBlocktime lib content := by
  rw [waitBlocktime, Session.waitBlocktime]
  cases parseBlocktimeFromLoginXml lib.parseXml content with
  | none => rfl
  | some blocktime => simp only [run_ite, run_pause, run_ended, run_pure]

@[simp]
theorem run_postPbkdf2 (account : Account) (response : String) :
    run (postPbkdf2 account response) = Session.postPbkdf2 account response := by
  simp only [postPbkdf2, Session.postPbkdf2, run_bind, run_read, run_tryCatch, run_within, run_ite, run_pure,
    run_readText, run_handleLoginError]

@[simp]
theorem run_tryGetSessionViaPbkdf2 (account : Account) :
    run (tryGetSessionViaPbkdf2 account) = Session.tryGetSessionViaPbkdf2 account := by
  rw [tryGetSessionViaPbkdf2, Session.tryGetSessionViaPbkdf2, run_bind, run_fetchLoginPage]
  refine congrArg _ (funext fun content => ?_)
  rw [run_ite, run_pure]
  refine congrArg _ ?_
  cases parseChallengeFromLoginXml account.lib.parseXml content with
  | none => rfl
  | some challenge =>
      simp only [run_ite, run_pure, run_bind, run_waitBlocktime, run_ended, run_postPbkdf2]

@[simp]
theorem run_postMd5 (account : Account) (response : String) :
    run (postMd5 account response) = Session.postMd5 account response := by
  simp only [postMd5, Session.postMd5, run_bind, run_read, run_tryCatch, run_within, run_ite, run_throw,
    run_readText, run_handleLoginError]

@[simp]
theorem run_loginViaMd5 (account : Account) : run (loginViaMd5 account) = Session.loginViaMd5 account := by
  rw [loginViaMd5, Session.loginViaMd5, run_bind]
  refine congrArg₂ _ ?_ (funext fun content => ?_)
  · simp only [run_tryCatch, run_fetchLoginPage, run_ite, run_throw]
  · simp only [run_ite, run_throw, run_bind, run_postMd5]
    refine if_congr Iff.rfl rfl (if_congr Iff.rfl rfl (congrArg _ (funext fun content => ?_)))
    cases validSid account.lib content <;> rfl

@[simp]
theorem run_asyncGetSession (account : Account) :
    run (asyncGetSession account) = Session.asyncGetSession account := by
  rw [asyncGetSession, Session.asyncGetSession, run_bind, run_read]
  refine congrArg _ (funext fun s => ?_)
  cases s.sid with
  | some sid => rfl
  | none =>
      simp only [run_bind, run_tryCatch, run_tryGetSessionViaPbkdf2, run_ite, run_pure, run_throw]
      refine congrArg _ (funext fun sid => ?_)
      cases sid with
      | some sid => simp only [run_bind, run_update, run_pure]
      | none => exact run_loginViaMd5 account

theorem run_validateVpnListingStatus (response : Response) (source : String) :
    run (validateVpnListingStatus response source) = Session.validateVpnListingStatus response source := by
  simp only [validateVpnListingStatus, Session.validateVpnListingStatus, run_ite, run_throw, run_bind,
    run_update, run_pure]

theorem run_missingJson (requireJson : Bool) : run (missingJson requireJson) = Session.missingJson requireJson := by
  cases requireJson <;> rfl

theorem run_responseJsonDict (lib : Library) (response : Response) (requireJson : Bool) :
    run (responseJsonDict lib response requireJson) = Session.responseJsonDict lib response requireJson := by
  simp only [responseJsonDict, Session.responseJsonDict, run_ite, run_missingJson, run_tryCatch, run_bind,
    run_readText, run_ended, run_pure, run_throw]

@[simp]
theorem run_fetchListingByMode (account : Account) (sid : String) (mode : ListingMode) :
    run (fetchListingByMode account sid mode) = Session.fetchListingByMode account sid mode := by
  cases mode with
  | rest =>
      simp only [fetchListingByMode, Session.fetchListingByMode, fetchVpnConnectionsViaRest,
        Session.fetchVpnConnectionsViaRest, run_bind, run_read, run_tryCatch, run_within, run_ite, run_pure,
        run_validateVpnListingStatus, run_responseJsonDict, run_handleListingError]
      refine congrArg _ (funext fun s => congrArg₂ _ (congrArg _ (funext fun response => ?_)) rfl)
      refine if_congr Iff.rfl rfl (congrArg _ (funext fun _ => congrArg _ (funext fun data => ?_)))
      cases data with
      | none => rfl
      | some data => exact run_ended _
  | dataLua =>
      simp only [fetchListingByMode, Session.fetchListingByMode, fetchVpnConnectionsViaDataLua,
        Session.fetchVpnConnectionsViaDataLua, run_bind, run_read, run_tryCatch, run_within,
        run_validateVpnListingStatus, run_responseJsonDict, run_handleListingError]
      refine congrArg _ (funext fun s => congrArg₂ _ (congrArg _ (funext fun response => ?_)) rfl)
      refine congrArg _ (funext fun _ => congrArg _ (funext fun data => ?_))
      cases data <;> rfl

@[simp]
theorem run_probeListing (account : Account) (sid : String) (preferred : Option ListingMode)
    (modes : List ListingMode) :
    run (probeListing account sid preferred modes) = Session.probeListing account sid preferred modes := by
  induction modes with
  | nil => rfl
  | cons mode modes ih =>
      rw [probeListing, Session.probeListing, run_ite, ih, run_bind, run_fetchListingByMode]
      refine congrArg _ (congrArg _ (funext fun result => ?_))
      cases result with
      | none => exact ih
      | some result => rfl

@[simp]
theorem run_fetchVpnConnectionsOnce (account : Account) :
    run (fetchVpnConnectionsOnce account) = Session.fetchVpnConnectionsOnce account := by
  rw [fetchVpnConnectionsOnce, Session.fetchVpnConnectionsOnce, run_bind, run_asyncGetSession]
  refine congrArg _ (funext fun sid => ?_)
  rw [run_bind, run_read]
  refine congrArg _ (funext fun s => ?_)
  cases s.listingMode with
  | none => exact run_probeListing account sid none listingProbeOrder
  | some mode =>
      simp only [run_bind, run_fetchListingByMode]
      refine congrArg _ (funext fun result => ?_)
      cases result with
      | none => simp only [run_bind, run_update, run_probeListing]
      | some result => rfl

/-- The poll alone is the poll of the session module. -/
@[simp]
theorem run_asyncGetVpnConnections (account : Account) :
    run (asyncGetVpnConnections account) = Session.asyncGetVpnConnections account := by
  simp only [asyncGetVpnConnections, Session.asyncGetVpnConnections, run_tryCatch, run_fetchVpnConnectionsOnce,
    run_ite, run_bind, run_update, run_throw]

theorem run_verifyToggle (account : Account) (uid : String) (enable : Bool) :
    run (verifyToggle account uid enable) = Toggle.verifyToggle account uid enable := by
  rw [verifyToggle, Toggle.verifyToggle, run_pause, run_bind, run_asyncGetVpnConnections]
  refine congrArg _ (funext fun connections => ?_)
  cases connectionOf connections uid <;> rfl

theorem run_checkToggle (account : Account) (uid : String) (enable : Bool) (response : Response) :
    run (checkToggle account uid enable response) = Toggle.checkToggle account uid enable response := by
  simp only [checkToggle, Toggle.checkToggle, run_ite, run_bind, run_readText, run_pure, run_verifyToggle]

theorem run_toggleOnce (account : Account) (uid : String) (enable : Bool) (sidRetry : Option (SessionT Bool)) :
    run (toggleOnce account uid enable sidRetry) =
      Toggle.toggleOnce account uid enable (sidRetry.map run) := by
  have hanswer : ∀ response, run (answerToggle account uid enable sidRetry response) =
      Toggle.answerToggle account uid enable (sidRetry.map run) response := by
    intro response
    cases sidRetry with
    | none => exact run_checkToggle account uid enable response
    | some again =>
        simp only [answerToggle, Toggle.answerToggle, Option.map_some, run_ite, run_bind, run_update,
          run_checkToggle]
  have hput : ∀ vpnUid, run (putToggle account uid enable sidRetry vpnUid) =
      Toggle.putToggle account uid enable (sidRetry.map run) vpnUid := by
    intro vpnUid
    simp only [putToggle, Toggle.putToggle, run_bind, run_asyncGetSession, run_read, run_tryCatch, run_within,
      hanswer, run_pure]
  rw [toggleOnce, Toggle.toggleOnce, run_bind, run_asyncGetVpnConnections]
  refine congrArg _ (funext fun connections => ?_)
  cases connectionOf connections uid with
  | none => rfl
  | some conn =>
      simp only
      cases field conn apiKeyUid with
      | none => rfl
      | some vpnUid => simp only [run_ite, run_pure, hput]

/-- A toggle alone is the toggle of the session module. -/
theorem run_asyncToggleVpn (account : Account) (uid : String) (enable : Bool) :
    run (asyncToggleVpn account uid enable) = Toggle.asyncToggleVpn account uid enable := by
  rw [asyncToggleVpn, Toggle.asyncToggleVpn, run_toggleOnce, Option.map_some, run_toggleOnce, Option.map_none]

end Run

end FritzboxVpn.SessionTasks
