import FritzboxVpn.Interaction
import FritzboxVpn.Parsing

namespace FritzboxVpn.Session

open Constants Exceptions Interaction Interaction.Program JsonValue OrderedDict Parsing Text

inductive Protocol
  | http
  | https
deriving DecidableEq

inductive ListingMode
  | dataLua
  | rest
deriving DecidableEq

def listingProbeOrder : List ListingMode := [.dataLua, .rest]

structure State where
  sid : Option String := none
  protocol : Protocol := .https
  listingMode : Option ListingMode := none
deriving DecidableEq

/-- The requests, one constructor for each place that sends one. -/
inductive Request
  | loginPage (protocol : Protocol) (version2 : Bool)
  | loginPageHttp (version2 : Bool)
  | login (protocol : Protocol) (version2 : Bool) (username response : String)
  | restVpn (protocol : Protocol) (sid : String)
  | dataLua (protocol : Protocol) (sid : String)
  | put (protocol : Protocol) (sid uid : String) (activated : Bool)
deriving DecidableEq

/-- What the transport raises; only the JSON parser raises JSONDecodeError. -/
abbrev TransportError : Type := { e : PyError // e.isJSONDecodeError = false }

structure Response where
  status : Nat
  contentType : String
  body : Except TransportError String

abbrev Answer : Type := Except TransportError Response

/-- The parts of the standard library the session calls. -/
structure Library where
  parseXml : String → Option (String → Option String)
  loads : String → Except PyError Json
  repr : Json → String
  pbkdf2Hmac : ByteArray → ByteArray → Int → Except PyError ByteArray
  md5Hexdigest : String → String
  sleep : Int → Except PyError Unit

structure Account where
  host : String
  username : String
  password : String
  lib : Library

abbrev SessionM (β : Type) : Type := Program State Request Answer PyError β

def isTransport (err : PyError) : Bool := err.isClientConnectorError || err.isOSError

theorem isTransport_eq (err : PyError) : isTransport err = err.isOSError := by
  cases hc : err.isClientConnectorError with
  | false => simp only [isTransport, hc, Bool.false_or]
  | true => simp only [isTransport, hc, Bool.true_or, err.connector_os hc]

def send (r : Request) : SessionM Response := do
  match ← request r with
  | .ok response => pure response
  | .error err => throw err.val

def readText (response : Response) : SessionM String :=
  match response.body with
  | .ok content => pure content
  | .error err => throw err.val

def invalidateSession (s : State) : State :=
  { s with sid := none, protocol := .https, listingMode := none }

def cannotConnect (account : Account) (err : PyError) : PyError :=
  connectionError ("Cannot connect to " ++ (account.host ++ (": " ++ err.message)))

def raiseTransportError {β : Type} (account : Account) (err : PyError) : SessionM β := do
  update invalidateSession
  throw (cannotConnect account err)

def handleLoginError {β : Type} (account : Account) (err : PyError) : SessionM β :=
  if err.isConnectionError then throw err
  else if isTransport err then raiseTransportError account err
  else throw err

def handleListingError {β : Type} (account : Account) (err : PyError) : SessionM β :=
  if isTransport err then raiseTransportError account err else throw err

def loginPageError (status : Nat) : PyError :=
  connectionError ("Failed to get login page: " ++ toString status)

def handleLoginPageHttpError {β : Type} (account : Account) (err : PyError) : SessionM β :=
  if err.isConnectionError then throw err
  else if isTransport err then throw (cannotConnect account err)
  else throw err

def getLoginPageHttp (account : Account) (version2 : Bool) : SessionM String := do
  let content ← tryCatch
    (do
      let response ← send (.loginPageHttp version2)
      if response.status ≠ httpStatusOk then throw (loginPageError response.status)
      else readText response)
    (handleLoginPageHttpError account)
  update fun s => { s with protocol := .http }
  pure content

def handleLoginPageError (account : Account) (version2 : Bool) (err : PyError) : SessionM String := do
  let s ← read
  if isTransport err then
    if s.protocol ≠ .https then throw (cannotConnect account err)
    else getLoginPageHttp account version2
  else throw err

/-- The fallback inside the try may raise into the handler, which falls back
once more. -/
def fetchLoginPage (account : Account) (version2 : Bool) : SessionM String := do
  let s ← read
  tryCatch
    (do
      let response ← send (.loginPage s.protocol version2)
      if response.status = httpStatusOk then readText response
      else if s.protocol = .https ∧ response.status ∈ httpsFallbackStatusCodes then
        getLoginPageHttp account version2
      else throw (loginPageError response.status))
    (handleLoginPageError account version2)

def hexValue (c : Char) : Option Nat :=
  if c.isDigit then some (c.toNat - 48)
  else if 'a' ≤ c ∧ c ≤ 'f' then some (c.toNat - 87)
  else if 'A' ≤ c ∧ c ≤ 'F' then some (c.toNat - 55)
  else none

def isAsciiSpace (c : Char) : Bool := c == ' ' || (9 ≤ c.toNat && c.toNat ≤ 13)

def fromHex : List Char → Option (List UInt8)
  | [] => some []
  | [c] => if isAsciiSpace c then some [] else none
  | c :: d :: rest =>
      if isAsciiSpace c then fromHex (d :: rest)
      else
        (hexValue c).bind fun h => (hexValue d).bind fun l =>
          (fromHex rest).map fun bytes => UInt8.ofNat (16 * h + l) :: bytes

def toHex (bytes : ByteArray) : String :=
  String.ofList (bytes.toList.flatMap fun b =>
    [Nat.digitChar (b.toNat / 16), Nat.digitChar (b.toNat % 16)])

def pyInt (repr : Json → String) (text : String) : Except PyError Int :=
  match parseInt text with
  | some n => .ok n
  | none => .error (valueError ("invalid literal for int() with base 10: " ++ repr (.str text)))

def bytesFromHex (text : String) : Except PyError ByteArray :=
  match fromHex text.toList with
  | some bytes => .ok ⟨bytes.toArray⟩
  | none => .error (valueError "non-hexadecimal number found in fromhex() arg")

def calculatePbkdf2Response (lib : Library) (challenge password : String) : Except PyError String :=
  match challenge.splitOn "$" with
  | version :: iter1 :: salt1Hex :: iter2 :: salt2Hex :: _ =>
      if version ≠ "2" then .error (valueError "Unexpected PBKDF2 challenge format")
      else do
        let iter1 ← pyInt lib.repr iter1
        let iter2 ← pyInt lib.repr iter2
        let salt1 ← bytesFromHex salt1Hex
        let salt2 ← bytesFromHex salt2Hex
        let hash1 ← lib.pbkdf2Hmac password.toUTF8 salt1 iter1
        let hash2 ← lib.pbkdf2Hmac hash1 salt2 iter2
        pure (salt2Hex ++ "$" ++ toHex hash2)
  | _ => .error (valueError "Unexpected PBKDF2 challenge format")

def validSid (lib : Library) (content : String) : Option String :=
  match parseSidFromLoginResponse lib.parseXml content with
  | none => none
  | some sid => if sid = "" ∨ sid = invalidSidValue then none else some sid

def waitBlocktime (lib : Library) (content : String) : SessionM Unit :=
  match parseBlocktimeFromLoginXml lib.parseXml content with
  | none => pure ()
  | some blocktime => if blocktime > 0 then ended (lib.sleep blocktime) else pure ()

def postPbkdf2 (account : Account) (response : String) : SessionM (Option String) := do
  let s ← read
  tryCatch
    (do
      let answered ← send (.login s.protocol true account.username response)
      if answered.status ≠ httpStatusOk then pure none
      else do
        let content ← readText answered
        pure (some content))
    (handleLoginError account)

def tryGetSessionViaPbkdf2 (account : Account) : SessionM (Option String) := do
  let content ← fetchLoginPage account true
  if content = "" then pure none
  else
    match parseChallengeFromLoginXml account.lib.parseXml content with
    | none => pure none
    | some challenge =>
        if startsWith "2$" challenge = false then pure none
        else do
          waitBlocktime account.lib content
          let response ← ended (calculatePbkdf2Response account.lib challenge account.password)
          let content ← postPbkdf2 account response
          pure (content.bind (validSid account.lib))

def postMd5 (account : Account) (response : String) : SessionM String := do
  let s ← read
  tryCatch
    (do
      let answered ← send (.login s.protocol false account.username response)
      if answered.status ≠ httpStatusOk then
        throw (connectionError ("Login failed: " ++ toString answered.status))
      else readText answered)
    (handleLoginError account)

def md5Response (lib : Library) (challenge password : String) : String :=
  challenge ++ "-" ++ lib.md5Hexdigest (challenge ++ "-" ++ password)

def loginViaMd5 (account : Account) : SessionM String := do
  let content ← tryCatch (fetchLoginPage account false) fun err =>
    if err.isConnectionError || err.isValueError then throw err
    else throw (connectionError ("Unexpected error: " ++ err.message))
  if content = "" then
    throw (connectionError ("No response from " ++ nameFritzbox ++ " login page"))
  else
    let challenge := (parseChallengeFromLoginXml account.lib.parseXml content).getD ""
    if challenge = "" then
      throw (valueError "Could not parse login response XML or find challenge")
    else do
      let content ← postMd5 account (md5Response account.lib challenge account.password)
      match validSid account.lib content with
      | none => throw (valueError errorMsgLoginFailedSid)
      | some sid => do
          update fun s => { s with sid := some sid }
          pure sid

def asyncGetSession (account : Account) : SessionM String := do
  let s ← read
  match s.sid with
  | some sid => pure sid
  | none => do
      let sid ← tryCatch (tryGetSessionViaPbkdf2 account) fun err =>
        if err.isValueError then pure none else throw err
      match sid with
      | some sid => do
          update fun s => { s with sid := some sid }
          pure sid
      | none => loginViaMd5 account

def validateVpnListingStatus (response : Response) (source : String) : SessionM Unit :=
  if response.status = httpStatusForbidden then throw (valueError errorMsgInvalidSid403)
  else if response.status ≠ httpStatusOk then do
    update invalidateSession
    throw (connectionError
      ("Failed to get VPN connections" ++ source ++ (": HTTP " ++ toString response.status)))
  else pure ()

def missingJson (requireJson : Bool) : SessionM (Option (Dict String Json)) :=
  if requireJson then throw (valueError errorMsgInvalidSidHtml) else pure none

def isJson (response : Response) : Bool := contains contentTypeJson (lower response.contentType)

def responseJsonDict (lib : Library) (response : Response) (requireJson : Bool) :
    SessionM (Option (Dict String Json)) :=
  if isJson response = false then missingJson requireJson
  else
    tryCatch
      (do
        let content ← readText response
        let data ← ended (lib.loads content)
        pure (asDict data))
      fun err => if err.isJSONDecodeError then missingJson requireJson else throw err

def restConnections (lib : Library) (data : Dict String Json) :
    Except PyError (Option (Dict String Json)) :=
  (extractWireguardConnectionsFromRest lib.repr data).map fun box =>
    box.map fun items => normalizeBoxConnections lib.repr (.arr items)

def dataLuaConnections (lib : Library) (data : Dict String Json) : Option (Dict String Json) :=
  (extractBoxConnectionsFromData data apiPageSharewireguard).map (normalizeBoxConnections lib.repr)

def fetchVpnConnectionsViaRest (account : Account) (sid : String) :
    SessionM (Option (Dict String Json)) := do
  let s ← read
  tryCatch
    (do
      let response ← send (.restVpn s.protocol sid)
      if response.status = httpStatusNotFound then pure none
      else do
        validateVpnListingStatus response " via REST"
        match ← responseJsonDict account.lib response false with
        | none => pure none
        | some data => ended (restConnections account.lib data))
    (handleListingError account)

def fetchVpnConnectionsViaDataLua (account : Account) (sid : String) :
    SessionM (Option (Dict String Json)) := do
  let s ← read
  tryCatch
    (do
      let response ← send (.dataLua s.protocol sid)
      validateVpnListingStatus response ""
      match ← responseJsonDict account.lib response true with
      | none => pure none
      | some data => pure (dataLuaConnections account.lib data))
    (handleListingError account)

def fetchListingByMode (account : Account) (sid : String) :
    ListingMode → SessionM (Option (Dict String Json))
  | .rest => fetchVpnConnectionsViaRest account sid
  | .dataLua => fetchVpnConnectionsViaDataLua account sid

def probeListing (account : Account) (sid : String) (preferred : Option ListingMode) :
    List ListingMode → SessionM (Dict String Json)
  | [] => do
      update invalidateSession
      throw (connectionError errorMsgVpnPayloadMissing)
  | mode :: modes =>
      if preferred = some mode then probeListing account sid preferred modes
      else do
        match ← fetchListingByMode account sid mode with
        | some result => do
            update fun s => { s with listingMode := some mode }
            pure result
        | none => probeListing account sid preferred modes

def fetchVpnConnectionsOnce (account : Account) : SessionM (Dict String Json) := do
  let sid ← asyncGetSession account
  let s ← read
  match s.listingMode with
  | none => probeListing account sid none listingProbeOrder
  | some mode => do
      match ← fetchListingByMode account sid mode with
      | some result => pure result
      | none => do
          update fun s => { s with listingMode := none }
          probeListing account sid (some mode) listingProbeOrder

def asyncGetVpnConnections (account : Account) : SessionM (Dict String Json) :=
  tryCatch (fetchVpnConnectionsOnce account) fun err =>
    if err.isValueError && contains errorMsgInvalidSid err.message then do
      update invalidateSession
      fetchVpnConnectionsOnce account
    else throw err

end FritzboxVpn.Session
