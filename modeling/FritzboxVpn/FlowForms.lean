import FritzboxVpn.ConfigEntries

namespace FritzboxVpn.FlowForms

open ConfigEntries Constants Exceptions FritzconnectionSession HostValidation JsonValue OrderedDict Tasks
  Tasks.Task Text UpdateInterval
open Session (Account Library)

def passwordFromSource (repr : Json → String) : Option Config → String
  | none => ""
  | some source =>
      if source.isEmpty then ""
      else
        pyStr repr (pyOr (pyOr (pyOr (value source confPassword) (value source "password"))
          (value source "pass")) (.str ""))

def passwordFromSources (repr : Json → String) : List (Option Config) → String
  | [] => ""
  | src :: sources =>
      if passwordFromSource repr src ≠ "" then passwordFromSource repr src
      else passwordFromSources repr sources

def credentialsDefaults (repr : Json → String) (config : Option Config) (hostFallback : String)
    (extraPasswordSources : List (Option Config)) : Json × Json × String :=
  match config with
  | none => (.str hostFallback, .str "", "")
  | some config =>
      if config.isEmpty then (.str hostFallback, .str "", "")
      else
        (pyOr (value config confHost) (.str hostFallback), pyOr (value config confUsername) (.str ""),
          passwordFromSources repr (some config :: extraPasswordSources))

def fillPasswordIfMissing (repr : Json → String) (userInput : Config) (sources : List (Option Config)) :
    Config :=
  if truthy (value userInput confPassword) then userInput
  else userInput.insert confPassword (.str (passwordFromSources repr sources))

def submittedHost (repr : Json → String) (userInput : Config) : String :=
  pyStr repr ((userInput.get? confHost).getD (.str ""))

def validateHostOnSubmit (chars : CharClass) (repr : Json → String) (userInput : Config)
    (errors : Dict String String) : Bool × Dict String String :=
  match validateHost chars (.str (submittedHost repr userInput)) with
  | .ok _ => (true, errors)
  | .error _ => (false, errors.insert confHost errorKeyInvalidHost)

def credentialsSchema (defaults : Json × Json × String) : Schema :=
  .credentials defaults.1 defaults.2.1 defaults.2.2

def configureSchemaForResubmit (chars : CharClass) (userInput : Config) :
    Except PyError ConfigureSchema :=
  configureSchema chars userInput userInput

def confirmSchema (repr : Json → String) (existingConfig : Option Config) (discoveredHost : Option String)
    (currentInput : Option Config) : Schema :=
  let hostFallback := (discoveredHost.filter (· ≠ "")).getD defaultHost
  match currentInput with
  | some input => credentialsSchema (credentialsDefaults repr (some input) hostFallback [existingConfig])
  | none => credentialsSchema (credentialsDefaults repr existingConfig hostFallback [])

def reauthSchema (usernameDefault : Json) : Schema := .reauth usernameDefault

def keyError (key : String) : PyError := otherError ("'" ++ (key ++ "'"))

def getItem (config : Config) (key : String) : Except PyError Json :=
  match config.get? key with
  | some v => .ok v
  | none => .error (keyError key)

def loginData (host username password : Json) : Config :=
  Dict.ofList [(confHost, host), (confUsername, username), (confPassword, password)]

def configAndOptionsFromConfigureInput (userInput : Config) : Except PyError (Config × Config) := do
  let host ← getItem userInput confHost
  let username ← getItem userInput confUsername
  let password ← getItem userInput confPassword
  let interval ← normalizeUpdateInterval
    ((userInput.get? confUpdateInterval).getD (.int defaultUpdateInterval))
  return (loginData host username password, Dict.ofList [(confUpdateInterval, .int interval)])

def validationErrorKey (errorMsg : String) : String :=
  if errorIndicatorAuth.any fun ind => contains ind (lower errorMsg) then errorKeyInvalidAuth
  else if errorIndicatorConnect.any fun ind => contains ind (lower errorMsg) then errorKeyCannotConnect
  else errorKeyUnknown

def setValidationError (errors : Dict String String) : FlowError → Dict String String
  | .cannotConnect => errors.insert "base" errorKeyCannotConnect
  | .invalidAuth => errors.insert "base" errorKeyInvalidAuth
  | err => errors.insert "base" (validationErrorKey err.message)

def fetched (lib : Library) (host username : Json) (password : String) (a : Answer) : Except PyError Unit :=
  match host, username with
  | .str host, .str username =>
      let session := do
        let _ ← asyncGetVpnConnections ⟨host, username, password, lib⟩
        asyncClose
      (session a.box ⟨{}, []⟩).1.mapError CallError.error
  | _, _ => a.notText

def verdict (repr : Json → String) (host : Json) : Except PyError Unit → Except FlowError String
  | .ok () => .ok (integrationTitle ++ (" (" ++ (pyStr repr host ++ ")")))
  | .error err =>
      if errorIndicatorAuth.any fun ind => contains ind (lower err.message) then .error .invalidAuth
      else .error .cannotConnect

def validateInput (lib : Library) (data : Config) : FlowM String := do
  let host ← ended ((getItem data confHost).mapError FlowError.other)
  let username ← ended ((getItem data confUsername).mapError FlowError.other)
  let password := passwordFromSources lib.repr [some data]
  let a ← request (.fetch host username password)
  ended (verdict lib.repr host (fetched lib host username password a))

def asyncValidateConfigureInput (chars : CharClass) (lib : Library) (userInput : Config)
    (errors : Dict String String) (passwordSources : List (Option Config)) :
    FlowM (Except (Dict String String) Unit × Config) := do
  let userInput := fillPasswordIfMissing lib.repr userInput passwordSources
  let (valid, errors) := validateHostOnSubmit chars lib.repr userInput errors
  if valid then
    tryCatch
      (do
        let _ ← validateInput lib userInput
        pure (.ok (), userInput))
      fun err => pure (.error (setValidationError errors err), userInput)
  else pure (.error errors, userInput)

end FritzboxVpn.FlowForms
