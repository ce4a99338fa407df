import FritzboxVpn.FritzConfigSource
import FritzboxVpn.SsdpUniqueId

namespace FritzboxVpn.ConfigFlow

open ConfigEntries Constants Exceptions FlowForms FritzConfigSource HostValidation JsonValue OrderedDict
  SsdpUniqueId Tasks Tasks.Task UpdateInterval
open Session (Library)

structure Libraries where
  lib : Library
  chars : CharClass
  nfkc : List Char → List Char
  entries : EntriesApi

structure FlowObject where
  discoveredHost : Option String := none
  discoveredUniqueId : Option String := none
  existingConfig : Option Config := none

section Steps

variable (L : Libraries)

def getExisting : FlowM (Option Config) := do
  let a ← request .foreignEntries
  pure (getExistingFritzConfig L.lib.repr a.foreign)

def tested (userInput : Config) (errors : Dict String String) : FlowM (Except (Dict String String) String) :=
  tryCatch
    (do
      let title ← validateInput L.lib userInput
      pure (.ok title))
    fun err => pure (.error (setValidationError errors err))

def claimUniqueId (flow : FlowId) : Option String → FlowM Unit
  | some uniqueId => do
      asyncSetUniqueId L.entries flow uniqueId
      abortIfUniqueIdConfigured L.entries flow
  | none => pure ()

def tryCreateEntryFromCredentials (flow : FlowId) (userInput : Config) (errors : Dict String String)
    (passwordSources : List (Option Config)) (uniqueId : Option String) :
    FlowM (Except (Config × Dict String String) FlowResult) := do
  let userInput := fillPasswordIfMissing L.lib.repr userInput passwordSources
  let (valid, errors) := validateHostOnSubmit L.chars L.lib.repr userInput errors
  if valid then
    match ← tested L userInput errors with
    | .error errors => pure (.error (userInput, errors))
    | .ok title => do
        claimUniqueId L flow uniqueId
        let result ← asyncCreateEntry L.entries flow title userInput
        pure (.ok result)
  else pure (.error (userInput, errors))

def isComplete (config : Config) : Bool :=
  truthy (value config confHost) && truthy (value config confUsername) &&
    passwordFromSources L.lib.repr [some config] ≠ ""

def autoconfigured (flow : FlowId) (config : Config) : FlowM (Except (Dict String String) FlowResult) :=
  tryCatch
    (do
      let title ← validateInput L.lib config
      let result ← asyncCreateEntry L.entries flow title config
      pure (.ok result))
    fun err =>
      match err with
      | .cannotConnect => pure (.error (Dict.ofList [("base", errorKeyCannotConnect)]))
      | .invalidAuth => pure (.error (Dict.ofList [("base", errorKeyInvalidAuth)]))
      | _ => pure (.error (Dict.ofList [("base", errorKeyUnknown)]))

def userForm (config : Option Config) (errors : Dict String String) : FlowResult :=
  .form "user" (credentialsSchema (credentialsDefaults L.lib.repr config defaultHost [])) errors

def asyncStepUserInit (flow : FlowId) : FlowM (FlowResult × FlowObject) := do
  let existing ← getExisting L
  let object : FlowObject := { existingConfig := existing }
  match existing with
  | none => pure (userForm L none Dict.empty, object)
  | some config =>
      if isComplete L config then do
        match ← autoconfigured L flow config with
        | .ok result => pure (result, object)
        | .error errors => pure (userForm L (some config) errors, object)
      else pure (userForm L (some config) Dict.empty, object)

def asyncStepUser (flow : FlowId) (object : FlowObject) (userInput : Config) : FlowM FlowResult := do
  match ← tryCreateEntryFromCredentials L flow userInput Dict.empty [object.existingConfig] none with
  | .ok result => pure result
  | .error (userInput, errors) => pure (userForm L (some userInput) errors)

def confirmForm (object : FlowObject) (currentInput : Option Config) (errors : Dict String String) :
    FlowResult :=
  .form "confirm"
    (confirmSchema L.lib.repr object.existingConfig object.discoveredHost currentInput) errors

def asyncStepConfirm (flow : FlowId) (object : FlowObject) (userInput : Config) : FlowM FlowResult := do
  match ← tryCreateEntryFromCredentials L flow userInput Dict.empty [object.existingConfig]
      object.discoveredUniqueId with
  | .ok result => pure result
  | .error (userInput, errors) => pure (confirmForm L object (some userInput) errors)

/-- `async_step_ssdp`, which goes on to the form of `async_step_confirm`. -/
def asyncStepSsdp (flow : FlowId) (info : SsdpServiceInfo) : FlowM (FlowResult × FlowObject) := do
  let existing ← getExisting L
  if existing.isSome then pure (.abort "already_configured", {})
  else if !isFritzboxRouterDiscovery L.lib.repr info then pure (.abort "not_fritzbox", {})
  else
    match (hostFromSsdp L.nfkc info).filter (· ≠ "") with
    | none => pure (.abort "no_host", {})
    | some host =>
        if isLinkLocalHost host then pure (.abort "no_host", {})
        else do
          let uniqueId := uniqueIdForDiscovery info host
          claimUniqueId L flow (some uniqueId)
          let existing ← getExisting L
          let object : FlowObject := ⟨some host, some uniqueId, existing⟩
          pure (confirmForm L object none Dict.empty, object)

def hostFromConfig (config : Config) : Json := (config.get? confHost).getD (.str hostFallbackUnknown)

def reauthForm (username : Json) (errors : Dict String String) : FlowResult :=
  .form "reauth_confirm" (reauthSchema username) errors

def asyncStepReauthConfirmInit (entryId : Nat) : FlowM FlowResult := do
  let entry ← getEntry entryId
  pure (reauthForm ((entry.data.get? confUsername).getD (.str "")) Dict.empty)

def withLogin (host username password : Json) (entry : Entry) : Entry :=
  { entry with data :=
      ((entry.data.insert confHost host).insert confUsername username).insert confPassword password }

/-- `async_step_reauth_confirm` with input. The entry is looked at again when the test is done. -/
def asyncStepReauthConfirm (entryId : Nat) (userInput : Config) : FlowM FlowResult := do
  let entry ← getEntry entryId
  let host := hostFromConfig entry.data
  let username ← ended ((getItem userInput confUsername).mapError FlowError.other)
  let password ← ended ((getItem userInput confPassword).mapError FlowError.other)
  match ← tested L (loginData host username password) Dict.empty with
  | .ok _ => asyncUpdateReloadAndAbort L.entries entryId (withLogin host username password) "reauth_successful"
  | .error errors =>
      let usernameDefault := (entry.data.get? confUsername).getD (.str "")
      pure (reauthForm ((userInput.get? confUsername).getD usernameDefault) errors)

def configureForm (stepId : String) (schema : Except PyError ConfigureSchema) (errors : Dict String String) :
    FlowM FlowResult := do
  let schema ← ended (schema.mapError FlowError.other)
  pure (.form stepId (.configure schema) errors)

def entryForm (stepId : String) (entry : Entry) : FlowM FlowResult :=
  configureForm stepId (configureSchema L.chars entry.data entry.options) Dict.empty

def asyncStepReconfigureInit (entryId : Nat) : FlowM FlowResult := do
  let entry ← getEntry entryId
  entryForm L "reconfigure" entry

def asyncStepConfigureInit (entryId : Nat) : FlowM FlowResult := do
  let s ← read
  match s.entries.get? entryId with
  | none => pure (.abort errorKeyConfigEntryNotFound)
  | some entry => entryForm L "configure" entry

def asyncStepReconfigure (entryId : Nat) (userInput : Config) : FlowM FlowResult := do
  let entry ← getEntry entryId
  match ← asyncValidateConfigureInput L.chars L.lib userInput Dict.empty [some entry.data] with
  | (.ok (), userInput) => do
      let (data, options) ← ended ((configAndOptionsFromConfigureInput userInput).mapError FlowError.other)
      asyncUpdateReloadAndAbort L.entries entryId (fun entry => { entry with data, options })
        "reconfigure_successful"
  | (.error errors, userInput) =>
      configureForm "reconfigure" (configureSchemaForResubmit L.chars userInput) errors

/-- `async_step_configure` with input. When the entry is reloaded, the flow manager
writes the options of the result once more. -/
def asyncStepConfigure (entryId : Nat) (userInput : Config) : FlowM FlowResult := do
  let s ← read
  match s.entries.get? entryId with
  | none => pure (.abort errorKeyConfigEntryNotFound)
  | some entry => do
      match ← asyncValidateConfigureInput L.chars L.lib (userInput.erase "action") Dict.empty
          [some entry.data] with
      | (.ok (), userInput) => do
          let (data, options) ←
            ended ((configAndOptionsFromConfigureInput userInput).mapError FlowError.other)
          asyncUpdateEntry L.entries entryId fun entry => { entry with data, options }
          let a ← request (.reload entryId)
          ended (a.reloaded.mapError FlowError.other)
          asyncUpdateEntry L.entries entryId fun entry => { entry with options }
          pure (.createEntry "" options)
      | (.error errors, userInput) =>
          configureForm "configure" (configureSchemaForResubmit L.chars userInput) errors

end Steps

end FritzboxVpn.ConfigFlow
