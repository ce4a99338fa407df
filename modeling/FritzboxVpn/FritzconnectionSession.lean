import FritzboxVpn.Channels
import FritzboxVpn.Toggle

namespace FritzboxVpn.FritzconnectionSession

open Channels Constants Exceptions Interaction Interaction.Program Listings
open Session (Account Answer Protocol SessionM)

def defaultTimeout : Nat := 10

inductive Mode
  | fritzconnection
  | fritzboxvpn
deriving DecidableEq

/-- What a call of the adapter raises: an exception, and the classes of the
packages it comes from. -/
structure CallError where
  error : PyError
  isRequestsTimeout : Bool := false
  isRequestsConnectionError : Bool := false
  isModuleNotFoundError : Bool := false
  isFritzAuthorizationError : Bool := false

/-- The calls the adapter makes. A FritzConnection is known by its number, and the
FritzWireguard on top of it by the same one. -/
inductive Request
  | importFritzconnection
  | fritzConnection (address : String) (user : Option String) (password : String) (timeout : Nat)
      (useTls : Bool)
  | fritzWireguard (fc : Nat)
  | getVpnConnections (fwg : Nat)
  | toggleVpn (fwg : Nat) (connectionUid : String) (enable : Bool)
  | close (fc : Nat)
  | session (r : Session.Request)
deriving DecidableEq

/-- A reply holds one part for each kind of call; a call reads its own. -/
structure Reply where
  box : Answer := .ok ⟨0, "", .ok ""⟩
  done : Except CallError Unit := .ok ()
  connections : Except CallError Listing := .ok OrderedDict.Dict.empty
  toggled : Except CallError Bool := .ok false

structure State where
  useTls : Bool := true
  mode : Option Mode := none
  fc : Option Nat := none
  fwg : Option Nat := none
  fallbackSession : Option Session.State := none
  opened : Nat := 0
deriving DecidableEq

abbrev AdapterM (β : Type) : Type := Program State Request Reply CallError β

def ofPyError (e : PyError) : CallError := { error := e }

def call {β : Type} (r : Request) (part : Reply → Except CallError β) : AdapterM β := do
  let reply ← request r
  ended (part reply)

def boxChannel : Channel Session.Request Request Answer Reply where
  ask := .session
  wrap a := { box := a }
  answer := Reply.box
  part
    | .session r => some r
    | _ => none
  answer_wrap _ := rfl
  part_ask _ := rfl

def runtimeError (message : String) : CallError := ofPyError (otherError message)

def onFallback {β : Type} (p : SessionM β) : AdapterM β := do
  let s ← read
  match s.fallbackSession with
  | none => throw (runtimeError "")
  | some session =>
      boxChannel.run p session (fun session s => { s with fallbackSession := some session }) ofPyError

def useFallback (s : State) : State :=
  { s with
    fallbackSession := some { protocol := if s.useTls then .https else .http }
    mode := some .fritzboxvpn }

def bootstrap (account : Account) : AdapterM Unit := do
  let s ← read
  let user := if account.username = "" then none else some account.username
  call (.fritzConnection account.host user account.password defaultTimeout s.useTls) Reply.done
  update fun s => { s with fc := some s.opened, opened := s.opened + 1 }
  call (.fritzWireguard s.opened) Reply.done
  update fun s => { s with fwg := s.fc, mode := some .fritzconnection }

def importOrFallback : AdapterM Bool :=
  tryCatch
    (do
      call .importFritzconnection Reply.done
      pure true)
    fun err =>
      if err.isModuleNotFoundError then do
        update useFallback
        pure false
      else throw err

def isReady (s : State) : Bool :=
  (s.mode = some .fritzconnection && s.fc.isSome && s.fwg.isSome) ||
    (s.mode = some .fritzboxvpn && s.fallbackSession.isSome)

def ensureClient (account : Account) : AdapterM Unit := do
  let s ← read
  if isReady s then pure ()
  else do
    let imported ← importOrFallback
    if imported then bootstrap account else pure ()

def dropClient (s : State) : State := { s with fc := none, fwg := none }

def closeSync : AdapterM Unit := do
  let s ← read
  match s.fc with
  | none => pure ()
  | some fc => do
      call (.close fc) Reply.done
      update dropClient

def invalidateFallback (s : State) : State :=
  { s with fallbackSession := s.fallbackSession.map Session.invalidateSession }

def invalidateSession : AdapterM Unit := do
  update invalidateFallback
  let s ← read
  match s.fc with
  | none => pure ()
  | some fc => tryCatch (call (.close fc) Reply.done) fun _ => pure ()
  update fun s => { dropClient s with useTls := true }

def onWireguard {β : Type} (account : Account) (unexpectedMode : String) (r : Nat → Request)
    (part : Reply → Except CallError β) : AdapterM β := do
  ensureClient account
  let s ← read
  if s.mode ≠ some .fritzconnection then throw (runtimeError unexpectedMode)
  else
    match s.fwg with
    | none => throw (runtimeError "")
    | some fwg => call (r fwg) part

def getVpnConnectionsSync (account : Account) : AdapterM Listing :=
  onWireguard account "Unexpected mode for sync VPN fetch" .getVpnConnections Reply.connections

def toggleVpnSync (account : Account) (connectionUid : String) (enable : Bool) : AdapterM Bool :=
  onWireguard account "Unexpected mode for sync VPN toggle"
    (fun fwg => .toggleVpn fwg connectionUid enable) Reply.toggled

def asyncClose : AdapterM Unit := do
  let s ← read
  match s.fallbackSession with
  | some _ => update invalidateFallback
  | none =>
      match s.fc with
      | none => pure ()
      | some _ => closeSync

def authError (err : CallError) (asValueError : Bool) : CallError :=
  let message := "Login failed: " ++ err.error.message
  ofPyError (if asValueError then valueError message else connectionError message)

def raiseOther {β : Type} (err : CallError) (authAsValueError : Bool) : AdapterM β :=
  if err.isFritzAuthorizationError then throw (authError err authAsValueError) else throw err

def raiseInvalidated {β : Type} (err : PyError) : AdapterM β := do
  invalidateSession
  throw (ofPyError err)

def handleRetryError {β : Type} (failMessage : String) (authAsValueError : Bool) (err : CallError) :
    AdapterM β :=
  if err.isRequestsTimeout then raiseInvalidated (timeoutError err.error.message)
  else if err.isRequestsConnectionError then
    raiseInvalidated (connectionError (failMessage ++ (": " ++ err.error.message)))
  else raiseOther err authAsValueError

def handleCallError {β : Type} (syncCall : AdapterM β) (failMessage : String)
    (authAsValueError : Bool) (err : CallError) : AdapterM β :=
  if err.isRequestsTimeout then raiseInvalidated (timeoutError err.error.message)
  else if err.isRequestsConnectionError then do
    let s ← read
    if s.useTls then do
      update fun s => { s with useTls := false }
      closeSync
      tryCatch syncCall (handleRetryError failMessage authAsValueError)
    else raiseInvalidated (connectionError (failMessage ++ (": " ++ err.error.message)))
  else raiseOther err authAsValueError

def withHttpsHttpFallback {β : Type} (account : Account) (fallbackPrimary syncCall : AdapterM β)
    (failMessage : String) (authAsValueError : Bool) : AdapterM β :=
  tryCatch
    (do
      ensureClient account
      let s ← read
      if s.mode = some .fritzboxvpn then fallbackPrimary else syncCall)
    (handleCallError syncCall failMessage authAsValueError)

def asyncGetVpnConnections (account : Account) : AdapterM Listing :=
  withHttpsHttpFallback account (onFallback (Session.asyncGetVpnConnections account))
    (getVpnConnectionsSync account) "failed to get login page" true

def asyncToggleVpn (account : Account) (connectionUid : String) (enable : Bool) : AdapterM Bool :=
  withHttpsHttpFallback account (onFallback (Toggle.asyncToggleVpn account connectionUid enable))
    (toggleVpnSync account connectionUid enable) "failed to toggle VPN" false

end FritzboxVpn.FritzconnectionSession
