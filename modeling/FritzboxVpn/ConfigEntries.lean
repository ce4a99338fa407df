import FritzboxVpn.FritzconnectionSession
import FritzboxVpn.Tasks
import FritzboxVpn.UpdateInterval

namespace FritzboxVpn.ConfigEntries

open Exceptions FritzconnectionSession JsonValue OrderedDict Tasks Tasks.Task
open Interaction (Partner)

abbrev Config : Type := Dict String Json

structure Entry where
  data : Config
  options : Config
  uniqueId : Option String

inductive Source
  | user
  | ssdp
  | reauth
  | reconfigure
  | options
deriving DecidableEq

structure FlowId where
  source : Source
  number : Nat
deriving DecidableEq

/-- The entries by their numbers, which are not used again, and the unique ids
that flows in progress have set. -/
structure Store where
  entries : Dict Nat Entry := Dict.empty
  created : Nat := 0
  uniqueIds : Dict FlowId String := Dict.empty

inductive ForeignState
  | failedUnload
  | setupInProgress
  | other
deriving DecidableEq

structure ForeignEntry where
  state : ForeignState
  title : Option String
  data : Config
  options : Config

/-- `hass.config_entries.async_entries(domain)`; none where it raises KeyError. -/
abbrev Foreign : Type := String → Option (List ForeignEntry)

inductive Ask
  | foreignEntries
  | fetch (host username : Json) (password : String)
  | reload (entryId : Nat)

structure Answer where
  foreign : Foreign := fun _ => none
  box : Partner Request Reply := fun _ _ => {}
  notText : Except PyError Unit := .ok ()
  reloaded : Except PyError Unit := .ok ()

inductive FlowError
  | cannotConnect
  | invalidAuth
  | abortFlow (reason : String)
  | other (err : PyError)

def FlowError.message : FlowError → String
  | .cannotConnect => ""
  | .invalidAuth => ""
  | .abortFlow reason => "Flow aborted: " ++ reason
  | .other err => err.message

abbrev FlowM (β : Type) : Type := Task Store Ask Answer FlowError β

inductive Schema
  | credentials (host username : Json) (password : String)
  | configure (defaults : UpdateInterval.ConfigureSchema)
  | reauth (username : Json)
  | action (actions : List String)
  | confirmCheckbox
  | empty

inductive FlowResult
  | form (stepId : String) (schema : Schema) (errors : Dict String String)
  | createEntry (title : String) (data : Config)
  | abort (reason : String)

/-- What a write leaves: an entry that is there was written or was there before, and no
flow got a unique id. -/
structure Leaves (s : Store) (written : Nat → Entry → Prop) (s' : Store) : Prop where
  entries : ∀ i e, s'.entries.get? i = some e → written i e ∨ s.entries.get? i = some e
  created : s.created ≤ s'.created
  uniqueIds : ∀ flow u, s'.uniqueIds.get? flow = some u → s.uniqueIds.get? flow = some u

structure Claimed (s : Store) (flow : FlowId) (uniqueId : String) (s' : Store) : Prop where
  entries : s'.entries = s.entries
  created : s'.created = s.created
  self : s'.uniqueIds.get? flow = some uniqueId
  others : ∀ other ≠ flow, s'.uniqueIds.get? other = s.uniqueIds.get? other

/-- The calls of Home Assistant on its entries and flows. A flow that ends with a new
entry gives it its unique id, and the manager may remove others for it. -/
structure EntriesApi where
  asyncSetUniqueId : Store → FlowId → String → Except FlowError Store
  abortIfUniqueIdConfigured : Store → FlowId → Except FlowError Unit
  asyncAdd : Store → FlowId → Config → Store
  asyncUpdateEntry : Store → Nat → Entry → Store
  asyncRemove : Store → Nat → Store
  asyncAbort : Store → FlowId → Store
  claimed : ∀ s flow u s', asyncSetUniqueId s flow u = .ok s' → Claimed s flow u s'
  notConfigured : ∀ s flow, abortIfUniqueIdConfigured s flow = .ok () →
    ∀ u, s.uniqueIds.get? flow = some u → ∀ i e, s.entries.get? i = some e → e.uniqueId ≠ some u
  added : ∀ s flow data, Leaves s
    (fun i e => i = s.created ∧ e = ⟨data, Dict.empty, s.uniqueIds.get? flow⟩) (asyncAdd s flow data)
  created_lt : ∀ s flow data, s.created < (asyncAdd s flow data).created
  updated : ∀ s i e, Leaves s (fun j e' => j = i ∧ e' = e) (asyncUpdateEntry s i e)
  removed : ∀ s i, Leaves s (fun _ _ => False) (asyncRemove s i)
  aborted : ∀ s flow, Leaves s (fun _ _ => False) (asyncAbort s flow)

def unknownEntry (entryId : Nat) : FlowError := .other (otherError (toString entryId))

def getEntry (entryId : Nat) : FlowM Entry := do
  let s ← read
  match s.entries.get? entryId with
  | some entry => pure entry
  | none => throw (unknownEntry entryId)

section Calls

variable (api : EntriesApi)

def asyncSetUniqueId (flow : FlowId) (uniqueId : String) : FlowM Unit := do
  let s ← read
  match api.asyncSetUniqueId s flow uniqueId with
  | .ok s' => update fun _ => s'
  | .error e => throw e

def abortIfUniqueIdConfigured (flow : FlowId) : FlowM Unit := do
  let s ← read
  ended (api.abortIfUniqueIdConfigured s flow)

def asyncCreateEntry (flow : FlowId) (title : String) (data : Config) : FlowM FlowResult := do
  update fun s => api.asyncAdd s flow data
  pure (.createEntry title data)

def asyncUpdateEntry (entryId : Nat) (change : Entry → Entry) : FlowM Unit := do
  let entry ← getEntry entryId
  update fun s => api.asyncUpdateEntry s entryId (change entry)

/-- The reload is scheduled, not waited for. -/
def asyncUpdateReloadAndAbort (entryId : Nat) (change : Entry → Entry) (reason : String) :
    FlowM FlowResult := do
  asyncUpdateEntry api entryId change
  pure (.abort reason)

def managed (flow : FlowId) (step : FlowM FlowResult) : FlowM FlowResult :=
  tryCatch step fun err =>
    match err with
    | .abortFlow reason => do
        update fun s => api.asyncAbort s flow
        pure (.abort reason)
    | err => throw err

end Calls

end FritzboxVpn.ConfigEntries
