import FritzboxVpn.ConfigFlow
import FritzboxVpn.OptionsMenu

namespace FritzboxVpn.OptionsFlow

open ConfigEntries ConfigFlow Coordinator EmptyDevices EntityRepairs Exceptions HomeAssistant OptionsMenu
  OrderedDict RegistryRows Tasks Tasks.Task

/-- What a step finds of an entry beside its data: the registries, which others change
as they like from one step to the next, and what is loaded. -/
structure Found where
  σ : Type
  calls : RegistryCalls σ
  order : IterationOrder
  slugify : String → String
  entryId : String
  live : LiveEntry
  known : RuntimeData
  state : σ

section Steps

variable (L : Libraries)

def reloadIf (entryId : Nat) : Bool → FlowM Unit
  | true => do
      let a ← request (.reload entryId)
      ended (a.reloaded.mapError FlowError.other)
  | false => pure ()

def endStep (entryId : Nat) : Confirm → FlowM FlowResult
  | .checkbox stepId => pure (.form stepId .confirmCheckbox Dict.empty)
  | .unavailable stepId errors => pure (.form stepId .empty (Dict.ofList errors))
  | .createEntry _ => do
      let entry ← getEntry entryId
      asyncUpdateEntry L.entries entryId fun e => { e with options := entry.options }
      pure (.createEntry "" entry.options)
  | .abort reason => pure (.abort reason)

def confirmStep (entryId : Nat) (found : Found)
    (step : Option MenuEntry → RuntimeData → found.σ → Outcome found.σ) : FlowM FlowResult := do
  let s ← read
  let outcome := step ((s.entries.get? entryId).map fun e => ⟨found.live, e.options⟩) found.known found.state
  reloadIf entryId outcome.reloaded
  let result ← ended (outcome.result.mapError FlowError.other)
  endStep L entryId result

def asyncStepCleanupConfirm (entryId : Nat) (found : Found) (userInput : Option Config) :
    FlowM FlowResult :=
  confirmStep L entryId found fun entry =>
    OptionsMenu.asyncStepCleanupConfirm found.entryId found.calls found.order (.ok ()) entry userInput

def asyncStepRepairEntityIdsConfirm (entryId : Nat) (found : Found) (userInput : Option Config) :
    FlowM FlowResult :=
  confirmStep L entryId found fun entry =>
    OptionsMenu.asyncStepRepairEntityIdsConfirm found.slugify found.entryId found.calls found.order
      (.ok ()) entry userInput

def asyncStepInit (entryId : Nat) (found : Found) (userInput : Option Config) : FlowM FlowResult := do
  let s ← read
  match OptionsMenu.asyncStepInit found.slugify found.entryId (found.calls.view found.state)
      ((s.entries.get? entryId).map fun _ => found.live) userInput with
  | .menu actions => pure (.form "init" (.action actions) Dict.empty)
  | .configure => asyncStepConfigureInit L entryId
  | .cleanupConfirm => asyncStepCleanupConfirm L entryId found none
  | .repairEntityIdsConfirm => asyncStepRepairEntityIdsConfirm L entryId found none

end Steps

inductive Unavailable : Dict String String → Prop
  | notLoaded : Unavailable (Dict.ofList [("base", "integration_not_loaded")])
  | notReady : Unavailable (Dict.ofList [("base", "coordinator_not_ready")])

inductive Ends : Confirm → Prop
  | checkbox (stepId) : Ends (.checkbox stepId)
  | unavailable (errors) (h : Unavailable (Dict.ofList errors)) :
      Ends (.unavailable "cleanup_confirm" errors)
  | createEntry (options) : Ends (.createEntry options)
  | abort (reason) : Ends (.abort reason)

section Results

variable {σ α : Type} {calls : RegistryCalls σ} {order : IterationOrder} {slugify : String → String}
  {entryId : String} {entry : Option MenuEntry} {userInput : Option Config} {known : RuntimeData} {s : σ}
  {reload : Except PyError Unit} {result : Confirm}

theorem confirmOptionsAction_ends {stepId : String} {menuEntry : MenuEntry} {pending : List α}
    {onConfirm : RuntimeData → σ → Except PyError Unit × Bool × RuntimeData × σ}
    (h : (confirmOptionsAction stepId menuEntry userInput pending onConfirm known s).result = .ok result) :
    Ends result := by
  cases userInput with
  | none =>
      rw [confirmOptionsAction] at h
      split at h
      · cases h
        exact .createEntry _
      · cases h
        exact .checkbox _
  | some input =>
      rw [confirmOptionsAction] at h
      split at h
      · split at h
        · cases h
        · cases h
          exact .createEntry _
      · cases h
        exact .createEntry _

theorem resolveCurrentUids_unavailable {live : Option LiveEntry} {errorKey : String}
    (h : resolveCurrentUids live = .error errorKey) : Unavailable (Dict.ofList [("base", errorKey)]) := by
  rw [resolveCurrentUids] at h
  split at h
  · cases h
    exact .notLoaded
  · split at h
    · cases h
      exact .notReady
    · cases h

theorem asyncStepCleanupConfirm_ends
    (h : (OptionsMenu.asyncStepCleanupConfirm entryId calls order reload entry userInput known s).result =
      .ok result) : Ends result := by
  cases entry with
  | none =>
      cases h
      exact .abort _
  | some entry =>
      rw [OptionsMenu.asyncStepCleanupConfirm] at h
      cases hget : Orphans.getOrphanedEntityEntries (calls.view s) entryId (some entry.live) none with
      | error errorKey =>
          rw [hget] at h
          cases h
          rw [Orphans.getOrphanedEntityEntries] at hget
          cases hres : resolveCurrentUids (some entry.live) with
          | error key =>
              rw [hres] at hget
              cases hget
              exact .unavailable _ (resolveCurrentUids_unavailable hres)
          | ok uids =>
              rw [hres] at hget
              cases hget
      | ok toRemove =>
          rw [hget] at h
          exact confirmOptionsAction_ends h

theorem asyncStepRepairEntityIdsConfirm_ends
    (h : (OptionsMenu.asyncStepRepairEntityIdsConfirm slugify entryId calls order reload entry userInput known
      s).result = .ok result) : Ends result := by
  cases entry with
  | none =>
      cases h
      exact .abort _
  | some entry => exact confirmOptionsAction_ends h

end Results

end FritzboxVpn.OptionsFlow
