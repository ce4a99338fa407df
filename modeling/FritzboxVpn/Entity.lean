import FritzboxVpn.CoordinatorSteps

namespace FritzboxVpn.Entity

open Coordinator Exceptions HomeAssistant JsonValue OrderedDict

def connectionAvailable (c : State) (connectionUid : String) : Bool :=
  c.lastUpdateSuccess && decide (c.resolveConnectionUid connectionUid ∈ c.dataKeys)

def connectionData (c : State) (connectionUid : String) : Option Json :=
  c.data.bind fun data => data.get? (c.resolveConnectionUid connectionUid)

variable {β : Type}

def toggleVpn (env : Env) (hass : Hass) (c : State)
    (asyncToggleVpn : String → Bool → β → Except PyError Bool × β) (connectionUid : String)
    (enable : Bool) (box : β) : Except PyError Bool × State × β :=
  match asyncToggleVpn (c.resolveConnectionUid connectionUid) enable box with
  | (.ok done, box') => (.ok done, c, box')
  | (.error err, box') =>
      (.error err, if isAuthError err then (scheduleReauth env hass c).2 else c, box')

theorem toggleVpn_box (env : Env) (hass : Hass) (c : State)
    (asyncToggleVpn : String → Bool → β → Except PyError Bool × β) (uid : String) (enable : Bool)
    (box : β) :
    ((toggleVpn env hass c asyncToggleVpn uid enable box).1,
        (toggleVpn env hass c asyncToggleVpn uid enable box).2.2) =
      asyncToggleVpn (c.resolveConnectionUid uid) enable box := by
  rw [toggleVpn]
  cases h : asyncToggleVpn (c.resolveConnectionUid uid) enable box with
  | mk result box' => cases result <;> rfl

theorem mem_dataKeys {c : State} {uid : String} :
    uid ∈ c.dataKeys ↔ ∃ data, c.data = some data ∧ uid ∈ data.keys := by
  rw [State.dataKeys]
  cases c.data <;> simp

end FritzboxVpn.Entity
