import FritzboxVpn.Coordinator
import FritzboxVpn.HostValidation

namespace FritzboxVpn.UpdateInterval

open Constants Exceptions HostValidation JsonValue OrderedDict Text

def clamp (n : Int) : Int :=
  if updateIntervalMin ≤ n ∧ n ≤ updateIntervalMax then n else defaultUpdateInterval

def normalizeUpdateInterval : Json → Except PyError Int
  | .null => .ok defaultUpdateInterval
  | .bool b => .ok (clamp (if b then 1 else 0))
  | .int n => .ok (clamp n)
  | .float x =>
      match x.toInt with
      | some n => .ok (clamp n)
      | none =>
          -- only ValueError and TypeError are caught, not OverflowError
          if x.repr = "nan" then .ok defaultUpdateInterval
          else .error (otherError "cannot convert float infinity to integer")
  | .str s =>
      match parseInt s with
      | some n => .ok (clamp n)
      | none => .ok defaultUpdateInterval
  | _ => .ok defaultUpdateInterval

def pyOr (a b : Json) : Json := if truthy a then a else b

def value (config : Dict String Json) (key : String) : Json := (config.get? key).getD .null

def resolveUpdateIntervalSeconds (config options : Dict String Json) : Except PyError Int :=
  normalizeUpdateInterval
    (pyOr (pyOr (value options confUpdateInterval) (value config confUpdateInterval))
      (.int defaultUpdateInterval))

structure Diagnostics where
  host : Json
  updateIntervalSeconds : Int
  lastUpdateSuccess : Option Bool
  /-- UID, name, active and connected. -/
  vpnConnections : List (String × Json × Json × Json)

def diagnosedConnections (connections : Dict String Json) : List (String × Json × Json × Json) :=
  connections.entries.filterMap fun p =>
    (asDict p.2).map fun conn =>
      (p.1, value conn apiKeyName, value conn apiKeyActive, value conn apiKeyConnected)

def asyncGetConfigEntryDiagnostics (data options : Dict String Json)
    (coordinator : Option Coordinator.State) : Except PyError Diagnostics :=
  (normalizeUpdateInterval
      (pyOr (value options confUpdateInterval) (value data confUpdateInterval))).map
    fun updateInterval =>
      { host := (data.get? confHost).getD (.str hostFallbackUnknown)
        updateIntervalSeconds := updateInterval
        lastUpdateSuccess := coordinator.map (·.lastUpdateSuccess)
        vpnConnections := ((coordinator.bind (·.data)).map diagnosedConnections).getD [] }

structure ConfigureSchema where
  host : String
  username : Json
  password : String
  updateInterval : Int

def credentialsDefaults (config : Dict String Json) : Json × Json :=
  if config.isEmpty then (.str defaultHost, .str "")
  else (pyOr (value config confHost) (.str defaultHost), pyOr (value config confUsername) (.str ""))

def configureSchema (chars : CharClass) (currentData currentOptions : Dict String Json) :
    Except PyError ConfigureSchema :=
  let defaults := credentialsDefaults currentData
  (normalizeUpdateInterval
      ((currentOptions.get? confUpdateInterval).getD (.int defaultUpdateInterval))).map
    fun updateInterval =>
      { host := (validateHost chars defaults.1).toOption.getD defaultHost
        username := defaults.2
        password := ""
        updateInterval }

namespace Stored

end Stored

namespace Stored

end Stored

end FritzboxVpn.UpdateInterval
