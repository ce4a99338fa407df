import Mathlib.Tactic.TypeStar

namespace FritzboxVpn.Constants

def domain : String := "fritzbox_vpn"

def retryAfterSeconds : Nat := 60
def orphanConfirmPolls : Nat := 3
def recoveryStablePolls : Nat := 2
def recoveryMinIntervalFactor : Nat := 3
def recoveryMaxWindowFactor : Nat := 2

def uniqueIdPrefix : String := "fritzbox_vpn_"

inductive UniqueIdSuffix
  | vpnUid
  | connected
  | status
  | switch
  | uid
deriving DecidableEq

def UniqueIdSuffix.token : UniqueIdSuffix → String
  | .vpnUid => "vpn_uid"
  | .connected => "connected"
  | .status => "status"
  | .switch => "switch"
  | .uid => "uid"

/-- The order in which the decoder tries the suffixes. -/
def uniqueIdSuffixes : List UniqueIdSuffix := [.vpnUid, .connected, .status, .switch, .uid]

def apiKeyName : String := "name"
def apiKeyUid : String := "uid"
def apiKeyActive : String := "active"
def apiKeyConnected : String := "connected"
def apiKeyData : String := "data"
def apiKeyInit : String := "init"
def apiKeyBoxConnections : String := "boxConnections"
def apiKeyConnection : String := "connection"
def apiKeyUidRest : String := "UID"
def apiKeyActivated : String := "activated"
def apiKeyConnectedSince : String := "connected_since"
def apiKeyState : String := "state"
def apiKeyAccessType : String := "access_type"
def apiPageSharewireguard : String := "shareWireguard"
def accessTypeWireguard : String := "4"
def wireguardStateReady : String := "ready"
def activeStateStringsTrue : List String := ["1", "true", "yes", "on"]

def attrUid : String := "uid"
def attrVpnUid : String := "vpn_uid"
def attrStatus : String := "status"

def statusConnected : String := "connected"
def statusEnabled : String := "enabled"
def statusDisabled : String := "disabled"
def statusUnknown : String := "unknown"

def confHost : String := "host"
def confUsername : String := "username"
def confPassword : String := "password"
def defaultHost : String := "192.168.178.1"
def hostFallbackUnknown : String := "unknown"

def confUpdateInterval : String := "update_interval"
def defaultUpdateInterval : Int := 30
def updateIntervalMin : Int := 5
def updateIntervalMax : Int := 3600

def apiLogin : String := "/login_sid.lua"
def protocolHttp : String := "http"
def protocolHttps : String := "https"

def loginTagChallenge : String := "Challenge"
def loginTagSid : String := "SID"
def loginTagBlocktime : String := "BlockTime"
def invalidSidValue : String := "0000000000000000"

def contentTypeJson : String := "json"
def httpStatusOk : Nat := 200
def httpStatusForbidden : Nat := 403
def httpStatusNotFound : Nat := 404
def httpsFallbackStatusCodes : List Nat := [400, httpStatusNotFound, 502, 503]

def nameFritzbox : String := "Fritz!Box"
def errorMsgInvalidSid : String := "Invalid SID"
def errorMsgInvalidSid403 : String := "Invalid SID (HTTP 403)"
def errorMsgInvalidSidHtml : String := "Invalid SID (HTML response)"
def errorMsgVpnPayloadMissing : String := "VPN connections payload missing from Fritz!Box response"
def errorMsgLoginFailedSid : String :=
  "Login failed: Invalid SID. This can be caused by: " ++
    "(1) Incorrect username or password, or (2) TR-064 not being enabled. " ++
    "Please check your credentials first, then verify that TR-064 (Permit access for apps) " ++
    "is enabled in the " ++ nameFritzbox ++ " under " ++
    "Home Network > Network > Network settings > Access Settings in the Home Network. " ++
    "Note: UPnP is only needed for automatic discovery via SSDP, not for API access."

def serviceRemoveUnavailableEntities : String := "remove_unavailable_entities"
def serviceRepairEntityIdSuffixes : String := "repair_entity_id_suffixes"

def optionsActionConfigure : String := "configure"
def optionsActionCleanup : String := "cleanup"
def optionsActionRepairEntityIds : String := "repair_entity_ids"

def integrationTitle : String := "Fritz!Box VPN"

def errorKeyUnknown : String := "unknown"
def errorKeyCannotConnect : String := "cannot_connect"
def errorKeyInvalidAuth : String := "invalid_auth"
def errorKeyInvalidHost : String := "invalid_host"
def errorKeyConfigEntryNotFound : String := "config_entry_not_found"

def fritzboxSsdpIndicators : List String := ["fritz.box", "fritzbox", "fritz!box", "avm", "fritz"]

def fritzIntegrationDomains : List String :=
  ["fritz", "fritzbox_tools", "fritzbox", "fritzbox_tools_plus"]

def repeaterIndicators : List String :=
  ["repeater", "wlan repeater", "fritz!wlan repeater", "fritz!wlanrepeater"]

def errorIndicatorAuth : List String := ["login failed"]
def errorIndicatorConnect : List String := ["failed to get login page", "connection"]

def authIndicators : List String :=
  ["login failed", "authentication failed", "invalid credentials", "unauthorized", "access denied"]

end FritzboxVpn.Constants
