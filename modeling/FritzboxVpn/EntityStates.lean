import FritzboxVpn.AliasResolution

namespace FritzboxVpn.EntityStates

open AliasResolution Constants Coordinator Entity JsonValue OrderedDict

def flagValue (conn : Dict String Json) (key : String) : Json := (conn.get? key).getD (.bool false)

/-- `data[resolved]`; every value of the data is a dict. -/
def vpnConnection (c : State) (connectionUid : String) : Option (Dict String Json) :=
  (connectionData c connectionUid).bind asDict

def getVpnStatus (c : State) (connectionUid : String) : String :=
  match vpnConnection c connectionUid with
  | none => statusUnknown
  | some conn =>
      if truthy (flagValue conn apiKeyActive) = false then statusDisabled
      else if truthy (flagValue conn apiKeyConnected) then statusConnected
      else statusEnabled

def switchIsOn (c : State) (connectionUid : String) : Bool :=
  match vpnConnection c connectionUid with
  | none => false
  | some conn => truthy (flagValue conn apiKeyActive)

def connectedIsOn (c : State) (connectionUid : String) : Bool :=
  match vpnConnection c connectionUid with
  | none => false
  | some conn => truthy (flagValue conn apiKeyConnected)

def vpnSwitchAttributes (c : State) (connectionUid : String) : Dict String Json :=
  match vpnConnection c connectionUid with
  | none => Dict.empty
  | some conn =>
      let resolved := c.resolveConnectionUid connectionUid
      Dict.ofList
        [(apiKeyName, (conn.get? apiKeyName).getD .null), (attrUid, .str resolved),
          (attrVpnUid, (conn.get? apiKeyUid).getD .null),
          (apiKeyActive, flagValue conn apiKeyActive),
          (apiKeyConnected, flagValue conn apiKeyConnected),
          (attrStatus, .str (getVpnStatus c resolved))]

theorem vpnConnection_resolved (c : State) (uid : String) :
    vpnConnection c (c.resolveConnectionUid uid) = vpnConnection c uid := by
  rw [vpnConnection, connectionData_resolved, vpnConnection]

/-- The attributes resolve a UID twice, and show the status of the connection
they are about all the same. -/
theorem vpnSwitchAttributes_status {c : State} {uid : String} {conn : Dict String Json}
    (h : vpnConnection c uid = some conn) :
    (vpnSwitchAttributes c uid).get? attrStatus = some (.str (getVpnStatus c uid)) := by
  have hstatus : getVpnStatus c (c.resolveConnectionUid uid) = getVpnStatus c uid := by
    rw [getVpnStatus, vpnConnection_resolved, getVpnStatus]
  simp only [vpnSwitchAttributes, h, hstatus]
  rfl

end FritzboxVpn.EntityStates
