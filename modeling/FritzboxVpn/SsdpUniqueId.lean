import FritzboxVpn.Constants
import FritzboxVpn.JsonValue
import FritzboxVpn.UrlSplit
import FritzboxVpn.Uuid

namespace FritzboxVpn.SsdpUniqueId

open Constants IpAddress JsonValue OrderedDict Text

def fritzBoxHost : String := "fritz.box"

/-- What a discovery says of a device; the UDN is the one of its UPnP description,
and the names of the headers are in lower case. -/
structure SsdpServiceInfo where
  ssdpUsn : Option String := none
  ssdpSt : Option String := none
  ssdpServer : Option String := none
  ssdpLocation : Option String := none
  ssdpHeaders : Dict String Json := Dict.empty
  upnpUdn : Option String := none

def text (x : Option String) : String := x.getD ""

def parseDeviceUuid (value : String) : Option String :=
  if strip value = "" then none
  else (Uuid.parse (strip value).toList).map fun n => String.ofList (Uuid.text n)

def removePrefix (pre value : List Char) : List Char :=
  if pre <+: value then value.drop pre.length else value

def uuidFromUpnpUdn (rawUdn : String) : Option String :=
  parseDeviceUuid (String.ofList (removePrefix "uuid:".toList rawUdn.toList))

def beforeDoubleColon : List Char → List Char
  | [] => []
  | c :: cs => if c = ':' ∧ cs.head? = some ':' then [] else c :: beforeDoubleColon cs

def uuidFromSsdpUsn (usn : String) : Option String :=
  if startsWith "uuid:" usn then uuidFromUpnpUdn (String.ofList (beforeDoubleColon usn.toList))
  else none

def uuidFromDiscovery (info : SsdpServiceInfo) : Option String :=
  ((info.upnpUdn.filter (· ≠ "")).bind uuidFromUpnpUdn).or
    ((info.ssdpUsn.filter (· ≠ "")).bind uuidFromSsdpUsn)

def uniqueIdForDiscovery (info : SsdpServiceInfo) (host : String) : String :=
  (uuidFromDiscovery info).getD host

def hexNumber (part : List Char) : Nat :=
  part.foldl (fun n c => 16 * n + (Uuid.hexValue c).getD 0) 0

def hextets (address : List Char) : List Nat :=
  match (splitScopeId address).bind ipv6Parts with
  | none => []
  | some parts =>
      let high := parts.takeWhile (· ≠ [])
      let low := (parts.reverse.takeWhile (· ≠ [])).reverse
      if [] ∈ parts then
        high.map hexNumber ++ List.replicate (8 - high.length - low.length) 0 ++ low.map hexNumber
      else parts.map hexNumber

def isLinkLocalHigh (high : Nat) : Bool := high = 256 * 169 + 254

/-- `ipaddress.ip_address(host).is_link_local`; an IPv4 address may stand inside
an IPv6 one. -/
def isLinkLocalHost (host : String) : Bool :=
  if isIpv4 host.toList then (ipv4Int host.toList).any fun n => isLinkLocalHigh (n / 65536)
  else if isIpv6 host.toList then
    match hextets host.toList with
    | [0, 0, 0, 0, 0, 65535, high, _] => isLinkLocalHigh high
    | first :: _ => first / 64 = 1018
    | [] => false
  else false

def fragmentFrom : Bool → List Char → List Char
  | _, [] => []
  | inside, c :: cs =>
      if [' ', '\t', '\r', '\n'].contains c then []
      else if inside && c = ':' && cs.head? = some ':' then []
      else c :: fragmentFrom true cs

section Hosts

variable (nfkc : List Char → List Char)

def hostnameFromUrl (url : String) : Option String :=
  (UrlSplit.hostname nfkc url.toList).map String.ofList

def leadsToFritzBox (behind : List Char) : Bool :=
  (hostnameFromUrl nfkc (String.ofList ("http:".toList ++ fragmentFrom false behind))).any fun host =>
    lower host = fritzBoxHost

/-- The search for a "://" goes on behind the last one; no two of them overlap. -/
def hostFromUsn : List Char → Option String
  | [] => none
  | c :: cs =>
      if "://".toList.isPrefixOf (c :: cs) && leadsToFritzBox nfkc cs then some fritzBoxHost
      else hostFromUsn cs

def hostFromSsdpUsn (usn : String) : Option String := hostFromUsn nfkc usn.toList

def hostFromHeader : Json → Option String
  | .str location => hostnameFromUrl nfkc location
  | _ => none

def hostFromSsdp (info : SsdpServiceInfo) : Option String :=
  ((((info.ssdpLocation.filter (· ≠ "")).bind (hostnameFromUrl nfkc)).or
    ((info.ssdpHeaders.get? "location").bind (hostFromHeader nfkc)))).or
      ((info.ssdpUsn.filter (· ≠ "")).bind (hostFromSsdpUsn nfkc))

end Hosts

def combined (repr : Json → String) (info : SsdpServiceInfo) : String :=
  let said := lower (text info.ssdpSt ++ (" " ++ (text info.ssdpUsn ++ (" " ++ (text info.ssdpServer ++
    (" " ++ text info.ssdpLocation))))))
  if info.ssdpHeaders.isEmpty then said
  else
    said ++ (" " ++ lower (String.intercalate " " (info.ssdpHeaders.entries.map fun p => pyStr repr p.2)))

def isFritzboxRouterDiscovery (repr : Json → String) (info : SsdpServiceInfo) : Bool :=
  let combined := combined repr info
  if !fritzboxSsdpIndicators.any (contains · combined) then false
  else if repeaterIndicators.any (contains · combined) then false
  else if contains "internetgatewaydevice" combined || contains "igd" combined then true
  else contains "fritz!box" combined

end FritzboxVpn.SsdpUniqueId
