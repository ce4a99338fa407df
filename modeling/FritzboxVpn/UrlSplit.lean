import FritzboxVpn.Uri

namespace FritzboxVpn.UrlSplit

open IpAddress (isHexDigit isIpv4 isIpv6)
open Uri (cut endsAuthority isScheme)

/-- `urlsplit` drops leading control characters and blanks, and line breaks and
tabs anywhere. -/
def cleaned (url : List Char) : List Char :=
  (url.dropWhile fun c => c.toNat ≤ 32).filter fun c => c ≠ '\t' && c ≠ '\n' && c ≠ '\r'

def behindScheme (url : List Char) : List Char :=
  match cut ':' url with
  | (scheme, some rest) => if isScheme scheme then rest else url
  | (_, none) => url

def netloc (url : List Char) : List Char :=
  match behindScheme (cleaned url) with
  | '/' :: '/' :: rest => rest.takeWhile (!endsAuthority ·)
  | _ => []

def hostInfo (netloc : List Char) : List Char := (netloc.reverse.takeWhile (· ≠ '@')).reverse

def hostPart (info : List Char) : List Char :=
  match cut '[' info with
  | (_, some bracketed) => (cut ']' bracketed).1
  | (_, none) => (cut ':' info).1

def nothingAround (info : List Char) : Bool :=
  match cut '[' info with
  | (before, some bracketed) =>
      let port := (cut ']' bracketed).2.getD []
      before = [] && (port = [] || port.head? = some ':')
  | (_, none) => true

def isFutureAddress (host : List Char) : Bool :=
  match cut '.' host.tail with
  | (version, some address) => version ≠ [] && version.all isHexDigit && address ≠ []
  | (_, none) => false

def isBracketedHost (host : List Char) : Bool :=
  if host.head? = some 'v' then isFutureAddress host else isIpv6 host && !isIpv4 host

def bracketsFit (netloc : List Char) : Bool :=
  if netloc.contains '[' != netloc.contains ']' then false
  else if netloc.contains '[' then
    nothingAround (hostInfo netloc) && isBracketedHost (hostPart (hostInfo netloc))
  else true

/-- `_checknetloc`: the compatibility form of the text, a parameter, has no
separator that the text has not. -/
def isStable (nfkc : List Char → List Char) (netloc : List Char) : Bool :=
  let text := netloc.filter fun c => !(['@', ':', '#', '?'].contains c)
  netloc.all (·.toNat < 128) || nfkc text = text ||
    (nfkc text).all fun c => !(['/', '?', '#', '@', ':'].contains c)

def lowered (host : List Char) : List Char :=
  (host.takeWhile (· ≠ '%')).map Char.toLower ++ host.dropWhile (· ≠ '%')

def hostname (nfkc : List Char → List Char) (url : List Char) : Option (List Char) :=
  if !bracketsFit (netloc url) || !isStable nfkc (netloc url) then none
  else if hostPart (hostInfo (netloc url)) = [] then none
  else some (lowered (hostPart (hostInfo (netloc url))))

end FritzboxVpn.UrlSplit
