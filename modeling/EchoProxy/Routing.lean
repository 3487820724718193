import EchoProxy.Http
import EchoProxy.IpAddr

/-! The routing rules of `client/src/lib.rs`: host patterns, the GeoSite matcher,
CIDR ranges, and the two front ends that split a target into host and port. -/

namespace EchoProxy
open Buffered

/-- `str::to_lowercase`. The Unicode tables are left open beyond what the standard
says of ASCII text. -/
structure Lowercase where
  apply : List Char → List Char
  ascii : ∀ text : List Char, (∀ c ∈ text, c.toNat < 128) → apply text = text.map Char.toLower

/-- Letters outside ASCII stay as they are. -/
def asciiLowercase : Lowercase := ⟨List.map Char.toLower, fun _ _ => rfl⟩

/-- `str::parse::<u16>`. -/
def parsePort (text : List Char) : Option UInt16 := (Text.parseUnsigned 65535 text).map UInt16.ofNat

structure HostPattern where
  host : List Char
  port : Option UInt16
  deriving DecidableEq

def HostPattern.parse (lower : Lowercase) (s : List Char) : HostPattern :=
  let s := lower.apply s
  match Text.rsplitOnce ':' s with
  | some (h, p) =>
    match parsePort p with
    | some port => ⟨h, some port⟩
    | none => ⟨s, none⟩
  | none => ⟨s, none⟩

def HostPattern.matches (pattern : HostPattern) (host : List Char) (port : UInt16) : Bool :=
  if pattern.port.any (· != port) then false
  else if ['*', '.'].isPrefixOf pattern.host then
    let suffix := pattern.host.drop 2
    suffix.isSuffixOf host && suffix.length < host.length &&
      (host.take (host.length - suffix.length)).getLast? == some '.'
  else pattern.host == host

/-- `matches` with the slices it takes of its UTF-8 strings; `none` is a panic. The length
difference is only formed when it is positive. -/
def HostPattern.matchesSliced (pattern : HostPattern) (host : List Char) (port : UInt16) : Option Bool :=
  if pattern.port.any (· != port) then some false
  else if ['*', '.'].isPrefixOf pattern.host then
    (Text.sliceFrom pattern.host 2).bind fun suffix =>
      if suffix.isSuffixOf host && Text.byteLen host > Text.byteLen suffix then
        (Text.sliceTo host (Text.byteLen host - Text.byteLen suffix)).map fun front => front.getLast? == some '.'
      else some false
  else some (pattern.host == host)

/-- A compiled regular expression, as far as it is used. -/
structure Regex where
  isMatch : List Char → Bool

/-- A GeoSite suffix rule, which is stored with a leading dot. -/
structure SuffixRule where
  text : List Char
  dotted : text.head? = some '.'

structure GeoSiteMatcher where
  domains : List SuffixRule
  fulls : List (List Char)
  keywords : List (List Char)
  regexes : List Regex

def GeoSiteMatcher.matches (matcher : GeoSiteMatcher) (host : List Char) : Bool :=
  matcher.fulls.any (· == host) || matcher.keywords.any (fun k => decide (k <:+: host)) ||
    matcher.domains.any (fun d => host == d.text.tail || d.text.isSuffixOf host) || matcher.regexes.any (·.isMatch host)

/-- `u32::from`. -/
def Ipv4Addr.bits (ip : Ipv4Addr) : Nat := [ip.a, ip.b, ip.c, ip.d].foldl (fun bits octet => bits * 256 + octet.toNat) 0

/-- `u128::from`. -/
def Ipv6Addr.bits (ip : Ipv6Addr) : Nat := ip.segments.foldl (fun bits segment => bits * 65536 + segment.toNat) 0

/-- `IpNet` of the ipnet crate; the prefix is never longer than the address. -/
inductive IpNet where
  | v4 (addr : Ipv4Addr) (prefixLen : Nat) (valid : prefixLen ≤ 32)
  | v6 (addr : Ipv6Addr) (prefixLen : Nat) (valid : prefixLen ≤ 128)

/-- Between the network address and the broadcast address, with so many host bits. -/
def inNetwork (hostBits addr ip : Nat) : Bool :=
  let network := addr / 2 ^ hostBits * 2 ^ hostBits
  network ≤ ip && ip ≤ network + (2 ^ hostBits - 1)

def IpNet.contains : IpNet → IpAddr → Bool
  | .v4 addr prefixLen _, .v4 ip => inNetwork (32 - prefixLen) addr.bits ip.bits
  | .v6 addr prefixLen _, .v6 ip => inNetwork (128 - prefixLen) addr.bits ip.bits
  | _, _ => false

structure RoutingConfig where
  proxy : List HostPattern
  bypass : List HostPattern
  bypassGeosite : Option GeoSiteMatcher
  bypassCidrs : List IpNet

def RoutingConfig.shouldBypass (config : RoutingConfig) (lower : Lowercase) (host : List Char) (port : UInt16) : Bool :=
  let h := lower.apply host
  if config.proxy.any (·.matches h port) then false
  else if config.bypass.any (·.matches h port) then true
  else if config.bypassGeosite.any (·.matches h) then true
  else
    match parseIpAddr h with
    | some ip => config.bypassCidrs.any (·.contains ip)
    | none => false

/-- `split_host_port`, of the SOCKS5 front end. -/
def splitHostPort (addr : List Char) : List Char × UInt16 :=
  match Text.rsplitOnce ':' addr with
  | some (h, p) => (Text.trimMatches (fun c => c == '[' || c == ']') h, (parsePort p).getD 80)
  | none => (addr, 80)

/-- The bare host and port in `handle_local_connection` and its resilient copy. -/
def httpHostPort (host : List Char) : List Char × UInt16 :=
  match Text.rsplitOnce ':' host with
  | some (h, p) => (h, (parsePort p).getD 80)
  | none => (host, 80)

/-- Where a local connection goes and what goes there. -/
structure Route where
  direct : Bool
  dest : String
  bytes : Bytes
  deriving DecidableEq

def routeTo (config : RoutingConfig) (lower : Lowercase) (host : String) (bytes : Bytes) : Route :=
  let target := httpHostPort host.toList
  ⟨config.shouldBypass lower target.1 target.2, host, bytes⟩

/-- `handle_local_connection_resilient` with a connection to hand: the request decides
once, by `handle_direct` or OPEN, where everything goes. -/
def handleLocalConnection (config : RoutingConfig) (lower : Lowercase) (socket : Source UInt8) : Option Route :=
  (localRequest socket).map fun (request, socket) =>
    routeTo config lower request.host (forwardedData request socket).flatten

end EchoProxy
