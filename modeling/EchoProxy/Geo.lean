import EchoProxy.Routing

/-! The V2Ray data files of `client/src/geoip.rs` and `client/src/geosite.rs`: both
loaders pick the first entry of each requested tag and collect what it lists. -/

namespace EchoProxy

/-- `str::to_uppercase`. The Unicode tables are left open beyond what the standard
says of ASCII text. -/
structure Uppercase where
  apply : List Char → List Char
  ascii : ∀ text : List Char, (∀ c ∈ text, c.toNat < 128) → apply text = text.map Char.toUpper

/-- Letters outside ASCII stay as they are. -/
def asciiUppercase : Uppercase := ⟨List.map Char.toUpper, fun _ _ => rfl⟩

/-- The loop over the tags, the same in both loaders but for the entries' fields, the
error of a missing tag and what is done with one item of an entry. -/
def loadTags {η α σ ε : Type} (upper : Uppercase) (countryCode : η → List Char) (items : η → List α)
    (missing : List Char → ε) (load : σ → α → Except ε σ) (entries : List η) (tags : List (List Char)) (start : σ) :
    Except ε σ :=
  tags.foldlM (fun result tag =>
    match entries.find? (fun e => upper.apply (countryCode e) == upper.apply tag) with
    | some entry => (items entry).foldlM load result
    | none => .error (missing tag)) start

/-! ### GeoIP -/

/-- `geosite_rs::Cidr`, whose `prefix` has 32 bits. -/
structure Cidr where
  ip : Bytes
  prefixLen : UInt32
  deriving DecidableEq

structure GeoIp where
  countryCode : List Char
  cidr : List Cidr

structure GeoIpList where
  entry : List GeoIp

inductive GeoIpError where
  | io (error : String)
  | decode (message : String)
  | tagNotFound (tag : List Char)
  | invalidCidr (ipLen : Nat)

/-- `Ipv4Net::new`. -/
def IpNet.newV4 (addr : Ipv4Addr) (prefixLen : UInt8) : Option IpNet :=
  if valid : prefixLen.toNat ≤ 32 then some (.v4 addr prefixLen.toNat valid) else none

/-- `Ipv6Net::new`. -/
def IpNet.newV6 (addr : Ipv6Addr) (prefixLen : UInt8) : Option IpNet :=
  if valid : prefixLen.toNat ≤ 128 then some (.v6 addr prefixLen.toNat valid) else none

/-- The network of one CIDR; `cidr.prefix as u8` keeps the low byte. -/
def cidrNet (cidr : Cidr) : Except GeoIpError IpNet :=
  match Ipv4Addr.ofOctets cidr.ip, Ipv6Addr.ofOctets cidr.ip with
  | some addr, _ => (IpNet.newV4 addr cidr.prefixLen.toUInt8).elim (.error (.invalidCidr 4)) .ok
  | none, some addr => (IpNet.newV6 addr cidr.prefixLen.toUInt8).elim (.error (.invalidCidr 16)) .ok
  | none, none => .error (.invalidCidr cidr.ip.length)

/-- `load_geoip_dat`, given what `std::fs::read` returned and the decoder of
`geosite_rs`. -/
def loadGeoipDat (upper : Uppercase) (decodeGeoip : Bytes → Except String GeoIpList) (file : Except String Bytes)
    (tags : List (List Char)) : Except GeoIpError (List IpNet) :=
  match file with
  | .error e => .error (.io e)
  | .ok bytes =>
    match decodeGeoip bytes with
    | .error e => .error (.decode e)
    | .ok list =>
      loadTags upper GeoIp.countryCode GeoIp.cidr .tagNotFound
        (fun result cidr => (cidrNet cidr).map fun net => result ++ [net]) list.entry tags []

/-! ### GeoSite -/

/-- `geosite_rs::Domain`. -/
structure Domain where
  type : Int
  value : List Char
  deriving DecidableEq

structure GeoSite where
  countryCode : List Char
  domain : List Domain

structure GeoSiteList where
  entry : List GeoSite

inductive GeoSiteError where
  | io (error : String)
  | decode (message : String)
  | tagNotFound (tag : List Char)
  | invalidRegex (pattern : List Char) (source : String)

/-- `GeoSiteMatcher::default`. -/
def GeoSiteMatcher.empty : GeoSiteMatcher := ⟨[], [], [], []⟩

/-- One turn of the loop over an entry's rules, with `Regex::new` for `compile`. -/
def loadDomain (lower : Lowercase) (compile : List Char → Except String Regex) (matcher : GeoSiteMatcher) (domain : Domain) :
    Except GeoSiteError GeoSiteMatcher :=
  let value := lower.apply domain.value
  match domain.type with
  | 2 => .ok { matcher with domains := matcher.domains ++ [⟨'.' :: value, rfl⟩] }
  | 3 => .ok { matcher with fulls := matcher.fulls ++ [value] }
  | 0 => .ok { matcher with keywords := matcher.keywords ++ [value] }
  | 1 =>
    match compile value with
    | .ok re => .ok { matcher with regexes := matcher.regexes ++ [re] }
    | .error e => .error (.invalidRegex value e)
  | _ => .ok matcher

/-- `load_geosite_dat`, given what `std::fs::read` returned and the decoder of
`geosite_rs`. -/
def loadGeositeDat (upper : Uppercase) (lower : Lowercase) (compile : List Char → Except String Regex)
    (decodeGeosite : Bytes → Except String GeoSiteList) (file : Except String Bytes) (tags : List (List Char)) :
    Except GeoSiteError GeoSiteMatcher :=
  match file with
  | .error e => .error (.io e)
  | .ok bytes =>
    match decodeGeosite bytes with
    | .error e => .error (.decode e)
    | .ok list =>
      loadTags upper GeoSite.countryCode GeoSite.domain .tagNotFound (loadDomain lower compile) list.entry tags .empty

/-! ### `build_routing` -/

/-- What the loaders use besides the contents of their files. -/
structure DatTools where
  upper : Uppercase
  lower : Lowercase
  compile : List Char → Except String Regex
  decodeGeosite : Bytes → Except String GeoSiteList
  decodeGeoip : Bytes → Except String GeoIpList

/-- The arguments of `build_routing`. A dat file is what `std::fs::read` makes of the path of
`dat_path_or_default`, with its flag that the path was configured. -/
structure RoutingOptions where
  proxyPatterns : List (List Char)
  bypassPatterns : List (List Char)
  geositeDat : Option (Except String Bytes × Bool)
  geositeTags : Option (List (List Char))
  geoipDat : Option (Except String Bytes × Bool)
  geoipTags : Option (List (List Char))

def defaultTags : List (List Char) := ["cn".toList, "private".toList]

/-- What becomes of a dat file: the program exits (`none`) over one it was told to use. -/
def datOrExit {α ε : Type} (load : Except String Bytes → Except ε α) (fallback : α) :
    Option (Except String Bytes × Bool) → Option α
  | none => some fallback
  | some (file, required) =>
    match load file with
    | .ok value => some value
    | .error _ => if required then none else some fallback

def buildRouting (tools : DatTools) (options : RoutingOptions) : Option RoutingConfig := do
  let bypassGeosite ← datOrExit (fun file =>
    (loadGeositeDat tools.upper tools.lower tools.compile tools.decodeGeosite file (options.geositeTags.getD defaultTags)).map some)
    none options.geositeDat
  let bypassCidrs ← datOrExit (fun file =>
    loadGeoipDat tools.upper tools.decodeGeoip file (options.geoipTags.getD defaultTags)) [] options.geoipDat
  some ⟨options.proxyPatterns.map (HostPattern.parse tools.lower), options.bypassPatterns.map (HostPattern.parse tools.lower),
    bypassGeosite, bypassCidrs⟩

end EchoProxy
