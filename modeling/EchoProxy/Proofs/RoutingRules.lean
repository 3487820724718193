import EchoProxy.Proofs.GeoIp
import EchoProxy.Proofs.GeoSite
import EchoProxy.Proofs.HostPatterns

/-! What a configuration says of a target. The decision is stated on the options and the
data files as they are, apart from how `build_routing` stores them: a proxy pattern comes
first, and then any bypass pattern, listed site or listed network. -/

namespace EchoProxy.Proofs.RoutingRules
open EchoProxy GeoTags

/-! ### The rules -/

/-- One of the patterns covers the target. -/
def PatternRule (lower : Lowercase) (patterns : List (List Char)) (host : List Char) (port : UInt16) : Prop :=
  ∃ text ∈ patterns, (∀ p, (HostPattern.parse lower text).port = some p → p = port) ∧
    HostPatterns.Covers (HostPattern.parse lower text).host host

/-- The data file is there and decodes to the list. -/
def Decoded {β : Type} (decode : Bytes → Except String β) (dat : Option (Except String Bytes × Bool))
    (list : β) : Prop :=
  ∃ bytes required, dat = some (.ok bytes, required) ∧ decode bytes = .ok list

def siteTags (options : RoutingOptions) : List (List Char) := options.geositeTags.getD defaultTags
def cidrTags (options : RoutingOptions) : List (List Char) := options.geoipTags.getD defaultTags

/-- The list has every requested tag, and all it says under them can be loaded. -/
def SiteLoads (tools : DatTools) (options : RoutingOptions) (list : GeoSiteList) : Prop :=
  Decoded tools.decodeGeosite options.geositeDat list ∧ ∀ tag ∈ siteTags options, ∃ entry,
    GeoSite.First tools.upper list tag entry ∧ ∀ rule ∈ entry.domain,
      GeoSite.Compiles tools.lower tools.compile rule

def CidrLoads (tools : DatTools) (options : RoutingOptions) (list : GeoIpList) : Prop :=
  Decoded tools.decodeGeoip options.geoipDat list ∧ ∀ tag ∈ cidrTags options, ∃ entry,
    GeoIp.First tools.upper list tag entry ∧ ∀ cidr ∈ entry.cidr, GeoIp.Fits cidr.ip.length (GeoIp.lowByte cidr)

/-- A rule under a requested tag matches the host. -/
def SiteRule (tools : DatTools) (options : RoutingOptions) (host : List Char) : Prop :=
  ∃ list, SiteLoads tools options list ∧ ∃ tag ∈ siteTags options, ∃ entry,
    GeoSite.First tools.upper list tag entry ∧
    ∃ rule ∈ entry.domain, GeoSite.RuleMatches tools.lower tools.compile rule host

/-- The host is an address in a network under a requested tag. -/
def CidrRule (tools : DatTools) (options : RoutingOptions) (host : List Char) : Prop :=
  ∃ addr, parseIpAddr host = some addr ∧ ∃ list, CidrLoads tools options list ∧ ∃ tag ∈ cidrTags options, ∃ entry,
    GeoIp.First tools.upper list tag entry ∧ ∃ cidr ∈ entry.cidr, GeoIp.Covers cidr.ip (GeoIp.lowByte cidr) addr

/-- What the configuration says of a target whose host is in lower case. -/
def Direct (tools : DatTools) (options : RoutingOptions) (host : List Char) (port : UInt16) : Prop :=
  ¬ PatternRule tools.lower options.proxyPatterns host port ∧
    (PatternRule tools.lower options.bypassPatterns host port ∨ SiteRule tools options host ∨
      CidrRule tools options host)

/-- The program was told to use a data file that it cannot load. -/
def Unusable (tools : DatTools) (options : RoutingOptions) : Prop :=
  (∃ file, options.geositeDat = some (file, true) ∧ ∀ list, ¬ SiteLoads tools options list) ∨
    ∃ file, options.geoipDat = some (file, true) ∧ ∀ list, ¬ CidrLoads tools options list

/-! ### Data files -/

section Dat
variable {α ε : Type} {load : Except String Bytes → Except ε α} {fallback : α} {dat : Option (Except String Bytes × Bool)}

/-- What the file gives, when it is there and can be loaded. -/
def Gives (load : Except String Bytes → Except ε α) (dat : Option (Except String Bytes × Bool))
    (value : α) : Prop :=
  ∃ file required, dat = some (file, required) ∧ load file = .ok value

theorem datOrExit_none : datOrExit load fallback dat = none ↔ ∃ file, dat = some (file, true) ∧
    ∀ value, ¬ Gives load dat value := by
  cases dat with
  | none => simp [datOrExit]
  | some found =>
    obtain ⟨file, required⟩ := found
    cases loaded : load file with
    | ok value => simp [datOrExit, loaded, Gives]
    | error e => cases required <;> simp [datOrExit, loaded, Gives]

/-- Without the file the fallback stands in. -/
theorem datOrExit_some {value : α} (used : datOrExit load fallback dat = some value) :
    Gives load dat value ∨ value = fallback ∧ ∀ other, ¬ Gives load dat other := by
  cases dat with
  | none =>
    cases used
    exact .inr ⟨rfl, by simp [Gives]⟩
  | some found =>
    obtain ⟨file, required⟩ := found
    cases loaded : load file with
    | ok found =>
      simp only [datOrExit, loaded, Option.some.injEq] at used
      exact .inl ⟨file, required, rfl, used ▸ loaded⟩
    | error e =>
      cases required with
      | true => simp [datOrExit, loaded] at used
      | false =>
        simp only [datOrExit, loaded, Bool.false_eq_true, if_false, Option.some.injEq] at used
        exact .inr ⟨used.symm, by simp [Gives, loaded]⟩

end Dat

variable {tools : DatTools} {options : RoutingOptions}

/-! ### Sites -/

abbrev loadSites (tools : DatTools) (options : RoutingOptions) (file : Except String Bytes) :
    Except GeoSiteError (Option GeoSiteMatcher) :=
  (loadGeositeDat tools.upper tools.lower tools.compile tools.decodeGeosite file (siteTags options)).map some

abbrev loadCidrs (tools : DatTools) (options : RoutingOptions) (file : Except String Bytes) :
    Except GeoIpError (List IpNet) :=
  loadGeoipDat tools.upper tools.decodeGeoip file (cidrTags options)

private theorem sites_decoded {file : Except String Bytes} {matcher : GeoSiteMatcher}
    (loaded : loadGeositeDat tools.upper tools.lower tools.compile tools.decodeGeosite file (siteTags options) = .ok matcher) :
    ∃ bytes list, file = .ok bytes ∧ tools.decodeGeosite bytes = .ok list := by
  cases file with
  | error e => simp [loadGeositeDat] at loaded
  | ok bytes =>
    cases decoded : tools.decodeGeosite bytes with
    | error e => simp [loadGeositeDat, decoded] at loaded
    | ok list => exact ⟨bytes, list, rfl, decoded⟩

private theorem sites_load {bytes : Bytes} {list : GeoSiteList} (decoded : tools.decodeGeosite bytes = .ok list) :
    (∃ matcher, loadGeositeDat tools.upper tools.lower tools.compile tools.decodeGeosite (.ok bytes) (siteTags options) = .ok matcher) ↔
      ∀ tag ∈ siteTags options, ∃ entry, GeoSite.First tools.upper list tag entry ∧
        ∀ rule ∈ entry.domain, GeoSite.Compiles tools.lower tools.compile rule := by
  rw [GeoSite.load_decoded decoded]
  exact loadTags_ok GeoSite.loadDomain_ok _

/-- The file gives a matcher exactly if its list loads. -/
theorem sites_given : (∃ sites, Gives (loadSites tools options) options.geositeDat sites) ↔
    ∃ list, SiteLoads tools options list := by
  constructor
  · intro ⟨sites, file, required, there, loaded⟩
    cases found : loadGeositeDat tools.upper tools.lower tools.compile tools.decodeGeosite file (siteTags options) with
    | error e => simp [loadSites, found, Except.map] at loaded
    | ok matcher =>
      obtain ⟨bytes, list, rfl, decoded⟩ := sites_decoded found
      exact ⟨list, ⟨bytes, required, there, decoded⟩, (sites_load decoded).mp ⟨matcher, found⟩⟩
  · intro ⟨list, ⟨bytes, required, there, decoded⟩, all⟩
    obtain ⟨matcher, found⟩ := (sites_load decoded).mpr all
    exact ⟨some matcher, .ok bytes, required, there, by simp [loadSites, found, Except.map]⟩

/-- The matcher says of a host what the rules of the list say. -/
theorem sites_listed {sites : Option GeoSiteMatcher}
    (given : Gives (loadSites tools options) options.geositeDat sites)
    (host : List Char) : (∃ matcher, sites = some matcher ∧ matcher.matches host = true) ↔
      SiteRule tools options host := by
  obtain ⟨file, required, there, loaded⟩ := given
  cases found : loadGeositeDat tools.upper tools.lower tools.compile tools.decodeGeosite file (siteTags options) with
  | error e => simp [loadSites, found, Except.map] at loaded
  | ok matcher =>
    simp only [loadSites, found, Except.map, Except.ok.injEq] at loaded
    subst loaded
    obtain ⟨bytes, list, rfl, decoded⟩ := sites_decoded found
    have good := (sites_load decoded).mp ⟨matcher, found⟩
    rw [GeoSite.load_decoded decoded] at found
    have collected := loadTags_collects (fun matcher => matcher.matches host = true)
      (GeoSite.RuleMatches tools.lower tools.compile · host) (fun _ _ _ taken =>
        GeoSite.loadDomain_matches taken host) found
    have nothing : GeoSiteMatcher.empty.matches host = false := rfl
    simp only [nothing, Bool.false_eq_true, false_or] at collected
    constructor
    · intro ⟨matcher', same, listed⟩
      cases same
      exact ⟨list, ⟨⟨bytes, required, there, decoded⟩, good⟩, collected.mp listed⟩
    · intro ⟨list', ⟨⟨bytes', required', there', decoded'⟩, _⟩, rules⟩
      cases there.symm.trans there'
      cases decoded.symm.trans decoded'
      exact ⟨matcher, rfl, collected.mpr rules⟩

/-! ### Networks -/

private theorem cidrs_decoded {file : Except String Bytes} {nets : List IpNet}
    (loaded : loadCidrs tools options file = .ok nets) :
    ∃ bytes list, file = .ok bytes ∧ tools.decodeGeoip bytes = .ok list := by
  cases file with
  | error e => simp [loadGeoipDat] at loaded
  | ok bytes =>
    cases decoded : tools.decodeGeoip bytes with
    | error e => simp [loadGeoipDat, decoded] at loaded
    | ok list => exact ⟨bytes, list, rfl, decoded⟩

theorem cidrs_given : (∃ nets, Gives (loadCidrs tools options) options.geoipDat nets) ↔
    ∃ list, CidrLoads tools options list := by
  constructor
  · intro ⟨nets, file, required, there, loaded⟩
    obtain ⟨bytes, list, rfl, decoded⟩ := cidrs_decoded loaded
    exact ⟨list, ⟨bytes, required, there, decoded⟩, (GeoIp.loadGeoipDat_ok tools.upper _ decoded).mp ⟨nets,
      loaded⟩⟩
  · intro ⟨list, ⟨bytes, required, there, decoded⟩, all⟩
    obtain ⟨nets, loaded⟩ := (GeoIp.loadGeoipDat_ok tools.upper _ decoded).mpr all
    exact ⟨nets, .ok bytes, required, there, loaded⟩

theorem cidrs_listed {nets : List IpNet} (given : Gives (loadCidrs tools options) options.geoipDat nets)
    (host : List Char) :
    (∃ addr, parseIpAddr host = some addr ∧ ∃ net ∈ nets, net.contains addr = true) ↔
      CidrRule tools options host := by
  obtain ⟨file, required, there, loaded⟩ := given
  obtain ⟨bytes, list, rfl, decoded⟩ := cidrs_decoded loaded
  have good := (GeoIp.loadGeoipDat_ok tools.upper _ decoded).mp ⟨nets, loaded⟩
  constructor
  · intro ⟨addr, parsed, listed⟩
    exact ⟨addr, parsed, list, ⟨⟨bytes, required, there, decoded⟩, good⟩,
      (GeoIp.loadGeoipDat_contains decoded loaded addr).mp listed⟩
  · intro ⟨addr, parsed, list', ⟨⟨bytes', required', there', decoded'⟩, _⟩, rules⟩
    cases there.symm.trans there'
    cases decoded.symm.trans decoded'
    exact ⟨addr, parsed, (GeoIp.loadGeoipDat_contains decoded loaded addr).mpr rules⟩

/-! ### The decision -/

private theorem unusable_iff {α ε β : Type} {load : Except String Bytes → Except ε α} (fallback : α)
    {dat : Option (Except String Bytes × Bool)} {loads : β → Prop}
    (given : (∃ value, Gives load dat value) ↔ ∃ list, loads list) :
    datOrExit load fallback dat = none ↔ ∃ file, dat = some (file, true) ∧ ∀ list, ¬ loads list := by
  rw [datOrExit_none]
  refine exists_congr fun file => and_congr_right fun _ => ?_
  rw [← not_exists, ← not_exists, given]

theorem buildRouting_some {config : RoutingConfig} : buildRouting tools options = some config ↔
    ∃ sites cidrs, datOrExit (loadSites tools options) none options.geositeDat = some sites ∧
      datOrExit (loadCidrs tools options) [] options.geoipDat = some cidrs ∧
      config = ⟨options.proxyPatterns.map (HostPattern.parse tools.lower),
        options.bypassPatterns.map (HostPattern.parse tools.lower),
        sites, cidrs⟩ := by
  simp only [buildRouting, Option.bind_eq_bind, Option.bind_eq_some_iff, Option.some.injEq]
  constructor
  · intro ⟨sites, first, cidrs, second, built⟩
    exact ⟨sites, cidrs, first, second, built.symm⟩
  · intro ⟨sites, cidrs, first, second, built⟩
    exact ⟨sites, first, cidrs, second, built.symm⟩

/-- The program exits exactly over a file that it was told to use. -/
theorem exits_iff : buildRouting tools options = none ↔ Unusable tools options := by
  rw [Unusable, ← unusable_iff none sites_given, ← unusable_iff [] cidrs_given]
  constructor
  · intro exits
    cases first : datOrExit (loadSites tools options) none options.geositeDat with
    | none => exact .inl rfl
    | some sites =>
      cases second : datOrExit (loadCidrs tools options) [] options.geoipDat with
      | none => exact .inr rfl
      | some cidrs =>
        have built := buildRouting_some.mpr ⟨sites, cidrs, first, second, rfl⟩
        rw [exits] at built
        cases built
  · intro failed
    cases result : buildRouting tools options with
    | none => rfl
    | some config =>
      obtain ⟨sites, cidrs, first, second, -⟩ := buildRouting_some.mp result
      rcases failed with unread | unread
      · rw [unread] at first
        cases first
      · rw [unread] at second
        cases second

private theorem patterns_iff {lower : Lowercase} {patterns : List (List Char)} {host : List Char}
    {port : UInt16} :
    (∃ r ∈ patterns.map (HostPattern.parse lower), r.matches host port = true) ↔
      PatternRule lower patterns host port := by
  rw [PatternRule]
  simp only [List.mem_map, exists_exists_and_eq_and, HostPatterns.matches_iff]

/-- Without a list that loads, none of its rules holds. -/
private theorem sites_fall_back
    (fails : ∀ sites, ¬ Gives (loadSites tools options) options.geositeDat sites) (host : List Char) :
    ¬ SiteRule tools options host := by
  intro ⟨list, loads, _⟩
  obtain ⟨sites, given⟩ := sites_given.mpr ⟨list, loads⟩
  exact fails sites given

private theorem cidrs_fall_back (fails : ∀ cidrs, ¬ Gives (loadCidrs tools options) options.geoipDat cidrs)
    (host : List Char) :
    ¬ CidrRule tools options host := by
  intro ⟨_, _, list, loads, _⟩
  obtain ⟨cidrs, given⟩ := cidrs_given.mpr ⟨list, loads⟩
  exact fails cidrs given

theorem bypass_iff {config : RoutingConfig} (built : buildRouting tools options = some config)
    {host : List Char} {port : UInt16} :
    config.shouldBypass tools.lower host port = true ↔ Direct tools options (tools.lower.apply host) port := by
  obtain ⟨sites, cidrs, first, second, rfl⟩ := buildRouting_some.mp built
  have listed : (∃ matcher, sites = some matcher ∧ matcher.matches (tools.lower.apply host) = true) ↔
      SiteRule tools options (tools.lower.apply host) := by
    rcases datOrExit_some first with given | ⟨rfl, fails⟩
    · exact sites_listed given _
    · simp [sites_fall_back fails]
  have inside : (∃ addr, parseIpAddr (tools.lower.apply host) = some addr ∧
    ∃ net ∈ cidrs, net.contains addr = true) ↔
      CidrRule tools options (tools.lower.apply host) := by
    rcases datOrExit_some second with given | ⟨rfl, fails⟩
    · exact cidrs_listed given _
    · simp [cidrs_fall_back fails]
  rw [Routing.shouldBypass_iff, Direct, ← listed, ← inside, ← patterns_iff, ← patterns_iff]
  rfl

/-- At most the proxy patterns, at least the bypass patterns and the tags, from the same files.
A file that was merely found must still load with the further tags. -/
structure Wider (tools : DatTools) (options options' : RoutingOptions) : Prop where
  proxy : options'.proxyPatterns ⊆ options.proxyPatterns
  bypass : options.bypassPatterns ⊆ options'.bypassPatterns
  geosite : options'.geositeDat = options.geositeDat
  sites : siteTags options ⊆ siteTags options'
  sitesKept : ∀ file, options.geositeDat = some (file, false) → ∀ list, SiteLoads tools options list →
    SiteLoads tools options' list
  geoip : options'.geoipDat = options.geoipDat
  cidrs : cidrTags options ⊆ cidrTags options'
  cidrsKept : ∀ file, options.geoipDat = some (file, false) → ∀ list, CidrLoads tools options list →
    CidrLoads tools options' list

variable {options' : RoutingOptions}

private theorem PatternRule.mono {lower : Lowercase} {patterns patterns' : List (List Char)}
    {host : List Char} {port : UInt16}
    (within : patterns ⊆ patterns') (rule : PatternRule lower patterns host port) :
    PatternRule lower patterns' host port := by
  obtain ⟨text, member, covers⟩ := rule
  exact ⟨text, within member, covers⟩

private theorem Decoded.unique {β : Type} {decode : Bytes → Except String β}
    {dat : Option (Except String Bytes × Bool)} {list list' : β}
    (decoded : Decoded decode dat list) (decoded' : Decoded decode dat list') : list = list' := by
  obtain ⟨bytes, required, there, found⟩ := decoded
  obtain ⟨bytes', required', there', found'⟩ := decoded'
  cases there.symm.trans there'
  cases found.symm.trans found'
  rfl

/-- A file that the program was told to use has been loaded, or it would have exited. -/
theorem SiteLoads.wider (wider : Wider tools options options') (usable : ¬ Unusable tools options')
    {list : GeoSiteList} (loads : SiteLoads tools options list) : SiteLoads tools options' list := by
  obtain ⟨bytes, required, there, decoded⟩ := loads.1
  cases required with
  | false => exact wider.sitesKept _ there list loads
  | true =>
    by_contra fails
    refine usable (.inl ⟨.ok bytes, wider.geosite.trans there, fun list' loads' => fails ?_⟩)
    have same : list' = list := (wider.geosite ▸ loads'.1 : Decoded _ options.geositeDat list').unique loads.1
    exact same ▸ loads'

theorem CidrLoads.wider (wider : Wider tools options options') (usable : ¬ Unusable tools options')
    {list : GeoIpList} (loads : CidrLoads tools options list) : CidrLoads tools options' list := by
  obtain ⟨bytes, required, there, decoded⟩ := loads.1
  cases required with
  | false => exact wider.cidrsKept _ there list loads
  | true =>
    by_contra fails
    refine usable (.inr ⟨.ok bytes, wider.geoip.trans there, fun list' loads' => fails ?_⟩)
    have same : list' = list := (wider.geoip ▸ loads'.1 : Decoded _ options.geoipDat list').unique loads.1
    exact same ▸ loads'

theorem Direct.wider (wider : Wider tools options options') (usable : ¬ Unusable tools options')
    {host : List Char} {port : UInt16}
    (direct : Direct tools options host port) : Direct tools options' host port := by
  obtain ⟨unproxied, chosen⟩ := direct
  refine ⟨fun proxied => unproxied (proxied.mono wider.proxy), ?_⟩
  rcases chosen with bypassed | ⟨list, loads, tag, requested, rules⟩ | ⟨addr, parsed, list, loads, tag,
    requested, rules⟩
  · exact .inl (bypassed.mono wider.bypass)
  · exact .inr (.inl ⟨list, loads.wider wider usable, tag, wider.sites requested, rules⟩)
  · exact .inr (.inr ⟨addr, parsed, list, loads.wider wider usable, tag, wider.cidrs requested, rules⟩)

/-- A wider configuration sends directly whatever the narrower one did; in particular neither
the order of patterns and tags nor their repetition matters. -/
theorem routing_monotone (tools : DatTools) (options options' : RoutingOptions) (config config' : RoutingConfig)
    (wider : Wider tools options options') (built : buildRouting tools options = some config)
    (built' : buildRouting tools options' = some config') (host : List Char) (port : UInt16)
    (direct : config.shouldBypass tools.lower host port = true) :
    config'.shouldBypass tools.lower host port = true := by
  have usable : ¬ Unusable tools options' := by
    intro failed
    rw [exits_iff.mpr failed] at built'
    cases built'
  rw [bypass_iff built] at direct
  rw [bypass_iff built']
  exact direct.wider wider usable

/-- One site list with two tags. -/
private def twoSites : DatTools where
  upper := asciiUppercase
  lower := asciiLowercase
  compile _ := .error ""
  decodeGeosite _ := .ok ⟨[⟨['A'], [⟨2, ['c', 'n']⟩]⟩, ⟨['B'], []⟩]⟩
  decodeGeoip _ := .error ""

private def narrow : RoutingOptions := ⟨[['a']], [], some (.ok [], true), some [['a']], none, none⟩
private def wide : RoutingOptions := ⟨[], [['a']], some (.ok [], true), some [['b'], ['a']], none, none⟩

theorem site_kept : ∃ config, buildRouting twoSites wide = some config ∧
    config.shouldBypass asciiLowercase ['X', '.', 'c', 'n'] 80 = true := by
  refine ⟨_, rfl, routing_monotone twoSites narrow wide _ _ ?_ rfl rfl _ _ (by decide)⟩
  constructor <;> simp [narrow, wide, siteTags, cidrTags]

end EchoProxy.Proofs.RoutingRules
