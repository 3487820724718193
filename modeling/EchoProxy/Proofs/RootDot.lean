import EchoProxy.Proofs.GeoSite
import EchoProxy.Proofs.HostPatterns

/-! Which spellings of a host name the routing rules tell apart: letter case never, the dot
of the DNS root nearly always. -/

namespace EchoProxy.Proofs.RootDot
open EchoProxy IpParser Routing GeoTags HostPatterns

variable {tools : DatTools} {lower : Lowercase} {config : RoutingConfig} {port : UInt16}

/-! ### Letter case -/

/-- Rules of a GeoSite list that differ in the letter case of their values. -/
def SameRule (tools : DatTools) (rule rule' : Domain) : Prop :=
  rule.type = rule'.type ∧ tools.lower.apply rule.value = tools.lower.apply rule'.value

def SameEntry (tools : DatTools) (entry entry' : GeoSite) : Prop :=
  SameTag tools.upper entry.countryCode entry'.countryCode ∧ List.Forall₂ (SameRule tools) entry.domain entry'.domain

/-- The file itself, or one whose entries differ in letter case. -/
inductive SameDat (tools : DatTools) : Option (Except String Bytes × Bool) → Option (Except String Bytes × Bool) → Prop where
  | same (dat) : SameDat tools dat dat
  | recased {bytes bytes' list list'} (required) (decoded : tools.decodeGeosite bytes = .ok list)
      (decoded' : tools.decodeGeosite bytes' = .ok list') (entries : List.Forall₂ (SameEntry tools) list.entry list'.entry) :
      SameDat tools (some (.ok bytes, required)) (some (.ok bytes', required))

/-- Options that differ in the letter case of their patterns, GeoSite rules and tags. -/
structure SameLetters (tools : DatTools) (options options' : RoutingOptions) : Prop where
  proxy : List.Forall₂ (fun s s' => tools.lower.apply s = tools.lower.apply s') options.proxyPatterns options'.proxyPatterns
  bypass : List.Forall₂ (fun s s' => tools.lower.apply s = tools.lower.apply s') options.bypassPatterns options'.bypassPatterns
  dat : SameDat tools options.geositeDat options'.geositeDat
  tags : List.Forall₂ (SameTag tools.upper) (options.geositeTags.getD defaultTags) (options'.geositeTags.getD defaultTags)
  geoip : options.geoipDat = options'.geoipDat ∧ options.geoipTags = options'.geoipTags

private theorem parse_same {s s' : List Char} (same : lower.apply s = lower.apply s') :
    HostPattern.parse lower s = HostPattern.parse lower s' := by
  simp only [HostPattern.parse, same]

private theorem parse_all {patterns patterns' : List (List Char)}
    (same : List.Forall₂ (fun s s' => lower.apply s = lower.apply s') patterns patterns') :
    patterns.map (HostPattern.parse lower) = patterns'.map (HostPattern.parse lower) := by
  induction same with
  | nil => rfl
  | cons head _ ih => rw [List.map_cons, List.map_cons, parse_same head, ih]

private theorem loadDomain_same {rule rule' : Domain} (same : SameRule tools rule rule') (matcher : GeoSiteMatcher) :
    loadDomain tools.lower tools.compile matcher rule = loadDomain tools.lower tools.compile matcher rule' := by
  simp only [loadDomain, same.1, same.2]

private theorem foldlM_same {rules rules' : List Domain} (same : List.Forall₂ (SameRule tools) rules rules')
    (matcher : GeoSiteMatcher) :
    rules.foldlM (loadDomain tools.lower tools.compile) matcher = rules'.foldlM (loadDomain tools.lower tools.compile) matcher := by
  induction same generalizing matcher with
  | nil => rfl
  | cons head _ ih =>
    rw [List.foldlM_cons, List.foldlM_cons, loadDomain_same head]
    exact congrArg _ (funext ih)

/-- The first entries of one tag in the two lists. -/
private theorem find_same {entries entries' : List GeoSite} (same : List.Forall₂ (SameEntry tools) entries entries')
    {tag tag' : List Char} (tags : SameTag tools.upper tag tag') :
    Option.Rel (SameEntry tools)
      (entries.find? fun e => tools.upper.apply e.countryCode == tools.upper.apply tag)
      (entries'.find? fun e => tools.upper.apply e.countryCode == tools.upper.apply tag') := by
  rw [show tools.upper.apply tag = tools.upper.apply tag' from tags]
  induction same with
  | nil => exact .none
  | @cons entry entry' _ _ head _ ih =>
    rw [List.find?_cons, List.find?_cons, show tools.upper.apply entry.countryCode = tools.upper.apply entry'.countryCode from head.1]
    split
    · exact .some head
    · exact ih

private theorem loadTags_same {list list' : GeoSiteList} (entries : List.Forall₂ (SameEntry tools) list.entry list'.entry)
    {tags tags' : List (List Char)} (same : List.Forall₂ (SameTag tools.upper) tags tags') (start : GeoSiteMatcher) :
    (loadTags tools.upper GeoSite.countryCode GeoSite.domain GeoSiteError.tagNotFound (loadDomain tools.lower tools.compile)
      list.entry tags start).toOption =
    (loadTags tools.upper GeoSite.countryCode GeoSite.domain GeoSiteError.tagNotFound (loadDomain tools.lower tools.compile)
      list'.entry tags' start).toOption := by
  unfold loadTags
  induction same generalizing start with
  | nil => rfl
  | @cons tag tag' _ _ head _ ih =>
    have found := find_same entries head
    rw [List.foldlM_cons, List.foldlM_cons]
    generalize (list.entry.find? fun e => tools.upper.apply e.countryCode == tools.upper.apply tag) = first at found ⊢
    generalize (list'.entry.find? fun e => tools.upper.apply e.countryCode == tools.upper.apply tag') = first' at found ⊢
    cases found with
    | none => rfl
    | @some entry entry' related =>
      dsimp only
      rw [foldlM_same related.2]
      cases entry'.domain.foldlM (loadDomain tools.lower tools.compile) start with
      | error e => rfl
      | ok next => exact ih next

private theorem datOrExit_congr {α ε : Type} {load load' : Except String Bytes → Except ε α} {fallback : α}
    {file file' : Except String Bytes} {required : Bool} (same : (load file).toOption = (load' file').toOption) :
    datOrExit load fallback (some (file, required)) = datOrExit load' fallback (some (file', required)) := by
  rw [datOrExit, datOrExit]
  cases one : load file with
  | ok value =>
    cases other : load' file' with
    | ok value' =>
      rw [one, other] at same
      cases same
      rfl
    | error e =>
      rw [one, other] at same
      cases same
  | error e =>
    cases other : load' file' with
    | ok value' =>
      rw [one, other] at same
      cases same
    | error e' => rfl

/-- The GeoSite loader as `build_routing` calls it. -/
private def loadSites (tools : DatTools) (tags : List (List Char)) (file : Except String Bytes) :
    Except GeoSiteError (Option GeoSiteMatcher) :=
  (loadGeositeDat tools.upper tools.lower tools.compile tools.decodeGeosite file tags).map some

private theorem map_toOption {α β ε : Type} (f : α → β) (result : Except ε α) :
    (result.map f).toOption = result.toOption.map f := by
  cases result <;> rfl

private theorem loadSites_same {bytes bytes' : Bytes} {list list' : GeoSiteList} {tags tags' : List (List Char)}
    (decoded : tools.decodeGeosite bytes = .ok list) (decoded' : tools.decodeGeosite bytes' = .ok list')
    (entries : List.Forall₂ (SameEntry tools) list.entry list'.entry) (same : List.Forall₂ (SameTag tools.upper) tags tags') :
    (loadSites tools tags (.ok bytes)).toOption = (loadSites tools tags' (.ok bytes')).toOption := by
  rw [loadSites, loadSites, map_toOption, map_toOption, GeoSite.load_decoded decoded, GeoSite.load_decoded decoded',
    loadTags_same entries same]

private theorem sites_same {dat dat' : Option (Except String Bytes × Bool)} {tags tags' : List (List Char)}
    (same : SameDat tools dat dat') (wanted : List.Forall₂ (SameTag tools.upper) tags tags') :
    datOrExit (loadSites tools tags) none dat = datOrExit (loadSites tools tags') none dat' := by
  cases same with
  | recased required decoded decoded' entries => exact datOrExit_congr (loadSites_same decoded decoded' entries wanted)
  | same dat =>
    match dat with
    | none => rfl
    | some (.error e, required) => exact datOrExit_congr rfl
    | some (.ok bytes, required) =>
      cases decoded : tools.decodeGeosite bytes with
      | error e => exact datOrExit_congr (by simp [loadSites, loadGeositeDat, decoded])
      | ok list =>
        have entries : List.Forall₂ (SameEntry tools) list.entry list.entry :=
          List.forall₂_same.mpr fun entry _ => ⟨rfl, List.forall₂_same.mpr fun rule _ => ⟨rfl, rfl⟩⟩
        exact datOrExit_congr (loadSites_same decoded decoded entries wanted)

/-- Options that differ in letter case build the same configuration. -/
theorem buildRouting_same {options options' : RoutingOptions} (same : SameLetters tools options options') :
    buildRouting tools options = buildRouting tools options' := by
  have sites := sites_same same.dat same.tags
  simp only [buildRouting, same.geoip.1, same.geoip.2, parse_all same.proxy, parse_all same.bypass]
  exact congrArg (Option.bind · _) sites

private theorem toLower_ascii {c : Char} : c.toLower.toNat < 128 ↔ c.toNat < 128 := by
  constructor
  · intro lowered
    by_contra large
    have other : ¬ (c.val ≥ 'A'.val ∧ c.val ≤ 'Z'.val) := by
      intro ⟨_, upper⟩
      have bound : c.toNat ≤ 90 := UInt32.le_iff_toNat_le.mp upper
      omega
    have stays : c.toLower = c := dif_neg other
    rw [stays] at lowered
    exact large lowered
  · intro small
    exact Text.ascii_table (p := fun c => c.toLower.toNat < 128) (by decide) small

/-- Another letter case of an ASCII host is lowered to the same text. -/
theorem lower_recased {h h' : List Char} (ascii : ∀ c ∈ h, c.toNat < 128) (same : h'.map Char.toLower = h.map Char.toLower) :
    lower.apply h' = lower.apply h := by
  have ascii' : ∀ c ∈ h', c.toNat < 128 := by
    intro c member
    have lowered : c.toLower ∈ h.map Char.toLower := same ▸ List.mem_map_of_mem member
    obtain ⟨d, inside, recased⟩ := List.mem_map.mp lowered
    rw [← toLower_ascii, ← recased, toLower_ascii]
    exact ascii d inside
  rw [lower.ascii h' ascii', lower.ascii h ascii, same]

private theorem dotted_ascii {h : List Char} (ascii : ∀ c ∈ h, c.toNat < 128) : ∀ c ∈ h ++ ['.'], c.toNat < 128 := by
  intro c member
  rcases List.mem_append.mp member with inside | dot
  · exact ascii c inside
  · cases List.mem_singleton.mp dot
    decide

private theorem lower_dotted (lower : Lowercase) {h : List Char} (ascii : ∀ c ∈ h, c.toNat < 128) :
    lower.apply (h ++ ['.']) = lower.apply h ++ ['.'] := by
  rw [lower.ascii _ (dotted_ascii ascii), lower.ascii h ascii, List.map_append]
  rfl

private theorem lower_noUpper {h : List Char} (ascii : ∀ c ∈ h, c.toNat < 128) : ∀ c ∈ lower.apply h, c.isUpper = false := by
  intro c member
  rw [lower.ascii h ascii] at member
  obtain ⟨d, inside, rfl⟩ := List.mem_map.mp member
  exact Text.ascii_table (p := fun c => c.toLower.isUpper = false) (by decide) (ascii d inside)

/-! ### The rules for a host -/

/-- One of the patterns is for the host and the port. -/
def Chosen (patterns : List HostPattern) (host : List Char) (port : UInt16) : Prop :=
  ∃ r ∈ patterns, (∀ p, r.port = some p → p = port) ∧ Covers r.host host

/-- A GeoSite rule is for the host. -/
def OnSite (config : RoutingConfig) (host : List Char) : Prop :=
  ∃ gs, config.bypassGeosite = some gs ∧ (host ∈ gs.fulls ∨ (∃ keyword ∈ gs.keywords, keyword <:+: host) ∨
    (∃ d ∈ gs.domains, host = d.text.tail ∨ d.text <:+ host) ∨ ∃ re ∈ gs.regexes, re.isMatch host = true)

theorem shouldBypass_chosen (host : List Char) : config.shouldBypass lower host port = true ↔
    ¬ Chosen config.proxy (lower.apply host) port ∧
      (Chosen config.bypass (lower.apply host) port ∨ OnSite config (lower.apply host) ∨
        ∃ ip, parseIpAddr (lower.apply host) = some ip ∧ InCidrs config ip) := by
  rw [shouldBypass_iff]
  simp only [Proxied, Bypassed, Listed, GeoSite.matches_iff, matches_iff, Chosen, OnSite]

/-- What `should_bypass` asks the GeoSite rules about, if it comes to them. -/
def siteQuery (config : RoutingConfig) (lower : Lowercase) (host : List Char) (port : UInt16) : Option (List Char) :=
  let h := lower.apply host
  if config.proxy.any (·.matches h port) then none
  else if config.bypass.any (·.matches h port) then none
  else config.bypassGeosite.map fun _ => h

private theorem siteQuery_some {host text : List Char} : siteQuery config lower host port = some text ↔
    ¬ Chosen config.proxy (lower.apply host) port ∧ ¬ Chosen config.bypass (lower.apply host) port ∧
      config.bypassGeosite ≠ none ∧ text = lower.apply host := by
  have proxied : config.proxy.any (·.matches (lower.apply host) port) = true ↔ Chosen config.proxy (lower.apply host) port := by
    simp only [List.any_eq_true, matches_iff, Chosen]
  have bypassed : config.bypass.any (·.matches (lower.apply host) port) = true ↔ Chosen config.bypass (lower.apply host) port := by
    simp only [List.any_eq_true, matches_iff, Chosen]
  rw [siteQuery, ← proxied, ← bypassed]
  split
  · next first => simp [first]
  · next first =>
    split
    · next second => simp [second]
    · next second =>
      cases config.bypassGeosite with
      | none => simp
      | some gs => simp [first, second, eq_comm]

/-! ### The root dot -/

/-- The answer depends on the host name alone, and the GeoSite rules are asked about it in
lower case and without a trailing dot. -/
structure Normalises (tools : DatTools) (options : RoutingOptions) (config : RoutingConfig) (h : List Char) (port : UInt16) : Prop where
  letters : ∀ options' h', SameLetters tools options options' → h'.map Char.toLower = h.map Char.toLower →
    ∃ config', buildRouting tools options' = some config' ∧
      config'.shouldBypass tools.lower h' port = config.shouldBypass tools.lower h port
  rootDot : config.shouldBypass tools.lower (h ++ ['.']) port = config.shouldBypass tools.lower h port
  asked : ∀ host ∈ [h, h ++ ['.']], ∀ text, siteQuery config tools.lower host port = some text →
    (∀ c ∈ text, c.isUpper = false) ∧ text.getLast? ≠ some '.'

/-- No GeoSite rules are asked about a dotted host, and the patterns for the host with the
dot come to what all the rules for the host come to. -/
structure Undotted (config : RoutingConfig) (h : List Char) (port : UInt16) : Prop where
  unasked : ∀ host ∈ [h, h ++ ['.']], host.getLast? = some '.' →
    config.bypassGeosite = none ∨ Chosen config.proxy host port ∨ Chosen config.bypass host port
  patterns : ¬ Chosen config.proxy (h ++ ['.']) port ∧ Chosen config.bypass (h ++ ['.']) port ↔
    ¬ Chosen config.proxy h port ∧
      (Chosen config.bypass h port ∨ OnSite config h ∨ ∃ ip, parseIpAddr h = some ip ∧ InCidrs config ip)

/-- With the dot the patterns decide alone: no address ends with one. -/
private theorem dotted_bypass {h : List Char} (ascii : ∀ c ∈ h, c.toNat < 128)
    (unasked : config.bypassGeosite = none ∨ Chosen config.proxy (lower.apply h ++ ['.']) port ∨
      Chosen config.bypass (lower.apply h ++ ['.']) port) :
    config.shouldBypass lower (h ++ ['.']) port = true ↔
      ¬ Chosen config.proxy (lower.apply h ++ ['.']) port ∧ Chosen config.bypass (lower.apply h ++ ['.']) port := by
  have noAddress : ¬ ∃ ip, parseIpAddr (lower.apply h ++ ['.']) = some ip ∧ InCidrs config ip := by
    intro ⟨ip, parsed, _⟩
    exact parseIpAddr_last parsed (by simp)
  rw [shouldBypass_chosen, lower_dotted lower ascii]
  simp only [noAddress, or_false]
  refine and_congr_right ?_
  intro unproxied
  constructor
  · intro reached
    rcases reached with chosen | ⟨gs, present, _⟩
    · exact chosen
    · rcases unasked with absent | proxied | chosen
      · rw [absent] at present
        cases present
      · exact absurd proxied unproxied
      · exact chosen
  · exact .inl

/-- The GeoSite rules are asked about a host without its trailing dot exactly if they are not
asked about a dotted one. -/
private theorem asked_undotted {host : List Char} (ascii : ∀ c ∈ host, c.toNat < 128) :
    (∀ text, siteQuery config lower host port = some text → (∀ c ∈ text, c.isUpper = false) ∧ text.getLast? ≠ some '.') ↔
      ((lower.apply host).getLast? = some '.' →
        config.bypassGeosite = none ∨ Chosen config.proxy (lower.apply host) port ∨ Chosen config.bypass (lower.apply host) port) := by
  simp only [siteQuery_some]
  constructor
  · intro asked ends
    by_contra reached
    simp only [not_or] at reached
    obtain ⟨present, unproxied, unbypassed⟩ := reached
    exact (asked _ ⟨unproxied, unbypassed, present, rfl⟩).2 ends
  · intro unasked text ⟨unproxied, unbypassed, present, same⟩
    subst same
    refine ⟨lower_noUpper ascii, ?_⟩
    intro ends
    rcases unasked ends with absent | proxied | bypassed
    · exact present absent
    · exact unproxied proxied
    · exact unbypassed bypassed

private theorem asked_unasked {h : List Char} (ascii : ∀ c ∈ h, c.toNat < 128) :
    (∀ host ∈ [h, h ++ ['.']], ∀ text, siteQuery config lower host port = some text →
      (∀ c ∈ text, c.isUpper = false) ∧ text.getLast? ≠ some '.') ↔
    ∀ host ∈ [lower.apply h, lower.apply h ++ ['.']], host.getLast? = some '.' →
      config.bypassGeosite = none ∨ Chosen config.proxy host port ∨ Chosen config.bypass host port := by
  have spelled : [lower.apply h, lower.apply h ++ ['.']] = [h, h ++ ['.']].map lower.apply := by simp [lower_dotted lower ascii]
  rw [spelled, List.forall_mem_map]
  refine forall₂_congr ?_
  intro host member
  refine asked_undotted ?_
  simp only [List.mem_cons, List.not_mem_nil, or_false] at member
  rcases member with rfl | rfl
  · exact ascii
  · exact dotted_ascii ascii

/-- The letter case of a host name and of the rules never matters. The dot of the DNS root
does not either exactly if the rules are undotted for the host. -/
theorem normalised_exactly (tools : DatTools) (options : RoutingOptions) (config : RoutingConfig) (h : List Char) (port : UInt16)
    (built : buildRouting tools options = some config) (ascii : ∀ c ∈ h, c.toNat < 128) :
    Normalises tools options config h port ↔ Undotted config (tools.lower.apply h) port := by
  constructor
  · intro normalises
    have unasked := (asked_unasked ascii).mp normalises.asked
    refine ⟨unasked, ?_⟩
    rw [← dotted_bypass ascii (unasked _ (by simp) (by simp)), normalises.rootDot, shouldBypass_chosen]
  · intro undotted
    have unasked := undotted.unasked (tools.lower.apply h ++ ['.']) (by simp) (by simp)
    constructor
    · intro options' h' same recased
      refine ⟨config, (buildRouting_same same).symm.trans built, ?_⟩
      rw [Bool.eq_iff_iff, shouldBypass_chosen, shouldBypass_chosen, lower_recased ascii recased]
    · rw [Bool.eq_iff_iff, dotted_bypass ascii unasked, undotted.patterns, shouldBypass_chosen]
    · exact (asked_unasked ascii).mpr undotted.unasked

private theorem covers_dotted {pattern h : List Char} (covers : Covers pattern (h ++ ['.'])) : pattern.getLast? = some '.' := by
  rcases covers with ⟨suffix, x, split, whole⟩ | ⟨_, same⟩
  · have last := congrArg List.getLast? whole
    rw [List.getLast?_concat, List.getLast?_append_of_ne_nil _ (by simp)] at last
    rw [split, last, List.getLast?_cons_cons]
  · rw [← same, List.getLast?_concat]

/-- Where no pattern ends with a dot, that comes to this: there are no GeoSite rules, and no
rule dials the host directly. -/
theorem undotted_plain {h : List Char} (plain : ∀ r ∈ config.proxy ++ config.bypass, r.host.getLast? ≠ some '.') :
    Undotted config h port ↔ config.bypassGeosite = none ∧ ¬ (¬ Chosen config.proxy h port ∧
      (Chosen config.bypass h port ∨ ∃ ip, parseIpAddr h = some ip ∧ InCidrs config ip)) := by
  have unproxied : ¬ Chosen config.proxy (h ++ ['.']) port :=
    fun ⟨r, member, _, covers⟩ => plain r (List.mem_append_left _ member) (covers_dotted covers)
  have unbypassed : ¬ Chosen config.bypass (h ++ ['.']) port :=
    fun ⟨r, member, _, covers⟩ => plain r (List.mem_append_right _ member) (covers_dotted covers)
  have noSite (absent : config.bypassGeosite = none) : ¬ OnSite config h := by
    intro ⟨gs, present, _⟩
    rw [absent] at present
    cases present
  constructor
  · intro undotted
    have absent : config.bypassGeosite = none := by
      simpa [unproxied, unbypassed] using undotted.unasked (h ++ ['.']) (by simp) (by simp)
    refine ⟨absent, ?_⟩
    have patterns := undotted.patterns
    simp only [unbypassed, and_false, false_iff, noSite absent, false_or] at patterns
    exact patterns
  · intro ⟨absent, tunnelled⟩
    refine ⟨fun _ _ _ => .inl absent, ?_⟩
    simp only [unbypassed, and_false, false_iff, noSite absent, false_or]
    exact tunnelled

private def asciiTools : DatTools where
  upper := asciiUppercase
  lower := asciiLowercase
  compile _ := .error ""
  decodeGeosite _ := .error ""
  decodeGeoip _ := .error ""

private def alwaysTunnelled : RoutingOptions := ⟨[['E', 'x']], [], none, none, none, none⟩

theorem tunnelled_normalised : ∃ config, buildRouting asciiTools alwaysTunnelled = some config ∧
    Normalises asciiTools alwaysTunnelled config ['e', 'X'] 443 := by
  refine ⟨_, rfl, (normalised_exactly asciiTools alwaysTunnelled _ _ _ rfl (by simp)).mpr ⟨fun _ _ _ => .inl rfl, ?_⟩⟩
  simp [Chosen, OnSite, InCidrs, alwaysTunnelled]

/-- `ex` is dialed directly, `ex.` is not. -/
theorem dotted_tunnelled : ¬ ∀ (tools : DatTools) (options : RoutingOptions) (config : RoutingConfig) (h : List Char)
    (port : UInt16), buildRouting tools options = some config → (∀ c ∈ h, c.toNat < 128) → Normalises tools options config h port := by
  intro normalises
  have same := (normalises asciiTools ⟨[], [['e', 'x']], none, none, none, none⟩ _ ['e', 'x'] 443 rfl (by simp)).rootDot
  revert same
  decide +kernel

end EchoProxy.Proofs.RootDot
