import EchoProxy.Proofs.GeoTags

/-! The matcher `load_geosite_dat` makes of a decoded list, against the meaning of
the rules in it. -/

namespace EchoProxy.Proofs.GeoSite
open EchoProxy GeoTags

variable {upper : Uppercase} {lower : Lowercase} {compile : List Char → Except String Regex}
  {decodeGeosite : Bytes → Except String GeoSiteList} {bytes : Bytes} {list : GeoSiteList} {tags : List (List Char)}

/-- What a rule says of a host. Rules of other types than these say nothing. -/
def RuleMatches (lower : Lowercase) (compile : List Char → Except String Regex) (rule : Domain) (host : List Char) : Prop :=
  (rule.type = 2 ∧ (host = lower.apply rule.value ∨ '.' :: lower.apply rule.value <:+ host)) ∨
    (rule.type = 3 ∧ host = lower.apply rule.value) ∨ (rule.type = 0 ∧ lower.apply rule.value <:+: host) ∨
    (rule.type = 1 ∧ ∃ re, compile (lower.apply rule.value) = .ok re ∧ re.isMatch host = true)

/-- A rule the loader takes. -/
def Compiles (lower : Lowercase) (compile : List Char → Except String Regex) (rule : Domain) : Prop :=
  rule.type = 1 → ∃ re, compile (lower.apply rule.value) = .ok re

theorem matches_iff (matcher : GeoSiteMatcher) (host : List Char) :
    matcher.matches host = true ↔
      host ∈ matcher.fulls ∨ (∃ keyword ∈ matcher.keywords, keyword <:+: host) ∨
        (∃ d ∈ matcher.domains, host = d.text.tail ∨ d.text <:+ host) ∨ ∃ re ∈ matcher.regexes, re.isMatch host = true := by
  simp [GeoSiteMatcher.matches, or_assoc]

theorem loadDomain_ok (matcher : GeoSiteMatcher) (rule : Domain) :
    (∃ next, loadDomain lower compile matcher rule = .ok next) ↔ Compiles lower compile rule := by
  unfold loadDomain Compiles
  dsimp only
  split
  · next suffix => simp [suffix]
  · next full => simp [full]
  · next keyword => simp [keyword]
  · next regex =>
    cases compiled : compile (lower.apply rule.value) with
    | ok re => simp
    | error e => simp [regex]
  · next regex => exact ⟨fun _ same => (regex same).elim, fun _ => ⟨matcher, rfl⟩⟩

/-- Each rule adds what it says and nothing else. -/
theorem loadDomain_matches {matcher next : GeoSiteMatcher} {rule : Domain}
    (taken : loadDomain lower compile matcher rule = .ok next) (host : List Char) :
    next.matches host = true ↔ matcher.matches host = true ∨ RuleMatches lower compile rule host := by
  unfold loadDomain at taken
  dsimp only at taken
  rw [matches_iff, matches_iff]
  split at taken
  · next suffix =>
    cases taken
    simp [RuleMatches, suffix, or_and_right, exists_or]
    exact Iff.of_eq (by ac_rfl)
  · next full =>
    cases taken
    simp [RuleMatches, full]
    exact Iff.of_eq (by ac_rfl)
  · next keyword =>
    cases taken
    simp [RuleMatches, keyword, or_and_right, exists_or]
    exact Iff.of_eq (by ac_rfl)
  · next regex =>
    cases compiled : compile (lower.apply rule.value) with
    | ok re =>
      simp only [compiled, Except.ok.injEq] at taken
      subst taken
      simp [RuleMatches, regex, compiled, or_and_right, exists_or, or_assoc]
    | error e => simp [compiled] at taken
  · next suffix full keyword regex =>
    cases taken
    have silent : ¬RuleMatches lower compile rule host := by
      intro matched
      obtain ⟨two, _⟩ | ⟨three, _⟩ | ⟨zero, _⟩ | ⟨one, _⟩ := matched
      exacts [suffix two, full three, keyword zero, regex one]
    simp [silent]

abbrev First (upper : Uppercase) (list : GeoSiteList) (tag : List Char) (entry : GeoSite) : Prop :=
  FirstEntry upper GeoSite.countryCode list.entry tag entry

theorem load_decoded (decoded : decodeGeosite bytes = .ok list) :
    loadGeositeDat upper lower compile decodeGeosite (.ok bytes) tags =
      loadTags upper GeoSite.countryCode GeoSite.domain .tagNotFound (loadDomain lower compile) list.entry tags .empty := by
  simp only [loadGeositeDat, decoded]

private theorem empty_matches (host : List Char) : GeoSiteMatcher.empty.matches host = false := rfl

/-- The loader takes every list that has the tags, and its matcher says of a host what
the rules of the selected entries say. -/
theorem geosite_rules (upper : Uppercase) (lower : Lowercase) (compile : List Char → Except String Regex)
    (decodeGeosite : Bytes → Except String GeoSiteList) (bytes : Bytes) (list : GeoSiteList) (tags : List (List Char))
    (decoded : decodeGeosite bytes = .ok list)
    (compiles : ∀ tag ∈ tags, ∀ entry, First upper list tag entry → ∀ rule ∈ entry.domain, Compiles lower compile rule) :
    ((∃ matcher, loadGeositeDat upper lower compile decodeGeosite (.ok bytes) tags = .ok matcher) ↔
        ∀ tag ∈ tags, ∃ entry ∈ list.entry, upper.apply entry.countryCode = upper.apply tag) ∧
      ∀ matcher, loadGeositeDat upper lower compile decodeGeosite (.ok bytes) tags = .ok matcher →
        ∀ host, matcher.matches host = true ↔
          ∃ tag ∈ tags, ∃ entry, First upper list tag entry ∧ ∃ rule ∈ entry.domain, RuleMatches lower compile rule host := by
  rw [load_decoded decoded]
  constructor
  · rw [loadTags_ok loadDomain_ok]
    constructor
    · intro good tag wanted
      obtain ⟨entry, first, _⟩ := good tag wanted
      exact exists_firstEntry.mp ⟨entry, first⟩
    · intro present tag wanted
      obtain ⟨entry, first⟩ := exists_firstEntry.mpr (present tag wanted)
      exact ⟨entry, first, compiles tag wanted entry first⟩
  · intro matcher loaded host
    have collected := loadTags_collects (fun matcher => matcher.matches host = true) (RuleMatches lower compile · host)
      (fun _ _ _ taken => loadDomain_matches taken host) loaded
    rw [collected, empty_matches]
    simp

/-- One rule of each type, and one of a type the loader leaves out. -/
private def mixedList : GeoSiteList :=
  ⟨[⟨['C', 'N'], [⟨2, "Foo.com".toList⟩, ⟨3, "www.bar.com".toList⟩, ⟨0, "baidu".toList⟩, ⟨1, "a".toList⟩, ⟨7, "b".toList⟩]⟩]⟩

/-- A pattern of letters matches where it occurs. -/
private def compileLetters (pattern : List Char) : Except String Regex := .ok ⟨fun host => decide (pattern <:+: host)⟩

theorem mixed_rules :
    ((∃ matcher, loadGeositeDat asciiUppercase asciiLowercase compileLetters (fun _ => .ok mixedList) (.ok []) [['c', 'n']] =
          .ok matcher) ↔
        ∀ tag ∈ [['c', 'n']], ∃ entry ∈ mixedList.entry, asciiUppercase.apply entry.countryCode = asciiUppercase.apply tag) ∧
      ∀ matcher, loadGeositeDat asciiUppercase asciiLowercase compileLetters (fun _ => .ok mixedList) (.ok []) [['c', 'n']] =
          .ok matcher →
        ∀ host, matcher.matches host = true ↔ ∃ tag ∈ [['c', 'n']], ∃ entry, First asciiUppercase mixedList tag entry ∧
          ∃ rule ∈ entry.domain, RuleMatches asciiLowercase compileLetters rule host :=
  geosite_rules asciiUppercase asciiLowercase compileLetters (fun _ => .ok mixedList) [] mixedList [['c', 'n']] rfl
    fun _ _ _ _ _ _ _ => ⟨_, rfl⟩

end EchoProxy.Proofs.GeoSite
