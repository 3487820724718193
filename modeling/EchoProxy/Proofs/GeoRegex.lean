import EchoProxy.Proofs.GeoSite
import EchoProxy.RegexSyntax

/-! What lowercasing the text of a regex rule does to its meaning. -/

namespace EchoProxy.Proofs.GeoRegex
open EchoProxy Regular GeoTags GeoSite

variable {upper : Uppercase} {lower : Lowercase} {compile : List Char → Except String Regex}
  {decodeGeosite : Bytes → Except String GeoSiteList} {bytes : Bytes} {list : GeoSiteList} {tags : List (List Char)}
  {crate : RegexCrate} {pattern : Pattern} {host : List Char}

/-! ### The loaded regexes -/

/-- A regex rule adds the regex of its lowercased text and nothing else. -/
theorem loadDomain_regexes {matcher next : GeoSiteMatcher} {rule : Domain}
    (taken : loadDomain lower compile matcher rule = .ok next) (re : Regex) :
    re ∈ next.regexes ↔ re ∈ matcher.regexes ∨ rule.type = 1 ∧ compile (lower.apply rule.value) = .ok re := by
  unfold loadDomain at taken
  dsimp only at taken
  split at taken
  · next suffix =>
    cases taken
    simp [suffix]
  · next full =>
    cases taken
    simp [full]
  · next keyword =>
    cases taken
    simp [keyword]
  · next regex =>
    cases compiled : compile (lower.apply rule.value) with
    | ok re' =>
      simp only [compiled, Except.ok.injEq] at taken
      subst taken
      simp [regex, eq_comm]
    | error e => simp [compiled] at taken
  · next other =>
    cases taken
    refine ⟨.inl, ?_⟩
    intro added
    obtain member | ⟨regex, _⟩ := added
    · exact member
    · exact (other regex).elim

theorem load_regexes (decoded : decodeGeosite bytes = .ok list) {matcher : GeoSiteMatcher}
    (loaded : loadGeositeDat upper lower compile decodeGeosite (.ok bytes) tags = .ok matcher) (re : Regex) :
    re ∈ matcher.regexes ↔ ∃ tag ∈ tags, ∃ entry, First upper list tag entry ∧
      ∃ rule ∈ entry.domain, rule.type = 1 ∧ compile (lower.apply rule.value) = .ok re := by
  rw [load_decoded decoded] at loaded
  have collected := loadTags_collects (fun matcher => re ∈ matcher.regexes)
    (fun rule => rule.type = 1 ∧ compile (lower.apply rule.value) = .ok re)
    (fun _ _ _ taken => loadDomain_regexes taken re) loaded
  rw [collected]
  simp [GeoSiteMatcher.empty]

/-! ### The lowercased text -/

theorem char_ascii {c : Char} (small : c.toNat < 128) : lower.char c = c.toLower := by
  have single : lower.apply [c] = [c].map Char.toLower := lower.ascii [c] (by simpa using small)
  simp [Lowercase.char, single]

private theorem digit_fixed {c : Char} (digit : c.isDigit = true) : lower.char c = c := by
  have small : c.toNat ≤ 57 := by
    simp only [Char.isDigit, Bool.and_eq_true, decide_eq_true_eq] at digit
    exact UInt32.le_iff_toNat_le.mp digit.2
  have ascii : c.toNat < 128 := by omega
  rw [char_ascii ascii]
  exact Text.ascii_table (p := fun c => c.isDigit = true → c.toLower = c) (by decide) ascii digit

private theorem operator_fixed (c : Char) (which : c ∈ ['|', '*', '+', '?', '{', '}', ','] ∨ c.isDigit = true) :
    lower.char c = c := by
  obtain member | digit := which
  · simp only [List.mem_cons, List.not_mem_nil, or_false] at member
    obtain rfl | rfl | rfl | rfl | rfl | rfl | rfl := member <;> exact char_ascii (by decide)
  · exact digit_fixed digit

private theorem item_text (item : ClassItem) : (item.lowered lower.char).text = item.text.map lower.char := by
  have backslash : lower.char '\\' = '\\' := char_ascii (by decide)
  have dash : lower.char '-' = '-' := char_ascii (by decide)
  cases item with
  | char | escaped | range => simp [ClassItem.lowered, ClassItem.text, backslash, dash]
  | perl kind negated =>
    have letter : lower.char (kind.letter negated) = kind.letter false := by
      cases kind <;> cases negated <;> exact char_ascii (by decide)
    simp [ClassItem.lowered, ClassItem.text, backslash, letter]

private theorem token_text (token : Token) : (token.lowered lower.char).text = token.text.map lower.char := by
  have backslash : lower.char '\\' = '\\' := char_ascii (by decide)
  cases token with
  | char | escaped | special => simp [Token.lowered, Token.text, backslash]
  | perl kind negated =>
    have letter : lower.char (kind.letter negated) = kind.letter false := by
      cases kind <;> cases negated <;> exact char_ascii (by decide)
    simp [Token.lowered, Token.text, backslash, letter]
  | bracket negated items =>
    have opening : lower.char '[' = '[' := char_ascii (by decide)
    have caret : lower.char '^' = '^' := char_ascii (by decide)
    have closing : lower.char ']' = ']' := char_ascii (by decide)
    have inside : (items.map (ClassItem.lowered lower.char)).flatMap ClassItem.text =
        (items.flatMap ClassItem.text).map lower.char := by
      simp only [List.flatMap_map, List.map_flatMap, item_text]
    cases negated <;> simp [Token.lowered, Token.text, opening, caret, closing, inside]
  | boundary negated =>
    have letter : lower.char (if negated then 'B' else 'b') = 'b' := by cases negated <;> exact char_ascii (by decide)
    simp [Token.lowered, Token.text, backslash, letter]

private theorem opener_sides (o : Opener) :
    (o.lowered lower.char).sides = (o.sides.1.map lower.char, o.sides.2.map lower.char) := by
  have closing : lower.char ')' = ')' := char_ascii (by decide)
  unfold Opener.sides Opener.lowered
  split <;> simp [closing]

/-- Lowercasing the text of a pattern lowercases its tokens. -/
theorem lowered_text (pattern : Pattern) : (pattern.lowered lower.char).text = pattern.text.map lower.char :=
  Expression.text_map operator_fixed token_text opener_sides pattern

/-! ### The meaning of a rule -/

/-- The loader compiles the pattern, and its regex finds in the host what the pattern as
written finds without regard to case. -/
def Faithful (lower : Lowercase) (compile : List Char → Except String Regex) (crate : RegexCrate) (pattern : Pattern)
    (host : List Char) : Prop :=
  ∃ re, compile (lower.apply pattern.text) = .ok re ∧
    (re.isMatch host = true ↔ Search crate.reading crate.insensitive pattern host)

/-- Lowercasing does the pattern no harm on the host: it goes character by character, it
leaves a pattern the crate takes, and every leaf means on the host what it means as
written without regard to case. -/
structure Unharmed (lower : Lowercase) (crate : RegexCrate) (pattern : Pattern) (host : List Char) : Prop where
  charwise : lower.apply pattern.text = pattern.text.map lower.char
  valid : (pattern.lowered lower.char).Valid crate crate.plain
  kept : Expression.Kept crate.reading (Token.lowered lower.char) (Opener.lowered lower.char) host crate.insensitive crate.plain pattern

theorem charwise_ascii (small : ∀ c ∈ pattern.text, c.toNat < 128) : lower.apply pattern.text = pattern.text.map lower.char := by
  rw [lower.ascii pattern.text small]
  exact List.map_congr_left fun c member => (char_ascii (small c member)).symm

theorem Unharmed.faithful (unharmed : Unharmed lower crate pattern host)
    (usual : Usual crate compile (pattern.lowered lower.char)) : Faithful lower compile crate pattern host := by
  obtain ⟨re, compiled, searches⟩ := usual unharmed.valid
  refine ⟨re, ?_, ?_⟩
  · rw [unharmed.charwise, ← lowered_text]
    exact compiled
  · rw [searches host]
    exact unharmed.kept.search_iff.symm

/-- `^token$`. -/
def anchored (token : Token) : Pattern := .between (.special ['^']) token (.special ['$'])

theorem search_anchored {mode : crate.Mode} (which : mode = crate.plain ∨ mode = crate.insensitive) {token : Token}
    {accepts : Char → Prop} (one : token.meaning crate mode = .takes accepts) :
    Search crate.reading mode (anchored token) host ↔ ∃ c, host = [c] ∧ accepts c := by
  apply search_between _ _ one
  · simp [RegexCrate.reading, Token.meaning, crate.start mode which]
  · simp [RegexCrate.reading, Token.meaning, crate.finish mode which]

theorem anchored_lowered (token : Token) : (anchored token).lowered lower.char = anchored (token.lowered lower.char) := by
  have caret : lower.char '^' = '^' := char_ascii (by decide)
  have dollar : lower.char '$' = '$' := char_ascii (by decide)
  simp [Pattern.lowered, anchored, Expression.between, Expression.map, Token.lowered, caret, dollar]

private theorem anchored_kept {token : Token} {accepts accepts' : Char → Prop}
    (written : token.meaning crate crate.insensitive = .takes accepts)
    (compiled : (token.lowered lower.char).meaning crate crate.plain = .takes accepts') :
    Expression.Kept crate.reading (Token.lowered lower.char) (Opener.lowered lower.char) host crate.insensitive crate.plain
      (anchored token) ↔ ∀ c ∈ host, accepts c ↔ accepts' c := by
  have caret : lower.char '^' = '^' := char_ascii (by decide)
  have dollar : lower.char '$' = '$' := char_ascii (by decide)
  have starts : Leaf.Same host ((Token.special ['^']).meaning crate crate.insensitive)
      (((Token.special ['^']).lowered lower.char).meaning crate crate.plain) := by
    simp [Token.lowered, Token.meaning, caret, crate.start, Leaf.Same]
  have finishes : Leaf.Same host ((Token.special ['$']).meaning crate crate.insensitive)
      (((Token.special ['$']).lowered lower.char).meaning crate crate.plain) := by
    simp [Token.lowered, Token.meaning, dollar, crate.finish, Leaf.Same]
  have middle : Leaf.Same host (token.meaning crate crate.insensitive) ((token.lowered lower.char).meaning crate crate.plain) ↔
      ∀ c ∈ host, accepts c ↔ accepts' c := by
    rw [written, compiled]
    exact Iff.rfl
  rw [← middle]
  exact ⟨fun kept => kept.2.1, fun same => ⟨starts, same, finishes⟩⟩

/-- For `^token$` and a host of one character nothing else is harmless. -/
theorem anchored_faithful_iff {token : Token} {accepts accepts' : Char → Prop} {c : Char}
    (written : token.meaning crate crate.insensitive = .takes accepts)
    (compiled : (token.lowered lower.char).meaning crate crate.plain = .takes accepts')
    (charwise : lower.apply (anchored token).text = (anchored token).text.map lower.char)
    (valid : ((anchored token).lowered lower.char).Valid crate crate.plain)
    (usual : Usual crate compile ((anchored token).lowered lower.char)) :
    Faithful lower compile crate (anchored token) [c] ↔ Unharmed lower crate (anchored token) [c] := by
  constructor
  · intro ⟨re, taken, same⟩
    refine ⟨charwise, valid, (anchored_kept written compiled).mpr ?_⟩
    obtain ⟨re', taken', searches⟩ := usual valid
    rw [charwise, ← lowered_text, taken'] at taken
    cases taken
    rw [searches, anchored_lowered, search_anchored (.inl rfl) compiled, search_anchored (.inr rfl) written] at same
    simpa [iff_comm] using same
  · intro unharmed
    exact unharmed.faithful usual

/-- A regex rule keeps its meaning on every host where lowercasing does its pattern no
harm; for one token between anchors there is no other host. -/
theorem regex_rule_meaning (upper : Uppercase) (lower : Lowercase) (compile : List Char → Except String Regex)
    (decodeGeosite : Bytes → Except String GeoSiteList) (bytes : Bytes) (list : GeoSiteList) (tags : List (List Char))
    (crate : RegexCrate) (decoded : decodeGeosite bytes = .ok list) (tag : List Char) (wanted : tag ∈ tags) (entry : GeoSite)
    (first : First upper list tag entry) (rule : Domain) (member : rule ∈ entry.domain) (regex : rule.type = 1)
    (pattern : Pattern) (written : rule.value = pattern.text)
    (usual : Usual crate compile (pattern.lowered lower.char)) :
    (∀ host, Unharmed lower crate pattern host → Faithful lower compile crate pattern host) ∧
      (∀ matcher, loadGeositeDat upper lower compile decodeGeosite (.ok bytes) tags = .ok matcher →
        ∀ re, compile (lower.apply pattern.text) = .ok re → re ∈ matcher.regexes) ∧
      ∀ token accepts accepts' c, pattern = anchored token → token.meaning crate crate.insensitive = .takes accepts →
        (token.lowered lower.char).meaning crate crate.plain = .takes accepts' →
        lower.apply pattern.text = pattern.text.map lower.char → (pattern.lowered lower.char).Valid crate crate.plain →
        (Faithful lower compile crate pattern [c] ↔ Unharmed lower crate pattern [c]) := by
  refine ⟨fun host unharmed => unharmed.faithful usual, ?_, ?_⟩
  · intro matcher loaded re compiled
    apply (load_regexes decoded loaded re).mpr
    exact ⟨tag, wanted, entry, first, rule, member, regex, written ▸ compiled⟩
  · intro token accepts accepts' c same means compiled charwise valid
    subst same
    exact anchored_faithful_iff means compiled charwise valid usual

/-! ### On ASCII -/

private def asciiUpper : Uppercase := asciiUppercase
private def asciiLower : Lowercase := asciiLowercase

/-- The crate on ASCII text; a mode is the flag `i`. -/
private def asciiCrate : RegexCrate where
  Mode := Bool
  plain := false
  insensitive := true
  sameCase mode c d := if mode then c.toLower = d.toLower else c = d
  plain_sameCase _ _ := Iff.rfl
  perl _ kind c :=
    match kind with
    | .digit => c.isDigit = true
    | .space => c.isWhitespace = true
    | .word => c.isAlphanum = true ∨ c = '_'
  special _ text :=
    if text = ['^'] then some (.tests fun before _ => before = [])
    else if text = ['$'] then some (.tests fun _ after => after = [])
    else none
  start _ _ := rfl
  finish _ _ := rfl
  opens mode o := if o = ⟨['('], true⟩ then some mode else none

private def oneChar (accepts : Char → Bool) : Regex where
  isMatch
    | [c] => accepts c
    | _ => false

/-- `Regex::new` on some patterns for one character. -/
private def compileOne (known : List (List Char × (Char → Bool))) (pattern : List Char) : Except String Regex :=
  match known.lookup pattern with
  | some accepts => .ok (oneChar accepts)
  | none => .error "unexpected"

private theorem compileOne_usual (token : Token) {known : List (List Char × (Char → Bool))} {accepts : Char → Bool}
    (there : known.lookup (anchored token).text = some accepts)
    (means : token.meaning asciiCrate asciiCrate.plain = .takes fun c => accepts c = true) :
    Usual asciiCrate (compileOne known) (anchored token) := by
  intro _
  refine ⟨oneChar accepts, by simp only [compileOne, there], ?_⟩
  intro host
  rw [search_anchored (.inl rfl) means]
  cases host with
  | nil => simp [oneChar]
  | cons c rest => cases rest <;> simp [oneChar]

private def oneRule (value : List Char) : GeoSiteList := ⟨[⟨['C', 'N'], [⟨1, value⟩]⟩]⟩

private theorem oneRule_first (value : List Char) : First asciiUpper (oneRule value) ['c', 'n'] ⟨['C', 'N'], [⟨1, value⟩]⟩ := by
  refine ⟨[], [], rfl, ?_, by simp⟩
  change ['C', 'N'].map Char.toUpper = ['c', 'n'].map Char.toUpper
  decide

private theorem anchored_valid {token : Token} (valid : token.Valid asciiCrate asciiCrate.plain) :
    (anchored token).Valid asciiCrate asciiCrate.plain := ⟨rfl, rfl, rfl, rfl, rfl, valid, rfl⟩

private def capital : List (List Char × (Char → Bool)) := [(['^', 'a', '$'], fun c => 'a' == c)]

/-- The rule `^A$` is loaded as `^a$`, which matches `a`. -/
theorem capital_kept : ∃ re, compileOne capital (asciiLower.apply ['^', 'A', '$']) = .ok re ∧
    (re.isMatch ['a'] = true ↔ Search asciiCrate.reading asciiCrate.insensitive (anchored (.char 'A')) ['a']) := by
  have lowered : (anchored (.char 'A')).lowered asciiLower.char = anchored (.char 'a') := anchored_lowered _
  have usual : Usual asciiCrate (compileOne capital) ((anchored (.char 'A')).lowered asciiLower.char) := by
    rw [lowered]
    exact compileOne_usual (.char 'a') rfl (by simp [Token.meaning, asciiCrate])
  have unharmed : Unharmed asciiLower asciiCrate (anchored (.char 'A')) ['a'] := by
    refine ⟨rfl, ?_, fun _ _ _ => Iff.rfl, ?_, fun _ _ _ => Iff.rfl⟩
    · rw [lowered]
      apply anchored_valid
      change 'a' ∉ _
      decide
    · intro c member
      rw [List.mem_singleton.mp member]
      change ('A'.toLower = 'a'.toLower) ↔ ('A'.toLower = 'a')
      decide
  exact (regex_rule_meaning asciiUpper asciiLower (compileOne capital) (fun _ => .ok (oneRule ['^', 'A', '$'])) []
    (oneRule ['^', 'A', '$']) [['c', 'n']] asciiCrate rfl ['c', 'n'] (by simp) _ (oneRule_first _) ⟨1, ['^', 'A', '$']⟩ (by simp)
    rfl (anchored (.char 'A')) rfl usual).1 ['a'] unharmed

private def digits : List (List Char × (Char → Bool)) :=
  [((anchored (.perl .digit false)).text, Char.isDigit), ((anchored (.perl .digit true)).text, fun c => !c.isDigit)]

/-- The rule `^\D$` is loaded as `^\d$`. -/
theorem complement_lost : ¬∀ (upper : Uppercase) (lower : Lowercase) (compile : List Char → Except String Regex)
    (decodeGeosite : Bytes → Except String GeoSiteList) (bytes : Bytes) (list : GeoSiteList) (tags : List (List Char))
    (crate : RegexCrate), decodeGeosite bytes = .ok list → ∀ tag ∈ tags, ∀ entry, First upper list tag entry →
      ∀ rule ∈ entry.domain, rule.type = 1 → ∀ pattern : Pattern, rule.value = pattern.text → pattern.Valid crate crate.plain →
        Usual crate compile pattern → Usual crate compile (pattern.lowered lower.char) → ∀ host, lower.apply host = host →
          Faithful lower compile crate pattern host := by
  intro keeps
  have lowered : (anchored (.perl .digit true)).lowered asciiLower.char = anchored (.perl .digit false) := anchored_lowered _
  have usual : Usual asciiCrate (compileOne digits) (anchored (.perl .digit true)) :=
    compileOne_usual (.perl .digit true) rfl (by simp [Token.meaning, asciiCrate, Signed])
  have usual' : Usual asciiCrate (compileOne digits) ((anchored (.perl .digit true)).lowered asciiLower.char) := by
    rw [lowered]
    exact compileOne_usual (.perl .digit false) rfl (by simp [Token.meaning, asciiCrate, Signed])
  obtain ⟨re, compiled, same⟩ := keeps asciiUpper asciiLower (compileOne digits)
    (fun _ => .ok (oneRule (anchored (.perl .digit true)).text)) [] (oneRule (anchored (.perl .digit true)).text) [['c', 'n']]
    asciiCrate rfl ['c', 'n'] (by simp) _ (oneRule_first _) ⟨1, (anchored (.perl .digit true)).text⟩ (by simp) rfl
    (anchored (.perl .digit true)) rfl (anchored_valid trivial) usual usual' ['a'] rfl
  have finds : Search asciiCrate.reading asciiCrate.insensitive (anchored (.perl .digit true)) ['a'] := by
    apply (search_anchored (.inr rfl) rfl).mpr
    refine ⟨'a', rfl, ?_⟩
    change ¬('a'.isDigit = true)
    decide
  have missed : re.isMatch ['a'] = false := by
    cases compiled
    decide
  rw [same.mpr finds] at missed
  cases missed

end EchoProxy.Proofs.GeoRegex
