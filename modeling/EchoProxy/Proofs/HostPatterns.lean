import EchoProxy.Proofs.Routing

/-! Host patterns: what `HostPattern::parse` makes of a pattern's text and which hosts
and ports the result matches. -/

namespace EchoProxy.Proofs.HostPatterns
open EchoProxy Routing

/-! ### Matching -/

/-- A wildcard is for the names under its suffix, any other pattern for itself. -/
def Covers (pattern host : List Char) : Prop :=
  (∃ suffix x, pattern = '*' :: '.' :: suffix ∧ host = x ++ '.' :: suffix) ∨ (¬ ['*', '.'] <+: pattern ∧ host = pattern)

private theorem take_before (front suffix : List Char) :
    (front ++ suffix).take ((front ++ suffix).length - suffix.length) = front := by
  rw [List.length_append, Nat.add_sub_cancel, List.take_left]

private theorem dot_before {host suffix : List Char} :
    (suffix.isSuffixOf host && suffix.length < host.length && (host.take (host.length - suffix.length)).getLast? == some '.') = true ↔
      ∃ x, host = x ++ '.' :: suffix := by
  simp only [Bool.and_eq_true, List.isSuffixOf_iff_suffix, decide_eq_true_eq, beq_iff_eq]
  constructor
  · intro ⟨⟨ends, _⟩, dotted⟩
    obtain ⟨front, rfl⟩ := ends
    rw [take_before] at dotted
    obtain ⟨x, rfl⟩ := List.getLast?_eq_some_iff.mp dotted
    exact ⟨x, by simp⟩
  · intro ⟨x, split⟩
    rw [List.append_cons] at split
    subst split
    refine ⟨⟨List.suffix_append _ _, by simp only [List.length_append, List.length_singleton]; omega⟩, ?_⟩
    rw [take_before, List.getLast?_concat]

private theorem wildcard_split {pattern : List Char} (wildcard : ['*', '.'] <+: pattern) :
    ∃ suffix, pattern = '*' :: '.' :: suffix := by
  obtain ⟨suffix, rfl⟩ := wildcard
  exact ⟨suffix, rfl⟩

theorem matches_iff (pattern : HostPattern) (host : List Char) (q : UInt16) :
    pattern.matches host q = true ↔ (∀ p, pattern.port = some p → p = q) ∧ Covers pattern.host host := by
  have ports : pattern.port.any (· != q) = true ↔ ¬ ∀ p, pattern.port = some p → p = q := by
    cases pattern.port <;> simp
  rw [HostPattern.matches]
  split
  · next other => simp [ports.mp other]
  · next same =>
    have right : ∀ p, pattern.port = some p → p = q := by
      by_contra other
      exact same (ports.mpr other)
    rw [and_iff_right right, Covers]
    split
    · next wildcard =>
      have isPrefix := List.isPrefixOf_iff_prefix.mp wildcard
      obtain ⟨suffix, split⟩ := wildcard_split isPrefix
      dsimp only
      rw [dot_before]
      simp [split]
    · next plain =>
      have notPrefix := mt List.isPrefixOf_iff_prefix.mpr plain
      have noSuffix : ∀ suffix, pattern.host ≠ '*' :: '.' :: suffix := by
        intro suffix split
        exact notPrefix ⟨suffix, split.symm⟩
      rw [beq_iff_eq]
      constructor
      · intro same
        exact .inr ⟨notPrefix, same.symm⟩
      · intro covers
        rcases covers with ⟨suffix, _, split, _⟩ | ⟨_, same⟩
        · exact absurd split (noSuffix suffix)
        · exact same.symm

private theorem slice_before (front suffix : List Char) :
    Text.sliceTo (front ++ suffix) (Text.byteLen (front ++ suffix) - Text.byteLen suffix) = some front := by
  rw [Text.byteLen_append, Nat.add_sub_cancel, Text.sliceTo_append]

private theorem longer_bytes (front suffix : List Char) :
    Text.byteLen (front ++ suffix) > Text.byteLen suffix ↔ suffix.length < (front ++ suffix).length := by
  have empty : Text.byteLen front = 0 ↔ front = [] := Text.byteLen_eq_zero
  rw [Text.byteLen_append, List.length_append, ← List.length_eq_zero_iff] at *
  omega

/-- The slices are taken on character boundaries: what stands before a suffix ends on one. -/
theorem matchesSliced_eq (pattern : HostPattern) (host : List Char) (q : UInt16) :
    pattern.matchesSliced host q = some (pattern.matches host q) := by
  rw [HostPattern.matchesSliced, HostPattern.matches]
  split
  · rfl
  · split
    · next wildcard =>
      obtain ⟨suffix, split⟩ := wildcard_split (List.isPrefixOf_iff_prefix.mp wildcard)
      have rest : Text.sliceFrom pattern.host 2 = some suffix := by
        rw [split]
        exact Text.sliceFrom_append ['*', '.'] suffix
      have dropped : pattern.host.drop 2 = suffix := by
        rw [split]
        rfl
      rw [rest, Option.bind_some, dropped]
      dsimp only
      by_cases ends : suffix <:+ host
      · obtain ⟨front, rfl⟩ := ends
        rw [slice_before, take_before, decide_eq_decide.mpr (longer_bytes front suffix)]
        cases decide (suffix.length < (front ++ suffix).length) <;> simp
      · have apart : suffix.isSuffixOf host = false := by
          rw [Bool.eq_false_iff, ne_eq, List.isSuffixOf_iff_suffix]
          exact ends
        simp [apart]
    · rfl

/-! ### Parsing -/

/-- A pattern as it is written, with the port it is for. -/
def patternText (name : List Char) (port : Option PortText) : List Char := name ++ port.elim [] fun p => ':' :: p.digits

/-- On ASCII text a lowered character is a lower-case letter or unchanged. -/
theorem toLower_cases {c : Char} (small : c.toNat < 128) : c.toLower.isLower = true ∨ c.toLower = c := by
  exact Text.ascii_table (p := fun c => c.toLower.isLower = true ∨ c.toLower = c) (by decide) small

private theorem lowered_other {c d : Char} (small : c.toNat < 128) (lowered : c.toLower = d) (other : d.isLower = false) : c = d := by
  subst lowered
  rcases toLower_cases small with letter | same
  · rw [other] at letter
    cases letter
  · exact same.symm

theorem digit_low {c : Char} (digit : c.isDigit = true) : Low c := by
  obtain ⟨d, small, rfl⟩ := isDigit_digitChar digit
  unfold Low
  interval_cases d <;> decide

theorem parse_patternText (lower : Lowercase) {name : List Char} (ascii : ∀ c ∈ name, c.toNat < 128) (colonFree : ':' ∉ name)
    (port : Option PortText) : HostPattern.parse lower (patternText name port) = ⟨lower.apply name, port.map PortText.port⟩ := by
  have lowered : ':' ∉ name.map Char.toLower := by
    intro member
    obtain ⟨c, inside, same⟩ := List.mem_map.mp member
    exact colonFree (lowered_other (ascii c inside) same (by decide) ▸ inside)
  cases port with
  | none =>
    rw [HostPattern.parse, patternText, Option.elim_none, List.append_nil, lower.ascii name ascii, Text.rsplitOnce_none lowered]
    rfl
  | some p =>
    have digits : p.digits.map Char.toLower = p.digits :=
      (List.map_congr_left fun c member => (digit_low (p.decimal c member)).2).trans (List.map_id _)
    have small : ∀ c ∈ name ++ ':' :: p.digits, c.toNat < 128 := by
      intro c member
      rcases List.mem_append.mp member with inName | inPort
      · exact ascii c inName
      · rcases List.mem_cons.mp inPort with rfl | digit
        · decide
        · exact (digit_low (p.decimal c digit)).1
    have split : lower.apply (name ++ ':' :: p.digits) = name.map Char.toLower ++ ':' :: p.digits := by
      rw [lower.ascii _ small, List.map_append, List.map_cons, digits]
      rfl
    rw [HostPattern.parse, patternText, Option.elim_some, split, Text.rsplitOnce_append _ _ p.colonFree, lower.ascii name ascii]
    simp [p.parsed]

/-! ### Patterns of names -/

/-- The hosts a pattern is meant for. -/
def Means (lower : Lowercase) (name host : List Char) : Prop :=
  (∃ suffix x, name = '*' :: '.' :: suffix ∧ host = x ++ '.' :: lower.apply suffix) ∨
    (¬ ['*', '.'] <+: name ∧ host = lower.apply name)

private theorem lower_wildcard (lower : Lowercase) {name suffix : List Char} (ascii : ∀ c ∈ name, c.toNat < 128) :
    lower.apply name = '*' :: '.' :: suffix ↔ ∃ rest, name = '*' :: '.' :: rest ∧ suffix = lower.apply rest := by
  rw [lower.ascii name ascii]
  constructor
  · intro same
    obtain ⟨star, more, rfl, starred, dots⟩ := List.map_eq_cons_iff.mp same
    obtain ⟨dot, rest, rfl, dotted, tail⟩ := List.map_eq_cons_iff.mp dots
    cases lowered_other (ascii star (by simp)) starred (by decide)
    cases lowered_other (ascii dot (by simp)) dotted (by decide)
    exact ⟨rest, rfl, by rw [lower.ascii rest fun c member => ascii c (by simp [member]), tail]⟩
  · intro ⟨rest, split, same⟩
    subst split same
    rw [lower.ascii rest fun c member => ascii c (by simp [member])]
    rfl

theorem covers_lowered (lower : Lowercase) {name host : List Char} (ascii : ∀ c ∈ name, c.toNat < 128) :
    Covers (lower.apply name) host ↔ Means lower name host := by
  have wildcard : ['*', '.'] <+: lower.apply name ↔ ['*', '.'] <+: name := by
    constructor
    · intro isPrefix
      obtain ⟨suffix, split⟩ := wildcard_split isPrefix
      obtain ⟨rest, rfl, -⟩ := (lower_wildcard lower ascii).mp split
      exact ⟨rest, rfl⟩
    · intro isPrefix
      obtain ⟨rest, rfl⟩ := wildcard_split isPrefix
      exact ⟨lower.apply rest, ((lower_wildcard lower ascii).mpr ⟨rest, rfl, rfl⟩).symm⟩
  rw [Covers, Means, wildcard]
  simp only [lower_wildcard lower ascii]
  refine or_congr_left ?_
  constructor
  · intro ⟨suffix, x, ⟨rest, split, same⟩, whole⟩
    exact ⟨rest, x, split, same ▸ whole⟩
  · intro ⟨rest, x, split, whole⟩
    exact ⟨_, x, ⟨rest, split, rfl⟩, whole⟩

/-- A pattern matches the hosts and ports it is meant for, a wildcard nothing that only ends
with its letters, the apex (`x` empty) included, and no pattern panics on any host. -/
theorem host_patterns (lower : Lowercase) (name : List Char) (ascii : ∀ c ∈ name, c.toNat < 128) (colonFree : ':' ∉ name)
    (port : Option PortText) :
    (∀ host q, (HostPattern.parse lower (patternText name port)).matches host q = true ↔
      (∀ p, port = some p → p.port = q) ∧ Means lower name host) ∧
    (∀ suffix, name = '*' :: '.' :: suffix → ∀ x q, x.getLast? ≠ some '.' →
      (HostPattern.parse lower (patternText name port)).matches (x ++ lower.apply suffix) q = false) ∧
    ∀ (pattern : HostPattern) host q, pattern.matchesSliced host q = some (pattern.matches host q) := by
  have meant (host : List Char) (q : UInt16) : (HostPattern.parse lower (patternText name port)).matches host q = true ↔
      (∀ p, port = some p → p.port = q) ∧ Means lower name host := by
    rw [parse_patternText lower ascii colonFree, matches_iff, covers_lowered lower ascii]
    simp
  refine ⟨meant, ?_, matchesSliced_eq⟩
  intro suffix wildcard x q dotless
  rw [Bool.eq_false_iff, ne_eq, meant]
  intro ⟨_, means⟩
  rcases means with ⟨rest, y, split, whole⟩ | ⟨plain, -⟩
  · cases wildcard.symm.trans split
    rw [List.append_cons] at whole
    cases List.append_cancel_right whole
    simp at dotless
  · exact plain ⟨suffix, wildcard.symm⟩

private def wildcardEx : List Char := ['*', '.', 'E', 'x']

/-- `*.Ex:0443` is for `a.ex` on port 443, and on no port for `notex`. -/
theorem wildcard_port :
    (HostPattern.parse asciiLowercase (patternText wildcardEx (some port443))).matches ['a', '.', 'e', 'x'] 443 = true ∧
      ∀ q, (HostPattern.parse asciiLowercase (patternText wildcardEx (some port443))).matches ['n', 'o', 't', 'e', 'x'] q =
        false := by
  obtain ⟨meant, apart, -⟩ := host_patterns asciiLowercase wildcardEx (by simp [wildcardEx]) (by simp [wildcardEx]) (some port443)
  refine ⟨(meant _ _).mpr ⟨?_, .inl ⟨['E', 'x'], ['a'], rfl, rfl⟩⟩, ?_⟩
  · intro p same
    cases same
    rfl
  · intro q
    exact apart ['E', 'x'] rfl ['n', 'o', 't'] q (by decide)

end EchoProxy.Proofs.HostPatterns
