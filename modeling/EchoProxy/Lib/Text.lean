import Mathlib.Algebra.Ring.Nat
import Mathlib.Data.List.DropRight

/-! String operations of the Rust standard library on character lists, with the
facts that describe their results. -/

namespace Text

/-- `str::rsplit_once` at a character; the part before the separator is what
`&s[..s.rfind(sep)]` denotes. -/
def rsplitOnce (sep : Char) : List Char → Option (List Char × List Char)
  | [] => none
  | c :: rest =>
    match rsplitOnce sep rest with
    | some (before, after) => some (c :: before, after)
    | none => if c = sep then some ([], rest) else none

/-- `str::splitn` at a character. -/
def splitn (sep : Char) : Nat → List Char → List (List Char)
  | 0, _ => []
  | 1, text => [text]
  | limit + 2, text =>
    match text.dropWhile (· ≠ sep) with
    | [] => [text]
    | _ :: after => text.takeWhile (· ≠ sep) :: splitn sep (limit + 1) after

/-- `str::trim_matches` with a character predicate. -/
def trimMatches (p : Char → Bool) (text : List Char) : List Char := (text.dropWhile p).rdropWhile p

/-- `char::is_whitespace`: the Unicode property `White_Space`. -/
def isWhitespace (c : Char) : Bool :=
  (9 ≤ c.toNat && c.toNat ≤ 13) || (0x2000 ≤ c.toNat && c.toNat ≤ 0x200a) ||
    [0x20, 0x85, 0xa0, 0x1680, 0x2028, 0x2029, 0x202f, 0x205f, 0x3000].contains c.toNat

/-- `str::trim`. -/
def trim (text : List Char) : List Char := trimMatches isWhitespace text

/-- At most `limit` copies of the pattern are dropped. -/
def trimStartMatches (pattern : List Char) : Nat → List Char → List Char
  | 0, text => text
  | limit + 1, text =>
    if pattern.isPrefixOf text then trimStartMatches pattern limit (text.drop pattern.length) else text

/-- `str::trim_end_matches` with a string, which must not be empty. -/
def trimEndMatches (pattern text : List Char) : List Char :=
  (trimStartMatches pattern.reverse text.length text.reverse).reverse

/-- `str::len`, in bytes of UTF-8. -/
def byteLen (text : List Char) : Nat := (text.map Char.utf8Size).sum

/-- `&s[..n]`; `none` is the panic when `n` is not on a character boundary. -/
def sliceTo : List Char → Nat → Option (List Char)
  | _, 0 => some []
  | [], _ + 1 => none
  | c :: rest, n + 1 => if c.utf8Size ≤ n + 1 then (sliceTo rest (n + 1 - c.utf8Size)).map (c :: ·) else none

/-- `&s[n..]`, which panics where `sliceTo` does. -/
def sliceFrom : List Char → Nat → Option (List Char)
  | text, 0 => some text
  | [], _ + 1 => none
  | c :: rest, n + 1 => if c.utf8Size ≤ n + 1 then sliceFrom rest (n + 1 - c.utf8Size) else none

/-- The number decimal digits stand for. -/
def decimalValue (digits : List Char) : Nat := digits.foldl (fun value digit => value * 10 + (digit.toNat - '0'.toNat)) 0

/-- `str::parse` to an unsigned integer type with the given largest value. -/
def parseUnsigned (largest : Nat) (text : List Char) : Option Nat :=
  let digits := if text.head? = some '+' then text.tail else text
  if digits ≠ [] ∧ digits.all Char.isDigit then
    let value := digits.foldl (fun value digit => value * 10 + (digit.toNat - '0'.toNat)) 0
    if value ≤ largest then some value else none
  else none

/-- What holds of the code points below 128 holds of the ASCII characters. -/
theorem ascii_table {p : Char → Prop} (table : ∀ n < 128, p (Char.ofNat n)) {c : Char} (small : c.toNat < 128) : p c := by
  rw [← Char.ofNat_toNat c]
  exact table c.toNat small

theorem rsplitOnce_none {sep : Char} {text : List Char} (absent : sep ∉ text) : rsplitOnce sep text = none := by
  induction text with
  | nil => rfl
  | cons c rest ih =>
    simp only [List.mem_cons, not_or] at absent
    simp [rsplitOnce, ih absent.2, Ne.symm absent.1]

theorem rsplitOnce_append {sep : Char} (before after : List Char) (absent : sep ∉ after) :
    rsplitOnce sep (before ++ sep :: after) = some (before, after) := by
  induction before with
  | nil => simp [rsplitOnce, rsplitOnce_none absent]
  | cons c before ih => simp [rsplitOnce, ih]

theorem rsplitOnce_some {sep : Char} {text before after : List Char} (split : rsplitOnce sep text = some (before, after)) :
    text = before ++ sep :: after ∧ sep ∉ after := by
  by_cases present : sep ∈ text
  · obtain ⟨back, front, reversed, absent⟩ := List.eq_append_cons_of_mem (List.mem_reverse.mpr present)
    have whole : text = front.reverse ++ sep :: back.reverse := by
      rw [← List.reverse_inj, reversed]
      simp
    have found := rsplitOnce_append front.reverse back.reverse (mt List.mem_reverse.mp absent)
    rw [← whole, split] at found
    cases found
    exact ⟨whole, mt List.mem_reverse.mp absent⟩
  · rw [rsplitOnce_none present] at split
    cases split

theorem byteLen_append (front back : List Char) : byteLen (front ++ back) = byteLen front + byteLen back := by
  simp [byteLen]

theorem byteLen_cons (c : Char) (rest : List Char) : byteLen (c :: rest) = c.utf8Size + byteLen rest := by
  simp [byteLen]

theorem byteLen_eq_zero {text : List Char} : byteLen text = 0 ↔ text = [] := by
  cases text with
  | nil => simp [byteLen]
  | cons c rest =>
    have size := c.utf8Size_pos
    simp only [byteLen_cons, reduceCtorEq, iff_false]
    omega

private theorem byteLen_step (c : Char) (front : List Char) :
    ∃ n, byteLen (c :: front) = n + 1 ∧ c.utf8Size ≤ n + 1 ∧ n + 1 - c.utf8Size = byteLen front := by
  have positive := c.utf8Size_pos
  rw [byteLen_cons]
  exact ⟨c.utf8Size + byteLen front - 1, by omega, by omega, by omega⟩

theorem sliceTo_append (front back : List Char) : sliceTo (front ++ back) (byteLen front) = some front := by
  induction front with
  | nil => cases back <;> rfl
  | cons c front ih =>
    obtain ⟨n, size, fits, after⟩ := byteLen_step c front
    rw [size, List.cons_append, sliceTo, if_pos fits, after, ih]
    rfl

theorem sliceFrom_append (front back : List Char) : sliceFrom (front ++ back) (byteLen front) = some back := by
  induction front with
  | nil => cases back <;> rfl
  | cons c front ih =>
    obtain ⟨n, size, fits, after⟩ := byteLen_step c front
    rw [size, List.cons_append, sliceFrom, if_pos fits, after, ih]

theorem splitn_append {sep : Char} (limit : Nat) (before after : List Char) (absent : sep ∉ before) :
    splitn sep (limit + 2) (before ++ sep :: after) = before :: splitn sep (limit + 1) after := by
  have kept : ∀ c ∈ before, decide (c ≠ sep) = true := fun c member => decide_eq_true fun same => absent (same ▸ member)
  have rest : (before ++ sep :: after).dropWhile (· ≠ sep) = sep :: after := by
    rw [List.dropWhile_append_of_pos kept]
    simp
  have front : (before ++ sep :: after).takeWhile (· ≠ sep) = before := by
    rw [List.takeWhile_append_of_pos kept]
    simp
  rw [splitn, rest]
  exact congrArg (· :: splitn sep (limit + 1) after) front

theorem splitn_whole {sep : Char} (limit : Nat) (text : List Char) (absent : sep ∉ text) :
    splitn sep (limit + 1) text = [text] := by
  cases limit with
  | zero => rfl
  | succ limit =>
    have rest : text.dropWhile (· ≠ sep) = [] := by
      rw [List.dropWhile_eq_nil_iff]
      exact fun c member => decide_eq_true fun same => absent (same ▸ member)
    rw [splitn, rest]

/-- Trimming a character off both ends stops at the first and last others. -/
theorem trimMatches_of_ends {p : Char → Bool} {text : List Char}
    (first : ∀ c, text.head? = some c → p c = false) (last : ∀ c, text.getLast? = some c → p c = false) :
    trimMatches p text = text := by
  have front : text.dropWhile p = text := by
    cases text with
    | nil => rfl
    | cons c rest => simp [first c rfl]
  rw [trimMatches, front, List.rdropWhile_eq_self_iff]
  intro nonempty
  simp [last _ (List.getLast?_eq_getLast_of_ne_nil nonempty)]

theorem trimMatches_padded {p : Char → Bool} {front text back : List Char} (before : ∀ c ∈ front, p c = true)
    (after : ∀ c ∈ back, p c = true) (inside : ∀ c ∈ text, p c = false) : trimMatches p (front ++ text ++ back) = text := by
  have kept : text.rdropWhile p = text := by
    rw [List.rdropWhile_eq_self_iff]
    intro nonempty
    simp [inside _ (List.getLast_mem nonempty)]
  have right : (text ++ back).rdropWhile p = text := by
    induction back using List.reverseRecOn with
    | nil => rw [List.append_nil, kept]
    | append_singleton back c ih =>
      rw [← List.append_assoc, List.rdropWhile_concat_pos _ _ _ (after c (by simp))]
      exact ih fun c member => after c (by simp [member])
  rw [trimMatches, List.append_assoc, List.dropWhile_append_of_pos before]
  cases text with
  | nil =>
    rw [List.nil_append, List.dropWhile_eq_nil_iff.mpr after]
    rfl
  | cons c rest => rw [List.cons_append, List.dropWhile_cons_of_neg (by simp [inside c (by simp)]), ← List.cons_append, right]

theorem trimMatches_enclosed {p : Char → Bool} {opening closing : Char} {text : List Char}
    (isOpening : p opening = true) (isClosing : p closing = true)
    (inside : ∀ c ∈ text, p c = false) : trimMatches p (opening :: text ++ [closing]) = text := by
  have before : ∀ c ∈ [opening], p c = true := by simpa using isOpening
  have after : ∀ c ∈ [closing], p c = true := by simpa using isClosing
  exact trimMatches_padded before after inside

theorem parseUnsigned_digits {largest : Nat} {digits : List Char} (present : digits ≠ [])
    (decimal : ∀ c ∈ digits, c.isDigit = true) (fits : decimalValue digits ≤ largest) :
    parseUnsigned largest digits = some (decimalValue digits) := by
  have unsigned : digits.head? ≠ some '+' := by
    intro plus
    have digit := decimal '+' (List.mem_of_head? plus)
    revert digit
    decide
  rw [parseUnsigned, if_neg unsigned, if_pos ⟨present, List.all_eq_true.mpr decimal⟩]
  exact if_pos fits

theorem trim_last {text : List Char} {c : Char} (last : (trim text).getLast? = some c) : isWhitespace c = false := by
  have nonempty : trim text ≠ [] := by
    intro empty
    rw [empty] at last
    cases last
  have kept : ¬isWhitespace ((trim text).getLast nonempty) = true := List.rdropWhile_last_not _ _ nonempty
  rw [List.getLast?_eq_getLast_of_ne_nil nonempty, Option.some.injEq] at last
  simpa [last] using kept

theorem trimEndMatches_kept {pattern text : List Char} (apart : ¬pattern <:+ text) : trimEndMatches pattern text = text := by
  unfold trimEndMatches
  cases text.length with
  | zero => simp [trimStartMatches]
  | succ count =>
    have differs : pattern.reverse.isPrefixOf text.reverse = false := by
      rw [Bool.eq_false_iff, ne_eq, List.isPrefixOf_iff_prefix, List.reverse_prefix]
      exact apart
    simp [trimStartMatches, differs]

end Text
