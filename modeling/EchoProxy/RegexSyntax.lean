import EchoProxy.Geo
import EchoProxy.Lib.Regular

/-! Patterns of the crate `regex`: how they are written, and their usual meaning. What
the crate knows of Unicode, of flags and of its rarer items is left open. -/

namespace EchoProxy
open Regular

inductive PerlClass where
  | digit
  | space
  | word
  deriving DecidableEq

/-- `\d`, `\s`, `\w`; the capital letter is the complement. -/
def PerlClass.letter (negated : Bool) : PerlClass → Char
  | .digit => if negated then 'D' else 'd'
  | .space => if negated then 'S' else 's'
  | .word => if negated then 'W' else 'w'

/-- An item of a bracketed class. -/
inductive ClassItem where
  | char (c : Char)
  | escaped (c : Char)
  | range (first last : Char)
  | perl (kind : PerlClass) (negated : Bool)
  deriving DecidableEq

/-- `boundary` is `\b` or `\B`; `special` is any other item that stands for itself, such
as `.`, `^`, `$`, `\A`, `\x41`, `\p{Greek}` or `[[:alpha:]]`. -/
inductive Token where
  | char (c : Char)
  | escaped (c : Char)
  | perl (kind : PerlClass) (negated : Bool)
  | bracket (negated : Bool) (items : List ClassItem)
  | boundary (negated : Bool)
  | special (text : List Char)
  deriving DecidableEq

/-- `(`, `(?:`, `(?P<name>` or `(?i:`, which a parenthesis closes, or flags such as `(?i)`
for the rest of the group. -/
structure Opener where
  text : List Char
  closes : Bool
  deriving DecidableEq

abbrev Pattern := Expression Token Opener

/-! ### Text -/

def ClassItem.text : ClassItem → List Char
  | .char c => [c]
  | .escaped c => ['\\', c]
  | .range first last => [first, '-', last]
  | .perl kind negated => ['\\', kind.letter negated]

def Token.text : Token → List Char
  | .char c => [c]
  | .escaped c => ['\\', c]
  | .perl kind negated => ['\\', kind.letter negated]
  | .bracket negated items => '[' :: (if negated then ['^'] else []) ++ items.flatMap ClassItem.text ++ [']']
  | .boundary negated => ['\\', if negated then 'B' else 'b']
  | .special text => text

def Opener.sides (o : Opener) : List Char × List Char := (o.text, if o.closes then [')'] else [])

def Pattern.text (pattern : Pattern) : List Char := Expression.text Token.text Opener.sides pattern

/-! ### Meaning -/

/-- The crate, beyond the operators. A mode is a set of flags other than `x`; `plain` is
that of `Regex::new`, `insensitive` that of a case-insensitive build. `sameCase` says
which characters a letter stands for. -/
structure RegexCrate where
  Mode : Type
  plain : Mode
  insensitive : Mode
  sameCase : Mode → Char → Char → Prop
  plain_sameCase : ∀ c d, sameCase plain c d ↔ c = d
  perl : Mode → PerlClass → Char → Prop
  special : Mode → List Char → Option (Leaf Char)
  start : ∀ mode, mode = plain ∨ mode = insensitive → special mode ['^'] = some (.tests fun before _ => before = [])
  finish : ∀ mode, mode = plain ∨ mode = insensitive → special mode ['$'] = some (.tests fun _ after => after = [])
  opens : Mode → Opener → Option Mode

def Signed (negated : Bool) (p : Prop) : Prop := if negated then ¬p else p

def ClassItem.Has (crate : RegexCrate) (mode : crate.Mode) (c : Char) : ClassItem → Prop
  | .char d | .escaped d => c = d
  | .range first last => first ≤ c ∧ c ≤ last
  | .perl kind negated => Signed negated (crate.perl mode kind c)

/-- The text on one side ends at a word character. -/
def AtWord (crate : RegexCrate) (mode : crate.Mode) (side : Option Char) : Prop := ∃ c, side = some c ∧ crate.perl mode .word c

def Token.meaning (crate : RegexCrate) (mode : crate.Mode) : Token → Leaf Char
  | .char c | .escaped c => .takes (crate.sameCase mode c)
  | .perl kind negated => .takes fun d => Signed negated (crate.perl mode kind d)
  -- the class is closed under the case before it is negated
  | .bracket negated items =>
    .takes fun d => Signed negated (∃ c, crate.sameCase mode c d ∧ ∃ item ∈ items, item.Has crate mode c)
  | .boundary negated =>
    .tests fun before after => Signed negated (¬(AtWord crate mode before.getLast? ↔ AtWord crate mode after.head?))
  | .special text => (crate.special mode text).getD (.takes fun _ => False)

def RegexCrate.reading (crate : RegexCrate) : Reading Char Token Opener crate.Mode :=
  ⟨Token.meaning crate, fun mode o => (crate.opens mode o).getD mode⟩

/-! ### What the crate takes -/

def metaCharacters : List Char := ['\\', '.', '+', '*', '?', '(', ')', '|', '[', ']', '{', '}', '^', '$', '#', '&', '-', '~']

/-- Characters that stand for themselves in a bracketed class. -/
def ClassItem.plainChar (c : Char) : Bool := c ∉ ['\\', '[', ']', '^', '-', '&', '~']

def ClassItem.valid : ClassItem → Bool
  | .char c => plainChar c
  | .escaped c => c ∈ metaCharacters
  | .range first last => plainChar first && plainChar last && first ≤ last
  | .perl .. => true

def Token.Valid (crate : RegexCrate) (mode : crate.Mode) : Token → Prop
  | .char c => c ∉ ['\\', '.', '+', '*', '?', '(', ')', '|', '[', '{', '^', '$']
  | .escaped c => c ∈ metaCharacters
  | .bracket _ items => items ≠ [] ∧ ∀ item ∈ items, item.valid = true
  | .special text => (crate.special mode text).isSome = true
  | .perl .. | .boundary _ => True

/-- What an operator of repetition applies to without parentheses. -/
def Pattern.isSingle : Pattern → Bool
  | .leaf _ => true
  | .scope o _ => o.closes
  | _ => false

/-- What stands in a concatenation without parentheses. -/
def Pattern.isTerm : Pattern → Bool
  | .alt .. => false
  | .scope o _ => o.closes
  | _ => true

def Pattern.isBranch : Pattern → Bool
  | .scope o _ => o.closes
  | _ => true

def repeatValid : Repeat → Bool
  | .between least most => least ≤ most
  | _ => true

/-- The pattern is written as it is meant, and the crate knows its items. -/
def Pattern.Valid (crate : RegexCrate) : crate.Mode → Pattern → Prop
  | _, .empty => True
  | mode, .leaf token => token.Valid crate mode
  | mode, .cat first second =>
    Pattern.isTerm first = true ∧ Pattern.isTerm second = true ∧ Pattern.Valid crate mode first ∧ Pattern.Valid crate mode second
  | mode, .alt left right =>
    Pattern.isBranch left = true ∧ Pattern.isBranch right = true ∧ Pattern.Valid crate mode left ∧ Pattern.Valid crate mode right
  | mode, .rep body op _ => Pattern.isSingle body = true ∧ repeatValid op = true ∧ Pattern.Valid crate mode body
  | mode, .scope o body => ∃ inner, crate.opens mode o = some inner ∧ Pattern.Valid crate inner body

/-- `Regex::new` takes the pattern and searches for what it means. -/
def Usual (crate : RegexCrate) (compile : List Char → Except String Regex) (pattern : Pattern) : Prop :=
  pattern.Valid crate crate.plain →
    ∃ re, compile pattern.text = .ok re ∧ ∀ host, re.isMatch host = true ↔ Search crate.reading crate.plain pattern host

/-! ### Lowercased -/

/-- `char::to_lowercase`, where it is a single character. -/
def Lowercase.char (lower : Lowercase) (c : Char) : Char := (lower.apply [c]).headD c

def ClassItem.lowered (change : Char → Char) : ClassItem → ClassItem
  | .char c => .char (change c)
  | .escaped c => .escaped (change c)
  | .range first last => .range (change first) (change last)
  | .perl kind _ => .perl kind false

/-- What the lowercased text of a token is read as. -/
def Token.lowered (change : Char → Char) : Token → Token
  | .char c => .char (change c)
  | .escaped c => .escaped (change c)
  | .perl kind _ => .perl kind false
  | .bracket negated items => .bracket negated (items.map (ClassItem.lowered change))
  | .boundary _ => .boundary false
  | .special text => .special (text.map change)

def Opener.lowered (change : Char → Char) (o : Opener) : Opener := { o with text := o.text.map change }

def Pattern.lowered (change : Char → Char) (pattern : Pattern) : Pattern :=
  Expression.map (Token.lowered change) (Opener.lowered change) pattern

end EchoProxy
