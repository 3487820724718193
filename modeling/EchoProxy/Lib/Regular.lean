import Mathlib.Data.List.Basic

/-! Regular expressions that also test the text around a match, with scopes that change
how what they enclose is read. When the leaves of an expression are replaced by others
of the same meaning on a text, the same parts of the text match. -/

namespace Regular
variable {α τ ω μ : Type}

/-- A leaf takes one character, or takes none and tests what is on both sides. -/
inductive Leaf (α : Type) where
  | takes (accepts : α → Prop)
  | tests (holds : List α → List α → Prop)

inductive Repeat where
  | star
  | plus
  | optional
  | times (n : Nat)
  | atLeast (n : Nat)
  | between (least most : Nat)
  deriving DecidableEq

inductive Expression (τ ω : Type) where
  | empty
  | leaf (token : τ)
  | cat (first second : Expression τ ω)
  | alt (left right : Expression τ ω)
  | rep (body : Expression τ ω) (op : Repeat) (reluctant : Bool)
  | scope (opener : ω) (body : Expression τ ω)

/-- What the tokens mean in a mode, and which mode a scope opens. -/
structure Reading (α τ ω μ : Type) where
  meaning : μ → τ → Leaf α
  enter : μ → ω → μ

/-! ### Matches -/

/-- The part `mid` of the text `before ++ mid ++ after` matches. -/
def Leaf.Matches : Leaf α → List α → List α → List α → Prop
  | .takes accepts, _, mid, _ => ∃ c, mid = [c] ∧ accepts c
  | .tests holds, before, mid, after => mid = [] ∧ holds before after

def Repeat.Allows : Repeat → Nat → Prop
  | .star, _ => True
  | .plus, n => 1 ≤ n
  | .optional, n => n ≤ 1
  | .times k, n => n = k
  | .atLeast k, n => k ≤ n
  | .between least most, n => least ≤ n ∧ n ≤ most

/-- As many matches as given, one after the other. -/
def Times (once : List α → List α → List α → Prop) : Nat → List α → List α → List α → Prop
  | 0, _, mid, _ => mid = []
  | n + 1, before, mid, after => ∃ x y, mid = x ++ y ∧ once before x (y ++ after) ∧ Times once n (before ++ x) y after

def Expression.Matches (reading : Reading α τ ω μ) : μ → Expression τ ω → List α → List α → List α → Prop
  | _, .empty, _, mid, _ => mid = []
  | mode, .leaf token, before, mid, after => (reading.meaning mode token).Matches before mid after
  | mode, .cat first second, before, mid, after =>
    ∃ x y, mid = x ++ y ∧ Expression.Matches reading mode first before x (y ++ after) ∧
      Expression.Matches reading mode second (before ++ x) y after
  | mode, .alt left right, before, mid, after =>
    Expression.Matches reading mode left before mid after ∨ Expression.Matches reading mode right before mid after
  | mode, .rep body op _, before, mid, after =>
    ∃ n, op.Allows n ∧ Times (Expression.Matches reading mode body) n before mid after
  | mode, .scope opener body, before, mid, after => Expression.Matches reading (reading.enter mode opener) body before mid after

/-- Some part of the text matches. -/
def Search (reading : Reading α τ ω μ) (mode : μ) (tree : Expression τ ω) (text : List α) : Prop :=
  ∃ before mid after, text = before ++ (mid ++ after) ∧ tree.Matches reading mode before mid after

/-! ### Leaves replaced -/

def Expression.map (token : τ → τ) (opener : ω → ω) : Expression τ ω → Expression τ ω
  | .empty => .empty
  | .leaf t => .leaf (token t)
  | .cat first second => .cat (first.map token opener) (second.map token opener)
  | .alt left right => .alt (left.map token opener) (right.map token opener)
  | .rep body op reluctant => .rep (body.map token opener) op reluctant
  | .scope o body => .scope (opener o) (body.map token opener)

/-- The leaves do the same everywhere in the text. -/
def Leaf.Same (subject : List α) : Leaf α → Leaf α → Prop
  | .takes accepts, .takes accepts' => ∀ c ∈ subject, accepts c ↔ accepts' c
  | .tests holds, .tests holds' => ∀ before after, before ++ after = subject → (holds before after ↔ holds' before after)
  | _, _ => False

/-- Every leaf of the tree, read in the first mode, does in the text what its
replacement does in the second. -/
def Expression.Kept (reading : Reading α τ ω μ) (token : τ → τ) (opener : ω → ω) (subject : List α) :
    μ → μ → Expression τ ω → Prop
  | _, _, .empty => True
  | mode, mode', .leaf t => Leaf.Same subject (reading.meaning mode t) (reading.meaning mode' (token t))
  | mode, mode', .cat first second =>
    Expression.Kept reading token opener subject mode mode' first ∧ Expression.Kept reading token opener subject mode mode' second
  | mode, mode', .alt left right =>
    Expression.Kept reading token opener subject mode mode' left ∧ Expression.Kept reading token opener subject mode mode' right
  | mode, mode', .rep body _ _ => Expression.Kept reading token opener subject mode mode' body
  | mode, mode', .scope o body =>
    Expression.Kept reading token opener subject (reading.enter mode o) (reading.enter mode' (opener o)) body

variable {reading : Reading α τ ω μ} {token : τ → τ} {opener : ω → ω} {subject : List α}

theorem Leaf.Same.matches_iff {leaf leaf' : Leaf α} (same : Leaf.Same subject leaf leaf') {before mid after : List α}
    (split : subject = before ++ (mid ++ after)) : leaf.Matches before mid after ↔ leaf'.Matches before mid after := by
  cases leaf with
  | takes accepts =>
    cases leaf' with
    | takes accepts' =>
      apply exists_congr
      intro c
      apply and_congr_right
      intro single
      apply same
      simp [split, single]
    | tests => exact same.elim
  | tests holds =>
    cases leaf' with
    | takes => exact same.elim
    | tests holds' =>
      apply and_congr_right
      intro nothing
      apply same
      simp [split, nothing]

theorem Times.congr {once once' : List α → List α → List α → Prop}
    (same : ∀ before mid after, subject = before ++ (mid ++ after) → (once before mid after ↔ once' before mid after)) (n : Nat)
    {before mid after : List α} (split : subject = before ++ (mid ++ after)) :
    Times once n before mid after ↔ Times once' n before mid after := by
  induction n generalizing before mid with
  | zero => exact Iff.rfl
  | succ n ih =>
    apply exists_congr
    intro x
    apply exists_congr
    intro y
    apply and_congr_right
    intro parts
    rw [same before x (y ++ after) (by simp [split, parts]), ih (by simp [split, parts])]

theorem Expression.Kept.matches_iff {tree : Expression τ ω} {mode mode' : μ}
    (kept : tree.Kept reading token opener subject mode mode') {before mid after : List α}
    (split : subject = before ++ (mid ++ after)) :
    tree.Matches reading mode before mid after ↔ (tree.map token opener).Matches reading mode' before mid after := by
  induction tree generalizing mode mode' before mid after with
  | empty => exact Iff.rfl
  | leaf t => exact Leaf.Same.matches_iff kept split
  | cat first second ihFirst ihSecond =>
    apply exists_congr
    intro x
    apply exists_congr
    intro y
    apply and_congr_right
    intro parts
    rw [ihFirst kept.1 (by simp [split, parts]), ihSecond kept.2 (by simp [split, parts])]
  | alt left right ihLeft ihRight => exact or_congr (ihLeft kept.1 split) (ihRight kept.2 split)
  | rep body op reluctant ih =>
    apply exists_congr
    intro n
    apply and_congr_right
    intro _
    exact Times.congr (fun _ _ _ parts => ih kept parts) n split
  | scope o body ih => exact ih kept split

/-- Replacing the leaves by others of the same meaning keeps what is found. -/
theorem Expression.Kept.search_iff {tree : Expression τ ω} {mode mode' : μ}
    (kept : tree.Kept reading token opener subject mode mode') :
    Search reading mode tree subject ↔ Search reading mode' (tree.map token opener) subject := by
  constructor
  · intro ⟨before, mid, after, split, found⟩
    exact ⟨before, mid, after, split, (kept.matches_iff split).mp found⟩
  · intro ⟨before, mid, after, split, found⟩
    exact ⟨before, mid, after, split, (kept.matches_iff split).mpr found⟩

/-! ### One character -/

/-- A token between two others. -/
def Expression.between (start t finish : τ) : Expression τ ω := .cat (.leaf start) (.cat (.leaf t) (.leaf finish))

/-- Between a test for the start and one for the end of the text a token has to take
all of it. -/
theorem search_between {mode : μ} {start t finish : τ} {accepts : α → Prop}
    (first : reading.meaning mode start = .tests fun before _ => before = [])
    (last : reading.meaning mode finish = .tests fun _ after => after = []) (one : reading.meaning mode t = .takes accepts) :
    Search reading mode (.between start t finish) subject ↔ ∃ c, subject = [c] ∧ accepts c := by
  constructor
  · intro ⟨before, mid, after, split, x, y, parts, opens, u, v, parts', took, closes⟩
    rw [Expression.Matches, first] at opens
    rw [Expression.Matches, one] at took
    rw [Expression.Matches, last] at closes
    obtain ⟨rfl, rfl⟩ := opens
    obtain ⟨d, rfl, accepted⟩ := took
    obtain ⟨rfl, rfl⟩ := closes
    exact ⟨d, by simp [split, parts, parts'], accepted⟩
  · intro ⟨c, only, accepted⟩
    refine ⟨[], [c], [], only, [], [c], rfl, ?_, [c], [], rfl, ?_, ?_⟩
    · rw [Expression.Matches, first]
      exact ⟨rfl, rfl⟩
    · rw [Expression.Matches, one]
      exact ⟨c, rfl, accepted⟩
    · rw [Expression.Matches, last]
      exact ⟨rfl, rfl⟩

/-! ### Text -/

def Repeat.text : Repeat → List Char
  | .star => ['*']
  | .plus => ['+']
  | .optional => ['?']
  | .times n => '{' :: Nat.toDigits 10 n ++ ['}']
  | .atLeast n => '{' :: Nat.toDigits 10 n ++ [',', '}']
  | .between least most => '{' :: Nat.toDigits 10 least ++ ',' :: Nat.toDigits 10 most ++ ['}']

/-- How an expression is written, given how tokens are and what stands on the two sides
of a scope. -/
def Expression.text (token : τ → List Char) (sides : ω → List Char × List Char) : Expression τ ω → List Char
  | .empty => []
  | .leaf t => token t
  | .cat first second => first.text token sides ++ second.text token sides
  | .alt left right => left.text token sides ++ '|' :: right.text token sides
  | .rep body op reluctant => body.text token sides ++ op.text ++ if reluctant then ['?'] else []
  | .scope o body => (sides o).1 ++ body.text token sides ++ (sides o).2

variable {change : Char → Char} {written : τ → List Char} {sides : ω → List Char × List Char}

theorem Repeat.text_map (fixes : ∀ c, c ∈ ['|', '*', '+', '?', '{', '}', ','] ∨ c.isDigit = true → change c = c) (op : Repeat) :
    op.text.map change = op.text := by
  have digits (n : Nat) : (Nat.toDigits 10 n).map change = Nat.toDigits 10 n := by
    apply (List.map_congr_left _).trans (List.map_id _)
    intro c member
    exact fixes c (.inr (Nat.isDigit_of_mem_toDigits (by decide) (by decide) member))
  cases op <;> simp [Repeat.text, digits, fixes]

/-- A change of the characters that the operators survive changes tokens and scopes. -/
theorem Expression.text_map (fixes : ∀ c, c ∈ ['|', '*', '+', '?', '{', '}', ','] ∨ c.isDigit = true → change c = c)
    (tokens : ∀ t, written (token t) = (written t).map change)
    (scopes : ∀ o, sides (opener o) = ((sides o).1.map change, (sides o).2.map change)) (tree : Expression τ ω) :
    (tree.map token opener).text written sides = (tree.text written sides).map change := by
  induction tree with
  | empty => rfl
  | leaf t => exact tokens t
  | cat first second ihFirst ihSecond => simp [Expression.map, Expression.text, ihFirst, ihSecond]
  | alt left right ihLeft ihRight => simp [Expression.map, Expression.text, ihLeft, ihRight, fixes]
  | rep body op reluctant ih => cases reluctant <;> simp [Expression.map, Expression.text, ih, Repeat.text_map fixes, fixes]
  | scope o body ih => simp [Expression.map, Expression.text, ih, scopes]

end Regular
