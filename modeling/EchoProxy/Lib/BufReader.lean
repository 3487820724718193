import Mathlib.Algebra.Ring.Nat
import Mathlib.Data.List.TakeWhile
import Mathlib.Logic.Function.Iterate

/-! A buffered reader over a source that arrives in pieces. What it returns
depends on the content alone; where its reads end, and so what is left in its
buffer, depends on the pieces. -/

namespace Buffered
variable {α : Type*} {capacity room fuel : Nat}

/-- `rest` is still to be delivered. A read at some position waits until at least
one element is there and returns what `arrived` by then, at most one more than
that; after the last element it returns nothing, or fails. -/
structure Source (α : Type*) where
  rest : List α
  position : Nat
  arrived : Nat → Nat
  fails : Bool

namespace Source

def read (s : Source α) (room : Nat) : Option (List α × Source α) :=
  if s.rest = [] then if s.fails then none else some ([], s)
  else
    let count := min room (s.arrived s.position + 1)
    some (s.rest.take count, { s with rest := s.rest.drop count, position := s.position + min count s.rest.length })

/-- What reading until nothing comes returns, piece by piece. -/
def pieces (room : Nat) : Nat → Source α → List (List α)
  | 0, _ => []
  | fuel + 1, s =>
    match s.read room with
    | none => []
    | some (piece, s) => if piece = [] then [] else piece :: pieces room fuel s

/-- Read that many elements without a buffer; the end before them is an error. -/
def readExact : Nat → Nat → Source α → Option (List α) × Source α
  | _, 0, s => (some [], s)
  | 0, _ + 1, s => (none, s)
  | fuel + 1, count + 1, s =>
    match s.read (count + 1) with
    | none => (none, s)
    | some (piece, s) =>
      if piece = [] then (none, s)
      else
        let more := readExact fuel (count + 1 - piece.length) s
        (more.1.map (piece ++ ·), more.2)

/-- The source after so many elements. -/
def skip (s : Source α) (count : Nat) : Source α := { s with rest := s.rest.drop count, position := s.position + count }

end Source

/-- `capacity` elements are asked for at a time and the surplus is kept. -/
structure Reader (α : Type*) where
  source : Source α
  buffer : List α

namespace Reader

/-- Everything the reader will still return. -/
def left (r : Reader α) : List α := r.buffer ++ r.source.rest

def fill (capacity : Nat) (r : Reader α) : Option (Reader α) :=
  if r.buffer = [] then (r.source.read capacity).map fun found => ⟨found.2, found.1⟩ else some r

/-- Requests that find the buffer empty and are not smaller than it bypass it. -/
def read (capacity room : Nat) (r : Reader α) : Option (List α × Reader α) :=
  if r.buffer = [] ∧ capacity ≤ room then (r.source.read room).map fun found => (found.1, ⟨found.2, []⟩)
  else (r.fill capacity).map fun r => (r.buffer.take room, { r with buffer := r.buffer.drop room })

/-- Read up to the delimiter, which is included, or to the end. -/
def readUntil [DecidableEq α] (capacity : Nat) (delim : α) : Nat → Reader α → Option (List α × Reader α)
  | 0, _ => none
  | fuel + 1, r =>
    (r.fill capacity).bind fun r =>
      match r.buffer.dropWhile (· ≠ delim) with
      | last :: after => some (r.buffer.takeWhile (· ≠ delim) ++ [last], { r with buffer := after })
      | [] =>
        if r.buffer = [] then some ([], r)
        else (readUntil capacity delim fuel { r with buffer := [] }).map fun found => (r.buffer ++ found.1, found.2)

/-- `readUntil`, started with what the line holds already, and with the length of the
line after each piece. -/
def tracedUntil [DecidableEq α] (capacity : Nat) (delim : α) :
    Nat → List α → Reader α → List Nat × Option (List α × Reader α)
  | 0, _, _ => ([], none)
  | fuel + 1, line, r =>
    match r.fill capacity with
    | none => ([], none)
    | some r =>
      match r.buffer.dropWhile (· ≠ delim) with
      | last :: after =>
        let line := line ++ (r.buffer.takeWhile (· ≠ delim) ++ [last])
        ([line.length], some (line, { r with buffer := after }))
      | [] =>
        if r.buffer = [] then ([], some (line, r))
        else
          let line := line ++ r.buffer
          let more := tracedUntil capacity delim fuel line { r with buffer := [] }
          (line.length :: more.1, more.2)

/-- Read that many elements; the end of the source before them is an error. -/
def readExact (capacity : Nat) : Nat → Nat → Reader α → Option (List α × Reader α)
  | _, 0, r => some ([], r)
  | 0, _ + 1, _ => none
  | fuel + 1, count + 1, r =>
    (r.read capacity (count + 1)).bind fun found =>
      if found.1 = [] then none
      else (readExact capacity fuel (count + 1 - found.1.length) found.2).map fun more => (found.1 ++ more.1, more.2)

end Reader

/-! ### One read of the source -/

/-- Everything a read does. -/
structure Source.Gives (s : Source α) (room : Nat) (piece : List α) (s' : Source α) : Prop where
  rest : s.rest = piece ++ s'.rest
  count : piece.length = min (min room (s.arrived s.position + 1)) s.rest.length
  position : s'.position = s.position + piece.length
  arrived : s'.arrived = s.arrived
  fails : s'.fails = s.fails

theorem Source.read_some {s s' : Source α} {piece : List α} (read : s.read room = some (piece, s')) : s.Gives room piece s' := by
  unfold Source.read at read
  split at read
  · next empty =>
    split at read
    · cases read
    · cases read
      exact ⟨by simp [empty], by simp [empty], by simp, rfl, rfl⟩
  · cases read
    exact ⟨(List.take_append_drop _ _).symm, by simp, by simp, rfl, rfl⟩

theorem Source.read_none {s : Source α} : s.read room = none ↔ s.rest = [] ∧ s.fails = true := by
  unfold Source.read
  by_cases empty : s.rest = [] <;> cases fails : s.fails <;> simp [empty]

/-- A read returns nothing only at the end. -/
theorem Source.Gives.ended {s s' : Source α} {piece : List α} (gives : s.Gives room piece s') (positive : 0 < room)
    (empty : piece = []) : s.rest = [] := by
  have count := gives.count
  rw [empty, List.length_nil] at count
  apply List.length_eq_zero_iff.mp
  omega

theorem Source.read_ended {s s' : Source α} {piece : List α} (read : s.read room = some (piece, s')) (empty : s.rest = []) :
    piece = [] ∧ s' = s ∧ s.fails = false := by
  unfold Source.read at read
  rw [if_pos empty] at read
  split at read
  · cases read
  · next fails =>
    cases read
    exact ⟨rfl, rfl, by simpa using fails⟩

/-- The pieces are the whole content, cut. -/
theorem Source.pieces_flatten (s : Source α) (positive : 0 < room) (enough : s.rest.length < fuel) :
    (s.pieces room fuel).flatten = s.rest := by
  induction fuel generalizing s with
  | zero => omega
  | succ fuel ih =>
    rw [pieces]
    cases read : s.read room with
    | none => simp [(read_none.mp read).1]
    | some found =>
      obtain ⟨piece, s'⟩ := found
      have gives := read_some read
      by_cases empty : piece = []
      · simp [empty, gives.ended positive empty]
      · have shorter : s'.rest.length < fuel := by
          have nonempty := List.length_pos_iff.mpr empty
          have lengths := congrArg List.length gives.rest
          rw [List.length_append] at lengths
          omega
        simp only [empty, ↓reduceIte, List.flatten_cons, ih s' shorter, gives.rest]

theorem Source.Gives.skip {s s' : Source α} {piece : List α} (gives : s.Gives room piece s') : s' = s.skip piece.length := by
  obtain ⟨rest, position, arrived, fails⟩ := s'
  have split := gives.rest
  have place := gives.position
  have same := gives.arrived
  have kept := gives.fails
  dsimp only at split place same kept
  subst place same kept
  simp [Source.skip, split]

theorem Source.skip_skip (s : Source α) (first second : Nat) : (s.skip first).skip second = s.skip (first + second) := by
  simp [Source.skip, Nat.add_assoc]

private theorem readExact_zero {s s' : Source α} {found : List α} :
    s.readExact fuel 0 = (some found, s') ↔ found <+: s.rest ∧ found.length = 0 ∧ s' = s.skip 0 := by
  have done : s.readExact fuel 0 = (some [], s) := by cases fuel <;> rfl
  rw [done, Prod.mk.injEq, Option.some.injEq, List.length_eq_zero_iff]
  constructor
  · intro ⟨empty, same⟩
    subst empty same
    exact ⟨List.nil_prefix, rfl, rfl⟩
  · intro ⟨_, empty, same⟩
    exact ⟨empty.symm, same.symm⟩

theorem Source.readExact_some {s s' : Source α} {count : Nat} {found : List α} (enough : count ≤ fuel) :
    s.readExact fuel count = (some found, s') ↔ found <+: s.rest ∧ found.length = count ∧ s' = s.skip count := by
  induction fuel generalizing s count found with
  | zero =>
    cases Nat.le_zero.mp enough
    exact readExact_zero
  | succ fuel ih =>
    cases count with
    | zero =>
      exact readExact_zero
    | succ count =>
      rw [readExact]
      cases read : s.read (count + 1) with
      | none =>
        have ended := (Source.read_none.mp read).1
        simp only [Prod.mk.injEq, reduceCtorEq, false_and, false_iff]
        intro ⟨front, length, _⟩
        rw [ended, List.prefix_nil] at front
        simp [front] at length
      | some answer =>
        obtain ⟨piece, after⟩ := answer
        have gives := Source.read_some read
        dsimp only
        split
        · next empty =>
          have ended := gives.ended (Nat.succ_pos count) empty
          simp only [Prod.mk.injEq, reduceCtorEq, false_and, false_iff]
          intro ⟨front, length, _⟩
          rw [ended, List.prefix_nil] at front
          simp [front] at length
        · next present =>
          have positive := List.length_pos_iff.mpr present
          have bounded := gives.count
          have split := gives.rest
          have moved := gives.skip
          cases later : after.readExact fuel (count + 1 - piece.length) with
          | mk result final =>
            constructor
            · intro whole
              simp only [Prod.mk.injEq, Option.map_eq_some_iff] at whole
              obtain ⟨⟨more, got, joined⟩, same⟩ := whole
              subst joined same got
              obtain ⟨front, length, skipped⟩ := (ih (by omega)).mp later
              refine ⟨?_, ?_, ?_⟩
              · rw [split]
                exact (List.prefix_append_right_inj piece).mpr front
              · rw [List.length_append]
                omega
              · rw [skipped, moved, Source.skip_skip]
                congr 1
                omega
            · intro ⟨front, length, skipped⟩
              have start : piece <+: s.rest := ⟨after.rest, split.symm⟩
              obtain ⟨more, rfl⟩ : piece <+: found := List.prefix_of_prefix_length_le start front (by omega)
              rw [split, List.prefix_append_right_inj] at front
              rw [List.length_append] at length
              have done : after.readExact fuel (count + 1 - piece.length) = (some more, s') := by
                apply (ih (by omega)).mpr
                refine ⟨front, by omega, ?_⟩
                rw [skipped, moved, Source.skip_skip]
                congr 1
                omega
              rw [later, Prod.mk.injEq] at done
              obtain ⟨same, last⟩ := done
              rw [same, last]
              rfl

/-! ### Lines -/

/-- The first line of the content and what follows it. -/
def nextLine [DecidableEq α] (delim : α) (fails : Bool) (content : List α) : Option (List α × List α) :=
  if delim ∈ content then some (content.takeWhile (· ≠ delim) ++ [delim], (content.dropWhile (· ≠ delim)).tail)
  else if fails then none
  else some (content, [])

section nextLine
variable [DecidableEq α] {delim : α} {fails : Bool}

private theorem others {front : List α} (absent : delim ∉ front) : ∀ a ∈ front, decide (a ≠ delim) = true := by
  intro a member
  simp only [decide_eq_true_eq]
  rintro rfl
  exact absent member

theorem dropWhile_undelimited {front : List α} (absent : delim ∉ front) : front.dropWhile (· ≠ delim) = [] :=
  List.dropWhile_eq_nil_iff.mpr (others absent)

theorem takeWhile_delimited {front : List α} (rest : List α) (absent : delim ∉ front) :
    (front ++ delim :: rest).takeWhile (· ≠ delim) = front ∧ (front ++ delim :: rest).dropWhile (· ≠ delim) = delim :: rest := by
  constructor
  · rw [List.takeWhile_append_of_pos (others absent)]
    simp
  · rw [List.dropWhile_append_of_pos (others absent)]
    simp

theorem nextLine_delimited {front : List α} (rest : List α) (absent : delim ∉ front) :
    nextLine delim fails (front ++ delim :: rest) = some (front ++ [delim], rest) := by
  obtain ⟨taken, dropped⟩ := takeWhile_delimited rest absent
  rw [nextLine, if_pos (by simp), taken, dropped]
  rfl

theorem nextLine_last {content : List α} (absent : delim ∉ content) :
    nextLine delim fails content = if fails then none else some (content, []) := by
  simp [nextLine, absent]

/-- A line is read unless the end comes before the delimiter and is an error. -/
theorem nextLine_reads {content : List α} (delivered : fails = true → delim ∈ content) :
    ∃ line rest, nextLine delim fails content = some (line, rest) := by
  by_cases present : delim ∈ content
  · exact ⟨_, _, by rw [nextLine, if_pos present]⟩
  · have ends : fails = false := by simpa [present] using delivered
    exact ⟨content, [], by simp [nextLine_last present, ends]⟩

/-- Content without a delimiter only lengthens the first line. -/
theorem nextLine_append {front : List α} (content : List α) (absent : delim ∉ front) :
    nextLine delim fails (front ++ content) = (nextLine delim fails content).map fun found => (front ++ found.1, found.2) := by
  by_cases present : delim ∈ content
  · obtain ⟨before, rest, rfl, first⟩ := List.eq_append_cons_of_mem present
    have absent : delim ∉ front ++ before := by simp [absent, first]
    rw [nextLine_delimited rest first, ← List.append_assoc, nextLine_delimited rest absent]
    simp
  · rw [nextLine_last present, nextLine_last (by simp [absent, present])]
    cases fails <;> simp

/-- A line that is read where the end is an error stays the same before more content. -/
theorem nextLine_extend {content line rest : List α} (more : List α) (next : nextLine delim true content = some (line, rest)) :
    nextLine delim fails (content ++ more) = some (line, rest ++ more) := by
  by_cases present : delim ∈ content
  · obtain ⟨before, after, rfl, first⟩ := List.eq_append_cons_of_mem present
    rw [nextLine_delimited after first] at next
    cases next
    rw [List.append_assoc, List.cons_append, nextLine_delimited _ first]
  · rw [nextLine_last present] at next
    cases next

theorem nextLine_ends {content line rest : List α} (next : nextLine delim true content = some (line, rest)) : delim ∈ line := by
  by_cases present : delim ∈ content
  · obtain ⟨before, after, rfl, first⟩ := List.eq_append_cons_of_mem present
    rw [nextLine_delimited after first] at next
    cases next
    simp
  · rw [nextLine_last present] at next
    cases next

/-- A line is a prefix of the content, and the rest follows it. -/
theorem nextLine_splits {content line rest : List α} (next : nextLine delim fails content = some (line, rest)) :
    content = line ++ rest := by
  by_cases present : delim ∈ content
  · obtain ⟨before, after, rfl, first⟩ := List.eq_append_cons_of_mem present
    rw [nextLine_delimited after first] at next
    cases next
    simp
  · rw [nextLine_last present] at next
    cases fails <;> simp_all

/-- The lines of the content, each with its delimiter; the last one may lack it. -/
def lines (delim : α) : List α → List (List α)
  | [] => []
  | a :: rest =>
    if a = delim then [a] :: lines delim rest
    else
      match lines delim rest with
      | [] => [[a]]
      | line :: more => (a :: line) :: more

theorem lines_delimited {front : List α} (rest : List α) (absent : delim ∉ front) :
    lines delim (front ++ delim :: rest) = (front ++ [delim]) :: lines delim rest := by
  induction front with
  | nil => simp [lines]
  | cons a front ih =>
    simp only [List.mem_cons, not_or] at absent
    simp [lines, Ne.symm absent.1, ih absent.2]

theorem lines_last {content : List α} (absent : delim ∉ content) (nonempty : content ≠ []) : lines delim content = [content] := by
  induction content with
  | nil => cases nonempty rfl
  | cons a content ih =>
    simp only [List.mem_cons, not_or] at absent
    cases content with
    | nil => simp [lines, Ne.symm absent.1]
    | cons b content =>
      rw [lines, if_neg (Ne.symm absent.1), ih absent.2 (by simp)]

theorem lines_head {front : List α} (content : List α) (nonempty : front ≠ []) (absent : delim ∉ front) :
    (lines delim (front ++ content)).head? = some (front ++ (lines delim content).head?.getD []) := by
  induction front with
  | nil => cases nonempty rfl
  | cons a front ih =>
    simp only [List.mem_cons, not_or] at absent
    rw [List.cons_append, lines, if_neg (Ne.symm absent.1)]
    cases front with
    | nil =>
      rw [List.nil_append]
      cases lines delim content <;> simp
    | cons b front =>
      have first := ih (by simp) absent.2
      cases rest : lines delim (b :: front ++ content) with
      | nil =>
        rw [rest] at first
        cases first
      | cons line more =>
        rw [rest, List.head?_cons, Option.some.injEq] at first
        simp [first]

/-- Reading a line takes the first one off. -/
theorem nextLine_lines {content line rest : List α} (next : nextLine delim fails content = some (line, rest))
    (nonempty : content ≠ []) : lines delim content = line :: lines delim rest := by
  by_cases present : delim ∈ content
  · obtain ⟨before, after, rfl, first⟩ := List.eq_append_cons_of_mem present
    rw [nextLine_delimited after first] at next
    cases next
    exact lines_delimited _ first
  · rw [nextLine_last present] at next
    split at next
    · cases next
    · cases next
      exact lines_last present nonempty

theorem nextLine_empty {content rest : List α} (next : nextLine delim fails content = some ([], rest)) : content = [] := by
  by_cases present : delim ∈ content
  · obtain ⟨before, after, rfl, first⟩ := List.eq_append_cons_of_mem present
    rw [nextLine_delimited after first] at next
    simp at next
  · rw [nextLine_last present] at next
    split at next
    · cases next
    · simp only [Option.some.injEq, Prod.mk.injEq] at next
      exact next.1

end nextLine

/-! ### What the buffered reader returns -/

/-- The same source goes on. -/
structure Reader.Same (r r' : Reader α) : Prop where
  arrived : r'.source.arrived = r.source.arrived
  fails : r'.source.fails = r.source.fails

namespace Reader

theorem Same.trans {first second third : Reader α} (front : Same first second) (back : Same second third) : Same first third :=
  ⟨back.arrived.trans front.arrived, back.fails.trans front.fails⟩

theorem fill_some {r r' : Reader α} (filled : r.fill capacity = some r') (positive : 0 < capacity) :
    r'.left = r.left ∧ Same r r' ∧ (r'.buffer = [] → r' = r ∧ r.left = [] ∧ r.source.fails = false) := by
  unfold fill at filled
  split at filled
  · next empty =>
    obtain ⟨⟨piece, source⟩, read, rfl⟩ := Option.map_eq_some_iff.mp filled
    have gives := Source.read_some read
    refine ⟨by simp [left, empty, gives.rest], ⟨gives.arrived, gives.fails⟩, ?_⟩
    intro none
    have ended := gives.ended positive none
    obtain ⟨-, same, fails⟩ := Source.read_ended read ended
    obtain ⟨old, buffer⟩ := r
    exact ⟨by simp_all, by simp_all [left], fails⟩
  · next present =>
    cases filled
    exact ⟨rfl, ⟨rfl, rfl⟩, fun empty => absurd empty present⟩

theorem fill_none {r : Reader α} (failed : r.fill capacity = none) : r.left = [] ∧ r.source.fails = true := by
  unfold fill at failed
  split at failed
  · next empty =>
    obtain ⟨ended, fails⟩ := Source.read_none.mp (Option.map_eq_none_iff.mp failed)
    exact ⟨by simp [left, empty, ended], fails⟩
  · cases failed

theorem readUntil_eq [DecidableEq α] {delim : α} {r : Reader α} (positive : 0 < capacity) (enough : r.left.length < fuel) :
    (r.readUntil capacity delim fuel).map (fun found => (found.1, found.2.left)) = nextLine delim r.source.fails r.left := by
  induction fuel generalizing r with
  | zero => omega
  | succ fuel ih =>
    rw [readUntil]
    cases filled : r.fill capacity with
    | none =>
      obtain ⟨nothing, fails⟩ := fill_none filled
      simp [nothing, fails, nextLine]
    | some r₁ =>
      obtain ⟨same, source, ended⟩ := fill_some filled positive
      rw [← same, ← source.fails, Option.bind_some]
      by_cases present : delim ∈ r₁.buffer
      · obtain ⟨before, after, buffer, first⟩ := List.eq_append_cons_of_mem present
        obtain ⟨taken, dropped⟩ := takeWhile_delimited after first
        have content : r₁.left = before ++ delim :: (after ++ r₁.source.rest) := by simp [left, buffer]
        rw [content, nextLine_delimited _ first, buffer, dropped, taken]
        simp [left]
      · have dropped := dropWhile_undelimited present
        simp only [dropped]
        split
        · next empty =>
          obtain ⟨rfl, nothing, fails⟩ := ended empty
          simp [nothing, fails, nextLine]
        · next nonempty =>
          have shorter : (⟨r₁.source, []⟩ : Reader α).left.length < fuel := by
            have length := List.length_pos_iff.mpr nonempty
            rw [← same] at enough
            simp only [left, List.length_append, List.nil_append] at enough ⊢
            omega
          have later := ih shorter
          rw [show r₁.left = r₁.buffer ++ (⟨r₁.source, []⟩ : Reader α).left by simp [left], nextLine_append _ present, ← later]
          simp [Function.comp_def]

theorem tracedUntil_result [DecidableEq α] {delim : α} {line : List α} {r : Reader α} :
    (r.tracedUntil capacity delim fuel line).2 =
      (r.readUntil capacity delim fuel).map fun found => (line ++ found.1, found.2) := by
  induction fuel generalizing line r with
  | zero => rfl
  | succ fuel ih =>
    rw [tracedUntil, readUntil]
    cases filled : r.fill capacity with
    | none => rfl
    | some r₁ =>
      rw [Option.bind_some]
      dsimp only
      split
      · rfl
      · by_cases empty : r₁.buffer = []
        · simp [empty]
        · simp [empty, ih, Function.comp_def]

/-- The line grows up to the first line of the content, whatever the pieces. -/
theorem tracedUntil_lengths [DecidableEq α] {delim : α} {line : List α} {r : Reader α} (positive : 0 < capacity)
    (enough : r.left.length < fuel) (bound : Nat) (fits : line.length ≤ bound) :
    (∀ n ∈ (r.tracedUntil capacity delim fuel line).1, n ≤ bound) ↔
      ∀ first ∈ (lines delim r.left).head?, line.length + first.length ≤ bound := by
  induction fuel generalizing line r with
  | zero => omega
  | succ fuel ih =>
    rw [tracedUntil]
    cases filled : r.fill capacity with
    | none => simp [(fill_none filled).1, lines]
    | some r₁ =>
      obtain ⟨same, source, ended⟩ := fill_some filled positive
      rw [← same]
      by_cases present : delim ∈ r₁.buffer
      · obtain ⟨before, after, buffer, first⟩ := List.eq_append_cons_of_mem present
        obtain ⟨taken, dropped⟩ := takeWhile_delimited after first
        have content : r₁.left = before ++ delim :: (after ++ r₁.source.rest) := by simp [left, buffer]
        dsimp only
        rw [content, lines_delimited _ first, buffer, dropped, taken]
        simp
      · have dropped := dropWhile_undelimited present
        dsimp only
        rw [dropped]
        dsimp only
        split
        · next empty =>
          obtain ⟨rfl, nothing, -⟩ := ended empty
          simp [nothing, lines]
        · next nonempty =>
          have length := List.length_pos_iff.mpr nonempty
          have split : r₁.left = r₁.buffer ++ (⟨r₁.source, []⟩ : Reader α).left := by simp [left]
          have shorter : (⟨r₁.source, []⟩ : Reader α).left.length < fuel := by
            rw [← same, split, List.length_append] at enough
            omega
          rw [split, lines_head _ nonempty present]
          simp only [List.forall_mem_cons, Option.mem_some_iff, forall_eq', List.length_append]
          constructor
          · intro ⟨here, later⟩
            have grown := (ih shorter (by simpa using here)).mp later
            cases remaining : (lines delim (⟨r₁.source, []⟩ : Reader α).left).head? with
            | none => simpa using here
            | some first => simpa [Nat.add_assoc] using grown first remaining
          · intro whole
            have here : (line ++ r₁.buffer).length ≤ bound := by
              rw [List.length_append]
              omega
            refine ⟨by simpa using here, (ih shorter here).mpr ?_⟩
            intro first remaining
            rw [Option.mem_def] at remaining
            rw [remaining, Option.getD_some] at whole
            rw [List.length_append]
            omega

theorem readUntil_same [DecidableEq α] {delim : α} {r r' : Reader α} {line : List α} (positive : 0 < capacity)
    (read : r.readUntil capacity delim fuel = some (line, r')) : Same r r' := by
  induction fuel generalizing r line r' with
  | zero => cases read
  | succ fuel ih =>
    rw [readUntil] at read
    obtain ⟨r₁, filled, taken⟩ := Option.bind_eq_some_iff.mp read
    obtain ⟨-, source, -⟩ := fill_some filled positive
    apply source.trans
    split at taken
    · cases taken
      exact ⟨rfl, rfl⟩
    · split at taken
      · cases taken
        exact ⟨rfl, rfl⟩
      · obtain ⟨⟨more, last⟩, later, same⟩ := Option.map_eq_some_iff.mp taken
        cases same
        have rest := ih later
        exact ⟨rest.arrived, rest.fails⟩

theorem read_some {r r' : Reader α} {piece : List α} (taken : r.read capacity room = some (piece, r')) (positive : 0 < capacity)
    (asked : 0 < room) : r.left = piece ++ r'.left ∧ Same r r' ∧ piece.length ≤ room ∧ (piece = [] → r.left = []) := by
  unfold read at taken
  split at taken
  · next direct =>
    obtain ⟨⟨found, source⟩, read, same⟩ := Option.map_eq_some_iff.mp taken
    cases same
    have gives := Source.read_some read
    refine ⟨by simp [left, direct.1, gives.rest], ⟨gives.arrived, gives.fails⟩, ?_, ?_⟩
    · have count : found.length = _ := gives.count
      change found.length ≤ room
      omega
    · intro none
      simp [left, direct.1, gives.ended asked none]
  · obtain ⟨r₁, filled, same⟩ := Option.map_eq_some_iff.mp taken
    obtain ⟨content, source, ended⟩ := fill_some filled positive
    cases same
    refine ⟨?_, ⟨source.arrived, source.fails⟩, List.length_take_le _ _, ?_⟩
    · rw [← content]
      simp only [left, ← List.append_assoc, List.take_append_drop]
    · intro none
      exact (ended (by simpa [asked.ne'] using none)).2.1

theorem read_none {r : Reader α} (failed : r.read capacity room = none) : r.left = [] := by
  unfold read at failed
  split at failed
  · next direct =>
    obtain ⟨ended, -⟩ := Source.read_none.mp (Option.map_eq_none_iff.mp failed)
    simp [left, direct.1, ended]
  · exact (fill_none (Option.map_eq_none_iff.mp failed)).1

theorem readExact_some {r r' : Reader α} {count : Nat} {found : List α} (positive : 0 < capacity)
    (read : r.readExact capacity fuel count = some (found, r')) : r.left = found ++ r'.left ∧ found.length = count ∧ Same r r' := by
  induction fuel generalizing r count found with
  | zero =>
    cases count with
    | zero => cases read; exact ⟨rfl, rfl, rfl, rfl⟩
    | succ count => cases read
  | succ fuel ih =>
    cases count with
    | zero => cases read; exact ⟨rfl, rfl, rfl, rfl⟩
    | succ count =>
      rw [readExact] at read
      obtain ⟨⟨piece, r₁⟩, first, later⟩ := Option.bind_eq_some_iff.mp read
      obtain ⟨content, source, fits, -⟩ := read_some first positive (Nat.succ_pos count)
      split at later
      · cases later
      · obtain ⟨⟨more, last⟩, remaining, same⟩ := Option.map_eq_some_iff.mp later
        cases same
        obtain ⟨rest, length, goes⟩ := ih remaining
        refine ⟨by rw [content, rest, List.append_assoc], ?_, source.trans goes⟩
        rw [List.length_append, length]
        change piece.length + (count + 1 - piece.length) = count + 1
        omega

theorem readExact_none {r : Reader α} {count : Nat} (positive : 0 < capacity) (enough : count ≤ fuel) :
    r.readExact capacity fuel count = none ↔ r.left.length < count := by
  induction fuel generalizing r count with
  | zero =>
    obtain rfl : count = 0 := by omega
    simp [readExact]
  | succ fuel ih =>
    cases count with
    | zero => simp [readExact]
    | succ count =>
      rw [readExact]
      cases first : r.read capacity (count + 1) with
      | none => simp [read_none first]
      | some found =>
        obtain ⟨piece, r₁⟩ := found
        obtain ⟨content, -, fits, ended⟩ := read_some first positive (Nat.succ_pos count)
        by_cases empty : piece = []
        · simp [empty, ended empty]
        · have nonempty := List.length_pos_iff.mpr empty
          simp only [Option.bind_some, empty, ↓reduceIte, Option.map_eq_none_iff]
          rw [ih (by omega), content, List.length_append]
          omega

end Reader

/-! ### Where the reads end

`room` is how much a read asks for at each position. The positions the source is
read to are the iterates of one function, which looks at the pieces only. -/

/-- Where a read at `position` ends. -/
def readEnd (arrived room : Nat → Nat) (total position : Nat) : Nat :=
  position + min (min (room position) (arrived position + 1)) (total - position)

/-- `consumed` elements were returned, and no read began at or after `bound`. -/
structure Reader.Visited (room : Nat → Nat) (total consumed bound : Nat) (r : Reader α) : Prop where
  length : r.source.position + r.source.rest.length = total
  position : r.source.position = consumed + r.buffer.length
  reached : ∃ k, (readEnd r.source.arrived room total)^[k] 0 = r.source.position ∧
    ∀ n < k, (readEnd r.source.arrived room total)^[n] 0 < bound

namespace Reader
variable {ask : Nat → Nat} {total consumed bound : Nat}

theorem Visited.fresh (content : List α) (arrived : Nat → Nat) (fails : Bool) :
    Visited ask content.length 0 0 ⟨⟨content, 0, arrived, fails⟩, []⟩ :=
  ⟨Nat.zero_add _, rfl, 0, rfl, fun _ absurd => (Nat.not_lt_zero _ absurd).elim⟩

theorem Visited.widen {wider : Nat} {r : Reader α} (visited : Visited ask total consumed bound r) (wide : bound ≤ wider) :
    Visited ask total consumed wider r := by
  obtain ⟨k, reaches, before⟩ := visited.reached
  exact ⟨visited.length, visited.position, k, reaches, fun n earlier => (before n earlier).trans_le wide⟩

/-- Returning elements from the buffer moves no read. -/
theorem Visited.consume {r : Reader α} {taken kept : List α} (visited : Visited ask total consumed bound r)
    (buffer : r.buffer = taken ++ kept) : Visited ask total (consumed + taken.length) bound ⟨r.source, kept⟩ := by
  refine ⟨visited.length, ?_, visited.reached⟩
  have position := visited.position
  rw [buffer, List.length_append] at position
  change r.source.position = consumed + taken.length + kept.length
  omega

/-- A read with an empty buffer begins where the last element was returned. -/
theorem Visited.read {r : Reader α} {piece : List α} {source : Source α} (visited : Visited ask total consumed bound r)
    (empty : r.buffer = []) (read : r.source.read room = some (piece, source)) (asks : ask consumed = room)
    (inside : consumed < bound) : Visited ask total consumed bound ⟨source, piece⟩ := by
  have gives := Source.read_some read
  have position : r.source.position = consumed := by simpa [empty] using visited.position
  have length := visited.length
  have split := congrArg List.length gives.rest
  rw [List.length_append] at split
  have moved := gives.position
  refine ⟨?_, by rw [moved, position], ?_⟩
  · change source.position + source.rest.length = total
    omega
  · obtain ⟨k, reaches, before⟩ := visited.reached
    have count := gives.count
    refine ⟨k + 1, ?_, ?_⟩
    · change (readEnd source.arrived ask total)^[k + 1] 0 = source.position
      rw [gives.arrived, Function.iterate_succ_apply', reaches, moved, position, readEnd, asks, count, position]
      congr 2
      omega
    · intro n earlier
      change (readEnd source.arrived ask total)^[n] 0 < bound
      rw [gives.arrived]
      rcases Nat.lt_succ_iff_lt_or_eq.mp earlier with before' | rfl
      · exact before n before'
      · rwa [reaches, position]

theorem Visited.fill {r r₁ : Reader α} (visited : Visited ask total consumed bound r) (filled : r.fill capacity = some r₁)
    (asks : r.buffer = [] → ask consumed = capacity) (inside : consumed < bound) : Visited ask total consumed bound r₁ := by
  unfold Reader.fill at filled
  split at filled
  · next empty =>
    obtain ⟨⟨piece, source⟩, read, rfl⟩ := Option.map_eq_some_iff.mp filled
    exact visited.read empty read (asks empty) inside
  · cases filled
    exact visited

theorem Visited.readUntil [DecidableEq α] {delim : α} {r r' : Reader α} {line : List α}
    (visited : Visited ask total consumed bound r) (positive : 0 < capacity)
    (read : r.readUntil capacity delim fuel = some (line, r')) (inside : consumed + line.length ≤ bound)
    (asks : ∀ x, consumed ≤ x → x < consumed + line.length → ask x = capacity) :
    Visited ask total (consumed + line.length) bound r' := by
  induction fuel generalizing r consumed line with
  | zero => cases read
  | succ fuel ih =>
    rw [Reader.readUntil] at read
    obtain ⟨r₁, filled, taken⟩ := Option.bind_eq_some_iff.mp read
    obtain ⟨-, -, ended⟩ := fill_some filled positive
    have after (longer : 0 < line.length) : Visited ask total consumed bound r₁ :=
      visited.fill filled (fun _ => asks consumed le_rfl (by omega)) (by omega)
    split at taken
    · next last rest dropped =>
      cases taken
      apply (after (by simp)).consume
      rw [List.append_assoc, List.singleton_append, ← dropped, List.takeWhile_append_dropWhile]
    · split at taken
      · next empty =>
        cases taken
        rw [(ended empty).1]
        exact visited
      · next nonempty =>
        obtain ⟨⟨more, last⟩, later, same⟩ := Option.map_eq_some_iff.mp taken
        cases same
        rw [List.length_append] at inside asks after ⊢
        have present := List.length_pos_iff.mpr nonempty
        have moved : Visited ask total (consumed + r₁.buffer.length) bound ⟨r₁.source, []⟩ :=
          (after (by omega)).consume (List.append_nil _).symm
        rw [← Nat.add_assoc] at inside ⊢
        exact ih moved later inside fun x low high => asks x (by omega) (by omega)

theorem Visited.readExact {r r' : Reader α} {count : Nat} {found : List α} (visited : Visited ask total consumed bound r)
    (positive : 0 < capacity) (read : r.readExact capacity fuel count = some (found, r')) (inside : consumed + count ≤ bound)
    (asks : ∀ x, consumed ≤ x → x < consumed + count → ask x = max capacity (consumed + count - x)) :
    Visited ask total (consumed + count) bound r' := by
  induction fuel generalizing r consumed count found with
  | zero =>
    cases count with
    | zero => cases read; exact visited
    | succ count => cases read
  | succ fuel ih =>
    cases count with
    | zero => cases read; exact visited
    | succ count =>
      rw [Reader.readExact] at read
      obtain ⟨⟨piece, r₁⟩, first, later⟩ := Option.bind_eq_some_iff.mp read
      obtain ⟨-, -, fits, -⟩ := read_some first positive (Nat.succ_pos count)
      have here := asks consumed le_rfl (by omega)
      have moved : Visited ask total (consumed + piece.length) bound r₁ := by
        unfold Reader.read at first
        split at first
        · next direct =>
          obtain ⟨⟨given, source⟩, read, same⟩ := Option.map_eq_some_iff.mp first
          cases same
          have began := visited.read direct.1 read (by omega) (by omega)
          exact began.consume (List.append_nil _).symm
        · next through =>
          obtain ⟨r₂, filled, same⟩ := Option.map_eq_some_iff.mp first
          cases same
          have asked : r.buffer = [] → ask consumed = capacity := by
            intro empty
            have short : ¬capacity ≤ count + 1 := fun long => through ⟨empty, long⟩
            omega
          have began := visited.fill filled asked (by omega)
          exact began.consume (List.take_append_drop _ _).symm
      split at later
      · cases later
      · obtain ⟨⟨more, last⟩, remaining, same⟩ := Option.map_eq_some_iff.mp later
        cases same
        have rest : consumed + piece.length + (count + 1 - piece.length) = consumed + (count + 1) := by
          change piece.length ≤ count + 1 at fits
          omega
        have done := ih moved remaining (by simpa only [rest] using inside) fun x low high => by
          simp only [rest] at high ⊢
          exact asks x (by omega) high
        simpa only [rest] using done

/-- The buffer is empty after the last element exactly if a read ended there. -/
theorem Visited.buffer_empty {r : Reader α} (visited : Visited ask total consumed consumed r) :
    r.buffer = [] ↔ ∃ n, (readEnd r.source.arrived ask total)^[n] 0 = consumed := by
  obtain ⟨k, reaches, before⟩ := visited.reached
  have position := visited.position
  constructor
  · intro empty
    exact ⟨k, by rw [reaches, position, empty]; rfl⟩
  · rintro ⟨n, ends⟩
    apply List.length_eq_zero_iff.mp
    rcases Nat.lt_or_ge n k with earlier | later
    · have less := before n earlier
      omega
    · obtain ⟨more, rfl⟩ := Nat.exists_eq_add_of_le later
      have grows : ∀ more, r.source.position ≤ (readEnd r.source.arrived ask total)^[k + more] 0 := by
        intro more
        induction more with
        | zero => exact reaches.ge
        | succ more ih =>
          rw [← Nat.add_assoc, Function.iterate_succ_apply']
          exact ih.trans (Nat.le_add_right _ _)
      have least := grows more
      omega

end Reader
end Buffered
