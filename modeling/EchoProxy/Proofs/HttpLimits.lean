import EchoProxy.Proofs.HttpFraming

/-! The two limits of `parse_request_header`. A Content-Length is tested after it was
parsed as a `usize`, where what does not fit counts as 0. The header block is tested
line by line, after `read_line` has taken the whole line. -/

namespace EchoProxy.Proofs.HttpLimits
open EchoProxy Buffered WireFormat HttpParser HttpFraming

/-! ### Content-Length -/

/-- The line gives a decimal number over the limit, of any number of digits. -/
structure OverLimit (line : String) : Prop where
  named : hasName "content-length:" line.toList = true
  present : fieldText "content-length:" line.toList ≠ []
  decimal : ∀ c ∈ fieldText "content-length:" line.toList, c.isDigit = true
  beyond : maxContentLength < Text.decimalValue (fieldText "content-length:" line.toList)

/-- A header block with such a line is refused. -/
def LengthEnforced (bytes : Bytes) (arrived : Nat → Nat) (fails : Bool) : Prop :=
  ∀ line, asBytes line ∈ headLines bytes → OverLimit line → localRequest ⟨bytes, 0, arrived, fails⟩ = none

/-- The line gives a `usize` over the limit. -/
def Caught (line : String) : Prop :=
  hasName "content-length:" line.toList = true ∧
    ∃ value, Text.parseUnsigned usizeMax (fieldText "content-length:" line.toList) = some value ∧ maxContentLength < value

theorem lengthText_caught (line : String) :
    hasName "content-length:" line.toList = true ∧ maxContentLength < lengthText line ↔ Caught line := by
  unfold lengthText Caught
  cases Text.parseUnsigned usizeMax (fieldText "content-length:" line.toList) <;> simp

theorem OverLimit.caught {line : String} (large : OverLimit line)
    (fits : Text.decimalValue (fieldText "content-length:" line.toList) ≤ usizeMax) : Caught line :=
  ⟨large.named, _, Text.parseUnsigned_digits large.present large.decimal fits, large.beyond⟩

theorem localRequest_none (bytes : Bytes) (arrived : Nat → Nat) (fails : Bool) :
    localRequest ⟨bytes, 0, arrived, fails⟩ = none ↔ ¬∃ all, Admitted bytes fails all := by
  rw [← parse_admitted, ← localRequest_bytes bytes arrived fails]
  cases localRequest ⟨bytes, 0, arrived, fails⟩ <;> simp

theorem mem_lines {all : List String} {bytes : Bytes} (lined : all.map asBytes = headLines bytes) (line : String) :
    asBytes line ∈ headLines bytes ↔ line ∈ all := by
  rw [← lined]
  exact List.mem_map_of_injective @asBytes_injective

/-- A block is refused for a length that is a `usize` over the limit, or for no length. -/
theorem refused_iff (bytes : Bytes) (arrived : Nat → Nat) (fails : Bool) :
    localRequest ⟨bytes, 0, arrived, fails⟩ = none ↔
      (∃ line, asBytes line ∈ headLines bytes ∧ Caught line) ∨ ¬∃ all, Readable bytes fails all := by
  rw [localRequest_none]
  constructor
  · intro refused
    by_contra neither
    rw [not_or, not_not] at neither
    obtain ⟨uncaught, all, readable⟩ := neither
    apply refused
    refine ⟨all, readable, fun line member named => ?_⟩
    by_contra large
    apply uncaught
    exact ⟨line, (mem_lines readable.lines line).mpr member, (lengthText_caught line).mp ⟨named, Nat.lt_of_not_le large⟩⟩
  · rintro (⟨line, member, caught⟩ | unreadable) ⟨all, admitted⟩
    · obtain ⟨named, large⟩ := (lengthText_caught line).mpr caught
      have small := admitted.lengths line ((mem_lines admitted.lines line).mp member) named
      omega
    · exact unreadable ⟨all, admitted.toReadable⟩

/-- The limit on the body holds unless a number over the limit is also too large for a
`usize`, no other line is caught and nothing else is wrong with the block. -/
theorem length_limit (bytes : Bytes) (arrived : Nat → Nat) (fails : Bool) :
    LengthEnforced bytes arrived fails ↔
      (∀ line, asBytes line ∈ headLines bytes → OverLimit line →
          Text.decimalValue (fieldText "content-length:" line.toList) ≤ usizeMax) ∨
        (∃ line, asBytes line ∈ headLines bytes ∧ Caught line) ∨ ¬∃ all, Readable bytes fails all := by
  unfold LengthEnforced
  simp only [refused_iff]
  constructor
  · intro enforced
    by_cases fits : ∀ line, asBytes line ∈ headLines bytes → OverLimit line →
        Text.decimalValue (fieldText "content-length:" line.toList) ≤ usizeMax
    · exact .inl fits
    · push Not at fits
      obtain ⟨line, member, large, -⟩ := fits
      exact .inr (enforced line member large)
  · rintro (fits | refused) line member large
    · exact .inl ⟨line, member, large.caught (fits line member large)⟩
    · exact refused

private def wrapped : Bytes := asBytes "GET / HTTP/1.1\r\nContent-Length: 18446744073709551616\r\n\r\n"

/-- A length of 2^64 is taken for none at all. -/
theorem overflow_accepted : ¬LengthEnforced wrapped (fun _ => 0) false := by
  intro enforced
  have digits : (fieldText "content-length:" "Content-Length: 18446744073709551616\r\n".toList).all Char.isDigit = true := by
    decide +kernel
  have refused := enforced "Content-Length: 18446744073709551616\r\n" (by decide +kernel)
    ⟨by decide +kernel, by decide +kernel, List.all_eq_true.mp digits, by decide +kernel⟩
  have same := localRequest_bytes wrapped (fun _ => 0) false
  rw [refused] at same
  revert same
  decide +kernel

/-! ### Header bytes

What the loop holds is followed from point to point: `headers` when a turn begins,
and with the line after each piece that `read_line` adds to it and after `push_str`. -/

/-- The header loop with what `headers` and `line` hold at its points. After `push_str`
the line is still there and may be counted `again`. -/
def tracedHeaders (again : Bool) : Nat → HeaderBlock → Reader UInt8 → List Nat × Option (HeaderBlock × Reader UInt8)
  | 0, _, _ => ([], none)
  | turns + 1, block, r =>
    let held := block.headers.utf8ByteSize
    let read := r.tracedUntil bufReaderCapacity 10 (r.left.length + 1) []
    let points := held :: read.1.map (held + ·)
    match read.2.bind fun (bytes, r) => (fromUtf8 bytes).map (·, r) with
    | none => (points, none)
    | some (line, r) =>
      if line = "" then (points, some (block, r))
      else
        let whole := held + line.utf8ByteSize
        let pushed := if whole > maxHeaderBytes then [] else [if again then whole + line.utf8ByteSize else whole]
        match headerLine block line with
        | none => (points ++ pushed, none)
        | some block =>
          if line = "\r\n" then (points ++ pushed, some (block, r))
          else
            let more := tracedHeaders again turns block r
            (points ++ pushed ++ more.1, more.2)

theorem tracedLine_result (r : Reader UInt8) :
    ((r.tracedUntil bufReaderCapacity 10 (r.left.length + 1) []).2.bind fun (bytes, r) => (fromUtf8 bytes).map (·, r)) =
      bufReader.readLine r := by
  rw [Reader.tracedUntil_result]
  simp [bufReader]

/-- It is the loop that is followed. -/
theorem tracedHeaders_result (again : Bool) (turns : Nat) (block : HeaderBlock) (r : Reader UInt8) :
    (tracedHeaders again turns block r).2 = readHeaders bufReader turns block r := by
  induction turns generalizing block r with
  | zero => rfl
  | succ turns ih =>
    rw [tracedHeaders, readHeaders]
    dsimp only
    rw [tracedLine_result]
    cases bufReader.readLine r with
    | none => rfl
    | some found =>
      obtain ⟨line, r⟩ := found
      dsimp only [Option.bind_some]
      by_cases empty : line = ""
      · simp [empty]
      · simp only [empty, if_false]
        cases headerLine block line with
        | none => rfl
        | some block =>
          by_cases last : line = "\r\n"
          · simp [last]
          · simp [last, ih]

/-- What the loop holds at its points, from its first turn on. -/
def heldPoints (again : Bool) (bytes : Bytes) (arrived : Nat → Nat) (fails : Bool) : List Nat :=
  (tracedHeaders again (maxHeaderBytes + 1) .empty ⟨⟨bytes, 0, arrived, fails⟩, []⟩).1

/-- The bytes the loop has taken off its reader in the end: all are in `headers` or
in the line. -/
def consumed (bytes : Bytes) (arrived : Nat → Nat) (fails : Bool) : Nat :=
  (heldPoints false bytes arrived fails).getLast?.getD 0

/-- The limit on the block and one buffer of the reader. -/
def heldBound : Nat := maxHeaderBytes + bufReaderCapacity

/-- The header block is bounded while it is read, and a larger one is refused in time. -/
structure Bounded (again : Bool) (bytes : Bytes) (arrived : Nat → Nat) (fails : Bool) : Prop where
  held : ∀ n ∈ heldPoints again bytes arrived fails, n ≤ heldBound
  refused : maxHeaderBytes < (headLines bytes).flatten.length → localRequest ⟨bytes, 0, arrived, fails⟩ = none
  consumed : maxHeaderBytes < (headLines bytes).flatten.length → consumed bytes arrived fails ≤ heldBound

/-- After these lines the loop goes on. -/
def Kept (line : Bytes) : Prop :=
  ∃ text, asBytes text = line ∧ (hasName "content-length:" text.toList = true → lengthText text ≤ maxContentLength)

/-- `read_line` returns the line. -/
def Returned (fails : Bool) (line : Bytes) : Prop := (fails = true → 10 ∈ line) ∧ ∃ text, asBytes text = line

/-- No line that begins within the limit, `held` before the first, ends beyond the bound. -/
def ShortLines (again fails : Bool) (held : Nat) (all : List Bytes) : Prop :=
  ∀ before line after, all = before ++ line :: after → held + before.flatten.length ≤ maxHeaderBytes →
    (∀ earlier ∈ before, Kept earlier) →
      held + before.flatten.length + line.length ≤ heldBound ∧
        (again = true → Returned fails line → held + before.flatten.length + line.length ≤ maxHeaderBytes →
          held + before.flatten.length + line.length + line.length ≤ heldBound)

theorem shortLines_cons {again fails : Bool} {held : Nat} {line : Bytes} {rest : List Bytes} (within : held ≤ maxHeaderBytes) :
    ShortLines again fails held (line :: rest) ↔
      held + line.length ≤ heldBound ∧
        (again = true → Returned fails line → held + line.length ≤ maxHeaderBytes →
          held + line.length + line.length ≤ heldBound) ∧
        (Kept line → held + line.length ≤ maxHeaderBytes → ShortLines again fails (held + line.length) rest) := by
  constructor
  · intro short
    obtain ⟨whole, twice⟩ := short [] line rest rfl within (by simp)
    refine ⟨whole, twice, ?_⟩
    intro kept fits before next after split more earlier
    have later := short (line :: before) next after (by rw [split, List.cons_append])
    simp only [List.flatten_cons, List.length_append, ← Nat.add_assoc, List.forall_mem_cons] at later
    exact later more ⟨kept, earlier⟩
  · intro ⟨whole, twice, later⟩ before next after split fits kept
    cases before with
    | nil =>
      rw [List.nil_append, List.cons.injEq] at split
      obtain ⟨rfl, rfl⟩ := split
      exact ⟨whole, twice⟩
    | cons first before =>
      rw [List.cons_append, List.cons.injEq] at split
      obtain ⟨rfl, rfl⟩ := split
      simp only [List.flatten_cons, List.length_append, ← Nat.add_assoc, List.forall_mem_cons] at fits kept ⊢
      exact later kept.1 (by omega) before next after rfl fits kept.2

theorem headLines_head (bytes : Bytes) : (headLines bytes).head? = (lines 10 bytes).head? := by
  rw [headLines]
  cases lines 10 bytes with
  | nil => rfl
  | cons line rest =>
    rw [through]
    split <;> rfl

/-- While a line is read, what is held grows up to the line, whole or cut off. -/
theorem tracedLine_bounded {held : Nat} (r : Reader UInt8) (within : held ≤ heldBound) :
    (∀ n ∈ held :: (r.tracedUntil bufReaderCapacity 10 (r.left.length + 1) []).1.map (held + ·), n ≤ heldBound) ↔
      ∀ first ∈ (headLines r.left).head?, held + first.length ≤ heldBound := by
  have grows : (∀ n ∈ (r.tracedUntil bufReaderCapacity 10 (r.left.length + 1) []).1, n ≤ heldBound - held) ↔
      ∀ first ∈ (lines 10 r.left).head?, 0 + first.length ≤ heldBound - held :=
    Reader.tracedUntil_lengths capacity_positive (Nat.lt_succ_self _) (heldBound - held) (Nat.zero_le _)
  rw [headLines_head, List.forall_mem_cons, List.forall_mem_map]
  constructor
  · intro ⟨_, points⟩ first found
    have fits := grows.mp (fun n member => Nat.le_sub_of_add_le' (points n member)) first found
    omega
  · intro short
    refine ⟨within, fun n member => ?_⟩
    have fits := grows.mpr (fun first found => (Nat.zero_add _).le.trans (Nat.le_sub_of_add_le' (short first found))) n member
    omega

theorem readLine_some {r r' : Reader UInt8} {line : String} (read : bufReader.readLine r = some (line, r')) :
    nextLine 10 r.source.fails r.left = some (asBytes line, r'.left) ∧ r'.source.fails = r.source.fails := by
  have view := bufReader_views.readLine r
  rw [read] at view
  obtain ⟨⟨found, after⟩, next, valid⟩ := Option.bind_eq_some_iff.mp view.symm
  obtain ⟨text, decoded, same⟩ := Option.map_eq_some_iff.mp valid
  have printed := asBytes_of_fromUtf8 decoded
  simp only [content, Prod.mk.injEq] at same next
  obtain ⟨rfl, rfl, fails⟩ := same
  rw [printed]
  exact ⟨next, fails.symm⟩

/-- A line that is not returned is not text, or it is cut off and the last. -/
theorem readLine_none {r : Reader UInt8} {first : Bytes} {rest : List Bytes} (head : headLines r.left = first :: rest)
    (failed : bufReader.readLine r = none) : ¬Returned r.source.fails first ∧ (Kept first → rest = []) := by
  have view := bufReader_views.readLine r
  rw [failed] at view
  by_cases delivered : r.source.fails = true → 10 ∈ r.left
  · obtain ⟨after, next, -⟩ := headLines_next head delivered
    have invalid : ∀ text, asBytes text ≠ first := by
      rintro text rfl
      simp [byteReader, content, next] at view
    constructor
    · rintro ⟨-, text, printed⟩
      exact invalid text printed
    · rintro ⟨text, printed, -⟩
      exact absurd printed (invalid text)
  · simp only [Classical.not_imp] at delivered
    obtain ⟨fails, absent⟩ := delivered
    have nonempty : r.left ≠ [] := by
      intro empty
      rw [empty] at head
      cases head
    rw [headLines, lines_last absent nonempty, through] at head
    have alone : first = r.left ∧ rest = [] := by
      split at head <;> simpa [through, eq_comm] using head
    obtain ⟨rfl, rfl⟩ := alone
    exact ⟨fun returned => absent (returned.1 fails), fun _ => rfl⟩

theorem shortLines_nil (again fails : Bool) (held : Nat) : ShortLines again fails held [] := by
  intro before line after split
  cases before <;> cases split

theorem within_bound {held : Nat} (within : held ≤ maxHeaderBytes) : held ≤ heldBound := within.trans (Nat.le_add_right _ _)

theorem tracedHeaders_bounded {again : Bool} {turns : Nat} {block : HeaderBlock} {r : Reader UInt8}
    (enough : maxHeaderBytes < turns + block.headers.utf8ByteSize) (within : block.headers.utf8ByteSize ≤ maxHeaderBytes) :
    (∀ n ∈ (tracedHeaders again turns block r).1, n ≤ heldBound) ↔
      ShortLines again r.source.fails block.headers.utf8ByteSize (headLines r.left) := by
  induction turns generalizing block r with
  | zero => omega
  | succ turns ih =>
    have reading := tracedLine_bounded r (within_bound within)
    rw [tracedHeaders]
    dsimp only
    rw [tracedLine_result]
    cases head : headLines r.left with
    | nil =>
      have nothing := headLines_none head
      simp only [head, List.head?_nil, Option.not_mem_none, false_implies, implies_true, iff_true] at reading
      simp only [shortLines_nil, iff_true]
      cases read : bufReader.readLine r with
      | none => exact reading
      | some found =>
        obtain ⟨line, r'⟩ := found
        obtain ⟨next, -⟩ := readLine_some read
        have empty : line = "" := by
          apply asBytes_injective
          have split := nextLine_splits next
          rw [nothing] at split
          exact (List.append_eq_nil_iff.mp split.symm).1
        simpa [empty] using reading
    | cons first rest =>
      rw [shortLines_cons within]
      simp only [head, List.head?_cons, Option.mem_some_iff, forall_eq'] at reading
      cases read : bufReader.readLine r with
      | none =>
        obtain ⟨unreturned, last⟩ := readLine_none head read
        rw [reading]
        refine ⟨fun whole => ⟨whole, fun _ returned => absurd returned unreturned, fun kept _ => ?_⟩, fun short => short.1⟩
        rw [last kept]
        exact shortLines_nil again _ _
      | some found =>
        obtain ⟨line, r'⟩ := found
        obtain ⟨next, fails⟩ := readLine_some read
        have nonempty : r.left ≠ [] := by
          intro empty
          rw [empty] at head
          cases head
        have lined := (headLines_lines (nextLine_lines next nonempty)).symm.trans head
        rw [List.cons.injEq] at lined
        obtain ⟨rfl, rfl⟩ := lined
        have present : line ≠ "" := by
          rintro rfl
          exact nonempty (nextLine_empty next)
        have returned : Returned r.source.fails (asBytes line) := by
          refine ⟨fun failing => ?_, line, rfl⟩
          rw [failing] at next
          exact nextLine_ends next
        simp only [present, if_false, asBytes_length] at reading ⊢
        by_cases large : block.headers.utf8ByteSize + line.utf8ByteSize > maxHeaderBytes
        · have refused : headerLine block line = none := by rw [headerLine, if_pos large]
          simp only [refused, large, if_true, List.append_nil, reading]
          constructor
          · intro whole
            exact ⟨whole, fun _ _ fits => absurd fits (Nat.not_le.mpr large), fun _ fits => absurd fits (Nat.not_le.mpr large)⟩
          · exact And.left
        · have fits := Nat.not_lt.mp large
          have pushed : (if again then block.headers.utf8ByteSize + line.utf8ByteSize + line.utf8ByteSize
                else block.headers.utf8ByteSize + line.utf8ByteSize) ≤ heldBound ↔
              (again = true → Returned r.source.fails (asBytes line) → block.headers.utf8ByteSize + line.utf8ByteSize ≤ maxHeaderBytes →
                block.headers.utf8ByteSize + line.utf8ByteSize + line.utf8ByteSize ≤ heldBound) := by
            cases again with
            | true => simp [returned, fits]
            | false => simp [within_bound fits]
          simp only [large, if_false]
          cases kept : headerLine block line with
          | none =>
            have stops : ¬Kept (asBytes line) := by
              rintro ⟨text, printed, small⟩
              rw [asBytes_injective printed] at small
              obtain ⟨block', goes, -⟩ := headerLine_kept fits small
              rw [kept] at goes
              cases goes
            simp only [List.forall_mem_append, reading, List.forall_mem_singleton, pushed]
            exact ⟨fun points => ⟨points.1, points.2, fun goes => absurd goes stops⟩, fun short => ⟨short.1, short.2.1⟩⟩
          | some block' =>
            have goes : Kept (asBytes line) := ⟨line, rfl, headerLine_length kept⟩
            have grown : block'.headers.utf8ByteSize = block.headers.utf8ByteSize + line.utf8ByteSize := by
              rw [(headerLine_values kept).1, String.utf8ByteSize_append]
            dsimp only
            by_cases last : line = "\r\n"
            · have blank : asBytes line = [13, 10] := last ▸ rfl
              rw [if_pos last, if_pos blank]
              simp only [List.forall_mem_append, reading, List.forall_mem_singleton, pushed]
              exact ⟨fun points => ⟨points.1, points.2, fun _ _ => shortLines_nil again _ _⟩, fun short => ⟨short.1, short.2.1⟩⟩
            · have further : asBytes line ≠ [13, 10] := fun blank => last (asBytes_injective blank)
              have size : line.utf8ByteSize ≠ 0 := mt String.utf8ByteSize_eq_zero_iff.mp present
              have later := ih (r := r') (by omega) (by omega : block'.headers.utf8ByteSize ≤ maxHeaderBytes)
              rw [fails, grown] at later
              rw [if_neg last, if_neg further]
              simp only [List.forall_mem_append, reading, List.forall_mem_singleton, pushed, later, goes, fits, true_implies, and_assoc]

theorem heldPoints_bounded (again : Bool) (bytes : Bytes) (arrived : Nat → Nat) (fails : Bool) :
    (∀ n ∈ heldPoints again bytes arrived fails, n ≤ heldBound) ↔ ShortLines again fails 0 (headLines bytes) :=
  tracedHeaders_bounded (r := ⟨⟨bytes, 0, arrived, fails⟩, []⟩) (Nat.lt_succ_self maxHeaderBytes) (Nat.zero_le _)

theorem ShortLines.once {again fails : Bool} {held : Nat} {all : List Bytes} (short : ShortLines again fails held all) :
    ShortLines false fails held all := by
  intro before line after split fits kept
  exact ⟨(short before line after split fits kept).1, nofun⟩

/-- The header block stays within its limit and a buffer exactly if no line that the
loop comes to ends beyond them. A larger block is always refused. -/
theorem header_bounded (again : Bool) (bytes : Bytes) (arrived : Nat → Nat) (fails : Bool) :
    Bounded again bytes arrived fails ↔ ShortLines again fails 0 (headLines bytes) := by
  rw [← heldPoints_bounded again bytes arrived fails]
  constructor
  · exact Bounded.held
  · intro held
    refine ⟨held, fun large => ?_, fun _ => ?_⟩
    · rw [localRequest_none]
      intro ⟨all, admitted⟩
      exact absurd admitted.fits (Nat.not_le.mpr large)
    · have short := (heldPoints_bounded again bytes arrived fails).mp held
      have points := (heldPoints_bounded false bytes arrived fails).mpr short.once
      rw [consumed]
      cases last : (heldPoints false bytes arrived fails).getLast? with
      | none => exact Nat.zero_le _
      | some n => exact points n (List.mem_of_getLast? last)

/-- Without a line break everything that arrives is held. -/
theorem unbroken_short {bytes : Bytes} (fails : Bool) (unbroken : 10 ∉ bytes) :
    ShortLines false fails 0 (headLines bytes) ↔ bytes.length ≤ heldBound := by
  cases bytes with
  | nil => simp [headLines, lines, through, shortLines_nil]
  | cons first rest =>
    have alone : headLines (first :: rest) = [first :: rest] := by
      rw [headLines, lines_last unbroken (List.cons_ne_nil _ _), through]
      split <;> rfl
    rw [alone, shortLines_cons (Nat.zero_le _)]
    simp [shortLines_nil]

private def unbroken : Bytes := List.replicate (heldBound + 1) 65

/-- One line of 72 KiB and a byte is held whole before its length is tested. -/
theorem unbroken_held : ¬Bounded false unbroken (fun _ => 0) false ∧ ¬Bounded true unbroken (fun _ => 0) false := by
  have endless : 10 ∉ unbroken := by simp [unbroken]
  have long : ¬ShortLines false false 0 (headLines unbroken) := by
    rw [unbroken_short false endless, unbroken, List.length_replicate]
    exact Nat.not_succ_le_self heldBound
  constructor
  · intro bounded
    exact long ((heldPoints_bounded _ _ _ _).mp bounded.held)
  · intro bounded
    exact long ((heldPoints_bounded _ _ _ _).mp bounded.held).once

end EchoProxy.Proofs.HttpLimits
