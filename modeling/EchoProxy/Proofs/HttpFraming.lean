import EchoProxy.Proofs.HttpParser

/-! The header block line by line: which lines it has, and what the loop keeps of
them. The request itself is that block and as many bytes as its last
Content-Length line says. -/

namespace EchoProxy.Proofs.HttpFraming
open EchoProxy Buffered WireFormat HttpParser

/-! ### Lines -/

/-- The front of a list up to and including the first element that is last. -/
def through {α : Type} (last : α → Bool) : List α → List α
  | [] => []
  | a :: rest => if last a then [a] else a :: through last rest

/-- The lines of the header block: up to and including the first `\r\n`, or all. -/
def headLines (bytes : Bytes) : List Bytes := through (· == [13, 10]) (lines 10 bytes)

/-- What the last line of a name says, if there is one. -/
def lastValue {α β : Type} (named : α → Bool) (value : α → β) (before : β) (all : List α) : β :=
  ((all.filter named).getLast?.map value).getD before

theorem lastValue_cons {α β : Type} (named : α → Bool) (value : α → β) (before : β) (first : α) (rest : List α) :
    lastValue named value before (first :: rest) = lastValue named value (if named first then value first else before) rest := by
  unfold lastValue
  by_cases here : named first = true
  · cases later : rest.filter named with
    | nil => simp [here, later]
    | cons other more => simp [here, later, List.getLast?_cons]
  · simp [here]

/-- The text after the name of a header line, without white space around it. -/
def fieldText (name : String) (line : List Char) : List Char := Text.trim (line.drop name.length)

/-- The line ends `parse_request_header` takes off are white space and already gone. -/
theorem headerValue_eq (name : String) (line : List Char) : headerValue name line = fieldText name line := by
  have newline : (fieldText name line).getLast? ≠ some '\n' := by
    intro ends
    have white := Text.trim_last ends
    revert white
    decide
  have ended : Text.trimEndMatches ['\r', '\n'] (fieldText name line) = fieldText name line := by
    apply Text.trimEndMatches_kept
    intro ends
    obtain ⟨front, split⟩ := ends
    apply newline
    simp [← split]
  change (Text.trimEndMatches ['\r', '\n'] (fieldText name line)).rdropWhile (· == '\n') = fieldText name line
  rw [ended, List.rdropWhile_eq_self_iff]
  intro nonempty same
  apply newline
  rw [List.getLast?_eq_getLast_of_ne_nil nonempty]
  simpa using same

/-- The number a Content-Length line gives; text that is no number counts as 0. -/
def lengthText (line : String) : Nat := (Text.parseUnsigned usizeMax (fieldText "content-length:" line.toList)).getD 0

/-- The destination a Host line gives, on port 80 if it names none. -/
def hostText (line : String) : String :=
  let host := fieldText "host:" line.toList
  String.ofList (if ':' ∈ host then host else host ++ [':', '8', '0'])

def lastContentLength (all : List String) : Nat := lastValue (hasName "content-length:" ·.toList) lengthText 0 all
def lastHost (all : List String) : String := lastValue (hasName "host:" ·.toList) hostText "" all

/-! ### The header loop -/

theorem headerLine_values {block next : HeaderBlock} {line : String} (kept : headerLine block line = some next) :
    next.headers = block.headers ++ line ∧
      next.host = (if hasName "host:" line.toList then hostText line else block.host) ∧
      next.contentLength = (if hasName "content-length:" line.toList then lengthText line else block.contentLength) := by
  rw [headerLine, Option.ite_none_left_eq_some] at kept
  obtain ⟨-, kept⟩ := kept
  rw [Option.ite_none_left_eq_some] at kept
  obtain ⟨-, kept⟩ := kept
  cases kept
  simp only [hostValue, contentLengthValue, headerValue_eq, hostText, lengthText, and_self]

/-- A line that is kept asks for no body beyond the limit. -/
theorem headerLine_length {block next : HeaderBlock} {line : String} (kept : headerLine block line = some next)
    (named : hasName "content-length:" line.toList = true) : lengthText line ≤ maxContentLength := by
  rw [headerLine, Option.ite_none_left_eq_some] at kept
  obtain ⟨-, kept⟩ := kept
  rw [Option.ite_none_left_eq_some] at kept
  obtain ⟨small, -⟩ := kept
  simp only [named, if_true, contentLengthValue, headerValue_eq, true_and, Nat.not_lt] at small
  exact small

theorem asBytes_injective {text other : String} (same : asBytes text = asBytes other) : text = other := by
  have decoded := fromUtf8_asBytes text
  rw [same, fromUtf8_asBytes] at decoded
  exact (Option.some.inj decoded).symm

theorem headLines_lines {bytes after line : Bytes} (first : lines 10 bytes = line :: lines 10 after) :
    headLines bytes = line :: if line = [13, 10] then [] else headLines after := by
  rw [headLines, first, through]
  by_cases blank : line = [13, 10]
  · simp [blank]
  · simp [blank, headLines]

theorem headLines_blank {bytes after : Bytes} (first : lines 10 bytes = asBytes "\r\n" :: lines 10 after) :
    headLines bytes = [asBytes "\r\n"] := headLines_lines first

theorem headLines_line {bytes after : Bytes} {line : String} (first : lines 10 bytes = asBytes line :: lines 10 after)
    (further : line ≠ "\r\n") : headLines bytes = asBytes line :: headLines after := by
  have other : asBytes line ≠ [13, 10] := fun same => further (asBytes_injective same)
  rw [headLines_lines first, if_neg other]

/-- The first line of a header block is the first that is read, unless the end comes before
it does and is an error. -/
theorem headLines_next {bytes first : Bytes} {rest : List Bytes} {fails : Bool} (head : headLines bytes = first :: rest)
    (delivered : fails = true → 10 ∈ bytes) :
    ∃ after, nextLine 10 fails bytes = some (first, after) ∧ rest = if first = [13, 10] then [] else headLines after := by
  have nonempty : bytes ≠ [] := by
    rintro rfl
    cases head
  obtain ⟨line, after, next⟩ := nextLine_reads delivered
  have same := (headLines_lines (nextLine_lines next nonempty)).symm.trans head
  simp only [List.cons.injEq] at same
  obtain ⟨rfl, rfl⟩ := same
  exact ⟨after, next, rfl⟩

/-- The loop takes exactly the lines of the header block and keeps what the last ones
of the two names say. -/
theorem readHeaders_lines {turns : Nat} {block block' : HeaderBlock} {bytes : Bytes} {fails : Bool} {s' : Bytes × Bool}
    (read : readHeaders byteReader turns block (bytes, fails) = some (block', s')) :
    ∃ all : List String, all.map asBytes = headLines bytes ∧
      asBytes block'.headers = asBytes block.headers ++ (headLines bytes).flatten ∧
      block'.host = lastValue (hasName "host:" ·.toList) hostText block.host all ∧
      block'.contentLength = lastValue (hasName "content-length:" ·.toList) lengthText block.contentLength all ∧
      (∀ line ∈ all, hasName "content-length:" line.toList = true → lengthText line ≤ maxContentLength) ∧
      (fails = true → "\r\n" ∈ all) := by
  induction turns generalizing block bytes with
  | zero => cases read
  | succ turns ih =>
    obtain ⟨⟨line, rest, still⟩, taken, loop⟩ := Option.bind_eq_some_iff.mp read
    obtain ⟨-, rfl⟩ := byteReader_line taken
    obtain ⟨⟨found, after⟩, next, valid⟩ := Option.bind_eq_some_iff.mp taken
    obtain ⟨text, decoded, same⟩ := Option.map_eq_some_iff.mp valid
    have printed := asBytes_of_fromUtf8 decoded
    cases same
    subst printed
    dsimp only at loop
    split at loop
    · next empty =>
      subst empty
      cases loop
      have ended : bytes = [] := nextLine_empty next
      subst ended
      refine ⟨[], rfl, (List.append_nil _).symm, rfl, rfl, by simp, ?_⟩
      rintro rfl
      cases next
    · next present =>
      obtain ⟨block₁, kept, later⟩ := Option.bind_eq_some_iff.mp loop
      clear loop
      obtain ⟨headers, host, contentLength⟩ := headerLine_values kept
      have within := headerLine_length kept
      have nonempty : bytes ≠ [] := by
        intro ended
        subst ended
        obtain ⟨split, -⟩ := byteReader_line taken
        apply present
        apply asBytes_injective
        exact (List.append_eq_nil_iff.mp split.symm).1
      have first := nextLine_lines next nonempty
      split at later
      · next last =>
        subst last
        cases later
        have head := headLines_blank first
        refine ⟨["\r\n"], by rw [head]; rfl, ?_, ?_, ?_, by simpa using within, by simp⟩
        · rw [head, headers, asBytes_append]
          simp
        · rw [lastValue_cons, ← host]
          rfl
        · rw [lastValue_cons, ← contentLength]
          rfl
      · next further =>
        obtain ⟨all, lined, text, named, counted, lengths, ended⟩ := ih later
        have head := headLines_line first further
        refine ⟨line :: all, by rw [head, List.map_cons, lined], ?_, ?_, ?_, ?_, fun fails => List.mem_cons_of_mem _ (ended fails)⟩
        · rw [text, headers, asBytes_append, head, List.flatten_cons, List.append_assoc]
        · rw [lastValue_cons, ← host, named]
        · rw [lastValue_cons, ← contentLength, counted]
        · intro other member
          rcases List.mem_cons.mp member with rfl | earlier
          · exact within
          · exact lengths other earlier

/-! ### Blocks that are accepted -/

/-- One line, with its line end. -/
def IsLine (line : String) : Prop := ∃ front, asBytes line = front ++ [10] ∧ 10 ∉ front

/-- A header block with its blank line, within the limits. -/
structure Complete (all : List String) : Prop where
  ended : ∃ front, all = front ++ ["\r\n"] ∧ "\r\n" ∉ front
  lined : ∀ line ∈ all, IsLine line
  fits : (all.map String.utf8ByteSize).sum ≤ maxHeaderBytes
  lengths : ∀ line ∈ all, hasName "content-length:" line.toList = true → lengthText line ≤ maxContentLength

private theorem isLine_lines {line : String} (lined : IsLine line) (rest : Bytes) :
    lines 10 (asBytes line ++ rest) = asBytes line :: lines 10 rest := by
  obtain ⟨front, split, absent⟩ := lined
  rw [split, List.append_assoc]
  exact lines_delimited rest absent

/-- The lines of a block that is complete are its own, whatever comes after it. -/
private theorem headLines_complete {front : List String} (blank : "\r\n" ∉ front) (lined : ∀ line ∈ front, IsLine line) (rest : Bytes) :
    headLines (((front ++ ["\r\n"]).map asBytes).flatten ++ rest) = (front ++ ["\r\n"]).map asBytes := by
  induction front with
  | nil =>
    have blankLine : IsLine "\r\n" := ⟨[13], by decide, by decide⟩
    have first := headLines_blank (isLine_lines blankLine rest)
    simpa using first
  | cons line front ih =>
    simp only [List.mem_cons, not_or] at blank
    simp only [List.cons_append, List.map_cons, List.flatten_cons, List.append_assoc]
    rw [headLines_line (isLine_lines (lined line (by simp)) _) (Ne.symm blank.1),
      ih blank.2 fun other member => lined other (List.mem_cons_of_mem _ member)]

theorem headerLine_kept {block : HeaderBlock} {line : String}
    (fits : block.headers.utf8ByteSize + line.utf8ByteSize ≤ maxHeaderBytes)
    (small : hasName "content-length:" line.toList = true → lengthText line ≤ maxContentLength) :
    ∃ next, headerLine block line = some next ∧ next.headers.utf8ByteSize = block.headers.utf8ByteSize + line.utf8ByteSize := by
  have length : contentLengthValue line.toList = lengthText line := by
    rw [contentLengthValue, headerValue_eq, lengthText]
  have accepted : ∃ next, headerLine block line = some next := by
    rw [headerLine, if_neg (Nat.not_lt.mpr fits)]
    dsimp only
    rw [if_neg]
    · exact ⟨_, rfl⟩
    · rintro ⟨named, large⟩
      rw [if_pos named, length] at large
      exact absurd (small named) (Nat.not_le.mpr large)
  obtain ⟨next, kept⟩ := accepted
  refine ⟨next, kept, ?_⟩
  rw [(headerLine_values kept).1, String.utf8ByteSize_append]

theorem headLines_none {bytes : Bytes} (none : headLines bytes = []) : bytes = [] := by
  by_contra nonempty
  have delivered : false = true → (10 : UInt8) ∈ bytes := by simp
  obtain ⟨line, after, next⟩ := nextLine_reads delivered
  simp [headLines_lines (nextLine_lines next nonempty)] at none

/-- Where the blank line is there, so is its line end. -/
private theorem headLines_delivered {bytes : Bytes} (blank : [13, 10] ∈ headLines bytes) : 10 ∈ bytes := by
  by_contra absent
  have nonempty : bytes ≠ [] := by
    rintro rfl
    cases blank
  rw [headLines, lines_last absent nonempty, through] at blank
  have same : [13, 10] = bytes := by
    split at blank <;> simpa [through] using blank
  simp [← same] at absent

theorem readHeaders_admits {all : List String} {turns : Nat} {block : HeaderBlock} {bytes : Bytes} {fails : Bool}
    (lined : all.map asBytes = headLines bytes) (ended : fails = true → "\r\n" ∈ all)
    (lengths : ∀ line ∈ all, hasName "content-length:" line.toList = true → lengthText line ≤ maxContentLength)
    (fits : block.headers.utf8ByteSize + (all.map String.utf8ByteSize).sum ≤ maxHeaderBytes)
    (enough : (all.map String.utf8ByteSize).sum < turns) :
    ∃ found, readHeaders byteReader turns block (bytes, fails) = some found := by
  induction all generalizing turns block bytes with
  | nil =>
    obtain ⟨turns, rfl⟩ : ∃ fewer, turns = fewer + 1 := ⟨turns - 1, by omega⟩
    have none := headLines_none lined.symm
    have succeeds : fails = false := by simpa using ended
    subst none succeeds
    have nothing : fromUtf8 [] = some "" := fromUtf8_asBytes ""
    exact ⟨(block, [], false), by simp [readHeaders, byteReader, nextLine, nothing]⟩
  | cons line rest ih =>
    obtain ⟨turns, rfl⟩ : ∃ fewer, turns = fewer + 1 := ⟨turns - 1, by omega⟩
    have delivered : fails = true → 10 ∈ bytes := by
      intro fails
      apply headLines_delivered
      rw [← lined]
      exact List.mem_map_of_mem (ended fails)
    obtain ⟨after, next, remaining⟩ := headLines_next lined.symm delivered
    have read : byteReader.readLine (bytes, fails) = some (line, after, fails) := by simp [byteReader, next, fromUtf8_asBytes]
    have present : line ≠ "" := by
      rintro rfl
      have nothing : bytes = [] := nextLine_empty next
      subst nothing
      cases lined
    simp only [List.map_cons, List.sum_cons] at fits enough
    have room : block.headers.utf8ByteSize + line.utf8ByteSize ≤ maxHeaderBytes := by omega
    obtain ⟨block', kept, grown⟩ := headerLine_kept room (lengths line (by simp))
    rw [readHeaders, read, Option.bind_some]
    simp only [present, if_false, kept, Option.bind_some]
    by_cases last : line = "\r\n"
    · exact ⟨_, if_pos last⟩
    · rw [if_neg last]
      have other : asBytes line ≠ [13, 10] := fun same => last (asBytes_injective same)
      rw [if_neg other] at remaining
      have size : 0 < line.utf8ByteSize := Nat.pos_of_ne_zero fun zero => present (String.utf8ByteSize_eq_zero_iff.mp zero)
      refine ih remaining ?_ (fun other member => lengths other (List.mem_cons_of_mem _ member)) (by omega) (by omega)
      intro fails
      simpa [Ne.symm last] using ended fails

/-- A header block within its limit, with its body, and not cut off by an error. -/
structure Readable (bytes : Bytes) (fails : Bool) (all : List String) : Prop where
  lines : all.map asBytes = headLines bytes
  ended : fails = true → "\r\n" ∈ all
  fits : (headLines bytes).flatten.length ≤ maxHeaderBytes
  body : (headLines bytes).flatten.length + lastContentLength all ≤ bytes.length

/-- And no line of it asks for a body beyond the limit. -/
structure Admitted (bytes : Bytes) (fails : Bool) (all : List String) : Prop extends Readable bytes fails all where
  lengths : ∀ line ∈ all, hasName "content-length:" line.toList = true → lengthText line ≤ maxContentLength

private theorem lines_size (all : List String) : (all.map asBytes).flatten.length = (all.map String.utf8ByteSize).sum := by
  rw [List.length_flatten, List.map_map]
  rfl

/-- The requests that are accepted. -/
theorem parse_admitted (bytes : Bytes) (fails : Bool) :
    (∃ request, (parseRequestHeader byteReader (bytes, fails)).map Prod.fst = some request) ↔ ∃ all, Admitted bytes fails all := by
  constructor
  · intro ⟨request, accepted⟩
    obtain ⟨⟨_, rest, left⟩, parsed, same⟩ := Option.map_eq_some_iff.mp accepted
    cases same
    have limits := parse_limits (fun _ _ _ _ read => (byteReader_exact read).2.1) parsed
    have whole := parse_bytes parsed
    obtain ⟨⟨block, after, still⟩, headers, read⟩ := Option.bind_eq_some_iff.mp parsed
    obtain ⟨⟨body, last⟩, taken, same⟩ := Option.map_eq_some_iff.mp read
    cases same
    obtain ⟨all, lined, text, -, counted, lengths, ended⟩ := readHeaders_lines headers
    have front : asBytes block.headers = (headLines bytes).flatten := text
    have asked : body.length = lastContentLength all := (byteReader_exact taken).2.1.trans counted
    refine ⟨all, ⟨lined, ended, front ▸ limits.1, ?_⟩, lengths⟩
    rw [← front, ← asked, whole]
    simp
  · intro ⟨all, admitted⟩
    have size : (all.map String.utf8ByteSize).sum ≤ maxHeaderBytes := by
      rw [← lines_size, admitted.lines]
      exact admitted.fits
    have empty : HeaderBlock.empty.headers.utf8ByteSize = 0 := rfl
    have fits : HeaderBlock.empty.headers.utf8ByteSize + (all.map String.utf8ByteSize).sum ≤ maxHeaderBytes := by
      rw [empty, Nat.zero_add]
      exact size
    obtain ⟨⟨block, rest, left⟩, read⟩ :=
      readHeaders_admits admitted.lines admitted.ended admitted.lengths fits (Nat.lt_succ_of_le size)
    obtain ⟨found, lined, text, -, counted, -⟩ := readHeaders_lines read
    have same : found = all := List.map_injective_iff.mpr @asBytes_injective (lined.trans admitted.lines.symm)
    have front : asBytes block.headers = (headLines bytes).flatten := text
    have split : bytes = asBytes block.headers ++ rest := (readHeaders_bytes read).1
    have enough : block.contentLength ≤ rest.length := by
      have body := admitted.body
      rw [← front, ← same, split, List.length_append] at body
      have asked : block.contentLength = lastContentLength found := counted
      omega
    have taken : byteReader.readExact block.contentLength (rest, left) =
        some (rest.take block.contentLength, rest.drop block.contentLength, left) := if_pos enough
    rw [parseRequestHeader, read, Option.bind_some]
    dsimp only
    rw [taken]
    exact ⟨_, rfl⟩

/-- A complete block is accepted with its body, whatever comes after them. -/
theorem complete_accepted {all : List String} (complete : Complete all) (body more : Bytes)
    (length : body.length = lastContentLength all) (fails : Bool) :
    (∃ request, (parseRequestHeader byteReader ((all.map asBytes).flatten ++ (body ++ more), fails)).map Prod.fst = some request) ∧
      headLines ((all.map asBytes).flatten ++ (body ++ more)) = all.map asBytes := by
  obtain ⟨front, rfl, blank⟩ := complete.ended
  have head := headLines_complete blank (fun line member => complete.lined line (List.mem_append_left _ member)) (body ++ more)
  refine ⟨(parse_admitted _ fails).mpr ⟨front ++ ["\r\n"], ⟨head.symm, by simp, ?_, ?_⟩, complete.lengths⟩, head⟩
  · rw [head, lines_size]
    exact complete.fits
  · rw [head, ← length, List.length_append, List.length_append]
    omega

/-! ### Requests -/

/-- The request is the header block and the body its last Content-Length line asks for,
at the front of the bytes and within the limits. -/
structure Framed (bytes : Bytes) (request : ProxyRequest) (all : List String) : Prop where
  lines : all.map asBytes = headLines bytes
  headers : asBytes request.headers = (headLines bytes).flatten
  headersFit : (asBytes request.headers).length ≤ maxHeaderBytes
  host : request.host = lastHost all
  length : request.body.length = lastContentLength all
  bodyFits : request.body.length ≤ maxContentLength
  front : asBytes request.headers ++ request.body <+: bytes

theorem parse_framed {bytes rest : Bytes} {fails left : Bool} {request : ProxyRequest}
    (parsed : parseRequestHeader byteReader (bytes, fails) = some (request, rest, left)) : ∃ all, Framed bytes request all := by
  have limits := parse_limits (fun _ _ _ _ read => (byteReader_exact read).2.1) parsed
  have split := parse_bytes parsed
  obtain ⟨⟨block, after, still⟩, headers, read⟩ := Option.bind_eq_some_iff.mp parsed
  obtain ⟨⟨body, last⟩, taken, same⟩ := Option.map_eq_some_iff.mp read
  cases same
  obtain ⟨all, lined, text, named, counted, -⟩ := readHeaders_lines headers
  refine ⟨all, lined, text, limits.1, named, ?_, limits.2, ⟨rest, split.symm⟩⟩
  exact (byteReader_exact taken).2.1.trans counted

theorem local_framed {bytes : Bytes} {arrived : Nat → Nat} {fails : Bool} {request : ProxyRequest}
    (parsed : (localRequest ⟨bytes, 0, arrived, fails⟩).map Prod.fst = some request) : ∃ all, Framed bytes request all := by
  rw [localRequest_bytes] at parsed
  obtain ⟨⟨found, rest, left⟩, whole, same⟩ := Option.map_eq_some_iff.mp parsed
  cases same
  exact parse_framed whole

/-- Whatever the pieces the bytes arrive in, the request is framed by its header block. -/
theorem header_framing (bytes : Bytes) (arrived : Nat → Nat) (fails : Bool) (request : ProxyRequest)
    (parsed : (localRequest ⟨bytes, 0, arrived, fails⟩).map Prod.fst = some request) :
    (∃ all, Framed bytes request all) ∧
      ∀ otherwise : Nat → Nat, (localRequest ⟨bytes, 0, otherwise, fails⟩).map Prod.fst = some request := by
  refine ⟨local_framed parsed, fun otherwise => ?_⟩
  rw [localRequest_bytes] at parsed ⊢
  exact parsed

private def postHi : Bytes := asBytes "POST / HTTP/1.1\r\nContent-Length: 7\r\ncontent-length: 2\r\n\r\nhi!"

private def postRequest : ProxyRequest :=
  ⟨"", false, "POST / HTTP/1.1\r\nContent-Length: 7\r\ncontent-length: 2\r\n\r\n", [104, 105]⟩

/-- The last of two lengths counts. -/
theorem post_framing : (∃ all, Framed postHi postRequest all) ∧
    ∀ otherwise : Nat → Nat, (localRequest ⟨postHi, 0, otherwise, false⟩).map Prod.fst = some postRequest := by
  apply header_framing postHi (fun position => position % 5) false postRequest
  rw [localRequest_bytes]
  decide +kernel

end EchoProxy.Proofs.HttpFraming
