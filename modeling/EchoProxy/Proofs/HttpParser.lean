import EchoProxy.Http
import EchoProxy.Proofs.WireFormat

/-! What `parse_request_header` returns depends on the bytes of the connection
alone, and it takes exactly the header block and the body off them. -/

namespace EchoProxy.Proofs.HttpParser
open EchoProxy Buffered WireFormat

theorem asBytes_append (text more : String) : asBytes (text ++ more) = asBytes text ++ asBytes more := by
  simp [asBytes, String.toUTF8]

theorem asBytes_length (text : String) : (asBytes text).length = text.utf8ByteSize := rfl

/-! ### Readers that answer alike -/

section view
variable {σ τ : Type} {reader : LineReader σ} {other : LineReader τ} {view : σ → τ}

/-- Two readers answer alike when one is a view of the other. -/
structure Views (reader : LineReader σ) (other : LineReader τ) (view : σ → τ) : Prop where
  readLine : ∀ s, (reader.readLine s).map (fun found => (found.1, view found.2)) = other.readLine (view s)
  readExact : ∀ count s, (reader.readExact count s).map (fun found => (found.1, view found.2)) = other.readExact count (view s)

theorem Views.readHeaders (views : Views reader other view) (turns : Nat) (block : HeaderBlock) (s : σ) :
    (EchoProxy.readHeaders reader turns block s).map (fun found => (found.1, view found.2)) =
      EchoProxy.readHeaders other turns block (view s) := by
  induction turns generalizing block s with
  | zero => rfl
  | succ turns ih =>
    rw [EchoProxy.readHeaders, EchoProxy.readHeaders, ← views.readLine, Option.map_bind, Option.bind_map]
    congr 1
    funext found
    obtain ⟨line, s⟩ := found
    by_cases empty : line = ""
    · simp [empty]
    · simp only [Function.comp_apply, empty, ↓reduceIte, Option.map_bind]
      congr 1
      funext block
      by_cases last : line = "\r\n"
      · simp [last]
      · simpa [last] using ih block s

/-- Then they are parsed to the same request. -/
theorem Views.parseRequestHeader (views : Views reader other view) (s : σ) :
    (EchoProxy.parseRequestHeader reader s).map (fun found => (found.1, view found.2)) =
      EchoProxy.parseRequestHeader other (view s) := by
  rw [EchoProxy.parseRequestHeader, EchoProxy.parseRequestHeader, ← views.readHeaders, Option.map_bind, Option.bind_map]
  congr 1
  funext found
  obtain ⟨block, s⟩ := found
  simp only [Function.comp_apply, ← views.readExact, Option.map_map]
  rfl

end view

/-- Reading plain bytes; the flag says that their end is an error. -/
def byteReader : LineReader (Bytes × Bool) where
  readLine s := (nextLine 10 s.2 s.1).bind fun found => (fromUtf8 found.1).map fun line => (line, found.2, s.2)
  readExact count s := if count ≤ s.1.length then some (s.1.take count, s.1.drop count, s.2) else none

theorem capacity_positive : 0 < bufReaderCapacity := by decide

def content (r : Reader UInt8) : Bytes × Bool := (r.left, r.source.fails)

theorem bufReader_views : Views bufReader byteReader content where
  readLine r := by
    have lines : (r.readUntil bufReaderCapacity 10 (r.left.length + 1)).map (fun found => (found.1, found.2.left)) =
        nextLine 10 r.source.fails r.left := Reader.readUntil_eq capacity_positive (Nat.lt_succ_self _)
    simp only [bufReader, byteReader, content, ← lines, Option.map_bind, Option.bind_map]
    cases read : r.readUntil bufReaderCapacity 10 (r.left.length + 1) with
    | none => rfl
    | some found =>
      have same := (Reader.readUntil_same capacity_positive read).fails
      simp [Function.comp_def, same]
  readExact count r := by
    simp only [bufReader, byteReader, content]
    cases read : r.readExact bufReaderCapacity count count with
    | none =>
      have short := (Reader.readExact_none capacity_positive le_rfl).mp read
      simp [Nat.not_le.mpr short]
    | some found =>
      obtain ⟨bytes, r'⟩ := found
      obtain ⟨split, length, same⟩ := Reader.readExact_some capacity_positive read
      have enough : count ≤ r.left.length := by
        rw [split, List.length_append]
        omega
      simp [split, ← length, same.fails]

/-- What is parsed does not depend on the pieces the bytes arrive in. -/
theorem localRequest_bytes (bytes : Bytes) (arrived : Nat → Nat) (fails : Bool) :
    (localRequest ⟨bytes, 0, arrived, fails⟩).map Prod.fst = (parseRequestHeader byteReader (bytes, fails)).map Prod.fst := by
  have views := bufReader_views.parseRequestHeader ⟨⟨bytes, 0, arrived, fails⟩, []⟩
  have start : content ⟨⟨bytes, 0, arrived, fails⟩, []⟩ = (bytes, fails) := rfl
  rw [start] at views
  rw [← views, localRequest, Option.map_map, Option.map_map]
  rfl

/-! ### What is taken off the bytes -/

theorem headerLine_some {block block' : HeaderBlock} {line : String} (kept : headerLine block line = some block') :
    block'.headers = block.headers ++ line ∧ block'.headers.utf8ByteSize ≤ maxHeaderBytes ∧
      (block.contentLength ≤ maxContentLength → block'.contentLength ≤ maxContentLength) := by
  rw [headerLine, Option.ite_none_left_eq_some] at kept
  obtain ⟨fits, kept⟩ := kept
  rw [Option.ite_none_left_eq_some] at kept
  obtain ⟨small, kept⟩ := kept
  cases kept
  refine ⟨rfl, ?_, ?_⟩
  · rw [String.utf8ByteSize_append]
    omega
  · intro before
    dsimp only
    split
    · next named =>
      simp only [named, ↓reduceIte, true_and] at small
      omega
    · exact before

theorem byteReader_line {bytes rest : Bytes} {fails left : Bool} {line : String}
    (read : byteReader.readLine (bytes, fails) = some (line, rest, left)) : bytes = asBytes line ++ rest ∧ left = fails := by
  obtain ⟨⟨found, after⟩, next, valid⟩ := Option.bind_eq_some_iff.mp read
  obtain ⟨text, decoded, same⟩ := Option.map_eq_some_iff.mp valid
  cases same
  rw [asBytes_of_fromUtf8 decoded]
  exact ⟨nextLine_splits next, rfl⟩

theorem byteReader_exact {bytes rest found : Bytes} {fails left : Bool} {count : Nat}
    (read : byteReader.readExact count (bytes, fails) = some (found, rest, left)) :
    bytes = found ++ rest ∧ found.length = count ∧ left = fails := by
  simp only [byteReader, Option.ite_none_right_eq_some, Option.some.injEq, Prod.mk.injEq] at read
  obtain ⟨enough, rfl, rfl, rfl⟩ := read
  exact ⟨(List.take_append_drop _ _).symm, List.length_take_of_le enough, rfl⟩

theorem byteReader_all (bytes : Bytes) (fails : Bool) :
    byteReader.readExact bytes.length (bytes, fails) = some (bytes, [], fails) := by simp [byteReader]

/-- What every line preserves holds after the header loop. -/
theorem readHeaders_invariant {σ : Type} {reader : LineReader σ} {p : HeaderBlock → σ → Prop} {turns : Nat}
    {block block' : HeaderBlock} {s s' : σ} (read : readHeaders reader turns block s = some (block', s')) (start : p block s)
    (ends : ∀ block s s', p block s → reader.readLine s = some ("", s') → p block s')
    (keeps : ∀ block s line s' next, p block s → reader.readLine s = some (line, s') → headerLine block line = some next →
      p next s') : p block' s' := by
  induction turns generalizing block s with
  | zero => cases read
  | succ turns ih =>
    obtain ⟨⟨line, after⟩, taken, loop⟩ := Option.bind_eq_some_iff.mp read
    dsimp only at loop
    split at loop
    · next empty =>
      cases loop
      exact ends _ _ _ start (empty ▸ taken)
    · obtain ⟨next, kept, loop⟩ := Option.bind_eq_some_iff.mp loop
      have holds := keeps _ _ _ _ _ start taken kept
      split at loop
      · cases loop
        exact holds
      · exact ih loop holds

/-- The header block is the front of what the loop read. -/
theorem readHeaders_bytes {turns : Nat} {block block' : HeaderBlock} {s s' : Bytes × Bool}
    (read : readHeaders byteReader turns block s = some (block', s')) :
    asBytes block.headers ++ s.1 = asBytes block'.headers ++ s'.1 ∧ s'.2 = s.2 := by
  apply readHeaders_invariant (p := fun b t => asBytes block.headers ++ s.1 = asBytes b.headers ++ t.1 ∧ t.2 = s.2) read ⟨rfl, rfl⟩
  · intro b t t' ⟨split, same⟩ taken
    obtain ⟨found, still⟩ := byteReader_line taken
    exact ⟨by simpa [found, asBytes] using split, still.trans same⟩
  · intro b t line t' next ⟨split, same⟩ taken kept
    obtain ⟨found, still⟩ := byteReader_line taken
    refine ⟨?_, still.trans same⟩
    rw [split, found, (headerLine_some kept).1, asBytes_append, List.append_assoc]

/-- A request is the front of the bytes it was read from. -/
theorem parse_bytes {bytes rest : Bytes} {fails left : Bool} {request : ProxyRequest}
    (parsed : parseRequestHeader byteReader (bytes, fails) = some (request, rest, left)) :
    bytes = asBytes request.headers ++ request.body ++ rest := by
  obtain ⟨⟨block, after, still⟩, headers, read⟩ := Option.bind_eq_some_iff.mp parsed
  obtain ⟨⟨body, last⟩, taken, same⟩ := Option.map_eq_some_iff.mp read
  cases same
  obtain ⟨front, -⟩ := readHeaders_bytes headers
  obtain ⟨rfl, -, -⟩ := byteReader_exact taken
  simpa [HeaderBlock.empty, asBytes] using front

/-- No request is admitted beyond the limits. -/
theorem parse_limits {σ : Type} {reader : LineReader σ} {s s' : σ} {request : ProxyRequest}
    (exact : ∀ count s found s', reader.readExact count s = some (found, s') → found.length = count)
    (parsed : parseRequestHeader reader s = some (request, s')) :
    (asBytes request.headers).length ≤ maxHeaderBytes ∧ request.body.length ≤ maxContentLength := by
  obtain ⟨⟨block, after⟩, headers, read⟩ := Option.bind_eq_some_iff.mp parsed
  obtain ⟨⟨body, last⟩, taken, same⟩ := Option.map_eq_some_iff.mp read
  cases same
  rw [exact _ _ _ _ taken, asBytes_length]
  apply readHeaders_invariant
    (p := fun b _ => b.headers.utf8ByteSize ≤ maxHeaderBytes ∧ b.contentLength ≤ maxContentLength) headers
  · exact ⟨Nat.zero_le _, Nat.zero_le _⟩
  · intro b t t' limits _
    exact limits
  · intro b t line t' next ⟨_, body⟩ _ kept
    obtain ⟨-, fits, short⟩ := headerLine_some kept
    exact ⟨fits, short body⟩

/-! ### Complete requests

Reading where the end is an error accepts only what needs nothing further. -/

theorem byteReader_line_extend {bytes rest more : Bytes} {fails left : Bool} {line : String}
    (read : byteReader.readLine (bytes, true) = some (line, rest, left)) :
    byteReader.readLine (bytes ++ more, fails) = some (line, rest ++ more, fails) := by
  obtain ⟨⟨found, after⟩, next, valid⟩ := Option.bind_eq_some_iff.mp read
  obtain ⟨text, decoded, same⟩ := Option.map_eq_some_iff.mp valid
  cases same
  simp only [byteReader, nextLine_extend more next, Option.bind_some, decoded, Option.map_some]

theorem readHeaders_extend {turns : Nat} {block block' : HeaderBlock} {bytes rest : Bytes} {left : Bool}
    (read : readHeaders byteReader turns block (bytes, true) = some (block', rest, left)) (more : Bytes) (fails : Bool) :
    readHeaders byteReader turns block (bytes ++ more, fails) = some (block', rest ++ more, fails) := by
  induction turns generalizing block bytes with
  | zero => cases read
  | succ turns ih =>
    obtain ⟨⟨line, after, still⟩, taken, loop⟩ := Option.bind_eq_some_iff.mp read
    obtain ⟨-, rfl⟩ := byteReader_line taken
    rw [readHeaders, byteReader_line_extend taken, Option.bind_some]
    dsimp only at loop ⊢
    split at loop
    · next empty =>
      cases loop
      rw [if_pos empty]
    · next present =>
      obtain ⟨next, kept, loop⟩ := Option.bind_eq_some_iff.mp loop
      rw [if_neg present, kept, Option.bind_some]
      split at loop
      · next last =>
        cases loop
        rw [if_pos last]
      · next further =>
        rw [if_neg further]
        exact ih loop

/-- A request that is complete by itself is parsed the same before anything else. -/
theorem parse_extend {bytes : Bytes} {left : Bool} {request : ProxyRequest}
    (parsed : parseRequestHeader byteReader (bytes, true) = some (request, [], left)) (more : Bytes) (fails : Bool) :
    parseRequestHeader byteReader (bytes ++ more, fails) = some (request, more, fails) := by
  obtain ⟨⟨block, after, still⟩, headers, read⟩ := Option.bind_eq_some_iff.mp parsed
  obtain ⟨⟨body, last⟩, taken, same⟩ := Option.map_eq_some_iff.mp read
  cases same
  obtain ⟨rfl, length, rfl⟩ := byteReader_exact taken
  rw [parseRequestHeader, readHeaders_extend headers more fails, Option.bind_some]
  simp [byteReader, ← length]

/-! ### Where the parser's reads end -/

/-- What each read asks for, when the header block and the body have these lengths. -/
def asks (header body position : Nat) : Nat :=
  if position < header then bufReaderCapacity else max bufReaderCapacity (header + body - position)

theorem bufReader_line {r r' : Reader UInt8} {line : String} (read : bufReader.readLine r = some (line, r')) :
    ∃ fuel, r.readUntil bufReaderCapacity 10 fuel = some (asBytes line, r') := by
  obtain ⟨⟨bytes, after⟩, taken, valid⟩ := Option.bind_eq_some_iff.mp read
  obtain ⟨text, decoded, same⟩ := Option.map_eq_some_iff.mp valid
  cases same
  exact ⟨_, asBytes_of_fromUtf8 decoded ▸ taken⟩

theorem readHeaders_same {turns : Nat} {block block' : HeaderBlock} {r r' : Reader UInt8}
    (read : readHeaders bufReader turns block r = some (block', r')) : r.Same r' := by
  apply readHeaders_invariant (p := fun _ t => r.Same t) read ⟨rfl, rfl⟩
  · intro b t t' same taken
    obtain ⟨fuel, taken⟩ := bufReader_line taken
    exact same.trans (Reader.readUntil_same capacity_positive taken)
  · intro b t line t' next same taken _
    obtain ⟨fuel, taken⟩ := bufReader_line taken
    exact same.trans (Reader.readUntil_same capacity_positive taken)

theorem readHeaders_visited {turns total body : Nat} {block : HeaderBlock} {r r' : Reader UInt8}
    (read : readHeaders bufReader turns .empty r = some (block, r'))
    (start : r.Visited (asks block.headers.utf8ByteSize body) total 0 0) :
    r'.Visited (asks block.headers.utf8ByteSize body) total block.headers.utf8ByteSize block.headers.utf8ByteSize := by
  generalize size : block.headers.utf8ByteSize = header at start ⊢
  have grows := readHeaders_invariant
    (p := fun b (t : Reader UInt8) => b.headers.utf8ByteSize ≤ header → t.Visited (asks header body) total b.headers.utf8ByteSize header)
    read (fun _ => start.widen (Nat.zero_le _)) ?_ ?_
  · exact size ▸ grows size.le
  · intro b t t' visited taken fits
    obtain ⟨fuel, taken⟩ := bufReader_line taken
    exact (visited fits).readUntil capacity_positive taken fits (fun x low high => by simp [asBytes] at high; omega)
  · intro b t line t' next visited taken kept fits
    obtain ⟨fuel, taken⟩ := bufReader_line taken
    have grown := (headerLine_some kept).1
    rw [grown, String.utf8ByteSize_append] at fits ⊢
    apply (visited (by omega)).readUntil capacity_positive taken fits
    intro x _ high
    rw [asBytes_length] at high
    exact if_pos (by omega)

/-- One of the parser's reads ends where the request does. -/
def EndsWithRead (request : ProxyRequest) (total : Nat) (arrived : Nat → Nat) : Prop :=
  let header := (asBytes request.headers).length
  ∃ n, (readEnd arrived (asks header request.body.length) total)^[n] 0 = header + request.body.length

/-- After a request the buffer is empty exactly if a read ended with the request. -/
theorem parse_surplus {bytes : Bytes} {arrived : Nat → Nat} {fails : Bool} {request : ProxyRequest} {r : Reader UInt8}
    (parsed : parseRequestHeader bufReader ⟨⟨bytes, 0, arrived, fails⟩, []⟩ = some (request, r)) :
    r.buffer = [] ↔ EndsWithRead request bytes.length arrived := by
  obtain ⟨⟨block, after⟩, headers, read⟩ := Option.bind_eq_some_iff.mp parsed
  obtain ⟨⟨body, last⟩, taken, same⟩ := Option.map_eq_some_iff.mp read
  cases same
  obtain ⟨-, length, goes⟩ := Reader.readExact_some capacity_positive taken
  have source := (readHeaders_same headers).trans goes
  have start : Reader.Visited (asks block.headers.utf8ByteSize body.length) bytes.length 0 0 ⟨⟨bytes, 0, arrived, fails⟩, []⟩ :=
    .fresh bytes arrived fails
  have visited := readHeaders_visited headers start
  rw [← length] at taken
  have whole := (visited.widen (Nat.le_add_right _ body.length)).readExact capacity_positive taken le_rfl (fun x low _ => if_neg (by omega))
  rw [whole.buffer_empty, source.arrived]
  rfl

end EchoProxy.Proofs.HttpParser
