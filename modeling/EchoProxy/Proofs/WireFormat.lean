import EchoProxy.Frame
import Mathlib.Tactic.Common

/-! The frame codec loses nothing, and the byte strings it folds together are
exactly the ones with a field the frame type does not carry. -/

namespace EchoProxy.Proofs.WireFormat
open EchoProxy EchoProxy.Frame

theorem fromBeBytes_toBeBytes (id : UInt32) :
    fromBeBytes (UInt8.ofNat (id.toNat / 2 ^ 24)) (UInt8.ofNat (id.toNat / 2 ^ 16))
      (UInt8.ofNat (id.toNat / 2 ^ 8)) (UInt8.ofNat id.toNat) = id := by
  have bound := id.toNat_lt
  apply UInt32.toNat_inj.mp
  simp only [fromBeBytes, UInt8.toNat_ofNat', UInt32.toNat_ofNat']
  omega

@[simp] theorem toBeBytes_fromBeBytes (b₀ b₁ b₂ b₃ : UInt8) :
    toBeBytes (fromBeBytes b₀ b₁ b₂ b₃) = [b₀, b₁, b₂, b₃] := by
  have h₀ := b₀.toNat_lt
  have h₁ := b₁.toNat_lt
  have h₂ := b₂.toNat_lt
  have h₃ := b₃.toNat_lt
  simp only [toBeBytes, fromBeBytes, UInt32.toNat_ofNat', List.cons.injEq, and_true]
  refine ⟨?_, ?_, ?_, ?_⟩
  all_goals
    apply UInt8.toNat_inj.mp
    simp only [UInt8.toNat_ofNat']
    omega

@[simp] theorem fromUtf8_asBytes (text : String) : fromUtf8 (asBytes text) = some text := by
  simp only [fromUtf8, asBytes, String.fromUTF8?, String.fromUTF8, Array.toArray_toList]
  exact dif_pos text.isValidUTF8

theorem asBytes_of_fromUtf8 {bytes : Bytes} {text : String} (valid : fromUtf8 bytes = some text) :
    asBytes text = bytes := by
  simp only [fromUtf8, String.fromUTF8?, String.fromUTF8] at valid
  split at valid
  · cases valid; rfl
  · cases valid

theorem fromUtf8_isSome (bytes : Bytes) :
    (∃ text, fromUtf8 bytes = some text) ↔ ByteArray.IsValidUTF8 ⟨bytes.toArray⟩ := by
  simp only [fromUtf8, String.fromUTF8?]
  split <;> simp_all

theorem decode_header (type : UInt8) (id : StreamId) (rest : Bytes) :
    decode (type :: (toBeBytes id ++ rest)) = decodePayload type id rest := by
  simp only [toBeBytes, List.cons_append, List.nil_append, decode, fromBeBytes_toBeBytes]

/-- Sending a frame and decoding the message on the other side is the identity. -/
@[simp] theorem decode_encode (frame : Frame) : decode frame.encode = .ok frame := by
  cases frame with
  | hello token => rw [encode, decode_header]; simp [decodePayload]
  | openStream id dest => rw [encode, decode_header]; simp [decodePayload, typeHello, typeOpen]
  | openAck id ok =>
    rw [encode, decode_header]
    cases ok <;> simp [decodePayload, typeHello, typeOpen, typeOpenAck]
  | data id bytes =>
    rw [encode, decode_header]
    simp [decodePayload, typeHello, typeOpen, typeOpenAck, typeData]
  | close id =>
    rw [encode, ← List.append_nil (toBeBytes id), decode_header]
    simp [decodePayload, typeHello, typeOpen, typeOpenAck, typeData, typeClose]

theorem encode_injective {frame other : Frame} (same : frame.encode = other.encode) : frame = other := by
  have decoded := decode_encode frame
  rw [same, decode_encode] at decoded
  exact (Except.ok.inj decoded).symm

/-! ### What the decoder accepts -/

def frameType (buf : Bytes) : UInt8 := buf.headD 0
def idBytes (buf : Bytes) : Bytes := (buf.drop 1).take 4
def payload (buf : Bytes) : Bytes := buf.drop 5

/-- The conditions the wire format puts on a message. -/
structure WellFormed (buf : Bytes) : Prop where
  length : 5 ≤ buf.length
  type : frameType buf ∈ [typeHello, typeOpen, typeOpenAck, typeData, typeClose]
  text : frameType buf = typeHello ∨ frameType buf = typeOpen →
    ByteArray.IsValidUTF8 ⟨(payload buf).toArray⟩
  status : frameType buf = typeOpenAck → payload buf ≠ []

/-- Messages that carry something their frame type has no place for. -/
def Noncanonical (buf : Bytes) : Prop :=
  (frameType buf = typeHello ∧ idBytes buf ≠ toBeBytes 0) ∨
  (frameType buf = typeOpenAck ∧ payload buf ≠ [0] ∧ payload buf ≠ [1]) ∨
  (frameType buf = typeClose ∧ payload buf ≠ [])

private theorem five_bytes {buf : Bytes} (long : 5 ≤ buf.length) :
    ∃ type b₀ b₁ b₂ b₃ rest, buf = type :: b₀ :: b₁ :: b₂ :: b₃ :: rest := by
  match buf, long with
  | type :: b₀ :: b₁ :: b₂ :: b₃ :: rest, _ => exact ⟨type, b₀, b₁, b₂, b₃, rest, rfl⟩

theorem decode_short {buf : Bytes} (short : buf.length < 5) : decode buf = .error .tooShort := by
  unfold decode
  split
  · simp only [List.length_cons] at short; omega
  · rfl

theorem decodePayload_accepts (type : UInt8) (id : StreamId) (rest : Bytes) :
    (∃ frame, decodePayload type id rest = .ok frame) ↔
      type ∈ [typeHello, typeOpen, typeOpenAck, typeData, typeClose] ∧
      (type = typeHello ∨ type = typeOpen → ByteArray.IsValidUTF8 ⟨rest.toArray⟩) ∧
      (type = typeOpenAck → rest ≠ []) := by
  rw [← fromUtf8_isSome]
  by_cases hello : type = typeHello
  · subst hello
    cases text : fromUtf8 rest <;> simp [decodePayload, text, typeHello, typeOpenAck]
  by_cases opening : type = typeOpen
  · subst opening
    cases text : fromUtf8 rest <;> simp [decodePayload, text, typeHello, typeOpen, typeOpenAck]
  by_cases acknowledges : type = typeOpenAck
  · subst acknowledges
    cases rest <;> simp [decodePayload, typeHello, typeOpen, typeOpenAck]
  by_cases carries : type = typeData
  · simp [decodePayload, carries, typeHello, typeOpen, typeOpenAck, typeData]
  by_cases closes : type = typeClose
  · simp [decodePayload, closes, typeHello, typeOpen, typeOpenAck, typeData, typeClose]
  · simp [decodePayload, hello, opening, acknowledges, carries, closes]

theorem decode_accepts (buf : Bytes) : (∃ frame, decode buf = .ok frame) ↔ WellFormed buf := by
  by_cases long : 5 ≤ buf.length
  · obtain ⟨type, b₀, b₁, b₂, b₃, rest, rfl⟩ := five_bytes long
    rw [decode, decodePayload_accepts]
    constructor
    · rintro ⟨known, text, status⟩
      exact ⟨long, known, text, status⟩
    · intro valid
      exact ⟨valid.type, valid.text, valid.status⟩
  · rw [decode_short (by omega)]
    constructor
    · rintro ⟨_, impossible⟩
      cases impossible
    · intro valid
      exact absurd valid.length long

/-! ### Re-encoding what was decoded -/

private theorem hello_reencodes {b₀ b₁ b₂ b₃ : UInt8} {rest : Bytes} {frame : Frame}
    (decoded : decode (typeHello :: b₀ :: b₁ :: b₂ :: b₃ :: rest) = .ok frame) :
    frame.encode = typeHello :: (toBeBytes 0 ++ rest) := by
  simp only [decode, decodePayload, if_pos] at decoded
  split at decoded
  next token text => cases decoded; simp [encode, asBytes_of_fromUtf8 text]
  next => cases decoded

private theorem status_byte (status : UInt8) (rest : Bytes) :
    [if (status == 0) = true then (0 : UInt8) else 1] = status :: rest ↔
      status :: rest = [0] ∨ status :: rest = [1] := by
  by_cases zero : status = 0
  · subst zero; cases rest <;> simp
  · simp only [beq_iff_eq, zero, if_false, List.cons.injEq, false_and, false_or]
    exact ⟨fun ⟨one, last⟩ => ⟨one.symm, last.symm⟩, fun ⟨one, last⟩ => ⟨one.symm, last.symm⟩⟩

/-- Decoding and encoding again gives the message back, unless it was not
canonical: then another message of the same frame comes out. -/
theorem encode_of_decode {buf : Bytes} {frame : Frame} (decoded : decode buf = .ok frame) :
    frame.encode = buf ↔ ¬ Noncanonical buf := by
  have valid := (decode_accepts buf).mp ⟨frame, decoded⟩
  obtain ⟨type, b₀, b₁, b₂, b₃, rest, rfl⟩ := five_bytes valid.length
  have known := valid.type
  simp only [frameType, List.headD_cons, List.mem_cons, List.not_mem_nil, or_false] at known
  simp only [Noncanonical, frameType, idBytes, payload, List.headD_cons, List.drop_succ_cons, List.drop_zero,
    List.take_succ_cons, List.take_zero]
  rcases known with rfl | rfl | rfl | rfl | rfl
  · rw [hello_reencodes decoded]
    have zero : toBeBytes 0 = [0, 0, 0, 0] := by decide
    simp only [zero, typeHello, typeOpenAck, typeClose]
    simp [eq_comm]
  · simp only [decode, decodePayload, typeHello, typeOpen] at decoded
    cases text : fromUtf8 rest with
    | none => simp [text] at decoded
    | some dest =>
      simp only [text] at decoded
      cases decoded
      simp [encode, asBytes_of_fromUtf8 text, typeHello, typeOpen, typeOpenAck, typeClose]
  · cases rest with
    | nil => simp [decode, decodePayload, typeHello, typeOpen, typeOpenAck] at decoded
    | cons status rest =>
      simp only [decode, decodePayload, typeHello, typeOpen, typeOpenAck] at decoded
      cases decoded
      have same := status_byte status rest
      simp only [encode, toBeBytes_fromBeBytes, List.cons_append, List.nil_append, List.cons.injEq, true_and,
        typeOpenAck, typeHello, typeClose] at same ⊢
      rw [same]
      simp only [show (2 : UInt8) ≠ 16 by decide, show (2 : UInt8) ≠ 4 by decide, List.cons.injEq, ne_eq,
        false_and, or_false, false_or]
      tauto
  · cases decoded
    simp [encode, typeData, typeHello, typeOpenAck, typeClose]
  · cases decoded
    cases rest <;> simp [encode, typeClose, typeHello, typeOpenAck]

/-- The wire format round trip, both ways. -/
theorem frame_codec_round_trip :
    (∀ frame : Frame, decode frame.encode = .ok frame) ∧
    (∀ buf, (∃ frame, decode buf = .ok frame) ↔ WellFormed buf) ∧
    (∀ buf frame, decode buf = .ok frame →
      (¬ Noncanonical buf → frame.encode = buf) ∧
      (Noncanonical buf → frame.encode ≠ buf ∧ decode frame.encode = .ok frame)) := by
  refine ⟨decode_encode, decode_accepts, ?_⟩
  intro buf frame decoded
  have canonical := encode_of_decode decoded
  exact ⟨canonical.mpr, fun folded => ⟨fun same => canonical.mp same folded, decode_encode frame⟩⟩

end EchoProxy.Proofs.WireFormat
