import Mathlib.Algebra.Ring.Nat
import Mathlib.Data.List.Basic

/-! The mux wire format of `core-lib/src/frame.rs`: one frame is one binary
WebSocket message, a type byte, a big-endian stream id and a payload. -/

namespace EchoProxy

abbrev Bytes := List UInt8
abbrev StreamId := UInt32

/-- Stream id 0 is reserved for HELLO. -/
inductive Frame where
  | hello (token : String)
  | openStream (id : StreamId) (dest : String)
  | openAck (id : StreamId) (ok : Bool)
  | data (id : StreamId) (bytes : Bytes)
  | close (id : StreamId)
  deriving DecidableEq, Repr

inductive FrameError where
  | tooShort
  | unknownType (type : UInt8)
  | invalidUtf8
  deriving DecidableEq, Repr

def typeOpen : UInt8 := 0x01
def typeOpenAck : UInt8 := 0x02
def typeData : UInt8 := 0x03
def typeClose : UInt8 := 0x04
def typeHello : UInt8 := 0x10

/-- `u32::to_be_bytes`. -/
def toBeBytes (id : UInt32) : Bytes :=
  [UInt8.ofNat (id.toNat / 2 ^ 24), UInt8.ofNat (id.toNat / 2 ^ 16),
    UInt8.ofNat (id.toNat / 2 ^ 8), UInt8.ofNat id.toNat]

/-- `u32::from_be_bytes`. -/
def fromBeBytes (b₀ b₁ b₂ b₃ : UInt8) : UInt32 :=
  UInt32.ofNat (b₀.toNat * 2 ^ 24 + b₁.toNat * 2 ^ 16 + b₂.toNat * 2 ^ 8 + b₃.toNat)

/-- `str::as_bytes`. -/
def asBytes (text : String) : Bytes := text.toUTF8.data.toList

/-- `std::str::from_utf8`. -/
def fromUtf8 (bytes : Bytes) : Option String := String.fromUTF8? ⟨bytes.toArray⟩

namespace Frame

def encode : Frame → Bytes
  | hello token => typeHello :: (toBeBytes 0 ++ asBytes token)
  | openStream id dest => typeOpen :: (toBeBytes id ++ asBytes dest)
  | openAck id ok => typeOpenAck :: (toBeBytes id ++ [if ok then 0 else 1])
  | data id bytes => typeData :: (toBeBytes id ++ bytes)
  | close id => typeClose :: toBeBytes id

/-- The match on the type byte, once the five header bytes are there. -/
def decodePayload (frameType : UInt8) (id : StreamId) (payload : Bytes) : Except FrameError Frame :=
  if frameType = typeHello then
    match fromUtf8 payload with
    | some token => .ok (.hello token)
    | none => .error .invalidUtf8
  else if frameType = typeOpen then
    match fromUtf8 payload with
    | some dest => .ok (.openStream id dest)
    | none => .error .invalidUtf8
  else if frameType = typeOpenAck then
    match payload with
    | [] => .error .tooShort
    | status :: _ => .ok (.openAck id (status == 0))
  else if frameType = typeData then .ok (.data id payload)
  else if frameType = typeClose then .ok (.close id)
  else .error (.unknownType frameType)

def decode : Bytes → Except FrameError Frame
  | frameType :: b₀ :: b₁ :: b₂ :: b₃ :: payload =>
    decodePayload frameType (fromBeBytes b₀ b₁ b₂ b₃) payload
  | _ => .error .tooShort

end Frame
end EchoProxy
