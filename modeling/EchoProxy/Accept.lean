import EchoProxy.Frame

/-! The start of `accept_connection`: one peek at the socket tells a WebSocket upgrade from
plain HTTP, which is answered at once. -/

namespace EchoProxy

/-- The length of the peek buffer. -/
def peekSize : Nat := 4096

/-- `u8::to_ascii_lowercase`. -/
def toAsciiLowercase (byte : UInt8) : UInt8 := if 65 ≤ byte ∧ byte ≤ 90 then byte + 32 else byte

/-- `<[u8]>::eq_ignore_ascii_case`. -/
def eqIgnoreAsciiCase (bytes other : Bytes) : Bool := bytes.map toAsciiLowercase == other.map toAsciiLowercase

/-- `slice::windows`. -/
def windows {α : Type} (size : Nat) : List α → List (List α)
  | [] => []
  | a :: rest => if size ≤ rest.length + 1 then (a :: rest).take size :: windows size rest else []

def iAmRunning : Bytes := asBytes "HTTP/1.1 200 OK\r\nContent-Length: 12\r\nConnection: close\r\n\r\nI am running"
def notFound : Bytes := asBytes "HTTP/1.1 404 Not Found\r\nContent-Length: 0\r\nConnection: close\r\n\r\n"

/-- The WebSocket handshake, or plain HTTP with its response. -/
inductive Branch where
  | webSocket
  | plain (response : Bytes)
  deriving DecidableEq

/-- The branch on what the peek returned; at the end of the stream it returns no bytes. -/
def acceptBranch (headerBytes : Bytes) : Option Branch :=
  if headerBytes = [] then none
  else if (windows 9 headerBytes).any (eqIgnoreAsciiCase · (asBytes "websocket")) then some .webSocket
  else if (asBytes "GET / ").isPrefixOf headerBytes then some (.plain iAmRunning)
  else some (.plain notFound)

/-- What `peek` returns when so many segments have arrived. It takes nothing off the socket. -/
def peek (segments : List Bytes) (arrived : Nat) : Bytes := (segments.take arrived).flatten.take peekSize

end EchoProxy
