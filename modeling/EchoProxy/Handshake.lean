import EchoProxy.Serve

/-! The client's side of `/control`: the text it sends first, and what it makes of the
first message that comes back. -/

namespace EchoProxy

/-- A message as the client of `/control` gets it: a text, a close frame with the reason
in it, or one that carries bytes. -/
inductive ServerMessage where
  | text (text : String)
  | close (reason : Option String)
  | bytes (bytes : Bytes)
  deriving DecidableEq

/-- `Message::to_text`. -/
def ServerMessage.toText : ServerMessage → Option String
  | .text message => some message
  | .close reason => some (reason.getD "")
  | .bytes content => fromUtf8 content

/-- The message of `obtain_token_with_version`. -/
def helloMessage (version user : String) : ControlMessage := .text ("Hello:" ++ version ++ ":" ++ user)

/-- `obtain_token_with_version` after its sends. There is no message when the stream ended
or failed first. -/
def obtainTokenWithVersion (next : Option ServerMessage) : Option String := do
  let msg ← next
  let text ← msg.toText
  ("Hi:".toList.isPrefixOf? text.toList).map String.ofList

/-- The first message of `process_control` on a connection that delivers what was sent:
the text of its one send, or the close frame of `ws_stream.close(None)`. -/
def Control.firstMessage (c : Control) : Option ServerMessage :=
  match c.sent, c.stage with
  | text :: _, _ => some (.text text)
  | [], .ended => some (.close none)
  | [], _ => none

/-- What breaks connection `i` from the server's end: a send that fails, and the end of
`process_control` at a shutdown or before its message came. -/
def ServeAction.breaks (i : Nat) : ServeAction → Bool
  | .control j .unsent | .control j .drop => i == j
  | _ => false

end EchoProxy
