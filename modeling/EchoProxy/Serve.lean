import EchoProxy.Lib.Text
import EchoProxy.Lib.Transition
import EchoProxy.Server
import Mathlib.Data.Finset.Basic

/-! The server program `serve`: any number of `/control` and `/mux` connections that
share one token store. -/

namespace EchoProxy

abbrev Uuid := BitVec 128

/-- What the handshakes use of the crates `uuid` and `semver`: reading and writing a UUID,
`Version::parse`, and `VersionReq::parse(req).unwrap().matches(version)`. -/
structure Crates where
  parseUuid : String → Option Uuid
  formatUuid : Uuid → String
  Version : Type
  parseVersion : String → Option Version
  satisfies : String → Version → Bool

def supportedVersion : String := ">=0.1.0"

/-! ### `/control` -/

/-- A message as `process_control` sees it; `other` is everything but a text. -/
inductive ControlMessage where
  | text (text : String)
  | other
  deriving DecidableEq

/-- What `process_control` makes of the first message. -/
inductive Verdict where
  | close
  | bye (reason : String)
  | issue (version user : String)
  deriving DecidableEq

def byeFormat : String := "Bye:Invalid version format"
def byeVersion : String :=
  "Bye:Unsupported version. Download from https://github.com/echo-proxy/echo-proxy-core/releases"
def byeUser : String := "Bye:User not allowed"

/-- The checks of `process_control`, up to the issue of the token. -/
def judge (crates : Crates) (users : List String) : ControlMessage → Verdict
  | .other => .close
  | .text text =>
    if "Hello:".toList.isPrefixOf text.toList then
      match (Text.splitn ':' 3 text.toList).map String.ofList with
      | [_, version, user] =>
        match crates.parseVersion version with
        | none => .bye byeFormat
        | some installed =>
          if crates.satisfies supportedVersion installed then
            if user ∈ users then .issue version user else .bye byeUser
          else .bye byeVersion
      | _ => .close
    else .close

/-- Where `process_control` stands: before its message, in its one send (`closes` when a
close follows), in the close, or gone. -/
inductive ControlStage where
  | waiting
  | sending (text : String) (closes : Bool)
  | closing
  | ended
  deriving DecidableEq

/-- `sent` (the texts that went out) is history. -/
structure Control where
  stage : ControlStage
  sent : List String
  deriving DecidableEq

/-- `uuid` is what `Uuid::new_v4` returns when the message is judged worth a token. -/
inductive ControlAction where
  | incoming (message : ControlMessage) (uuid : Uuid)
  | sent
  | unsent
  | closed
  | drop

/-- A token that was issued. -/
structure Grant where
  uuid : Uuid
  version : String
  user : String
  deriving DecidableEq

/-! ### `serve` -/

/-- A `/mux` connection with the UUID it took out of the token store, which is history. -/
structure Session where
  server : Server
  uuid : Option Uuid

inductive Service where
  | control
  | mux
  deriving DecidableEq

/-- The path check in the handshake callback of `accept_connection`, and the branch on it. -/
def acceptConnection (path : String) : Option Service :=
  if path ≠ "/control" ∧ path ≠ "/mux" then none
  else if "control".toList.isSuffixOf path.toList then some .control else some .mux

/-- `issued` is history. -/
structure Serve where
  listening : Bool
  tokenStore : Finset Uuid
  issued : List Grant
  controls : List Control
  sessions : List Session

inductive ServeAction where
  | connect (path : String)
  | stop
  | control (i : Nat) (action : ControlAction)
  | present (j : Nat)
  | session (j : Nat) (action : ServerAction)

/-- The token store decides these two. -/
def ServerAction.isVerdict : ServerAction → Bool
  | .accept | .reject => true
  | _ => false

namespace Serve

def fresh : Serve := ⟨true, ∅, [], [], []⟩

/-- `process_control` on connection `i`. -/
def controlStep (crates : Crates) (users : List String) (s : Serve) (i : Nat) (c : Control) : ControlAction → Option Serve
  | .incoming message uuid =>
    if c.stage = .waiting then
      match judge crates users message with
      | .close => some { s with controls := s.controls.set i { c with stage := .closing } }
      | .bye reason => some { s with controls := s.controls.set i { c with stage := .sending reason true } }
      | .issue version user =>
        some { s with
          tokenStore := insert uuid s.tokenStore
          issued := s.issued ++ [⟨uuid, version, user⟩]
          controls := s.controls.set i { c with stage := .sending ("Hi:" ++ crates.formatUuid uuid) false } }
    else none
  | .sent =>
    match c.stage with
    | .sending text closes =>
      some { s with controls := s.controls.set i ⟨if closes then .closing else .ended, c.sent ++ [text]⟩ }
    | _ => none
  -- the error of the send is ignored
  | .unsent =>
    match c.stage with
    | .sending _ closes => some { s with controls := s.controls.set i { c with stage := if closes then .closing else .ended } }
    | _ => none
  | .closed => if c.stage = .closing then some { s with controls := s.controls.set i { c with stage := .ended } } else none
  | .drop => if c.stage = .ended then none else some { s with controls := s.controls.set i { c with stage := .ended } }

/-- The token of a HELLO: parse it, take it out of the store, go on if it was there. -/
def present (crates : Crates) (s : Serve) (j : Nat) (session : Session) : Option Serve :=
  match session.server.reader with
  | .presenting token =>
    match crates.parseUuid token with
    | none => (session.server.step .reject).map fun server => { s with sessions := s.sessions.set j { session with server } }
    | some uuid =>
      if uuid ∈ s.tokenStore then
        (session.server.step .accept).map fun server =>
          { s with tokenStore := s.tokenStore.erase uuid, sessions := s.sessions.set j ⟨server, some uuid⟩ }
      else (session.server.step .reject).map fun server => { s with sessions := s.sessions.set j { session with server } }
  | _ => none

def step (crates : Crates) (users : List String) (s : Serve) : ServeAction → Option Serve
  | .connect path =>
    if s.listening then
      match acceptConnection path with
      | none => some s
      | some .control => some { s with controls := s.controls ++ [⟨.waiting, []⟩] }
      | some .mux => some { s with sessions := s.sessions ++ [⟨Server.fresh, none⟩] }
    else none
  | .stop => if s.listening then some { s with listening := false } else none
  | .control i action => s.controls[i]?.bind fun c => s.controlStep crates users i c action
  | .present j => s.sessions[j]?.bind fun session => s.present crates j session
  | .session j action =>
    if action.isVerdict then none
    else
      s.sessions[j]?.bind fun session =>
        (session.server.step action).map fun server => { s with sessions := s.sessions.set j { session with server } }

end Serve

def serveSystem (crates : Crates) (users : List String) : Transition.System Serve ServeAction where
  init s := s = Serve.fresh
  step := Serve.step crates users

end EchoProxy
