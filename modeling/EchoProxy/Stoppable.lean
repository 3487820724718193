import EchoProxy.Lib.Signal
import EchoProxy.Mux
import EchoProxy.Serve

/-! `serve` with its shutdown channel: one receiver in the accept loop, a clone in every
`accept_connection`, from the accept to the end of the connection. -/

namespace EchoProxy

/-- `accept_connection` after the handshake: the path check and the branch on it. -/
def Serve.enter (s : Serve) (path : String) : Serve :=
  match acceptConnection path with
  | none => s
  | some .control => { s with controls := s.controls ++ [⟨.waiting, []⟩] }
  | some .mux => { s with sessions := s.sessions ++ [⟨Server.fresh, none⟩] }

/-- A `connect` is an accept and its handshake in one. -/
theorem Serve.step_connect (crates : Crates) (users : List String) (s : Serve) (path : String) :
    s.step crates users (.connect path) = if s.listening then some (s.enter path) else none := by
  simp only [Serve.step, Serve.enter]
  split
  · split <;> simp only [*]
  · rfl

/-- The selects with a `shutdown.recv()` branch. -/
inductive ShutdownSelect where
  | acceptLoop
  | control (i : Nat)
  | session (j : Nat)

/-- What the shutdown branch does: the accept loop breaks, the other future is dropped. -/
def ShutdownSelect.branch : ShutdownSelect → ServeAction
  | .acceptLoop => .stop
  | .control i => .control i .drop
  | .session j => .session j .drop

/-- `handshakes` is the number of connections that were accepted and have not finished
their handshake. The shutdown channel is `make_shutdown_channel`. -/
structure Stoppable where
  serve : Serve
  handshakes : Nat
  shutdown : Signal 1

/-- `send` and `close` are the owner's. A handshake without a path is plain HTTP, or failed. -/
inductive StoppableAction where
  | send
  | close
  | accept
  | acceptError
  | handshake (path : Option String)
  | shutdown (select : ShutdownSelect)
  | serve (action : ServeAction)

/-- The steps of the connections other than their shutdown branches. -/
def ServeAction.isConnection : ServeAction → Bool
  | .connect _ | .stop | .control _ .drop | .session _ .drop => false
  | _ => true

namespace Stoppable

def fresh : Stoppable := ⟨Serve.fresh, 0, .empty⟩

def step (crates : Crates) (users : List String) (s : Stoppable) : StoppableAction → Option Stoppable
  | .send => s.shutdown.send.map fun shutdown => { s with shutdown }
  | .close => some { s with shutdown := s.shutdown.close }
  | .accept => if s.serve.listening then some { s with handshakes := s.handshakes + 1 } else none
  | .acceptError => (s.serve.step crates users .stop).map fun serve => { s with serve }
  | .handshake path =>
    if 0 < s.handshakes then
      some { s with handshakes := s.handshakes - 1, serve := path.elim s.serve s.serve.enter }
    else none
  | .shutdown select =>
    s.shutdown.recv.bind fun shutdown =>
      (s.serve.step crates users select.branch).map fun serve => { s with serve, shutdown }
  | .serve action =>
    if action.isConnection then (s.serve.step crates users action).map fun serve => { s with serve } else none

end Stoppable

def stoppableSystem (crates : Crates) (users : List String) : Transition.System Stoppable StoppableAction where
  init s := s = Stoppable.fresh
  step := Stoppable.step crates users

/-- The steps of a session that wait for neither its peer nor an upstream. -/
def ServerAction.isOwn : ServerAction → Bool
  | .endpoint .put => false
  | .endpoint action => action.isInternal
  | .answer | .readerCloseAll | .writerExit | .writerStop => true
  | _ => false

/-- The steps of the program that wait for nobody outside it but the owner. -/
def StoppableAction.isOwn : StoppableAction → Bool
  | .shutdown _ | .serve (.present _) => true
  | .serve (.session _ action) => action.isOwn
  | _ => false

end EchoProxy
