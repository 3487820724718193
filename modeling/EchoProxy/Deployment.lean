import EchoProxy.Handshake
import EchoProxy.Mux
import EchoProxy.Proxy

/-! The two programs together: `run_proxy_resilient` and the `serve` it connects to, which
serves other clients as well. Each connection of the keeper is a WebSocket between its own
`Client` and one session; what the other clients send to their sessions is free. -/

namespace EchoProxy

/-- A WebSocket of the client: the session at its other end and what is on its way. -/
structure Line where
  session : Nat
  upload : List Message
  download : List Message

/-- `lines` are in the order of the client's connections. `asking` is the `/control`
connection of the `obtain_token` call in progress. -/
structure Deployment where
  client : Resilient
  serve : Serve
  lines : List Line
  asking : Option Nat

inductive DeploymentAction where
  | client (action : ResilientAction)
  | serve (action : ServeAction)
  | ask
  | obtain
  | dial

/-- What the two programs are started with. -/
structure Setup where
  capacity : Nat
  crates : Crates
  users : List String
  version : String
  user : String
  socks : Bool

/-- The steps that read or write a WebSocket. -/
def Resilient.wired (p : Resilient) : ResilientAction → Option (Nat × ClientAction)
  | .loop conn action => some (conn, action.on)
  | .keeper .greeted =>
    match p.keeper with
    | .greeting conn => some (conn, .connect)
    | _ => none
  | _ => none

namespace Deployment

def fresh (socks : Bool) : Deployment := ⟨Resilient.fresh socks, Serve.fresh, [], none⟩

/-- The client program takes a step, and what it reads and writes is on the line. -/
def clientStep (setup : Setup) (d : Deployment) (action : ResilientAction) : Option Deployment :=
  (d.client.step action).bind fun client =>
    match d.client.wired action with
    | none => some { d with client }
    | some (conn, move) =>
      d.client.conns[conn]?.bind fun c =>
        d.lines[conn]?.bind fun line =>
          (Mux.deliver move.consumes line.download).bind fun download =>
            (Mux.transmit setup.capacity line.upload (c.emits move)).map fun upload =>
              { d with client, lines := d.lines.set conn { line with upload, download } }

/-- So does a session of the server; one that is on no line has another client. -/
def sessionStep (setup : Setup) (d : Deployment) (j : Nat) (move : ServerAction) (serve : Serve) :
    Option Deployment :=
  match d.lines.findIdx? (·.session = j) with
  | none => some { d with serve }
  | some conn =>
    d.serve.sessions[j]?.bind fun session =>
      d.lines[conn]?.bind fun line =>
        (Mux.deliver move.consumes line.upload).bind fun upload =>
          (Mux.transmit setup.capacity line.download (session.server.emits move)).map fun download =>
            { d with serve, lines := d.lines.set conn { line with upload, download } }

/-- What the server program does with its step. -/
def serveStep (setup : Setup) (d : Deployment) (action : ServeAction) (serve : Serve) : Option Deployment :=
  match action with
  | .session j move => d.sessionStep setup j move serve
  -- the client sends one message on its `/control` connection
  | .control i (.incoming message _) =>
    if d.asking = some i ∧ message ≠ helloMessage setup.version setup.user then none else some { d with serve }
  | _ => some { d with serve }

def step (setup : Setup) (d : Deployment) : DeploymentAction → Option Deployment
  -- these two are `obtain` and `dial`
  | .client (.keeper (.obtained _)) | .client (.keeper .connected) => none
  | .client (.keeper .unobtained) => (d.client.step (.keeper .unobtained)).map fun client =>
      { d with client, asking := none }
  | .client action => d.clientStep setup action
  | .serve action => (d.serve.step setup.crates setup.users action).bind (d.serveStep setup action)
  | .ask =>
    if d.client.keeper = .obtaining then
      (d.serve.step setup.crates setup.users (.connect "/control")).map fun serve =>
        { d with serve, asking := some d.serve.controls.length }
    else none
  | .obtain =>
    d.asking.bind fun i =>
      d.serve.controls[i]?.bind fun control =>
        (obtainTokenWithVersion control.firstMessage).bind fun token =>
          (d.client.step (.keeper (.obtained token))).map fun client => { d with client, asking := none }
  | .dial =>
    (d.client.step (.keeper .connected)).bind fun client =>
      (d.serve.step setup.crates setup.users (.connect "/mux")).map fun serve =>
        { d with client, serve, lines := d.lines ++ [⟨d.serve.sessions.length, [], []⟩] }

end Deployment

def deploymentSystem (setup : Setup) : Transition.System Deployment DeploymentAction where
  init d := d = Deployment.fresh setup.socks
  step := Deployment.step setup

end EchoProxy
