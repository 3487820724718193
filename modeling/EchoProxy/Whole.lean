import EchoProxy.Deployment
import EchoProxy.HttpReception
import EchoProxy.Lib.Coupled
import EchoProxy.SocksReception

/-! The two programs with everything the client does for a local connection: the handlers of
both listeners share one `run_proxy_resilient`, which is the client program of the deployment. -/

namespace EchoProxy
open Transition

deriving instance DecidableEq for Stream.Move, HandlerMove, HandlerAction, TaskAction, LoopAction, KeeperAction, ResilientAction,
  ReceptionAction

/-! ### What a step is for the rest -/

def HttpReception.receptionMove (config : RoutingConfig) (lower : Lowercase) (s : HttpReception) :
    HttpAction → Option ReceptionAction
  | .other action => some action
  | .accept _ _ _ => some (.proxy (.accept .http))
  | .parse h =>
    match s.handlers h with
    | some ⟨offered, .parsing⟩ =>
      match localRequest offered with
      | none => some (.proxy (.depart h))
      | some (request, _) => if config.bypasses lower request then some (.proxy (.depart h)) else none
    | _ => none
  | .direct _ _ => none
  | .look h =>
    match s.handlers h with
    | some ⟨_, .looking request⟩ => some (.proxy (.snapshot h (.viaMuxWithTimeout request)))
    | _ => none

def SocksReception.receptionMove (config : RoutingConfig) (lower : Lowercase) (s : SocksReception) :
    SocksAction → Option ReceptionAction
  | .other action => some action
  | .accept _ _ => some (.proxy (.accept .socks5))
  | .parse h =>
    match s.handlers h with
    | some ⟨_, peer, .parsing⟩ =>
      match (handleSocksConnection config lower peer).1 with
      | none | some (_, true) => some (.proxy (.depart h))
      | some (_, false) => none
    | _ => none
  | .connected _ | .unconnected _ | .relay _ _ => none
  | .look h =>
    match s.handlers h with
    | some ⟨_, _, .looking host⟩ => some (.proxy (.snapshot h (.socksViaMuxWithTimeout (String.ofList host))))
    | _ => none

def Reception.proxyMove (_ : Reception) : ReceptionAction → Option ResilientAction
  | .proxy action => some action
  | .reply _ _ | .socket _ _ => none

def Deployment.clientMove (d : Deployment) : DeploymentAction → Option ResilientAction
  | .client action => some action
  | .serve _ | .ask => none
  | .obtain =>
    d.asking.bind fun i =>
      d.serve.controls[i]?.bind fun control =>
        (obtainTokenWithVersion control.firstMessage).map fun token => .keeper (.obtained token)
  | .dial => some (.keeper .connected)

/-! ### The systems -/

def httpPart (config : RoutingConfig) (lower : Lowercase) :
    Part HttpReception HttpAction Reception ReceptionAction :=
  ⟨HttpReception.reception, HttpReception.receptionMove config lower⟩

def socksPart (config : RoutingConfig) (lower : Lowercase) :
    Part SocksReception SocksAction Reception ReceptionAction :=
  ⟨SocksReception.reception, SocksReception.receptionMove config lower⟩

def receptionPart : Part Reception ReceptionAction Resilient ResilientAction :=
  ⟨Reception.proxy, Reception.proxyMove⟩

def deploymentPart : Part Deployment DeploymentAction Resilient ResilientAction :=
  ⟨Deployment.client, Deployment.clientMove⟩

/-- The client program with the handlers of both listeners. -/
def frontEndSystem (config : RoutingConfig) (lower : Lowercase) :=
  coupled (httpSystem true config lower) (socksSystem config lower) (httpPart config lower) (socksPart config lower)

/-- The client program with its handlers, and the server with all of its clients. -/
def wholeSystem (setup : Setup) (config : RoutingConfig) (lower : Lowercase) :=
  coupled (deploymentSystem { setup with socks := true }) (frontEndSystem config lower) deploymentPart
    ((httpPart config lower).coupled.trans receptionPart)

end EchoProxy
