import EchoProxy.Reception
import EchoProxy.Proofs.SocksReplies

/-! The front ends of `run_proxy_resilient`: the connections of a listener, the handler that
each of them has, and the tunnel a handler asks for when it has looked at the slot. -/

namespace EchoProxy.Proofs.FrontEnd
open EchoProxy Transition StreamFlow HandlerFlow EndpointSteps ClientSteps ProxySteps ProxyInvariant Replies SocksReplies Places
variable {p p' : Resilient} {r r' : Reception} {listener : Listener}

/-! ### Tunnels

The tunnel of a stream is the one its handler asked for. -/

def Carries (conns : List Client) (conn k : Nat) (tunnel : Tunnel) : Prop :=
  ∃ c, conns[conn]? = some c ∧ ∃ s, c.streams[k]? = some s ∧ s.front.tunnel = tunnel

private theorem endpoint_tunnel {e e' : Endpoint Handler} {action} (effect : EndpointEffect e action e')
    {k : Nat} {tunnel : Tunnel} (there : ∃ s, e.streams[k]? = some s ∧ s.front.tunnel = tunnel) :
    ∃ s, e'.streams[k]? = some s ∧ s.front.tunnel = tunnel := by
  cases effect with
  | pop | put | putFail => exact there
  | stream found _ stepped | sent found _ _ stepped | unsent found _ _ stepped | finish found _ stepped
  | route _ found stepped | unregister found stepped =>
    refine exists_set found (fun own => ?_) there
    rw [stepped.same.2]
    exact own

private theorem client_tunnel {c c' : Client} {action : ClientAction} (effect : ClientEffect c action c')
    {k : Nat} {tunnel : Tunnel} (there : ∃ s, c.streams[k]? = some s ∧ s.front.tunnel = tunnel) :
    ∃ s, c'.streams[k]? = some s ∧ s.front.tunnel = tunnel := by
  cases effect with
  | endpoint effect => exact endpoint_tunnel effect there
  | accept =>
    obtain ⟨s, found, own⟩ := there
    exact ⟨s, append_found found _, own⟩
  | register found stepped | insertAck found stepped | leave found stepped | sent found _ _ _ stepped
  | unsent found _ _ _ stepped | ackLost found _ stepped | handler found _ stepped | acked _ _ _ _ found stepped =>
    refine exists_set found (fun own => ?_) there
    rw [stepped.same.2.1]
    exact own
  | routing _ _ _ _ found stepped =>
    refine exists_set found (fun own => ?_) there
    rw [stepped.same.2]
    exact own
  | _ => exact there

private theorem Carries.moved {conn j k : Nat} {tunnel : Tunnel} {action : ClientAction} {conns : List Client}
    (moved : ConnStep p conn action conns) (carries : Carries p.conns j k tunnel) : Carries conns j k tunnel := by
  obtain ⟨there, stepped⟩ := moved
  exact exists_set there (client_tunnel (client_effect stepped)) carries

private theorem Carries.step {conn k : Nat} {tunnel : Tunnel} {action : ResilientAction}
    (carries : Carries p.conns conn k tunnel)
    (effect : ResilientEffect p action p') : Carries p'.conns conn k tunnel := by
  cases effect with
  | accept | halted | departed | unavailable => exact carries
  | tunnelled _ _ _ moved | handler _ moved | loop moved => exact carries.moved moved
  | keeper effect =>
    cases effect with
    | obtained | unobtained | slept | unconnected | empty | stopped => exact carries
    | connected =>
      obtain ⟨c, there, stream⟩ := carries
      exact ⟨c, append_found there _, stream⟩
    | greeted _ moved | ungreeted _ moved | took _ _ _ moved | clear _ moved | close _ moved =>
        exact carries.moved moved

/-- Where the handler of an accepted connection stands, with the tunnel it asked for. -/
def Stands (r : Reception) (h : Nat) (tunnel : Tunnel) : Standing → Prop
  | .parsing | .elsewhere => True
  | .unavailable => ∃ s, (h, s) ∈ r.turned ∧ s.front.tunnel = tunnel
  | .tunnelled conn k => Carries r.proxy.conns conn k tunnel

private theorem aside_stands {i : Nat} {isLocal : Bool} {change : Stream Handler → Option (Stream Handler)}
    (taken : (if isLocal then r.modify i change else none) = some r')
    (keeps : ∀ s s', change s = some s' → s'.front.tunnel = s.front.tunnel) {h : Nat} {tunnel : Tunnel}
    {standing : Standing} (stands : Stands r h tunnel standing) : Stands r' h tunnel standing := by
  obtain ⟨-, modified, proxy, -⟩ := Replies.aside taken
  obtain ⟨⟨j, t⟩, found, modified⟩ := Option.bind_eq_some_iff.mp modified
  obtain ⟨t', changed, rfl⟩ := Option.map_eq_some_iff.mp modified
  cases standing with
  | parsing | elsewhere => trivial
  | tunnelled conn k => exact stands
  | unavailable =>
    obtain ⟨s, member, own⟩ := stands
    obtain ⟨k, place⟩ := List.getElem?_of_mem member
    have kept (own : j = h ∧ t.front.tunnel = tunnel) : j = h ∧ t'.front.tunnel = tunnel :=
      ⟨own.1, (keeps t t' changed).trans own.2⟩
    obtain ⟨⟨h', s'⟩, place', rfl, same⟩ :=
      @exists_set _ _ _ _ _ (j, t')
        (fun entry => entry.1 = h ∧ entry.2.front.tunnel = tunnel) found kept ⟨_, place, rfl, own⟩
    exact ⟨s', List.mem_of_getElem? place', same⟩

private theorem proxy_stands {action : ResilientAction} (effect : ResilientEffect r.proxy action p')
    {h : Nat} {tunnel : Tunnel} {standing : Standing} (stands : Stands r h tunnel standing) :
    Stands ⟨p', r.turned ++ r.turns action, r.recorded action⟩ h tunnel standing := by
  cases standing with
  | parsing | elsewhere => trivial
  | unavailable =>
    obtain ⟨s, member, own⟩ := stands
    exact ⟨s, List.mem_append_left _ member, own⟩
  | tunnelled conn k => exact Carries.step stands effect

theorem Stands.step {action : ReceptionAction} (taken : r.step action = some r') {h : Nat} {tunnel : Tunnel}
    {standing : Standing} (stands : Stands r h tunnel standing) : Stands r' h tunnel standing := by
  cases action with
  | proxy action =>
    obtain ⟨proxy, stepped, rfl⟩ := Option.map_eq_some_iff.mp taken
    exact proxy_stands (resilient_effect stepped) stands
  | reply i move => exact aside_stands taken (fun s s' stepped => (handlerStep_effect stepped).same.2.1) stands
  | socket i move => exact aside_stands taken (fun s s' stepped => by rw [(StreamFlow.step_effect stepped).same.2]) stands

/-- The step with which a handler stops parsing. -/
def decides (h : Nat) : ReceptionAction → Prop
  | .proxy (.depart i) | .proxy (.snapshot i _) => i = h
  | _ => False

/-- Only its own decision moves a handler. -/
theorem still_placed {action : ReceptionAction} (taken : r.step action = some r') {h : Nat}
    (other : ¬ decides h action)
    {connection : LocalConnection} (found : r.proxy.listeners.accepted[h]? = some connection) :
    r'.proxy.listeners.accepted[h]? = some connection := by
  cases action with
  | proxy action =>
    obtain ⟨proxy, stepped, rfl⟩ := Option.map_eq_some_iff.mp taken
    cases resilient_effect stepped with
    | accept => exact append_found found _
    | departed | unavailable | tunnelled => exact (settle_other fun same => other same.symm).trans found
    | halted | handler | loop => exact found
    | keeper effect => cases effect <;> exact found
  | reply i move => rwa [(aside taken).2.2.1]
  | socket i move => rwa [(aside taken).2.2.1]

/-! ### Connections -/

/-- The connection is the listener's, and stands there. -/
def Placed (r : Reception) (listener : Listener) (h : Nat) (standing : Standing) : Prop :=
  ∃ id, r.proxy.listeners.accepted[h]? = some ⟨id, listener, standing⟩

theorem Placed.unique {h : Nat} {standing standing' : Standing} (placed : Placed r listener h standing)
    (placed' : Placed r listener h standing') : standing = standing' := by
  obtain ⟨id, found⟩ := placed
  obtain ⟨id', found'⟩ := placed'
  cases found.symm.trans found'
  rfl

theorem Placed.step {h : Nat} {standing : Standing} {action : ReceptionAction}
    (placed : Placed r listener h standing)
    (taken : r.step action = some r') (other : ¬ decides h action) : Placed r' listener h standing := by
  obtain ⟨id, found⟩ := placed
  exact ⟨id, still_placed taken other found⟩

/-- Every step accepts a connection at the end of the list or leaves the connections to
their listeners. -/
theorem listener_before {action : ReceptionAction} (taken : r.step action = some r') {h : Nat}
    {standing : Standing} (placed : Placed r' listener h standing) :
    action = .proxy (.accept listener) ∧ h = r.proxy.listeners.accepted.length ∨
      ∃ before, Placed r listener h before := by
  obtain ⟨id, found⟩ := placed
  cases action with
  | proxy action =>
    obtain ⟨proxy, stepped, rfl⟩ := Option.map_eq_some_iff.mp taken
    have settled_before {i : Nat} {own : StreamId} {which : Listener} {now : Standing}
        (parsing : r.proxy.listeners.accepted[i]? = some ⟨own, which, .parsing⟩)
        (found : (r.proxy.listeners.settle i now).accepted[h]? = some ⟨id, listener, standing⟩) :
        ∃ before, Placed r listener h before := by
      by_cases same : h = i
      · subst same
        rw [settle_own parsing] at found
        cases found
        exact ⟨_, _, parsing⟩
      · exact ⟨standing, id, (settle_other same).symm.trans found⟩
    cases resilient_effect stepped with
    | accept =>
      rcases append_cases found with ⟨rfl, same⟩ | before
      · cases same
        exact .inl ⟨rfl, rfl⟩
      · exact .inr ⟨standing, id, before⟩
    | departed parsing | unavailable parsing | tunnelled parsing => exact .inr (settled_before parsing found)
    | halted | handler | loop => exact .inr ⟨standing, id, found⟩
    | keeper effect => cases effect <;> exact .inr ⟨standing, id, found⟩
  | reply i move | socket i move =>
    rw [(aside taken).2.2.1] at found
    exact .inr ⟨standing, id, found⟩

theorem departed {h : Nat} (taken : r.step (.proxy (.depart h)) = some r')
    (parsing : Placed r listener h .parsing) :
    Placed r' listener h .elsewhere := by
  obtain ⟨id, found⟩ := parsing
  obtain ⟨proxy, stepped, rfl⟩ := Option.map_eq_some_iff.mp taken
  cases resilient_effect stepped with
  | halted which => simp at which
  | departed => exact ⟨id, settle_own found⟩

/-- The handler that looks at the slot finds it empty or has a stream of its own. -/
theorem looked {h : Nat} {tunnel : Tunnel} (taken : r.step (.proxy (.snapshot h tunnel)) = some r')
    (waiting : Placed r listener h .parsing) :
    ∃ standing, Placed r' listener h standing ∧ Stands r' h tunnel standing ∧
      standing ≠ .parsing ∧ standing ≠ .elsewhere := by
  obtain ⟨id, found⟩ := waiting
  obtain ⟨proxy, stepped, rfl⟩ := Option.map_eq_some_iff.mp taken
  cases resilient_effect stepped with
  | halted which => simp at which
  | unavailable parsing slot =>
    cases found.symm.trans parsing
    refine ⟨.unavailable, ⟨id, settle_own found⟩, ⟨turnedAway id tunnel, ?_, turnedAway_tunnel id tunnel⟩,
      by simp, by simp⟩
    simp [Reception.turns, slot, found]
  | tunnelled parsing slot there moved =>
    cases found.symm.trans parsing
    refine ⟨_, ⟨id, settle_own found⟩, ?_, by simp, by simp⟩
    obtain ⟨there', accepted⟩ := moved
    cases there.symm.trans there'
    cases client_effect accepted with
    | accept => exact ⟨_, set_found there _, _, List.getElem?_concat_length, rfl⟩

/-! ### Handlers -/

section handlers
variable {σ : Type} {followed : Reception → Nat → σ → Prop} {handlers : Nat → Option σ}

/-- Each connection of the listener has a handler, and what is known of each handler holds. -/
structure Attends (listener : Listener) (followed : Reception → Nat → σ → Prop) (r : Reception)
    (handlers : Nat → Option σ) : Prop where
  known : ∀ h handler, handlers h = some handler → followed r h handler
  present : ∀ h standing, Placed r listener h standing → ∃ handler, handlers h = some handler

/-- What is known of a handler is left alone by all but the handler's own decision. -/
def Stable (followed : Reception → Nat → σ → Prop) : Prop :=
  ∀ (r r' : Reception) action h handler, r.step action = some r' → ¬ decides h action →
    followed r h handler → followed r' h handler

theorem update_cases {h j : Nat} {new handler : σ}
    (found : Function.update handlers h (some new) j = some handler) :
    j = h ∧ handler = new ∨ j ≠ h ∧ handlers j = some handler := by
  by_cases same : j = h
  · subst same
    rw [Function.update_self, Option.some.injEq] at found
    exact .inl ⟨rfl, found.symm⟩
  · rw [Function.update_of_ne same] at found
    exact .inr ⟨same, found⟩

theorem update_has {h j : Nat} {new : σ} (there : ∃ handler, handlers j = some handler) :
    ∃ handler, Function.update handlers h (some new) j = some handler := by
  by_cases same : j = h
  · subst same
    exact ⟨new, Function.update_self ..⟩
  · rwa [Function.update_of_ne same]

namespace Attends

theorem fresh {socks : Bool} : Attends listener followed (Reception.fresh socks) (fun _ => none) :=
  ⟨fun _ _ placed => (by cases placed), fun _ _ ⟨_, placed⟩ => (by cases placed)⟩

/-- A handler goes on by itself. -/
theorem goes {h : Nat} {new : σ} (valid : Attends listener followed r handlers) (knows : followed r h new) :
    Attends listener followed r (Function.update handlers h (some new)) := by
  constructor
  · intro j handler found
    rcases update_cases found with ⟨rfl, rfl⟩ | ⟨-, old⟩
    · exact knows
    · exact valid.known j handler old
  · exact fun j standing placed => update_has (valid.present j standing placed)

/-- The program makes a step that decides nothing for the handlers. -/
theorem moved {action : ReceptionAction} (valid : Attends listener followed r handlers) (stable : Stable followed)
    (stepped : r.step action = some r') (accepts : action ≠ .proxy (.accept listener))
    (own : ∀ h handler, handlers h = some handler → ¬ decides h action) :
    Attends listener followed r' handlers := by
  constructor
  · intro h handler found
    exact stable r r' action h handler stepped (own h handler found) (valid.known h handler found)
  · intro h standing placed
    rcases listener_before stepped placed with ⟨accepting, -⟩ | ⟨before, listed⟩
    · exact absurd accepting accepts
    · exact valid.present h before listed

/-- A handler goes on, while the program makes its step. -/
theorem proceeds {h : Nat} {new : σ} {action : ReceptionAction}
    (valid : Attends listener followed r handlers) (stable : Stable followed)
    (stepped : r.step action = some r') (accepts : action ≠ .proxy (.accept listener))
    (own : ∀ i, decides i action → i = h)
    (knows : followed r' h new) : Attends listener followed r' (Function.update handlers h (some new)) := by
  constructor
  · intro j handler found
    rcases update_cases found with ⟨rfl, rfl⟩ | ⟨different, old⟩
    · exact knows
    · exact stable r r' action j handler stepped (fun decided =>
        different (own j decided)) (valid.known j handler old)
  · intro j standing placed
    rcases listener_before stepped placed with ⟨accepting, -⟩ | ⟨before, listed⟩
    · exact absurd accepting accepts
    · exact update_has (valid.present j before listed)

/-- A new connection gets its handler. -/
theorem accept {new : σ} (valid : Attends listener followed r handlers) (stable : Stable followed)
    (stepped : r.step (.proxy (.accept listener)) = some r')
    (knows : Placed r' listener r.proxy.listeners.accepted.length .parsing →
      followed r' r.proxy.listeners.accepted.length new) :
    Attends listener followed r' (Function.update handlers r.proxy.listeners.accepted.length (some new)) := by
  constructor
  · intro j handler found
    rcases update_cases found with ⟨rfl, rfl⟩ | ⟨-, old⟩
    · obtain ⟨proxy, accepted, rfl⟩ := Option.map_eq_some_iff.mp stepped
      cases resilient_effect accepted with
      | accept => exact knows ⟨_, List.getElem?_concat_length⟩
      | halted which => simp at which
    · exact stable r r' _ j handler stepped id (valid.known j handler old)
  · intro j standing placed
    rcases listener_before stepped placed with ⟨-, rfl⟩ | ⟨before, listed⟩
    · exact ⟨new, Function.update_self ..⟩
    · exact update_has (valid.present j before listed)

end Attends
end handlers

end EchoProxy.Proofs.FrontEnd
