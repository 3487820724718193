import EchoProxy.Endpoint
import EchoProxy.Lib.Places
import EchoProxy.Proofs.StreamFlow
import EchoProxy.Proofs.FrameSequences

/-! What the shared steps of the two endpoints do, and the invariants both keep:
senders belong to streams of their id, the `route` call in progress holds one
payload, and the writer puts the frames in the order the channel accepted them. -/

namespace EchoProxy.Proofs.EndpointSteps
open EchoProxy StreamFlow FrameSequences Places

variable {φ : Type}

/-- Everything a shared step can do. -/
inductive EndpointEffect (e : Endpoint φ) : EndpointAction → Endpoint φ → Prop where
  | pop {frame frames} (receiving : e.writer = .receiving) (takes : e.frames.Takes frame frames) :
    EndpointEffect e .pop { e with writer := .sending frame, frames }
  | put {frame} (sending : e.writer = .sending frame) :
    EndpointEffect e .put { e with writer := .receiving, put := e.put ++ [frame] }
  | putFail {frame} (sending : e.writer = .sending frame) : EndpointEffect e .putFail { e with writer := .stopping }
  | stream {k move s s'} (found : e.streams[k]? = some s) (isLocal : move.isLocal = true) (stepped : Effect s move s') :
    EndpointEffect e (.stream k move) { e with streams := e.streams.set k s' }
  | sent {k frame frames s s'} (found : e.streams[k]? = some s) (outgoing : s.outgoing = some frame)
      (accepts : e.frames.Accepts frame frames) (stepped : Effect s .sent s') :
    EndpointEffect e (.send k) { e with frames, streams := e.streams.set k s' }
  | unsent {k frame s s'} (found : e.streams[k]? = some s) (outgoing : s.outgoing = some frame)
      (closed : e.frames.receiver = false) (stepped : Effect s .unsent s') :
    EndpointEffect e (.send k) { e with streams := e.streams.set k s' }
  | unregister {k s s'} (found : e.streams[k]? = some s) (stepped : Effect s .unregister s') :
    EndpointEffect e (.unregister k) { e with registry := e.registry.close s.id, streams := e.streams.set k s' }
  | finish {k s s'} (found : e.streams[k]? = some s) (disconnected : e.disconnected k s = true)
      (stepped : Effect s .finish s') :
    EndpointEffect e (.finish k) { e with streams := e.streams.set k s' }
  | route {k s s'} (routing : e.routing = some k) (found : e.streams[k]? = some s) (stepped : Effect s .route s') :
    EndpointEffect e .route { e with routing := none, streams := e.streams.set k s' }

theorem modify_some {e e' : Endpoint φ} {k : Nat} {change : Stream φ → Option (Stream φ)} :
    e.modify k change = some e' ↔
      ∃ s s', e.streams[k]? = some s ∧ change s = some s' ∧ e' = { e with streams := e.streams.set k s' } := by
  constructor
  · intro modified
    obtain ⟨s, found, changed⟩ := Option.bind_eq_some_iff.mp modified
    obtain ⟨s', result, rfl⟩ := Option.map_eq_some_iff.mp changed
    exact ⟨s, s', found, result, rfl⟩
  · rintro ⟨s, s', found, changed, rfl⟩
    simp [Endpoint.modify, found, changed]

theorem offer_some {e e' : Endpoint φ} {frame : Frame} {sent unsent : Endpoint φ → Option (Endpoint φ)}
    (offered : e.offer frame sent unsent = some e') :
    (∃ frames, e.frames.Accepts frame frames ∧ sent { e with frames } = some e') ∨
      e.frames.receiver = false ∧ unsent e = some e' := by
  unfold Endpoint.offer at offered
  split at offered
  · cases offered
  · next closed => exact .inr ⟨Channel.send_closed closed, offered⟩
  · next accepted => exact .inl ⟨_, Channel.send_accepted accepted, offered⟩

theorem step_effect {e e' : Endpoint φ} {action : EndpointAction} (taken : e.step action = some e') :
    EndpointEffect e action e' := by
  cases action with
  | pop =>
    simp only [Endpoint.step] at taken
    split at taken
    · next receiving received => cases taken; exact .pop receiving (Channel.recv_some received)
    · cases taken
  | put =>
    simp only [Endpoint.step] at taken
    split at taken
    · next sending => cases taken; exact .put sending
    · cases taken
  | putFail =>
    simp only [Endpoint.step] at taken
    split at taken
    · next sending => cases taken; exact .putFail sending
    · cases taken
  | stream k move =>
    simp only [Endpoint.step] at taken
    split at taken
    · next isLocal =>
      obtain ⟨s, s', found, stepped, rfl⟩ := modify_some.mp taken
      exact .stream found isLocal (StreamFlow.step_effect stepped)
    · cases taken
  | send k =>
    obtain ⟨frame, outgoing, taken⟩ := Option.bind_eq_some_iff.mp taken
    obtain ⟨s, found, outgoing⟩ := Option.bind_eq_some_iff.mp outgoing
    rcases offer_some taken with ⟨frames, accepts, taken⟩ | ⟨closed, taken⟩
    · obtain ⟨_, s', found', stepped, rfl⟩ := modify_some.mp taken
      cases found.symm.trans found'
      exact .sent found outgoing accepts (StreamFlow.step_effect stepped)
    · obtain ⟨_, s', found', stepped, rfl⟩ := modify_some.mp taken
      cases found.symm.trans found'
      exact .unsent found outgoing closed (StreamFlow.step_effect stepped)
  | unregister k =>
    obtain ⟨s, found, taken⟩ := Option.bind_eq_some_iff.mp taken
    obtain ⟨_, s', found', stepped, rfl⟩ := modify_some.mp taken
    cases found.symm.trans found'
    exact .unregister found (StreamFlow.step_effect stepped)
  | finish k =>
    obtain ⟨s, found, taken⟩ := Option.bind_eq_some_iff.mp taken
    split at taken
    · next disconnected =>
      obtain ⟨_, s', found', stepped, rfl⟩ := modify_some.mp taken
      cases found.symm.trans found'
      exact .finish found disconnected (StreamFlow.step_effect stepped)
    · cases taken
  | route =>
    obtain ⟨k, routing, taken⟩ := Option.bind_eq_some_iff.mp taken
    obtain ⟨s, s', found, stepped, rfl⟩ := modify_some.mp taken
    exact .route routing found (StreamFlow.step_effect stepped)

/-- The frame channel stays closed. -/
theorem endpoint_closed {e e' : Endpoint φ} {action} (effect : EndpointEffect e action e') (opened : e'.frames.receiver = true) :
    e.frames.receiver = true := by
  cases effect with
  | pop _ takes => rw [← takes.same]; exact opened
  | sent _ _ accepts => rw [← accepts.same]; exact opened
  | _ => exact opened

/-! ### One stream of many -/

theorem set_ids {streams : List (Stream φ)} {k : Nat} {s s' : Stream φ} (found : streams[k]? = some s) (id : s'.id = s.id) :
    (streams.set k s').map Stream.id = streams.map Stream.id := by
  obtain ⟨inside, rfl⟩ := List.getElem?_eq_some_iff.mp found
  rw [List.map_set, id, ← List.getElem_map Stream.id (h := by simpa using inside), List.set_getElem_self]

/-- Streams with pairwise distinct ids. -/
def Distinct (streams : List (Stream φ)) : Prop := (streams.map Stream.id).Nodup

theorem Distinct.same {streams : List (Stream φ)} (distinct : Distinct streams) {j k : Nat} {s t : Stream φ}
    (first : streams[j]? = some s) (second : streams[k]? = some t) (id : s.id = t.id) : j = k := by
  have inside := (List.getElem?_eq_some_iff.mp first).1
  apply (List.getElem?_inj (by simpa using inside) distinct).mp
  simp [first, second, id]

/-! ### Senders and the route call in progress -/

theorem register_some {registry : StreamRegistry} {id other : StreamId} {k j : Nat} :
    registry.register id k other = some j ↔ other = id ∧ j = k ∨ other ≠ id ∧ registry other = some j := by
  by_cases same : other = id
  · subst same
    simp [StreamRegistry.register, eq_comm]
  · simp [StreamRegistry.register, same]

theorem close_some {registry : StreamRegistry} {id other : StreamId} {j : Nat} :
    registry.close id other = some j ↔ other ≠ id ∧ registry other = some j := by
  by_cases same : other = id
  · subst same
    simp [StreamRegistry.close]
  · simp [StreamRegistry.close, same]

/-- Every registered sender is that of a stream with the id, and the payload of a
`route` call in progress is in its stream; while the reader lives, no other stream
has one. -/
structure Wired (live : Prop) (registry : StreamRegistry) (routing : Option Nat) (streams : List (Stream φ)) : Prop where
  registered : ∀ id k, registry id = some k → ∃ s, streams[k]? = some s ∧ s.id = id
  routes : ∀ k, routing = some k → ∃ s, streams[k]? = some s ∧ s.arriving ≠ none
  arriving : live → ∀ (k : Nat) (s : Stream φ), streams[k]? = some s → s.arriving ≠ none → routing = some k

namespace Wired
variable {live : Prop} {registry : StreamRegistry} {routing : Option Nat} {streams : List (Stream φ)}

theorem own {id : StreamId} {k : Nat} {s : Stream φ} (valid : Wired live registry routing streams)
    (registered : registry id = some k) (found : streams[k]? = some s) : s.id = id := by
  obtain ⟨t, there, same⟩ := valid.registered id k registered
  cases found.symm.trans there
  exact same

theorem empty : Wired live .new none ([] : List (Stream φ)) :=
  ⟨fun _ _ found => by simp [StreamRegistry.new] at found, nofun, fun _ _ _ found => by simp at found⟩

private theorem registered_set {k : Nat} {s s' : Stream φ} (valid : Wired live registry routing streams)
    (found : streams[k]? = some s) (same : s'.id = s.id) (id : StreamId) (j : Nat) (registered : registry id = some j) :
    ∃ t, (streams.set k s')[j]? = some t ∧ t.id = id :=
  exists_set found (fun own => same.trans own) (valid.registered id j registered)

theorem set {k : Nat} {s s' : Stream φ} (valid : Wired live registry routing streams) (found : streams[k]? = some s)
    (id : s'.id = s.id) (arriving : s'.arriving = s.arriving) : Wired live registry routing (streams.set k s') := by
  refine ⟨valid.registered_set found id, ?_, ?_⟩
  · intro j route
    apply exists_set found _ (valid.routes j route)
    intro held
    rwa [arriving]
  · intro alive j t there held
    rcases set_cases there with ⟨rfl, rfl⟩ | ⟨-, there⟩
    · exact valid.arriving alive _ s found (by rwa [← arriving])
    · exact valid.arriving alive j t there held

theorem lookup {k : Nat} {s s' : Stream φ} (valid : Wired live registry none streams) (found : streams[k]? = some s)
    (id : s'.id = s.id) (arriving : s'.arriving ≠ none) : Wired live registry (some k) (streams.set k s') := by
  refine ⟨valid.registered_set found id, ?_, ?_⟩
  · rintro j ⟨⟩
    exact ⟨s', set_found found s', arriving⟩
  · intro alive j t there held
    rcases set_cases there with ⟨rfl, rfl⟩ | ⟨-, there⟩
    · rfl
    · cases valid.arriving alive j t there held

theorem route {k : Nat} {s s' : Stream φ} (valid : Wired live registry (some k) streams) (found : streams[k]? = some s)
    (id : s'.id = s.id) (arriving : s'.arriving = none) : Wired live registry none (streams.set k s') := by
  refine ⟨valid.registered_set found id, nofun, ?_⟩
  intro alive j t there held
  rcases set_cases there with ⟨rfl, rfl⟩ | ⟨different, there⟩
  · exact absurd arriving held
  · exact absurd (Option.some.inj (valid.arriving alive j t there held)).symm different

theorem register {k : Nat} {s : Stream φ} (valid : Wired live registry routing streams) (found : streams[k]? = some s) :
    Wired live (registry.register s.id k) routing streams := by
  refine ⟨?_, valid.routes, valid.arriving⟩
  intro id j registered
  rcases register_some.mp registered with ⟨rfl, rfl⟩ | ⟨-, registered⟩
  · exact ⟨s, found, rfl⟩
  · exact valid.registered id j registered

theorem close (valid : Wired live registry routing streams) (closed : StreamId) : Wired live (registry.close closed) routing streams := by
  refine ⟨?_, valid.routes, valid.arriving⟩
  intro id j registered
  exact valid.registered id j (close_some.mp registered).2

theorem closeAll (valid : Wired live registry routing streams) : Wired live .new routing streams :=
  ⟨fun _ _ found => by simp [StreamRegistry.new] at found, valid.routes, valid.arriving⟩

theorem append (valid : Wired live registry routing streams) (new : Stream φ) (idle : new.arriving = none) :
    Wired live registry routing (streams ++ [new]) := by
  refine ⟨?_, ?_, ?_⟩
  · intro id j registered
    obtain ⟨t, there, own⟩ := valid.registered id j registered
    exact ⟨t, append_found there new, own⟩
  · intro j route
    obtain ⟨t, there, held⟩ := valid.routes j route
    exact ⟨t, append_found there new, held⟩
  · intro alive j t there held
    rcases append_cases there with ⟨rfl, rfl⟩ | there
    · exact absurd idle held
    · exact valid.arriving alive j t there held

theorem mono {live' : Prop} (valid : Wired live registry routing streams) (implies : live' → live) :
    Wired live' registry routing streams :=
  ⟨valid.registered, valid.routes, fun alive => valid.arriving (implies alive)⟩

/-- The reader is dropped at an await. -/
theorem drop (valid : Wired live registry routing streams) : Wired False registry none streams :=
  ⟨valid.registered, nofun, False.elim⟩

end Wired

theorem Effect.arriving {s s' : Stream φ} {move} (effect : Effect s move s') (isLocal : move.isLocal = true ∨
    move = .sent ∨ move = .unsent ∨ move = .unregister ∨ move = .finish) : s'.arriving = s.arriving := by
  cases effect <;> first | rfl | simp [Stream.Move.isLocal] at isLocal

theorem EndpointEffect.wired {live : Prop} {e e' : Endpoint φ} {action} (effect : EndpointEffect e action e')
    (valid : Wired live e.registry e.routing e.streams) : Wired live e'.registry e'.routing e'.streams := by
  cases effect with
  | pop | put | putFail => exact valid
  | stream found isLocal stepped => exact valid.set found stepped.same.1 (Effect.arriving stepped (.inl isLocal))
  | sent found _ _ stepped | unsent found _ _ stepped | finish found _ stepped =>
    exact valid.set found stepped.same.1 (Effect.arriving stepped (by simp))
  | unregister found stepped =>
    exact (valid.set found stepped.same.1 (Effect.arriving stepped (by simp))).close _
  | route routing found stepped =>
    rw [routing] at valid
    refine valid.route found stepped.same.1 ?_
    cases stepped <;> rfl

end EchoProxy.Proofs.EndpointSteps
