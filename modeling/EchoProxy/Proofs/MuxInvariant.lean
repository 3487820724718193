import EchoProxy.Proofs.ClientInvariant
import EchoProxy.Proofs.ServerInvariant
import EchoProxy.Proofs.WireFormat

/-! The two endpoints joined: each is reachable on its own, what one put on the
WebSocket is what the other has dispatched and what is still on the wire, and so
the accounts of the two ends meet. -/

namespace EchoProxy.Proofs.MuxInvariant
open EchoProxy StreamFlow HandlerFlow EndpointSteps EndpointAccounts ClientSteps ServerSteps FrameSequences

/-- Everything a step of the pair can do. -/
inductive MuxEffect (capacity : Nat) (m : Mux) : MuxAction → Mux → Prop where
  | client {action client upload download} (taken : m.client.step action = some client)
      (delivered : Mux.deliver action.consumes m.download = some download)
      (transmitted : Mux.transmit capacity m.upload (m.client.emits action) = some upload) :
    MuxEffect capacity m (.client action) { m with client, upload, download }
  | server {action server upload download} (taken : m.server.step action = some server)
      (delivered : Mux.deliver action.consumes m.upload = some upload)
      (transmitted : Mux.transmit capacity m.download (m.server.emits action) = some download) :
    MuxEffect capacity m (.server action) { m with server, upload, download }

theorem mux_effect {capacity : Nat} {m m' : Mux} {action} (taken : Mux.step capacity m action = some m') :
    MuxEffect capacity m action m' := by
  cases action with
  | client action =>
    obtain ⟨download, delivered, taken⟩ := Option.bind_eq_some_iff.mp taken
    obtain ⟨upload, transmitted, taken⟩ := Option.bind_eq_some_iff.mp taken
    obtain ⟨client, stepped, rfl⟩ := Option.map_eq_some_iff.mp taken
    exact .client stepped delivered transmitted
  | server action =>
    obtain ⟨upload, delivered, taken⟩ := Option.bind_eq_some_iff.mp taken
    obtain ⟨download, transmitted, taken⟩ := Option.bind_eq_some_iff.mp taken
    obtain ⟨server, stepped, rfl⟩ := Option.map_eq_some_iff.mp taken
    exact .server stepped delivered transmitted

section Components
variable {capacity : Nat} {token : String} {resilient : Bool} {allowed : MuxAction → Prop} {m : Mux}

theorem client_reach (run : (muxSystem capacity token resilient).Reach allowed m) :
    (clientSystem token resilient).Reach (fun action => allowed (.client action)) m.client := by
  refine run.component Mux.client (by rintro m rfl; rfl) ?_
  intro before action after permitted taken
  cases mux_effect taken with
  | client stepped => exact .inr ⟨_, permitted, stepped⟩
  | server => exact .inl rfl

theorem server_reach (run : (muxSystem capacity token resilient).Reach allowed m) :
    serverSystem.Reach (fun action => allowed (.server action)) m.server := by
  refine run.component Mux.server (by rintro m rfl; rfl) ?_
  intro before action after permitted taken
  cases mux_effect taken with
  | client => exact .inl rfl
  | server stepped => exact .inr ⟨_, permitted, stepped⟩

end Components

/-! ### The wires -/

theorem transmit_some {capacity : Nat} {wire messages after : List Message}
    (transmitted : Mux.transmit capacity wire messages = some after) : after = wire ++ messages := by
  unfold Mux.transmit at transmitted
  split at transmitted
  · next none => cases transmitted; simp [none]
  · split at transmitted <;> cases transmitted
    rfl

/-- The frames a step puts are those it emits. -/
theorem client_emits {token : String} {c c' : Client} {action} (started : ClientInvariant.Started token c)
    (effect : ClientEffect c action c') : ∃ frames, c'.put = c.put ++ frames ∧ c.emits action = frames.map Frame.message := by
  cases effect with
  | @connect presented connecting =>
    obtain ⟨rfl, unspawned⟩ := started.connecting presented connecting
    have placed := started.order.2
    rw [unspawned] at placed
    exact ⟨[.hello presented], by simp [placed.1], by simp [Client.emits, connecting]⟩
  | endpoint effect =>
    cases effect with
    | @put frame sending => exact ⟨[frame], rfl, by simp [Client.emits, Endpoint.emits, sending]⟩
    | _ => exact ⟨[], (List.append_nil _).symm, rfl⟩
  | _ => exact ⟨[], (List.append_nil _).symm, rfl⟩

theorem server_emits {c c' : Server} {action} (effect : ServerEffect c action c') :
    ∃ frames, c'.put = c.put ++ frames ∧ c.emits action = frames.map Frame.message := by
  cases effect with
  | endpoint effect =>
    cases effect with
    | @put frame sending => exact ⟨[frame], rfl, by simp [Server.emits, Endpoint.emits, sending]⟩
    | _ => exact ⟨[], (List.append_nil _).symm, rfl⟩
  | _ => exact ⟨[], (List.append_nil _).symm, rfl⟩

/-- A binary message taken off a wire of frames is the first frame. -/
private theorem deliver_frame {frames : List Frame} {data : Bytes} {after : List Message}
    (delivered : Mux.deliver [.binary data] (frames.map Frame.message) = some after) :
    ∃ frame rest, frames = frame :: rest ∧ Frame.decode data = .ok frame ∧ after = rest.map Frame.message := by
  cases frames with
  | nil => cases delivered
  | cons frame rest =>
    simp only [List.map_cons, Mux.deliver] at delivered
    split at delivered
    · next same =>
      cases delivered
      refine ⟨frame, rest, rfl, ?_, rfl⟩
      rw [Message.binary.inj same, WireFormat.decode_encode]
    · cases delivered

private theorem deliver_nothing {wire after : List Message} (delivered : Mux.deliver [] wire = some after) : after = wire := by
  cases delivered
  rfl

theorem client_consumes {c c' : Client} {action} {frames : List Frame} {after : List Message}
    (effect : ClientEffect c action c') (delivered : Mux.deliver action.consumes (frames.map Frame.message) = some after) :
    ∃ rest, after = rest.map Frame.message ∧ c.dispatched ++ frames = c'.dispatched ++ rest := by
  cases effect with
  | acked _ _ decoded | routing _ _ decoded | closed _ _ decoded | skipped _ _ decoded =>
    obtain ⟨frame, rest, rfl, same, rfl⟩ := deliver_frame delivered
    cases decoded.symm.trans same
    exact ⟨rest, rfl, by simp [ClientSteps.received]⟩
  | ignored _ _ nothing =>
    rcases nothing with rfl | ⟨data, error, rfl, bad⟩
    · exact ⟨frames, deliver_nothing delivered, rfl⟩
    · obtain ⟨frame, rest, rfl, same, rfl⟩ := deliver_frame delivered
      cases bad.symm.trans same
  | endpoint effect => exact ⟨frames, deliver_nothing delivered, by rw [(endpoint_ids effect).2]⟩
  | _ => exact ⟨frames, deliver_nothing delivered, rfl⟩

/-- At the start of a session only HELLO is on the wire to be taken. -/
theorem server_consumes {token : String} {c c' : Server} {action} {frames : List Frame} {after : List Message}
    (admitted : ServerInvariant.Admitted c) (hello : ∀ frame rest, c.dispatched ++ frames = frame :: rest → frame = .hello token)
    (effect : ServerEffect c action c') (delivered : Mux.deliver action.consumes (frames.map Frame.message) = some after) :
    ∃ rest, after = rest.map Frame.message ∧ c.dispatched ++ frames = c'.dispatched ++ rest := by
  cases effect with
  | hello _ decoded | opening _ _ decoded | blocked _ _ decoded | routing _ _ decoded | closed _ _ decoded
  | skipped _ _ decoded =>
    obtain ⟨frame, rest, rfl, same, rfl⟩ := deliver_frame delivered
    cases decoded.symm.trans same
    exact ⟨rest, rfl, by simp [ServerSteps.received]⟩
  | @unwelcome message now ping other =>
    cases message with
    | binary data =>
      obtain ⟨frame, rest, rfl, same, rfl⟩ := deliver_frame delivered
      rw [admitted.hello now] at hello
      rw [hello frame rest rfl] at same
      exact absurd same (other data token rfl)
    | ping => exact absurd rfl ping
    | other => exact ⟨frames, deliver_nothing delivered, rfl⟩
  | ignored ready =>
    rcases ready with ⟨-, rfl⟩ | ⟨-, -, rfl | ⟨data, error, rfl, bad⟩⟩
    · exact ⟨frames, deliver_nothing delivered, rfl⟩
    · exact ⟨frames, deliver_nothing delivered, rfl⟩
    · obtain ⟨frame, rest, rfl, same, rfl⟩ := deliver_frame delivered
      cases bad.symm.trans same
  | endpoint effect => exact ⟨frames, deliver_nothing delivered, by rw [(endpoint_ids effect).2]⟩
  | _ => exact ⟨frames, deliver_nothing delivered, rfl⟩

/-- What one end put is what the other has dispatched and what is on the wire. -/
structure Wires (m : Mux) (upload download : List Frame) : Prop where
  up : m.upload = upload.map Frame.message
  down : m.download = download.map Frame.message
  sent : m.client.put = m.server.dispatched ++ upload
  answered : m.server.put = m.client.dispatched ++ download

theorem wires {capacity : Nat} {token : String} {resilient : Bool} {allowed} {m : Mux}
    (run : (muxSystem capacity token resilient).Reach allowed m) : ∃ upload download, Wires m upload download := by
  refine run.invariant (p := fun m => ∃ upload download, Wires m upload download) ?_ ?_
  · rintro m rfl
    exact ⟨[], [], rfl, rfl, rfl, rfl⟩
  · rintro before action after prior ⟨upload, download, valid⟩ - taken
    have client := ClientInvariant.client_valid (client_reach prior)
    have server := ServerInvariant.server_valid (server_reach prior)
    cases mux_effect taken with
    | client stepped delivered transmitted =>
      have effect := client_effect stepped
      obtain ⟨put, grows, emits⟩ := client_emits client.started effect
      rw [valid.down] at delivered
      obtain ⟨rest, arrived, dispatched⟩ := client_consumes effect delivered
      refine ⟨upload ++ put, rest, ?_, arrived, ?_, ?_⟩
      · rw [transmit_some transmitted, emits, valid.up, List.map_append]
      · rw [grows, valid.sent, List.append_assoc]
      · rw [valid.answered, dispatched]
    | server stepped delivered transmitted =>
      have effect := server_effect stepped
      obtain ⟨put, grows, emits⟩ := server_emits effect
      rw [valid.up] at delivered
      have hello : ∀ frame rest, before.server.dispatched ++ upload = frame :: rest → frame = .hello token := by
        intro frame rest whole
        have front := client.started.order.put_isPrefix
        rw [valid.sent, whole] at front
        exact (List.cons_prefix_cons.mp front).1
      obtain ⟨rest, arrived, dispatched⟩ := server_consumes server.admitted hello effect delivered
      refine ⟨rest, download ++ put, arrived, ?_, ?_, ?_⟩
      · rw [transmit_some transmitted, emits, valid.down, List.map_append]
      · rw [valid.sent, dispatched]
      · rw [grows, valid.answered, List.append_assoc]

end EchoProxy.Proofs.MuxInvariant
