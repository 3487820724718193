import EchoProxy.Stream

/-! What a stream's own steps can do, and the two accounts they keep: every chunk
read is sent, held or lost with the connection, and every payload obtained is
written, being written or lost with the socket. -/

namespace EchoProxy.Proofs.StreamFlow
open EchoProxy

variable {φ : Type}

/-- Everything a step of a stream can do. -/
inductive Effect (s : Stream φ) : Stream.Move → Stream φ → Prop where
  | arrive {bytes} (unshut : s.socket.shut = false) :
    Effect s (.arrive bytes) { s with socket.incoming := s.socket.incoming ++ bytes }
  | shut : Effect s .shut { s with socket.shut := true }
  | setWritable {writable} : Effect s (.setWritable writable) { s with socket.writable := writable }
  | read {count} (reading : s.phase = .reading) (some : 0 < count) (bounded : count ≤ bufferSize)
      (there : count ≤ s.socket.incoming.length) :
    Effect s (.read count) { s with
      phase := .sending (s.socket.incoming.take count)
      socket.incoming := s.socket.incoming.drop count
      socket.chunks := s.socket.chunks ++ [s.socket.incoming.take count] }
  | readEnd (reading : s.phase = .reading) (drained : s.socket.incoming = []) (shut : s.socket.shut = true) :
    Effect s .readEnd { s with phase := .closing }
  | readError (reading : s.phase = .reading) : Effect s .readError { s with phase := .closing }
  | sentData {bytes} (sending : s.phase = .sending bytes) :
    Effect s .sent { s with phase := .reading, emitted := s.emitted ++ [.data s.id bytes] }
  | sentClose (closing : s.phase = .closing) :
    Effect s .sent { s with phase := .unregistering, emitted := s.emitted ++ [.close s.id] }
  | unsentData {bytes} (sending : s.phase = .sending bytes) : Effect s .unsent { s with phase := .closing }
  | unsentClose (closing : s.phase = .closing) : Effect s .unsent { s with phase := .unregistering }
  | unregister (unregistering : s.phase = .unregistering) : Effect s .unregister { s with phase := .done }
  | recv {bytes channel} (waiting : s.task = .waiting) (takes : s.channel.Takes bytes channel) :
    Effect s .recv { s with task := .writeAll bytes, channel }
  | write {count rest} (writing : s.task = .writing rest) (writable : s.socket.writable = true) (some : 0 < count)
      (bounded : count ≤ rest.length) :
    Effect s (.write count) { s with
      task := .writeAll (rest.drop count)
      socket.written := s.socket.written ++ rest.take count }
  | writeError {rest} (writing : s.task = .writing rest) :
    Effect s .writeError { s with task := .failed rest, channel := s.channel.dropReceiver }
  | finish (waiting : s.task = .waiting) (drained : s.channel.queue = []) :
    Effect s .finish { s with task := .ended, channel := s.channel.dropReceiver }
  | lookup {bytes} (free : s.arriving = none) :
    Effect s (.lookup bytes) { s with arriving := some bytes, inflow := s.inflow ++ [bytes] }
  | discarded {bytes} (held : s.arriving = some bytes) (gone : s.channel.receiver = false) :
    Effect s .route { s with arriving := none }
  | routed {bytes channel} (held : s.arriving = some bytes) (accepts : s.channel.Accepts bytes channel) :
    Effect s .route { s with arriving := none, channel }

/-- A local move is none of those that need the connection. -/
theorem isLocal_ne {move other : Stream.Move} (isLocal : move.isLocal = true) (shared : other.isLocal = false) : move ≠ other := by
  intro same
  simp [same, shared] at isLocal

theorem step_effect {s s' : Stream φ} {move : Stream.Move} (taken : s.step move = some s') : Effect s move s' := by
  cases move with
  | arrive bytes =>
    simp only [Stream.step] at taken
    split at taken
    · cases taken
    · next unshut => cases taken; exact .arrive (by simpa using unshut)
  | shut => cases taken; exact .shut
  | setWritable writable => cases taken; exact .setWritable
  | read count =>
    simp only [Stream.step] at taken
    split at taken
    · next guard => cases taken; exact .read guard.1 guard.2.1 guard.2.2.1 guard.2.2.2
    · cases taken
  | readEnd =>
    simp only [Stream.step] at taken
    split at taken
    · next guard => cases taken; exact .readEnd guard.1 guard.2.1 guard.2.2
    · cases taken
  | readError =>
    simp only [Stream.step] at taken
    split at taken
    · next reading => cases taken; exact .readError reading
    · cases taken
  | sent =>
    simp only [Stream.step] at taken
    split at taken
    · next sending => cases taken; exact .sentData sending
    · next closing => cases taken; exact .sentClose closing
    · cases taken
  | unsent =>
    simp only [Stream.step] at taken
    split at taken
    · next sending => cases taken; exact .unsentData sending
    · next closing => cases taken; exact .unsentClose closing
    · cases taken
  | unregister =>
    simp only [Stream.step] at taken
    split at taken
    · next unregistering => cases taken; exact .unregister unregistering
    · cases taken
  | recv =>
    simp only [Stream.step] at taken
    split at taken
    · next waiting received => cases taken; exact .recv waiting (Channel.recv_some received)
    · cases taken
  | write count =>
    simp only [Stream.step] at taken
    split at taken
    · next writing =>
      split at taken
      · next guard => cases taken; exact .write writing guard.1 guard.2.1 guard.2.2
      · cases taken
    · cases taken
  | writeError =>
    simp only [Stream.step] at taken
    split at taken
    · next writing => cases taken; exact .writeError writing
    · cases taken
  | finish =>
    simp only [Stream.step] at taken
    split at taken
    · next guard => cases taken; exact .finish guard.1 guard.2
    · cases taken
  | lookup bytes =>
    simp only [Stream.step] at taken
    split at taken
    · next free => cases taken; exact .lookup free
    · cases taken
  | route =>
    simp only [Stream.step] at taken
    split at taken
    · cases taken
    · next held =>
      split at taken
      · cases taken
      · next closed => cases taken; exact .discarded held (Channel.send_closed closed)
      · next accepted => cases taken; exact .routed held (Channel.send_accepted accepted)

/-- What never changes. -/
theorem Effect.same {s s' : Stream φ} {move} (effect : Effect s move s') : s'.id = s.id ∧ s'.front = s.front := by
  cases effect <;> exact ⟨rfl, rfl⟩

@[simp] theorem rest_writeAll (bytes : Bytes) : (WriteTask.writeAll bytes).rest = bytes := by
  unfold WriteTask.writeAll
  split
  · next empty => exact empty.symm
  · rfl

theorem writeAll_cases (bytes : Bytes) :
    WriteTask.writeAll bytes = .waiting ∨ WriteTask.writeAll bytes = .writing bytes := by
  unfold WriteTask.writeAll
  split <;> simp

theorem writeAll_present (bytes : Bytes) : WriteTask.writeAll bytes ≠ .absent := by
  rcases writeAll_cases bytes with same | same <;> simp [same]

theorem writeAll_running (bytes : Bytes) : WriteTask.writeAll bytes ≠ .ended ∧ ∀ rest, WriteTask.writeAll bytes ≠ .failed rest := by
  rcases writeAll_cases bytes with same | same <;> simp [same]

/-- The write task is started by the front only. -/
theorem Effect.absent {s s' : Stream φ} {move} (effect : Effect s move s') : s'.task = .absent ↔ s.task = .absent := by
  cases effect with
  | recv waiting => simp [waiting, writeAll_present]
  | write writing => simp [writing, writeAll_present]
  | writeError writing => simp [writing]
  | finish waiting => simp [waiting]
  | _ => exact Iff.rfl

/-- Only the front ends itself. -/
theorem Effect.stays {s s' : Stream φ} {move} (effect : Effect s move s') : s'.phase = .front ↔ s.phase = .front := by
  cases effect with
  | read phase | readEnd phase | readError phase | sentData phase | sentClose phase | unsentData phase
  | unsentClose phase | unregister phase => simp [phase]
  | _ => exact Iff.rfl

theorem Effect.done {s s' : Stream φ} {move} (effect : Effect s move s') (ended : s.phase = .done) : s'.phase = .done := by
  cases effect with
  | read now | readEnd now | readError now | sentData now | sentClose now | unsentData now | unsentClose now
  | unregister now => simp [now] at ended
  | _ => exact ended

/-- Before the relay loop only the peer and the reader of the connection act. -/
theorem Effect.front {s s' : Stream φ} {move} (effect : Effect s move s') (phase : s'.phase = .front)
    (idle : s.task = .absent) : s.phase = .front ∧ s'.emitted = s.emitted ∧ s'.socket.written = s.socket.written ∧
      s'.socket.chunks = s.socket.chunks := by
  cases effect with
  | arrive | shut | setWritable | lookup | discarded | routed => exact ⟨phase, rfl, rfl, rfl⟩
  | recv waiting | finish waiting => simp [waiting] at idle
  | write writing | writeError writing => simp [writing] at idle
  | _ => cases phase

/-! ### From the queue to the socket -/

/-- The write task, or the front, still holds the receiver. -/
def Attended (s : Stream φ) : Prop := s.phase = .front ∨ s.task = .waiting ∨ ∃ rest, s.task = .writing rest

/-- The account of what was routed to the stream. `greeting` is what the front
wrote before the write task started. -/
structure Inbound (greeting : Bytes) (s : Stream φ) : Prop where
  queued : s.channel.receiver = true → s.inflow = s.channel.history ++ s.arriving.toList
  inflow : s.channel.history <+: s.inflow
  unread : s.task = .absent → s.channel.taken = []
  written : s.task ≠ .absent → ∃ relayed, s.socket.written = greeting ++ relayed ∧
    relayed ++ s.task.rest = s.channel.taken.flatten
  attended : s.channel.receiver = true ↔ Attended s
  front : s.phase = .front → s.task = .absent
  relaying : s.phase ≠ .front → s.phase ≠ .done → s.task ≠ .absent

theorem Inbound.step {greeting : Bytes} {s s' : Stream φ} {move} (flow : Inbound greeting s) (effect : Effect s move s') :
    Inbound greeting s' := by
  obtain ⟨queued, inflow, unread, written, attended, front, relaying⟩ := flow
  cases effect with
  | arrive | shut | setWritable => exact ⟨queued, inflow, unread, written, attended, front, relaying⟩
  | read phase | readEnd phase | readError phase | sentData phase | sentClose phase | unsentData phase
  | unsentClose phase | unregister phase =>
    have running : s.task ≠ .absent := relaying (by simp [phase]) (by simp [phase])
    refine ⟨queued, inflow, unread, written, ?_, by simp, fun _ _ => running⟩
    simpa [Attended, phase] using attended
  | recv waiting takes =>
    have running : s.phase ≠ .front := fun front' => by simp [front front'] at waiting
    have alive : s.channel.receiver = true := attended.mpr (.inr (.inl waiting))
    refine ⟨?_, ?_, ?_, ?_, ?_, fun front' => absurd front' running, ?_⟩
    · intro _; rw [takes.history]; exact queued alive
    · rw [takes.history]; exact inflow
    · intro absent; exact absurd absent (writeAll_present _)
    · intro _
      obtain ⟨relayed, greeted, before⟩ := written (by simp [waiting])
      simp only [waiting, WriteTask.rest, List.append_nil] at before
      exact ⟨relayed, greeted, by simp [takes.taken, before]⟩
    · simp only [takes.same, alive, true_iff]
      rcases writeAll_cases _ with same | same
      · exact .inr (.inl same)
      · exact .inr (.inr ⟨_, same⟩)
    · exact fun _ _ => writeAll_present _
  | @write count rest writing =>
    have running : s.phase ≠ .front := fun front' => by simp [front front'] at writing
    have alive : s.channel.receiver = true := attended.mpr (.inr (.inr ⟨_, writing⟩))
    refine ⟨queued, inflow, ?_, ?_, ?_, fun front' => absurd front' running, ?_⟩
    · intro absent; exact absurd absent (writeAll_present _)
    · intro _
      obtain ⟨relayed, greeted, before⟩ := written (by simp [writing])
      simp only [writing, WriteTask.rest] at before
      exact ⟨relayed ++ rest.take count, by simp [greeted], by simp [← before]⟩
    · simp only [alive, true_iff]
      rcases writeAll_cases (rest.drop count) with same | same
      · exact .inr (.inl same)
      · exact .inr (.inr ⟨_, same⟩)
    · exact fun _ _ => writeAll_present _
  | writeError writing =>
    have running : s.phase ≠ .front := fun front' => by simp [front front'] at writing
    refine ⟨by simp, inflow, by simp, ?_, ?_, fun front' => absurd front' running, by simp⟩
    · intro _
      simpa [writing, WriteTask.rest] using written (by simp [writing])
    · simp [Attended, running]
  | finish waiting drained =>
    have running : s.phase ≠ .front := fun front' => by simp [front front'] at waiting
    refine ⟨by simp, inflow, by simp, ?_, ?_, fun front' => absurd front' running, by simp⟩
    · intro _
      simpa [waiting, WriteTask.rest] using written (by simp [waiting])
    · simp [Attended, running]
  | lookup free =>
    refine ⟨?_, inflow.trans (List.prefix_append _ _), unread, written, attended, front, relaying⟩
    intro alive
    simp [queued alive, free]
  | discarded held gone =>
    exact ⟨fun alive => absurd alive (by simp [gone]), inflow, unread, written, attended, front, relaying⟩
  | routed held accepts =>
    have before := queued accepts.receiver
    simp only [held, Option.toList_some] at before
    refine ⟨?_, ?_, ?_, ?_, ?_, front, relaying⟩
    · intro _; simp [accepts.history, before]
    · simp [accepts.history, before]
    · intro absent; rw [accepts.taken]; exact unread absent
    · intro running; rw [accepts.taken]; exact written running
    · rw [accepts.same]; exact attended

theorem Inbound.relayed {greeting : Bytes} {s : Stream φ} (flow : Inbound greeting s) (running : s.task ≠ .absent) :
    ∃ relayed, s.socket.written = greeting ++ relayed ∧ relayed <+: s.inflow.flatten := by
  obtain ⟨relayed, greeted, taken⟩ := flow.written running
  obtain ⟨later, inflow⟩ := s.channel.taken_isPrefix.trans flow.inflow
  exact ⟨relayed, greeted, s.task.rest ++ later.flatten, by rw [← inflow, List.flatten_append, ← taken, List.append_assoc]⟩

/-! ### From the socket to the frame channel -/

/-- The chunk the relay loop waits to send. -/
def held : Phase → List Bytes
  | .sending bytes => [bytes]
  | _ => []

/-- The CLOSE a stream has sent. -/
def farewell (id : StreamId) : Phase → List Frame
  | .unregistering | .done => [.close id]
  | _ => []

/-- The account of what the stream's tasks sent, as long as the frame channel
accepts: `opening` is what the front sent. -/
def Outbound (opening : List Frame) (s : Stream φ) : Prop :=
  s.emitted ++ (held s.phase).map (.data s.id) = opening ++ s.socket.chunks.map (.data s.id) ++ farewell s.id s.phase

/-- What is left of that account when the frame channel may have closed. -/
def Emits (opening : List Frame) (s : Stream φ) : Prop :=
  ∃ sent, sent <+: s.socket.chunks ∧ s.emitted <+: opening ++ sent.map (.data s.id) ++ [.close s.id]

theorem Outbound.emits {opening : List Frame} {s : Stream φ} (account : Outbound opening s) : Emits opening s := by
  refine ⟨s.socket.chunks, List.prefix_refl _, ?_⟩
  have whole : s.emitted <+: opening ++ s.socket.chunks.map (.data s.id) ++ farewell s.id s.phase :=
    account ▸ List.prefix_append _ _
  cases same : s.phase <;> rw [same] at whole
  case unregistering | done => exact whole
  all_goals exact (List.append_nil (opening ++ _) ▸ whole).trans (List.prefix_append _ _)

/-- A step that gets its frame accepted, or needs none to be, keeps the account. -/
theorem Outbound.step {opening : List Frame} {s s' : Stream φ} {move} (account : Outbound opening s)
    (effect : Effect s move s') (accepted : move ≠ .unsent) : Outbound opening s' := by
  unfold Outbound at account ⊢
  cases effect with
  | unsentData | unsentClose => exact absurd rfl accepted
  | read phase | sentClose phase =>
    simp only [phase, held, farewell, List.map_nil, List.append_nil] at account
    simp [held, farewell, account]
  | readEnd phase | readError phase | sentData phase | unregister phase => simpa [phase, held, farewell] using account
  | arrive | shut | setWritable | recv | write | writeError | finish | lookup | discarded | routed => exact account

theorem Emits.step {opening : List Frame} {s s' : Stream φ} {move} (account : Emits opening s)
    (effect : Effect s move s') (quiet : s'.emitted = s.emitted) : Emits opening s' := by
  obtain ⟨sent, read, emitted⟩ := account
  refine ⟨sent, ?_, by rw [quiet, effect.same.1]; exact emitted⟩
  cases effect with
  | read => exact read.trans (List.prefix_append _ _)
  | _ => exact read

end EchoProxy.Proofs.StreamFlow
