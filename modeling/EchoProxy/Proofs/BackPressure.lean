import EchoProxy.Proofs.Arrival
import EchoProxy.Proofs.FrameLimits
import Mathlib.Algebra.Order.BigOperators.Group.List
import Mathlib.Algebra.Order.Ring.Nat
import Mathlib.Data.List.Flatten

/-! How far a relay runs ahead of the other end. Each queue on the way has its bound, and
a payload is one read: so a socket that takes no writes soon stops the reads at the other
end of its stream, and no stream holds more than its share of memory. -/

namespace EchoProxy.Proofs.BackPressure
open EchoProxy StreamFlow HandlerFlow EndpointSteps EndpointAccounts ClientSteps ServerSteps FrameSequences MuxInvariant Protocol
  Integrity Conservation EndToEnd Progress FrameLimits

/-! ### Payloads on the way -/

/-- The payloads that can be between the two ends of a stream in one direction: on the data
channel, in a `route` call, on the wire, in the writer's hand, on the frame channel and in
the relay loop. -/
def slots (capacity : Nat) : Nat := dataCapacity + 1 + (capacity + 1 + frameCapacity) + 1

private theorem onWire_length (wire : List Message) : (onWire wire).length ≤ wire.length :=
  List.length_filterMap_le _ _

private theorem inHand_length (writer : Writer) : (inHand writer).length ≤ 1 := by
  cases writer <;> simp [inHand]

private theorem held_length (phase : Phase) : (held phase).length ≤ 1 := by
  cases phase <;> simp [held]

private theorem arriving_length (arriving : Option Bytes) : arriving.toList.length ≤ 1 := by
  cases arriving <;> simp

theorem underway_length {φ ψ : Type} {capacity : Nat} (receiver : Stream ψ) {wire : List Message}
    (fits : wire.length ≤ capacity)
    (e : Endpoint φ) (sender : Stream φ) : (underway receiver wire e sender).length ≤ slots capacity := by
  have queued := receiver.channel.fits
  have framed := e.frames.fits
  have fitting : (payloads sender.id (onWire wire ++ inHand e.writer ++ e.frames.queue)).length ≤
      (onWire wire ++ inHand e.writer ++ e.frames.queue).length := List.length_filterMap_le _ _
  have wired := onWire_length wire
  have hand := inHand_length e.writer
  have buffered := held_length sender.phase
  have routed := arriving_length receiver.arriving
  simp only [underway, List.length_append, slots] at fitting ⊢
  omega

/-! ### The wire -/

/-- The payload the write task has in hand is the rest of one it took. -/
def InTask {φ : Type} (s : Stream φ) : Prop := s.task.rest = [] ∨
    ∃ taken ∈ s.channel.taken, s.task.rest.length ≤ taken.length

private theorem writeAll_rest (bytes : Bytes) : (WriteTask.writeAll bytes).rest = bytes := by
  cases bytes <;> rfl

private theorem Effect.inTask {φ : Type} {s s' : Stream φ} {move} (effect : Effect s move s')
    (valid : InTask s) : InTask s' := by
  cases effect with
  | @recv bytes _ _ takes => exact .inr ⟨bytes, by simp [takes.taken], by rw [writeAll_rest]⟩
  | write writing =>
    rcases valid with none | ⟨taken, there, shorter⟩
    · rw [writing, WriteTask.rest] at none
      exact .inl (by rw [writeAll_rest, none, List.drop_nil])
    · rw [writing, WriteTask.rest] at shorter
      refine .inr ⟨taken, there, ?_⟩
      rw [writeAll_rest, List.length_drop]
      omega
  | writeError writing =>
    rw [InTask, writing] at valid
    exact valid
  | finish => exact .inl rfl
  | routed _ accepts =>
    rw [InTask, ← accepts.taken] at valid
    exact valid
  | _ => exact valid

private theorem HandlerEffect.inTask {s s' : Stream Handler} {move} (effect : HandlerEffect s move s')
    (valid : InTask s) : InTask s' := by
  cases effect with
  | granted _ _ _ next => rcases next with ⟨-, rfl⟩ | ⟨-, rfl⟩ <;> exact valid
  | greeted | forwarded => exact .inl rfl
  | _ => exact valid

private theorem flatten_length {size : Nat} {pieces : List Bytes}
    (bounded : ∀ piece ∈ pieces, piece.length ≤ size) :
    pieces.flatten.length ≤ pieces.length * size := by
  rw [List.length_flatten]
  have total := List.sum_le_card_nsmul (pieces.map List.length) size (by simpa using bounded)
  simpa using total

/-- Some of the pieces: those of `start` add what they have, each of the others one buffer. -/
private theorem sublist_length {size : Nat} {start chunks pieces : List Bytes}
    (bounded : ∀ chunk ∈ chunks, chunk.length ≤ size)
    (some : pieces.Sublist (start ++ chunks)) : pieces.flatten.length ≤
      start.flatten.length + pieces.length * size := by
  obtain ⟨first, rest, rfl, fromStart, fromChunks⟩ := List.sublist_append_iff.mp some
  have front : first.flatten.length ≤ start.flatten.length := fromStart.flatten.length_le
  have back : rest.flatten.length ≤ rest.length * size :=
    flatten_length fun piece member => bounded piece (fromChunks.subset member)
  rw [List.flatten_append, List.length_append, List.length_append, Nat.add_mul]
  omega

/-- One direction of a stream: what was read and is not written is in the write task's hand
or underway. -/
private theorem ahead {φ ψ : Type} {capacity : Nat} {greeting : List Frame} {e : Endpoint φ}
    {sender : Stream φ} {receiver : Stream ψ}
    {head : Frame} {start : List Bytes} {before : Bytes} {frames dispatched : List Frame}
    (fits : frames.length ≤ capacity)
    (order : InOrder greeting e) (running : e.writer ≠ .stopping ∧ e.writer ≠ .ended)
    (silent : payloads sender.id greeting = []) (attributed : ofId sender.id e.frames.history = sender.emitted)
    (sent : Outbound (head :: start.map (.data sender.id)) sender) (opening : payloads sender.id [head] = [])
    (put : e.put = dispatched ++ frames) (inbound : Inbound before receiver) (started : receiver.task ≠ .absent)
    (fed : receiver.inflow = payloads sender.id dispatched)
    (queued : receiver.inflow = receiver.channel.history ++ receiver.arriving.toList) (inTask : InTask receiver)
    (bounded : ∀ chunk ∈ sender.socket.chunks, chunk.length ≤ bufferSize) :
    before.length + sender.socket.chunks.flatten.length ≤
      receiver.socket.written.length + (slots capacity + 1) * bufferSize := by
  have accepted : payloads sender.id (dispatched ++ frames ++ inHand e.writer ++ e.frames.queue) =
      payloads sender.id sender.emitted := by
    rw [← put, payloads_order order running silent, ← attributed, payloads_ofId]
  have whole : receiver.channel.taken ++ underway receiver (frames.map Frame.message) e sender =
    start ++ sender.socket.chunks := by
    calc receiver.channel.taken ++ underway receiver (frames.map Frame.message) e sender
        = receiver.inflow ++ payloads sender.id (frames ++ inHand e.writer ++ e.frames.queue) ++ held sender.phase := by
          simp [underway, queued, Channel.history]
      _ = payloads sender.id (dispatched ++ frames ++ inHand e.writer ++ e.frames.queue) ++ held sender.phase := by
          simp [fed]
      _ = start ++ sender.socket.chunks := by rw [accepted, outbound_payloads sent opening]
  have waiting : (underway receiver (frames.map Frame.message) e sender).length ≤ slots capacity :=
    underway_length receiver (by simpa using fits) e sender
  -- the write task's payload and those underway are different pieces of what was sent
  have late : receiver.task.rest.length + (underway receiver (frames.map Frame.message) e sender).flatten.length ≤
      start.flatten.length + (slots capacity + 1) * bufferSize := by
    rcases inTask with none | ⟨taken, there, shorter⟩
    · have some := sublist_length bounded (whole ▸ List.sublist_append_right receiver.channel.taken _)
      have room := Nat.mul_le_mul_right bufferSize waiting
      rw [none, List.length_nil, Nat.add_mul]
      omega
    · have some := sublist_length bounded (whole ▸ (List.singleton_sublist.mpr there).append (List.Sublist.refl _))
      have room := Nat.mul_le_mul_right bufferSize waiting
      simp only [List.flatten_append, List.flatten_singleton, List.length_append, List.length_singleton,
        Nat.add_mul] at some
      rw [Nat.add_mul]
      omega
  obtain ⟨relayed, written, taken⟩ := inbound.written started
  have bytes := congrArg (fun pieces : List Bytes => pieces.flatten.length) whole
  have took := congrArg List.length taken
  simp only [List.flatten_append, List.length_append] at bytes took
  rw [written, List.length_append]
  omega

end EchoProxy.Proofs.BackPressure
