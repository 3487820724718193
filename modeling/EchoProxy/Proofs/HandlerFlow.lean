import EchoProxy.Client
import EchoProxy.Proofs.StreamFlow

/-! The three tunnel handlers before their relay loop: what each step does, and
what a handler has sent and written at each stage. -/

namespace EchoProxy.Proofs.HandlerFlow
open EchoProxy StreamFlow

/-- Everything a step of a handler can do. -/
inductive HandlerEffect (s : Stream Handler) : HandlerMove → Stream Handler → Prop where
  | ack {ok} : HandlerEffect s (.ack ok) { s with front.ack := s.front.ack.or (some ok) }
  | registered (front : s.phase = .front) (start : s.front.stage = .start) :
    HandlerEffect s .registered (s.setStage .registered)
  | inserted (front : s.phase = .front) (registered : s.front.stage = .registered) :
    HandlerEffect s .inserted (s.setStage .opening)
  | opened (front : s.phase = .front) (opening : s.front.stage = .opening) :
    HandlerEffect s .opened
      { s.setStage .awaiting with emitted := s.emitted ++ [.openStream s.id s.front.spec.dest] }
  | unopened (front : s.phase = .front) (opening : s.front.stage = .opening) :
    HandlerEffect s .unopened (s.setStage (.leaving s.front.spec.unopened))
  | granted {bytes s'} (front : s.phase = .front) (awaiting : s.front.stage = .awaiting) (ack : s.front.ack = some true)
      (next : s.front.spec.opened = .reply bytes ∧ s' = s.setStage (.greeting bytes) ∨
        s.front.spec.opened = .forward bytes ∧ s' = s.setStage (.forwarding bytes)) :
    HandlerEffect s .acked s'
  | refused {move} (front : s.phase = .front) (awaiting : s.front.stage = .awaiting) (ack : s.front.ack ≠ some true)
      (which : move = .acked ∨ move = .lost ∨ move = .timeout) (answered : move = .acked → s.front.ack = some false) :
    HandlerEffect s move (s.setStage (.leaving s.front.spec.refused))
  | greet {count rest} (front : s.phase = .front) (greeting : s.front.stage = .greeting rest)
      (writable : s.socket.writable = true) (some : 0 < count) (more : rest.drop count ≠ []) :
    HandlerEffect s (.greet count)
      { s.setStage (.greeting (rest.drop count)) with socket.written := s.socket.written ++ rest.take count }
  | greeted {count rest} (front : s.phase = .front) (greeting : s.front.stage = .greeting rest)
      (writable : s.socket.writable = true) (some : 0 < count) (last : rest.drop count = []) :
    HandlerEffect s (.greet count) { s.relay with socket.written := s.socket.written ++ rest.take count }
  | greetError {rest} (front : s.phase = .front) (greeting : s.front.stage = .greeting rest) :
    HandlerEffect s .greetError (s.setStage (.leaving []))
  | forwarded {bytes} (front : s.phase = .front) (forwarding : s.front.stage = .forwarding bytes) :
    HandlerEffect s .forwarded { s.relay with emitted := s.emitted ++ [.data s.id bytes] }
  | unforwarded {bytes} (front : s.phase = .front) (forwarding : s.front.stage = .forwarding bytes) :
    HandlerEffect s .unforwarded (s.setStage (.leaving []))
  | left {reply} (front : s.phase = .front) (leaving : s.front.stage = .leaving reply) (some : reply ≠ []) :
    HandlerEffect s .left (s.setStage (.replying reply))
  | leftSilently (front : s.phase = .front) (leaving : s.front.stage = .leaving []) : HandlerEffect s .left s.abandon
  | reply {count rest} (front : s.phase = .front) (replying : s.front.stage = .replying rest)
      (writable : s.socket.writable = true) (some : 0 < count) (more : rest.drop count ≠ []) :
    HandlerEffect s (.reply count)
      { s.setStage (.replying (rest.drop count)) with socket.written := s.socket.written ++ rest.take count }
  | replied {count rest} (front : s.phase = .front) (replying : s.front.stage = .replying rest)
      (writable : s.socket.writable = true) (some : 0 < count) (last : rest.drop count = []) :
    HandlerEffect s (.reply count) { s.abandon with socket.written := s.socket.written ++ rest.take count }
  | replyError {rest} (front : s.phase = .front) (replying : s.front.stage = .replying rest) :
    HandlerEffect s .replyError s.abandon

private theorem writeReply_some {s s' : Stream Handler} {rest : Bytes} {count : Nat} {next : Stream Handler → Stream Handler}
    (taken : s.writeReply rest count next = some s') :
    s.socket.writable = true ∧ 0 < count ∧ s' = next { s with socket.written := s.socket.written ++ rest.take count } := by
  unfold Stream.writeReply at taken
  split at taken
  · next guard => cases taken; exact ⟨guard.1, guard.2.1, rfl⟩
  · cases taken

private theorem not_true_of_none {ack : Option Bool} (none : ack = none) : ack ≠ some true := by simp [none]

theorem handlerLocal_ne {move other : HandlerMove} (isLocal : move.isLocal = true) (shared : other.isLocal = false) : move ≠ other := by
  intro same
  simp [same, shared] at isLocal

theorem handlerStep_effect {s s' : Stream Handler} {move : HandlerMove} (taken : s.handlerStep move = some s') :
    HandlerEffect s move s' := by
  unfold Stream.handlerStep at taken
  split at taken
  · cases taken; exact .ack
  · next front start => cases taken; exact .registered front start
  · next front registered => cases taken; exact .inserted front registered
  · next front opening => cases taken; exact .opened front opening
  · next front opening => cases taken; exact .unopened front opening
  · next front awaiting =>
    obtain ⟨ok, ack, rfl⟩ := Option.map_eq_some_iff.mp taken
    cases ok with
    | false => exact .refused front awaiting (by simp [ack]) (.inl rfl) fun _ => ack
    | true =>
      cases opened : s.front.spec.opened with
      | reply bytes => exact .granted front awaiting ack (.inl ⟨opened, by simp [Stream.answered, opened]⟩)
      | forward bytes => exact .granted front awaiting ack (.inr ⟨opened, by simp [Stream.answered, opened]⟩)
  · next front awaiting =>
    split at taken
    · next none => cases taken; exact .refused front awaiting (not_true_of_none none) (.inr (.inl rfl)) (by simp)
    · cases taken
  · next front awaiting =>
    split at taken
    · next guard => cases taken; exact .refused front awaiting (not_true_of_none guard.1) (.inr (.inr rfl)) (by simp)
    · cases taken
  · next rest front greeting =>
    obtain ⟨writable, some, rfl⟩ := writeReply_some taken
    split
    · next last => exact .greeted front greeting writable some last
    · next more => exact .greet front greeting writable some more
  · next front greeting => cases taken; exact .greetError front greeting
  · next front forwarding => cases taken; exact .forwarded front forwarding
  · next front forwarding => cases taken; exact .unforwarded front forwarding
  · next reply front leaving =>
    cases taken
    unfold Stream.finishReply
    split
    · next empty => subst empty; exact .leftSilently front leaving
    · next some => exact .left front leaving some
  · next count rest front replying =>
    obtain ⟨writable, some, rfl⟩ := writeReply_some taken
    unfold Stream.finishReply
    split
    · next last => exact .replied front replying writable some last
    · next more => exact .reply front replying writable some more
  · next front replying => cases taken; exact .replyError front replying
  · cases taken

/-- What never changes before the relay loop. -/
theorem HandlerEffect.same {s s' : Stream Handler} {move} (effect : HandlerEffect s move s') :
    s'.id = s.id ∧ s'.front.tunnel = s.front.tunnel ∧ s'.inflow = s.inflow ∧ s'.arriving = s.arriving := by
  cases effect with
  | granted _ _ _ next => rcases next with ⟨-, rfl⟩ | ⟨-, rfl⟩ <;> exact ⟨rfl, rfl, rfl, rfl⟩
  | _ => exact ⟨rfl, rfl, rfl, rfl⟩

theorem HandlerEffect.quiet {s s' : Stream Handler} {move} (effect : HandlerEffect s move s') (opened : move ≠ .opened)
    (forwarded : move ≠ .forwarded) : s'.emitted = s.emitted := by
  cases effect with
  | opened => exact absurd rfl opened
  | forwarded => exact absurd rfl forwarded
  | granted _ _ _ next => rcases next with ⟨-, rfl⟩ | ⟨-, rfl⟩ <;> rfl
  | _ => rfl

theorem HandlerEffect.sent_frame {s s' : Stream Handler} {move} {frame : Frame} (effect : HandlerEffect s move s')
    (request : s.request = some frame) (which : move = .opened ∨ move = .forwarded) :
    s'.emitted = s.emitted ++ [frame] ∧ (frame = .openStream s.id s.front.spec.dest ∧ s.front.stage = .opening ∨
      ∃ bytes, frame = .data s.id bytes) := by
  rcases which with rfl | rfl
  · cases effect with
    | opened front stage =>
      simp only [Stream.request, front, stage, Option.some.injEq] at request
      subst request
      exact ⟨rfl, .inl ⟨rfl, stage⟩⟩
    | refused _ _ _ which => simp at which
  · cases effect with
    | forwarded front stage =>
      simp only [Stream.request, front, stage, Option.some.injEq] at request
      subst request
      exact ⟨rfl, .inr ⟨_, rfl⟩⟩
    | refused _ _ _ which => simp at which

/-- The slot of OPEN_ACK is filled by the reader only. -/
theorem HandlerEffect.slot {s s' : Stream Handler} {move} (effect : HandlerEffect s move s') (quiet : ∀ ok, move ≠ .ack ok) :
    s'.front.ack = s.front.ack := by
  cases effect with
  | @ack ok => exact absurd rfl (quiet ok)
  | granted _ _ _ next => rcases next with ⟨-, rfl⟩ | ⟨-, rfl⟩ <;> rfl
  | _ => rfl

/-! ### Accounts -/

/-- What the handler writes to the local socket before its relay loop. -/
def greeting (h : Handler) : Bytes :=
  match h.spec.opened with
  | .reply bytes => bytes
  | .forward _ => []

/-- What the handler sends ahead of the bytes it reads. -/
def prelude (h : Handler) : List Bytes :=
  match h.spec.opened with
  | .reply _ => []
  | .forward bytes => [bytes]

def openFrame (s : Stream Handler) : Frame := .openStream s.id s.front.spec.dest

/-- The frames a handler sends before its relay loop. -/
def opening (s : Stream Handler) : List Frame := openFrame s :: (prelude s.front).map (.data s.id)

/-- What a handler has sent and written at each stage. -/
def AtStage (s : Stream Handler) : Stage → Prop
  | .start | .registered | .opening => s.emitted = [] ∧ s.socket.written = []
  | .awaiting => s.emitted = [openFrame s] ∧ s.socket.written = []
  | .greeting rest => s.emitted = [openFrame s] ∧ s.front.ack = some true ∧ ∃ bytes, s.front.spec.opened = .reply bytes ∧
      s.socket.written ++ rest = bytes
  | .forwarding bytes => s.emitted = [openFrame s] ∧ s.front.ack = some true ∧ s.front.spec.opened = .forward bytes ∧
      s.socket.written = []
  | .leaving _ | .replying _ => s.emitted <+: [openFrame s]

theorem AtStage.ack {s : Stream Handler} {stage : Stage} {ok : Bool} (before : AtStage s stage) :
    AtStage { s with front.ack := s.front.ack.or (some ok) } stage := by
  cases stage with
  | greeting rest => obtain ⟨emitted, ack, reply⟩ := before; exact ⟨emitted, by simp [ack], reply⟩
  | forwarding bytes => obtain ⟨emitted, ack, forward⟩ := before; exact ⟨emitted, by simp [ack], forward⟩
  | _ => exact before

structure Handled (s : Stream Handler) : Prop where
  inbound : Inbound (greeting s.front) s
  front : s.phase = .front → AtStage s s.front.stage ∧ s.socket.chunks = []
  unrelayed : s.task = .absent → s.emitted <+: [openFrame s]
  granted : s.task ≠ .absent → s.front.ack = some true
  emits : s.task ≠ .absent → Emits (opening s) s

/-- A handler in its relay loop has sent everything, as long as the frame channel
accepts. -/
def Sending (s : Stream Handler) : Prop := s.task ≠ .absent → Outbound (opening s) s

theorem Handled.fresh (id : StreamId) (tunnel : Tunnel) : Handled (Stream.fresh id ⟨tunnel, .start, none⟩) := by
  refine ⟨⟨?_, ?_, ?_, ?_, ?_, ?_, ?_⟩, ?_, ?_, ?_, ?_⟩ <;> simp [Stream.fresh, Attended, AtStage, Socket.fresh]

theorem Sending.fresh (id : StreamId) (tunnel : Tunnel) : Sending (Stream.fresh id ⟨tunnel, .start, none⟩) := by
  intro running
  simp [Stream.fresh] at running

/-- Writing and stage changes of the front do not touch the data channel. -/
private theorem inbound_front {s s' : Stream Handler} (flow : Inbound (greeting s.front) s) (front : s.phase = .front)
    (inFlow : s'.inflow = s.inflow) (channel : s'.channel = s.channel) (arriving : s'.arriving = s.arriving)
    (task : s'.task = s.task) (phase : s'.phase = .front) : Inbound (greeting s'.front) s' := by
  have absent := flow.front front
  refine ⟨?_, ?_, ?_, ?_, ?_, ?_, ?_⟩
  · rw [inFlow, channel, arriving]; exact flow.queued
  · rw [inFlow, channel]; exact flow.inflow
  · rw [task, channel]; exact flow.unread
  · rw [task, absent]; intro running; exact absurd rfl running
  · rw [channel, flow.attended]; simp [Attended, front, phase]
  · intro _; rw [task]; exact absent
  · intro not; exact absurd phase not

private theorem inbound_relay {s : Stream Handler} {written : Bytes} {emitted : List Frame}
    (flow : Inbound (greeting s.front) s) (front : s.phase = .front) (greeted : written = greeting s.front) :
    Inbound (greeting s.front) { s.relay with socket.written := written, emitted } := by
  refine ⟨flow.queued, flow.inflow, by simp [Stream.relay], ?_, ?_, by simp [Stream.relay], by simp [Stream.relay]⟩
  · intro _
    exact ⟨[], by simp [greeted], by simp [Stream.relay, WriteTask.rest, flow.unread (flow.front front)]⟩
  · simp [Stream.relay, Attended, flow.attended, front]

private theorem inbound_abandon {s : Stream Handler} {written : Bytes}
    (flow : Inbound (greeting s.front) s) (front : s.phase = .front) :
    Inbound (greeting s.front) { s.abandon with socket.written := written } := by
  have absent := flow.front front
  refine ⟨by simp [Stream.abandon], flow.inflow, flow.unread, ?_, ?_, by simp [Stream.abandon], by simp [Stream.abandon]⟩
  · exact fun running => absurd absent running
  · simp [Stream.abandon, Attended, absent]

private theorem greeting_reply {s : Stream Handler} {bytes : Bytes} (opened : s.front.spec.opened = .reply bytes) :
    greeting s.front = bytes := by simp [greeting, opened]

private theorem greeting_forward {s : Stream Handler} {bytes : Bytes} (opened : s.front.spec.opened = .forward bytes) :
    greeting s.front = [] := by simp [greeting, opened]

private theorem opening_reply {s : Stream Handler} {bytes : Bytes} (opened : s.front.spec.opened = .reply bytes) :
    opening s = [openFrame s] := by simp [opening, prelude, opened]

private theorem opening_forward {s : Stream Handler} {bytes : Bytes} (opened : s.front.spec.opened = .forward bytes) :
    opening s = [openFrame s, .data s.id bytes] := by simp [opening, prelude, opened]

/-- A step of the front that stays in the front, by its new stage. -/
private theorem handled_front {s s' : Stream Handler} (valid : Handled s) (front : s.phase = .front) (phase : s'.phase = .front)
    (inFlow : s'.inflow = s.inflow) (channel : s'.channel = s.channel) (arriving : s'.arriving = s.arriving)
    (task : s'.task = s.task) (chunks : s'.socket.chunks = s.socket.chunks) (stage : AtStage s' s'.front.stage)
    (emitted : s'.emitted <+: [openFrame s']) : Handled s' := by
  have absent := valid.inbound.front front
  refine ⟨inbound_front valid.inbound front inFlow channel arriving task phase, fun _ => ⟨stage, ?_⟩, fun _ => emitted, ?_, ?_⟩
  · rw [chunks]; exact (valid.front front).2
  · rw [task]; exact fun running => absurd absent running
  · rw [task]; exact fun running => absurd absent running

/-- The step into the relay loop. -/
private theorem handled_relay {s : Stream Handler} (written : Bytes) (emitted : List Frame) (valid : Handled s)
    (front : s.phase = .front) (greeted : written = greeting s.front) (ack : s.front.ack = some true)
    (sent : emitted = opening s) :
    Handled { s.relay with socket.written := written, emitted } ∧ Sending { s.relay with socket.written := written, emitted } := by
  have account : Outbound (opening s) { s.relay with socket.written := written, emitted } := by
    simp [Outbound, Stream.relay, held, farewell, sent, (valid.front front).2]
  exact ⟨⟨inbound_relay (s := s) valid.inbound front greeted, by simp [Stream.relay], by simp [Stream.relay], fun _ => ack,
    fun _ => account.emits⟩, fun _ => account⟩

private theorem handled_abandon {s : Stream Handler} {written : Bytes} (valid : Handled s) (front : s.phase = .front) :
    Handled { s.abandon with socket.written := written } := by
  have absent := valid.inbound.front front
  refine ⟨inbound_abandon (s := s) valid.inbound front, by simp [Stream.abandon], valid.unrelayed, ?_, ?_⟩
  · exact fun running => absurd absent running
  · exact fun running => absurd absent running

theorem Handled.handlerStep {s s' : Stream Handler} {move} (valid : Handled s) (effect : HandlerEffect s move s') :
    Handled s' ∧ (Sending s → Sending s') := by
  have quiet (front : s.phase = .front) (task : s'.task = s.task) : Sending s → Sending s' := by
    intro _ running
    rw [task, valid.inbound.front front] at running
    exact absurd rfl running
  cases effect with
  | ack =>
    obtain ⟨⟨queued, inflow, unread, written, attended, front, relaying⟩, stage, unrelayed, granted, emits⟩ := valid
    refine ⟨⟨⟨queued, inflow, unread, written, attended, front, relaying⟩, ?_, unrelayed, ?_, emits⟩, fun sending => sending⟩
    · intro phase
      exact ⟨(stage phase).1.ack, (stage phase).2⟩
    · intro running
      simp [granted running]
  | registered front stage | inserted front stage =>
    have before := (valid.front front).1
    rw [stage] at before
    exact ⟨handled_front valid front front rfl rfl rfl rfl rfl before (by simp [Stream.setStage, before.1]), quiet front rfl⟩
  | opened front stage =>
    have before := (valid.front front).1
    rw [stage] at before
    refine ⟨handled_front valid front front rfl rfl rfl rfl rfl ?_ ?_, quiet front rfl⟩
    · exact ⟨by simp [Stream.setStage, before.1, openFrame, Handler.spec], before.2⟩
    · simp [Stream.setStage, before.1, openFrame, Handler.spec]
  | unopened front stage | greetError front stage | unforwarded front stage | refused front stage =>
    have prior := valid.unrelayed (valid.inbound.front front)
    exact ⟨handled_front valid front front rfl rfl rfl rfl rfl prior prior, quiet front rfl⟩
  | left front stage | reply front stage =>
    have prior := valid.unrelayed (valid.inbound.front front)
    exact ⟨handled_front valid front front rfl rfl rfl rfl rfl prior prior, quiet front rfl⟩
  | granted front stage ack next =>
    have before := (valid.front front).1
    rw [stage] at before
    rcases next with ⟨opened, rfl⟩ | ⟨opened, rfl⟩
    · exact ⟨handled_front valid front front rfl rfl rfl rfl rfl
        ⟨before.1, ack, _, opened, by simp [Stream.setStage, before.2]⟩
        (by simp [Stream.setStage, before.1, openFrame, Handler.spec]), quiet front rfl⟩
    · exact ⟨handled_front valid front front rfl rfl rfl rfl rfl ⟨before.1, ack, opened, before.2⟩
        (by simp [Stream.setStage, before.1, openFrame, Handler.spec]), quiet front rfl⟩
  | @greet count rest front stage =>
    have before := (valid.front front).1
    rw [stage] at before
    obtain ⟨emitted, ack, bytes, opened, written⟩ := before
    exact ⟨handled_front valid front front rfl rfl rfl rfl rfl
      ⟨emitted, ack, bytes, opened, by simp [written]⟩
      (by simp [Stream.setStage, emitted, openFrame, Handler.spec]), quiet front rfl⟩
  | @greeted count rest front stage _ _ last =>
    have before := (valid.front front).1
    rw [stage] at before
    obtain ⟨emitted, ack, bytes, opened, written⟩ := before
    have all : rest.take count = rest := by
      rw [← List.append_nil (rest.take count), ← last, List.take_append_drop]
    have relaying := handled_relay (s.socket.written ++ rest.take count) s.emitted valid front
      (by rw [all, written, greeting_reply opened]) ack (by rw [emitted, opening_reply opened])
    exact ⟨relaying.1, fun _ => relaying.2⟩
  | forwarded front stage =>
    have before := (valid.front front).1
    rw [stage] at before
    obtain ⟨emitted, ack, opened, written⟩ := before
    have relaying := handled_relay s.socket.written (s.emitted ++ [.data s.id _]) valid front
      (by rw [written, greeting_forward opened]) ack (by rw [emitted, opening_forward opened]; rfl)
    exact ⟨relaying.1, fun _ => relaying.2⟩
  | leftSilently front stage => exact ⟨handled_abandon valid front, quiet front rfl⟩
  | replied front stage => exact ⟨handled_abandon valid front, quiet front rfl⟩
  | replyError front stage => exact ⟨handled_abandon valid front, quiet front rfl⟩

private theorem AtStage.frame {s s' : Stream Handler} {stage : Stage} (before : AtStage s stage) (id : s'.id = s.id)
    (front : s'.front = s.front) (emitted : s'.emitted = s.emitted) (written : s'.socket.written = s.socket.written) :
    AtStage s' stage := by
  cases stage <;> simpa only [AtStage, openFrame, id, front, emitted, written] using before

private theorem opening_same {s s' : Stream Handler} {move} (effect : Effect s move s') :
    opening s' = opening s ∧ openFrame s' = openFrame s := by
  simp only [opening, openFrame, effect.same.1, effect.same.2, and_self]

theorem Handled.step {s s' : Stream Handler} {move} (valid : Handled s) (sending : move = .sent → Sending s)
    (effect : Effect s move s') : Handled s' := by
  obtain ⟨sameOpening, sameOpen⟩ := opening_same effect
  have inbound : Inbound (greeting s'.front) s' := effect.same.2 ▸ valid.inbound.step effect
  refine ⟨inbound, ?_, ?_, ?_, ?_⟩
  · intro phase
    obtain ⟨front, emitted, written, chunks⟩ := effect.front phase (effect.absent.mp (inbound.front phase))
    obtain ⟨stage, none⟩ := valid.front front
    rw [effect.same.2, chunks]
    exact ⟨stage.frame effect.same.1 effect.same.2 emitted written, none⟩
  · intro absent
    have idle := effect.absent.mp absent
    rw [sameOpen]
    cases effect with
    | sentData phase | sentClose phase => exact absurd idle (valid.inbound.relaying (by simp [phase]) (by simp [phase]))
    | _ => exact valid.unrelayed idle
  · rw [Ne, effect.absent, effect.same.2]
    exact valid.granted
  · rw [Ne, effect.absent, sameOpening]
    intro running
    by_cases sent : move = .sent
    · exact ((sending sent running).step effect (by simp [sent])).emits
    · refine (valid.emits running).step effect ?_
      cases effect <;> first | rfl | exact absurd rfl sent

theorem Sending.step {s s' : Stream Handler} {move} (sending : Sending s) (accepted : move ≠ .unsent)
    (effect : Effect s move s') : Sending s' := by
  unfold Sending at sending ⊢
  rw [Ne, effect.absent, (opening_same effect).1]
  exact fun running => (sending running).step effect accepted

/-- What a handler has sent: OPEN, then the bytes it forwards and reads, then CLOSE. -/
theorem Handled.conforms {s : Stream Handler} (valid : Handled s) :
    ∃ sent, sent <+: prelude s.front ++ s.socket.chunks ∧ s.emitted <+: openFrame s :: sent.map (.data s.id) ++ [.close s.id] := by
  by_cases absent : s.task = .absent
  · exact ⟨[], List.nil_prefix, (valid.unrelayed absent).trans (by simp)⟩
  · obtain ⟨sent, read, emitted⟩ := valid.emits absent
    refine ⟨prelude s.front ++ sent, (List.prefix_append_right_inj _).mpr read, ?_⟩
    simpa [opening] using emitted

/-- Before its relay loop a handler has sent no payload and no CLOSE. -/
theorem Handled.sent_granted {s : Stream Handler} {frame : Frame} (valid : Handled s) (sent : frame ∈ s.emitted)
    (other : frame ≠ openFrame s) : s.front.ack = some true := by
  by_cases absent : s.task = .absent
  · have only := (valid.unrelayed absent).subset sent
    exact absurd (List.mem_singleton.mp only) other
  · exact valid.granted absent

end EchoProxy.Proofs.HandlerFlow
