import EchoProxy.Lib.Places
import EchoProxy.Lib.Rank
import EchoProxy.Proofs.Progress

/-! The work a connection has left. Every step of the two programs does a part of it, and
only accepted connections and bytes that arrive at a socket bring in more: nothing goes
round in circles. -/

namespace EchoProxy.Proofs.Work
open EchoProxy Transition StreamFlow HandlerFlow EndpointSteps ClientSteps ServerSteps MuxInvariant Places
variable {φ : Type}

/-! ### Frames and streams -/

/-- The steps a frame causes once it is dispatched. -/
def frameWork : Frame → Nat
  | .openStream _ _ => 12
  | .data _ bytes => bytes.length + 2
  | _ => 0

/-- A frame on the frame channel is still to be taken, put and dispatched. -/
def queuedWork (frame : Frame) : Nat := frameWork frame + 3

def messageWork : Message → Nat
  | .binary data => ((Frame.decode data).toOption.map frameWork).getD 0 + 1
  | _ => 0

def writerWork : Writer → Nat
  | .unspawned | .receiving => 2
  | .sending frame => frameWork frame + 4
  | .stopping => 1
  | .ended => 0

/-- `front` is what is left before the relay and in it. -/
def phaseWork (front : Nat) : Phase → Nat
  | .front => front
  | .reading => 6
  | .sending bytes => bytes.length + 12
  | .closing => 5
  | .unregistering => 1
  | .done => 0

def taskWork : WriteTask → Nat
  | .absent | .waiting => 1
  | .writing rest => rest.length + 1
  | .ended | .failed _ => 0

/-- A payload on the data channel is still to be taken and written. -/
def payloadWork (bytes : Bytes) : Nat := bytes.length + 1

def arrivingWork (arriving : Option Bytes) : Nat := (arriving.map fun bytes => bytes.length + 2).getD 0

def streamWork (front : φ → Nat) (s : Stream φ) : Nat :=
  phaseWork (front s.front) s.phase + taskWork s.task + (s.channel.queue.map payloadWork).sum + arrivingWork s.arriving +
    8 * s.socket.incoming.length

/-- What a move does of it; a frame that is sent is left to the frame channel. -/
def moveSpends (s : Stream φ) : Stream.Move → Nat
  | .arrive _ | .shut | .setWritable _ | .readError | .writeError | .lookup _ => 0
  | .sent => (s.outgoing.map queuedWork).getD 0 + 1
  | _ => 1

def moveBrings : Stream.Move → Nat
  | .arrive bytes => 8 * bytes.length
  | .lookup bytes => bytes.length + 2
  | _ => 0

theorem taskWork_waiting : taskWork .waiting = 1 := rfl

theorem taskWork_writeAll (bytes : Bytes) : taskWork (.writeAll bytes) = bytes.length + 1 := by
  cases bytes <;> rfl

theorem effect_work (front : φ → Nat) {s s' : Stream φ} {move : Stream.Move} (effect : Effect s move s') :
    streamWork front s' + moveSpends s move ≤ streamWork front s + moveBrings move := by
  cases effect with
  | arrive => simp only [streamWork, moveSpends, moveBrings, List.length_append]; omega
  | shut | setWritable => exact le_rfl
  | read reading some bounded there =>
    simp only [streamWork, moveSpends, moveBrings, reading, phaseWork, List.length_take, List.length_drop]
    omega
  | readEnd reading | readError reading =>
    simp only [streamWork, moveSpends, moveBrings, reading, phaseWork]
    omega
  | sentData sending =>
    simp only [streamWork, moveSpends, moveBrings, sending, phaseWork, Stream.outgoing, Option.map_some,
      Option.getD_some, queuedWork, frameWork]
    omega
  | sentClose closing =>
    simp only [streamWork, moveSpends, moveBrings, closing, phaseWork, Stream.outgoing, Option.map_some,
      Option.getD_some, queuedWork, frameWork]
    omega
  | unsentData sending =>
    simp only [streamWork, moveSpends, moveBrings, sending, phaseWork]
    omega
  | unsentClose closing =>
    simp only [streamWork, moveSpends, moveBrings, closing, phaseWork]
    omega
  | unregister unregistering =>
    simp only [streamWork, moveSpends, moveBrings, unregistering, phaseWork]
    omega
  | recv waiting takes =>
    have idle : taskWork s.task = 1 := by rw [waiting, taskWork_waiting]
    simp only [streamWork, moveSpends, moveBrings, idle, takes.queue, taskWork_writeAll, List.map_cons,
      List.sum_cons, payloadWork]
    omega
  | @write count rest writing writable some bounded =>
    have busy : taskWork s.task = rest.length + 1 := by rw [writing, taskWork]
    simp only [streamWork, moveSpends, moveBrings, busy, taskWork_writeAll, List.length_drop]
    omega
  | writeError writing =>
    simp only [streamWork, moveSpends, moveBrings, writing, taskWork, Channel.queue_dropReceiver]
    omega
  | finish waiting =>
    simp only [streamWork, moveSpends, moveBrings, waiting, taskWork, Channel.queue_dropReceiver]
    omega
  | lookup free =>
    simp only [streamWork, moveSpends, moveBrings, free, arrivingWork, Option.map_some, Option.map_none,
      Option.getD_some, Option.getD_none]
    omega
  | discarded held =>
    simp only [streamWork, moveSpends, moveBrings, held, arrivingWork, Option.map_some, Option.map_none,
      Option.getD_some, Option.getD_none]
    omega
  | routed held accepts =>
    simp only [streamWork, moveSpends, moveBrings, held, arrivingWork, accepts.queue, Option.map_some,
      Option.map_none, Option.getD_some, Option.getD_none, List.map_append, List.sum_append,
      List.map_cons, List.map_nil, List.sum_cons, List.sum_nil, payloadWork]
    omega

/-! ### Handlers -/

def openedWork : Opening → Nat
  | .reply bytes | .forward bytes => bytes.length

/-- What a handler has left once its OPEN is sent, whatever the answer. -/
def answerWork (spec : HandlerSpec) : Nat := openedWork spec.opened + spec.refused.length + 14

def handlerWork (h : Handler) : Nat :=
  match h.stage with
  | .start => answerWork h.spec + h.spec.unopened.length + 18
  | .registered => answerWork h.spec + h.spec.unopened.length + 17
  | .opening => answerWork h.spec + h.spec.unopened.length + 16
  | .awaiting => answerWork h.spec
  | .greeting rest => rest.length + 8
  | .forwarding bytes => bytes.length + 13
  | .leaving reply => reply.length + 2
  | .replying rest => rest.length + 1

def handlerSpends (s : Stream Handler) : HandlerMove → Nat
  | .ack _ | .timeout | .greetError | .replyError => 0
  | .opened | .forwarded => (s.request.map queuedWork).getD 0 + 1
  | _ => 1

@[simp] theorem spec_stage (h : Handler) (stage : Stage) : ({ h with stage } : Handler).spec = h.spec := rfl

private theorem drop_shorter {rest : Bytes} {count : Nat} (some : 0 < count) (more : rest.drop count ≠ []) :
    (rest.drop count).length < rest.length := by
  have left := List.length_pos_iff.mpr more
  rw [List.length_drop] at left ⊢
  omega

theorem handler_work {s s' : Stream Handler} {move : HandlerMove} (effect : HandlerEffect s move s') :
    streamWork handlerWork s' + handlerSpends s move ≤ streamWork handlerWork s := by
  cases effect with
  | ack => exact le_rfl
  | registered front stage | inserted front stage | unopened front stage =>
    simp only [streamWork, handlerSpends, Stream.setStage, front, phaseWork, handlerWork, stage,
      spec_stage, answerWork]
    omega
  | opened front stage =>
    simp only [streamWork, handlerSpends, Stream.setStage, Stream.request, front, phaseWork,
      handlerWork, stage, spec_stage, answerWork, Option.map_some, Option.getD_some, queuedWork,
      frameWork]
    omega
  | granted front stage ack next =>
    rcases next with ⟨opened, rfl⟩ | ⟨opened, rfl⟩
    all_goals
      simp only [streamWork, handlerSpends, Stream.setStage, front, phaseWork, handlerWork, stage,
        answerWork, opened, openedWork]
      omega
  | refused front stage ack which answered =>
    rcases which with rfl | rfl | rfl
    all_goals
      simp only [streamWork, handlerSpends, Stream.setStage, front, phaseWork, handlerWork, stage, answerWork]
      omega
  | greet front stage writable some more =>
    have shorter := drop_shorter some more
    simp only [streamWork, handlerSpends, Stream.setStage, front, phaseWork, handlerWork, stage]
    omega
  | greeted front stage =>
    simp only [streamWork, handlerSpends, Stream.relay, front, phaseWork, handlerWork, stage, taskWork_waiting]
    omega
  | greetError front stage | unforwarded front stage =>
    simp only [streamWork, handlerSpends, Stream.setStage, front, phaseWork, handlerWork, stage, List.length_nil]
    omega
  | forwarded front stage =>
    simp only [streamWork, handlerSpends, Stream.relay, Stream.request, front, phaseWork, handlerWork,
      stage, taskWork_waiting, Option.map_some, Option.getD_some, queuedWork, frameWork]
    omega
  | left front stage =>
    simp only [streamWork, handlerSpends, Stream.setStage, front, phaseWork, handlerWork, stage]
    omega
  | leftSilently front stage | replyError front stage =>
    simp only [streamWork, handlerSpends, Stream.abandon, front, phaseWork, handlerWork, stage,
      Channel.queue_dropReceiver]
    omega
  | reply front stage writable some more =>
    have shorter := drop_shorter some more
    simp only [streamWork, handlerSpends, Stream.setStage, front, phaseWork, handlerWork, stage]
    omega
  | replied front stage =>
    simp only [streamWork, handlerSpends, Stream.abandon, front, phaseWork, handlerWork, stage,
      Channel.queue_dropReceiver]
    omega

/-! ### Endpoints -/

def endpointWork (front : φ → Nat) (e : Endpoint φ) : Nat :=
  writerWork e.writer + (e.frames.queue.map queuedWork).sum + (e.streams.map (streamWork front)).sum

def wireWork (wire : List Message) : Nat := (wire.map messageWork).sum

def endpointBrings : EndpointAction → Nat
  | .stream _ (.arrive bytes) => 8 * bytes.length
  | _ => 0

/-- One step if the task that takes it belongs to the program. -/
def counts (internal : Bool) : Nat := if internal then 1 else 0

theorem messageWork_message (frame : Frame) : messageWork frame.message = frameWork frame + 1 := by
  simp [messageWork, Frame.message, WireFormat.decode_encode, Except.toOption]

private theorem local_move (s : Stream φ) {move : Stream.Move} (k : Nat) (isLocal : move.isLocal = true) :
    counts move.isInternal ≤ moveSpends s move ∧ moveBrings move = endpointBrings (.stream k move) := by
  cases move with
  | sent | unsent | unregister | finish | lookup | route => cases isLocal
  | _ => exact ⟨by simp [counts, Stream.Move.isInternal, moveSpends], rfl⟩

theorem queued_send {frames frames' : Channel Frame frameCapacity} {frame : Frame}
    (accepts : frames.Accepts frame frames') :
    (frames'.queue.map queuedWork).sum = (frames.queue.map queuedWork).sum + queuedWork frame := by
  simp [accepts.queue]

theorem endpoint_work (front : φ → Nat) {e e' : Endpoint φ} {action : EndpointAction}
    (effect : EndpointEffect e action e') :
    endpointWork front e' + wireWork (e.emits action) + counts action.isInternal ≤
      endpointWork front e + endpointBrings action := by
  cases effect with
  | pop receiving takes =>
    simp only [endpointWork, receiving, writerWork, takes.queue, List.map_cons, List.sum_cons,
      queuedWork, wireWork, Endpoint.emits, List.map_nil, List.sum_nil, counts,
      EndpointAction.isInternal, endpointBrings, if_true]
    omega
  | put sending =>
    simp only [endpointWork, sending, writerWork, wireWork, Endpoint.emits, List.map_cons, List.map_nil,
      List.sum_cons, List.sum_nil, messageWork_message, counts, EndpointAction.isInternal,
      endpointBrings, if_true]
    omega
  | putFail sending =>
    simp only [endpointWork, sending, writerWork, wireWork, Endpoint.emits, List.map_nil, List.sum_nil,
      counts, EndpointAction.isInternal, endpointBrings, Bool.false_eq_true, if_false]
    omega
  | @stream k move s s' found isLocal stepped =>
    have paid := effect_work front stepped
    have total := sum_set found s' (streamWork front)
    obtain ⟨counted, brought⟩ := local_move s k isLocal
    simp only [endpointWork, wireWork, Endpoint.emits, List.map_nil, List.sum_nil, EndpointAction.isInternal]
    omega
  | @sent k frame frames s s' found outgoing accepts stepped =>
    have paid := effect_work front stepped
    have total := sum_set found s' (streamWork front)
    simp only [moveSpends, outgoing, Option.map_some, Option.getD_some, moveBrings] at paid
    simp only [endpointWork, queued_send accepts, wireWork, Endpoint.emits, List.map_nil, List.sum_nil,
      counts, EndpointAction.isInternal, endpointBrings, if_true]
    omega
  | @unsent k frame s s' found outgoing closed stepped =>
    have paid := effect_work front stepped
    have total := sum_set found s' (streamWork front)
    simp only [moveSpends, moveBrings] at paid
    simp only [endpointWork, wireWork, Endpoint.emits, List.map_nil, List.sum_nil, counts,
      EndpointAction.isInternal, endpointBrings, if_true]
    omega
  | @unregister k s s' found stepped | @finish k s s' found disconnected stepped | @route k s s' routing found stepped =>
    have paid := effect_work front stepped
    have total := sum_set found s' (streamWork front)
    simp only [moveSpends, moveBrings] at paid
    simp only [endpointWork, wireWork, Endpoint.emits, List.map_nil, List.sum_nil, counts,
      EndpointAction.isInternal, endpointBrings, if_true]
    omega

/-! ### The client -/

def linkWork : Link → Nat
  | .connecting _ => 7
  | .attached | .clearing => 2
  | .closing => 1
  | .released => 0

def clientReaderWork : ClientReader → Nat
  | .unspawned | .running | .closing => 2
  | .clearing => 1
  | .ended => 0

def clientWork (c : Client) : Nat :=
  endpointWork handlerWork c.toEndpoint + linkWork c.link + clientReaderWork c.reader

/-- What a handler that is accepted will do until it has returned, but for what it reads. -/
def tunnelWork (tunnel : Tunnel) : Nat := answerWork tunnel.spec + tunnel.spec.unopened.length + 19

def clientBrings : ClientAction → Nat
  | .accept _ tunnel => tunnelWork tunnel
  | .endpoint action => endpointBrings action
  | _ => 0

private theorem fresh_handler (id : StreamId) (tunnel : Tunnel) :
    streamWork handlerWork (Stream.fresh id ⟨tunnel, .start, none⟩) = tunnelWork tunnel := rfl

private theorem local_handler (s : Stream Handler) {move : HandlerMove} (isLocal : move.isLocal = true) :
    counts move.isInternal ≤ handlerSpends s move := by
  cases move with
  | acked | timeout | greet | greetError | reply | replyError =>
      simp [counts, HandlerMove.isInternal, handlerSpends]
  | _ => cases isLocal

/-- A binary message is worth the frame in it and the step that takes it. -/
private theorem binary_work {data : Bytes} {frame : Frame} (decoded : Frame.decode data = .ok frame) :
    wireWork (ClientAction.consumes (.incoming (.binary data))) = frameWork frame + 1 := by
  simp [wireWork, ClientAction.consumes, Message.fromWire, messageWork, decoded, Except.toOption]

private theorem binary_taken (message : Message) :
    counts message.isBinary ≤ wireWork (ClientAction.consumes (.incoming message)) := by
  cases message with
  | binary data => simp [counts, Message.isBinary, wireWork, ClientAction.consumes, Message.fromWire, messageWork]
  | ping | other => simp [counts, Message.isBinary]

/-- A step of one handler that leaves the rest of the connection alone. -/
private theorem client_set {c c' : Client} {k spent : Nat} {s s' : Stream Handler}
    (found : c.streams[k]? = some s)
    (streams : c'.streams = c.streams.set k s') (writer : c'.writer = c.writer) (frames : c'.frames = c.frames)
    (link : c'.link = c.link) (reader : c'.reader = c.reader)
    (paid : streamWork handlerWork s' + spent ≤ streamWork handlerWork s) :
    clientWork c' + spent ≤ clientWork c := by
  have total := sum_set found s' (streamWork handlerWork)
  simp only [clientWork, endpointWork, streams, writer, frames, link, reader]
  omega

/-- A step that has nothing to do with the WebSocket. -/
private theorem client_own {c c' : Client} {action : ClientAction} (emits : c.emits action = [])
    (paid : clientWork c' + counts action.isInternal ≤ clientWork c) :
    clientWork c' + wireWork (c.emits action) + counts action.isInternal ≤
      clientWork c + wireWork action.consumes + clientBrings action := by
  have nothing : wireWork [] = 0 := rfl
  rw [emits]
  omega

/-- The step that takes a frame leaves the work the frame causes. -/
private theorem client_taken {c c' : Client} {data : Bytes} {frame : Frame}
    (decoded : Frame.decode data = .ok frame) (paid : clientWork c' ≤ clientWork c + frameWork frame) :
    clientWork c' + wireWork (c.emits (.incoming (.binary data))) + counts (ClientAction.incoming (.binary data)).isInternal ≤
      clientWork c + wireWork (ClientAction.consumes (.incoming (.binary data))) + clientBrings (.incoming (.binary data)) := by
  have taken := binary_work decoded
  have one : counts (ClientAction.incoming (.binary data)).isInternal = 1 := rfl
  have nothing : wireWork (c.emits (.incoming (.binary data))) = 0 := rfl
  omega

theorem client_work {c c' : Client} {action : ClientAction} (effect : ClientEffect c action c') :
    clientWork c' + wireWork (c.emits action) + counts action.isInternal ≤
      clientWork c + wireWork action.consumes + clientBrings action := by
  cases effect with
  | connect connecting =>
    simp only [clientWork, endpointWork, connecting, linkWork, clientReaderWork, writerWork,
      Client.emits, wireWork, List.map_cons, List.map_nil, List.sum_cons, List.sum_nil,
      messageWork_message, frameWork, counts, ClientAction.isInternal, Bool.false_eq_true, if_false]
    omega
  | connectFail connecting =>
    refine client_own rfl ?_
    simp only [clientWork, endpointWork, connecting, linkWork, counts, ClientAction.isInternal,
      Bool.false_eq_true, if_false]
    omega
  | @accept id tunnel attached =>
    have nothing : wireWork (c.emits (.accept id tunnel)) = 0 := rfl
    simp only [clientWork, endpointWork, List.map_append, List.map_cons, List.map_nil, List.sum_append,
      List.sum_cons, List.sum_nil, fresh_handler, nothing, counts, ClientAction.isInternal,
      Bool.false_eq_true, if_false, clientBrings]
    omega
  | register found stepped | insertAck found stepped | ackLost found gone stepped | leave found stepped =>
    exact client_own rfl (client_set found rfl rfl rfl rfl rfl (handler_work stepped))
  | @sent k frame frames s s' move found request accepts which stepped =>
    refine client_own rfl ?_
    have paid := handler_work stepped
    have total := sum_set found s' (streamWork handlerWork)
    have spent : handlerSpends s move = queuedWork frame + 1 := by
      rcases which with rfl | rfl <;> simp [handlerSpends, request]
    simp only [clientWork, endpointWork, queued_send accepts, counts, ClientAction.isInternal,
      HandlerAction.isInternal, if_true]
    omega
  | unsent found request closed which stepped =>
    rcases which with rfl | rfl
    all_goals exact client_own rfl (client_set found rfl rfl rfl rfl rfl (handler_work stepped))
  | @handler k s s' move found isLocal stepped =>
    have paid := handler_work stepped
    have counted := local_handler s isLocal
    refine client_own rfl (client_set found rfl rfl rfl rfl rfl (Nat.le_trans ?_ paid))
    exact Nat.add_le_add_left counted _
  | @endpoint action e effect =>
    have paid := endpoint_work handlerWork effect
    have nothing : wireWork (ClientAction.consumes (.endpoint action)) = 0 := rfl
    simp only [clientWork, Client.emits, ClientAction.isInternal, nothing, clientBrings]
    omega
  | @ignored message running idle which =>
    have taken := binary_taken message
    have nothing : wireWork (c.emits (.incoming message)) = 0 := rfl
    simp only [nothing, ClientAction.isInternal, clientBrings]
    omega
  | broken running idle =>
    refine client_own rfl ?_
    simp only [clientWork, endpointWork, running, clientReaderWork, counts, ClientAction.isInternal,
      Message.isBinary, Bool.false_eq_true, if_false]
    omega
  | acked running idle decoded pending found stepped =>
    refine client_taken decoded ?_
    change clientWork _ + 0 ≤ clientWork c
    exact client_set found rfl rfl rfl rfl rfl (handler_work stepped)
  | @routing id bytes k s s' data running idle decoded registered found stepped =>
    refine client_taken decoded ?_
    have paid := effect_work handlerWork stepped
    have total := sum_set found s' (streamWork handlerWork)
    simp only [moveSpends, moveBrings] at paid
    simp only [clientWork, endpointWork, ClientSteps.received, frameWork]
    omega
  | closed running idle decoded | skipped running idle decoded unknown =>
    refine client_taken decoded ?_
    exact Nat.le_add_right (clientWork c) _
  | readerCloseAll now | readerClear now =>
    refine client_own rfl ?_
    simp only [clientWork, endpointWork, now, clientReaderWork, counts, ClientAction.isInternal, if_true]
    omega
  | writerExit released finished receiving drained =>
    refine client_own rfl ?_
    simp only [clientWork, endpointWork, receiving, writerWork, counts, ClientAction.isInternal, if_true]
    omega
  | writerStop stopping =>
    refine client_own rfl ?_
    simp only [clientWork, endpointWork, stopping, writerWork, Channel.queue_dropReceiver, counts,
      ClientAction.isInternal, if_true]
    omega
  | release attached =>
    refine client_own rfl ?_
    have less : linkWork (if c.resilient then .clearing else .released) ≤ 2 := by split <;> decide
    simp only [clientWork, endpointWork, attached, linkWork, counts, ClientAction.isInternal,
      Bool.false_eq_true, if_false] at less ⊢
    omega
  | releaseClear now | releaseCloseAll now =>
    refine client_own rfl ?_
    simp only [clientWork, endpointWork, now, linkWork, counts, ClientAction.isInternal, if_true]
    omega

/-! ### The server -/

/-- An upstream before its relay: what it will do is counted with the reader. -/
def openedFront (_ : Opened) : Nat := 0

/-- A connect that is pending may add a stream, and its OPEN_ACK starts a relay. -/
def sessionReaderWork : SessionReader → Nat
  | .hello | .presenting _ => 4
  | .running | .closing => 1
  | .connecting _ _ => 13
  | .acking _ => 12
  | .refusing _ => 5
  | .ended | .dropped => 0

def serverWork (c : Server) : Nat := endpointWork openedFront c.toEndpoint + sessionReaderWork c.reader

def serverBrings : ServerAction → Nat
  | .endpoint action => endpointBrings action
  | _ => 0

private theorem server_own {c c' : Server} {action : ServerAction} (emits : c.emits action = [])
    (paid : serverWork c' + counts action.isInternal ≤ serverWork c) :
    serverWork c' + wireWork (c.emits action) + counts action.isInternal ≤
      serverWork c + wireWork action.consumes + serverBrings action := by
  have nothing : wireWork [] = 0 := rfl
  rw [emits]
  omega

private theorem server_taken {c c' : Server} {data : Bytes} {frame : Frame}
    (decoded : Frame.decode data = .ok frame) (paid : serverWork c' ≤ serverWork c + frameWork frame) :
    serverWork c' + wireWork (c.emits (.incoming (.binary data))) + counts (ServerAction.incoming (.binary data)).isInternal ≤
      serverWork c + wireWork (ServerAction.consumes (.incoming (.binary data))) + serverBrings (.incoming (.binary data)) := by
  have taken : wireWork (ServerAction.consumes (.incoming (.binary data))) = frameWork frame + 1 :=
    binary_work decoded
  have one : counts (ServerAction.incoming (.binary data)).isInternal = 1 := rfl
  have nothing : wireWork (c.emits (.incoming (.binary data))) = 0 := rfl
  omega

private theorem fresh_opened (id : StreamId) (opened : Opened) :
    streamWork openedFront (Stream.fresh id opened) = 1 := rfl

/-- An upstream is handed to its relay, whether or not its OPEN_ACK could be sent. -/
private theorem acked_work (s : Stream Opened) (sent : List Frame) :
    streamWork openedFront (acked s sent) ≤ streamWork openedFront s + 7 := by
  simp only [streamWork, acked, Stream.relay, phaseWork, taskWork_waiting]
  omega

theorem server_work {c c' : Server} {action : ServerAction} (effect : ServerEffect c action c') :
    serverWork c' + wireWork (c.emits action) + counts action.isInternal ≤
      serverWork c + wireWork action.consumes + serverBrings action := by
  cases effect with
  | @endpoint action e effect =>
    have paid := endpoint_work openedFront effect
    have nothing : wireWork (ServerAction.consumes (.endpoint action)) = 0 := rfl
    simp only [serverWork, Server.emits, ServerAction.isInternal, nothing, serverBrings]
    omega
  | hello hello decoded =>
    refine server_taken decoded ?_
    simp only [serverWork, endpointWork, hello, sessionReaderWork, ServerSteps.received]
    omega
  | @unwelcome message hello ping other =>
    have taken := binary_taken message
    have same : ServerAction.consumes (.incoming message) = ClientAction.consumes (.incoming message) := rfl
    have nothing : wireWork (c.emits (.incoming message)) = 0 := rfl
    simp only [serverWork, endpointWork, hello, sessionReaderWork, nothing, ServerAction.isInternal,
      serverBrings, same]
    omega
  | @ignored message ready =>
    have taken := binary_taken message
    have same : ServerAction.consumes (.incoming message) = ClientAction.consumes (.incoming message) := rfl
    have nothing : wireWork (c.emits (.incoming message)) = 0 := rfl
    simp only [nothing, ServerAction.isInternal, serverBrings, same]
    omega
  | broken running idle =>
    refine server_own rfl ?_
    simp only [serverWork, endpointWork, running, sessionReaderWork, counts, ServerAction.isInternal,
      Message.isBinary, Bool.false_eq_true, if_false]
    omega
  | opening running idle decoded allowed | blocked running idle decoded forbidden =>
    refine server_taken decoded ?_
    simp only [serverWork, endpointWork, running, sessionReaderWork, ServerSteps.received, frameWork]
    omega
  | @routing id bytes k s s' data running idle decoded registered found stepped =>
    refine server_taken decoded ?_
    have paid := effect_work openedFront stepped
    have total := sum_set found s' (streamWork openedFront)
    simp only [moveSpends, moveBrings] at paid
    simp only [serverWork, endpointWork, ServerSteps.received, frameWork]
    omega
  | closed running idle decoded | skipped running idle decoded unknown =>
    refine server_taken decoded ?_
    exact Nat.le_add_right (serverWork c) _
  | accept presenting =>
    refine server_own rfl ?_
    simp only [serverWork, endpointWork, presenting, sessionReaderWork, writerWork, counts,
      ServerAction.isInternal, if_true]
    omega
  | reject presenting =>
    refine server_own rfl ?_
    simp only [serverWork, endpointWork, presenting, sessionReaderWork, counts, ServerAction.isInternal, if_true]
    omega
  | connectOk connecting =>
    refine server_own rfl ?_
    simp only [serverWork, endpointWork, Server.connected, connecting, sessionReaderWork,
      List.map_append, List.map_cons, List.map_nil, List.sum_append, List.sum_cons, List.sum_nil,
      fresh_opened, counts, ServerAction.isInternal, Bool.false_eq_true, if_false]
    omega
  | connectFail connecting =>
    refine server_own rfl ?_
    simp only [serverWork, endpointWork, connecting, sessionReaderWork, counts, ServerAction.isInternal,
      Bool.false_eq_true, if_false]
    omega
  | refused refusing accepts =>
    refine server_own rfl ?_
    simp only [serverWork, endpointWork, refusing, sessionReaderWork, queued_send accepts, queuedWork,
      frameWork, counts, ServerAction.isInternal, if_true]
    omega
  | unrefused refusing closed =>
    refine server_own rfl ?_
    simp only [serverWork, endpointWork, refusing, sessionReaderWork, counts, ServerAction.isInternal, if_true]
    omega
  | @acked k s frames acking found accepts =>
    refine server_own rfl ?_
    have paid := acked_work s [.openAck s.id true]
    have total := sum_set found (acked s [.openAck s.id true]) (streamWork openedFront)
    simp only [serverWork, endpointWork, acking, sessionReaderWork, queued_send accepts, queuedWork,
      frameWork, counts, ServerAction.isInternal, if_true]
    omega
  | @unacked k s acking found closed =>
    refine server_own rfl ?_
    have paid := acked_work s []
    have total := sum_set found (acked s []) (streamWork openedFront)
    simp only [serverWork, endpointWork, acking, sessionReaderWork, counts, ServerAction.isInternal, if_true]
    omega
  | readerCloseAll closing =>
    refine server_own rfl ?_
    simp only [serverWork, endpointWork, closing, sessionReaderWork, counts, ServerAction.isInternal, if_true]
    omega
  | writerExit finished done receiving drained =>
    refine server_own rfl ?_
    simp only [serverWork, endpointWork, receiving, writerWork, counts, ServerAction.isInternal, if_true]
    omega
  | writerStop stopping =>
    refine server_own rfl ?_
    simp only [serverWork, endpointWork, stopping, writerWork, Channel.queue_dropReceiver, counts,
      ServerAction.isInternal, if_true]
    omega
  | dropped suspended handed =>
    refine server_own rfl ?_
    simp only [serverWork, endpointWork, sessionReaderWork, counts, ServerAction.isInternal,
      Bool.false_eq_true, if_false]
    omega
  | @droppedAcking k s acking found =>
    refine server_own rfl ?_
    have total := sum_set found s.abandon (streamWork openedFront)
    have less : streamWork openedFront s.abandon ≤ streamWork openedFront s := by
      simp only [streamWork, Stream.abandon, phaseWork, Channel.queue_dropReceiver]
      omega
    simp only [serverWork, endpointWork, sessionReaderWork, counts, ServerAction.isInternal,
      Bool.false_eq_true, if_false]
    omega

/-! ### The connection -/

/-- The steps the connection has left. -/
def work (m : Mux) : Nat := clientWork m.client + serverWork m.server + wireWork m.upload + wireWork m.download

/-- What a step brings in: a connection that is accepted, with its request, or the bytes
that arrive at a socket. -/
def brings : MuxAction → Nat
  | .client action => clientBrings action
  | .server action => serverBrings action

private theorem wireWork_append (wire more : List Message) :
    wireWork (wire ++ more) = wireWork wire + wireWork more := by
  simp [wireWork]

private theorem deliver_work {messages wire after : List Message}
    (delivered : Mux.deliver messages wire = some after) :
    wireWork wire = wireWork messages + wireWork after := by
  induction messages generalizing wire with
  | nil =>
    simp only [Mux.deliver, Option.some.injEq] at delivered
    simp [delivered, wireWork]
  | cons message rest ih =>
    cases wire with
    | nil => simp [Mux.deliver] at delivered
    | cons head wire =>
      simp only [Mux.deliver] at delivered
      split at delivered
      · next same =>
        have later := ih delivered
        simp only [wireWork, List.map_cons, List.sum_cons, same] at later ⊢
        omega
      · cases delivered

theorem ranked (capacity : Nat) (token : String) (resilient : Bool) :
    (muxSystem capacity token resilient).Ranked MuxAction.isInternal work brings where
  pays before action after taken := by
    cases mux_effect taken with
    | @client action _ _ _ moved delivered transmitted =>
      have paid := client_work (client_effect moved)
      have off := deliver_work delivered
      have on := wireWork_append before.upload (before.client.emits _) ▸ congrArg wireWork (transmit_some transmitted)
      change work _ + counts action.isInternal ≤ _
      simp only [work, brings]
      omega
    | @server action _ _ _ moved delivered transmitted =>
      have paid := server_work (server_effect moved)
      have off := deliver_work delivered
      have on := wireWork_append before.download (before.server.emits _) ▸ congrArg wireWork (transmit_some transmitted)
      change work _ + counts action.isInternal ≤ _
      simp only [work, brings]
      omega
  own action kind := by
    cases action with
    | client action =>
      cases action with
      | endpoint action =>
        cases action with
        | stream k move => cases move <;> first | rfl | cases kind
        | _ => rfl
      | accept => cases kind
      | _ => rfl
    | server action =>
      cases action with
      | endpoint action =>
        cases action with
        | stream k move => cases move <;> first | rfl | cases kind
        | _ => rfl
      | _ => rfl

/-- A run makes only as many steps of the programs' own as the connections accepted and the
bytes that arrived pay for, and it can always be continued by such steps to rest. -/
theorem run_bounded (capacity : Nat) (token : String) (resilient : Bool) (actions : List MuxAction) (m : Mux)
    (ran : (muxSystem capacity token resilient).exec
      ⟨Client.fresh token resilient, Server.fresh, [], []⟩ actions = some m) :
    actions.countP MuxAction.isInternal + work m ≤ 17 + (actions.map brings).sum ∧
      (∀ more final, (∀ action ∈ more, action.isInternal = true) →
        (muxSystem capacity token resilient).exec m more = some final → more.length + work final ≤ work m) ∧
      ∃ more final, (∀ action ∈ more, action.isInternal = true) ∧
        (muxSystem capacity token resilient).exec m more = some final ∧ Progress.Quiet capacity final := by
  have ranked := ranked capacity token resilient
  refine ⟨?_, ?_, ranked.settles m⟩
  · exact ranked.exec_count ran
  · intro more final kind executed
    exact ranked.exec_length kind executed

theorem oneTunnel_bounded :
    ∃ m, (muxSystem 1 "t" true).exec ⟨Client.fresh "t" true, Server.fresh, [], []⟩ Protocol.oneTunnel = some m ∧
    Protocol.oneTunnel.countP MuxAction.isInternal + work m ≤ 17 + (Protocol.oneTunnel.map brings).sum := by
  have executed : ((muxSystem 1 "t" true).exec
      ⟨Client.fresh "t" true, Server.fresh, [], []⟩ Protocol.oneTunnel).isSome = true := by
    decide +kernel
  obtain ⟨m, ran⟩ := Option.isSome_iff_exists.mp executed
  obtain ⟨bounded, -⟩ := run_bounded 1 "t" true Protocol.oneTunnel m ran
  exact ⟨m, ran, bounded⟩

end EchoProxy.Proofs.Work
