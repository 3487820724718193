import EchoProxy.Proofs.HttpParser
import EchoProxy.Proofs.Progress

/-! The DATA frames of the client against the limits of the receiving WebSocket. A
relay read is far below them; a request with its whole body in one frame need not be. -/

namespace EchoProxy.Proofs.FrameLimits
open EchoProxy StreamFlow HandlerFlow Progress HttpParser

/-- tungstenite's default `max_frame_size`. -/
def maxFrameSize : Nat := 16 * 1024 * 1024

/-- tungstenite's default `max_message_size`. -/
def maxMessageSize : Nat := 64 * 1024 * 1024

/-- The receiver takes the frame: one message travels as one WebSocket frame. -/
def Accepted (frame : Frame) : Prop := frame.encode.length ≤ maxFrameSize ∧ frame.encode.length ≤ maxMessageSize

theorem accepted_data (id : StreamId) (bytes : Bytes) : Accepted (.data id bytes) ↔ bytes.length + 5 ≤ maxFrameSize := by
  have length : (Frame.data id bytes).encode.length = bytes.length + 5 := by
    simp [Frame.encode, toBeBytes]
  have smaller : maxFrameSize ≤ maxMessageSize := by decide
  rw [Accepted, length]
  constructor
  · intro both
    exact both.1
  · intro fits
    exact ⟨fits, fits.trans smaller⟩

/-- No read of the relay loop returns more than its buffer holds. -/
theorem chunks_bounded {token : String} {resilient : Bool} {c : Client} (run : (clientSystem token resilient).Reachable c) :
    ∀ s ∈ c.streams, ∀ chunk ∈ s.socket.chunks, chunk.length ≤ bufferSize := by
  apply client_each (p := fun s => ∀ chunk ∈ s.socket.chunks, chunk.length ≤ bufferSize) run
  · intro id tunnel chunk member
    cases member
  · intro s move s' bounded effect
    cases effect with
    | @read count _ _ fits _ =>
      apply Places.forall_append bounded
      exact (List.length_take_le _ _).trans fits
    | _ => exact bounded
  · intro s move s' bounded effect
    cases effect with
    | granted _ _ _ next => rcases next with ⟨-, rfl⟩ | ⟨-, rfl⟩ <;> exact bounded
    | _ => exact bounded

/-- A payload a handler sent is its request or one read of its socket. -/
theorem payload_source {token : String} {resilient : Bool} {c : Client} {s : Stream Handler} {id : StreamId} {bytes : Bytes}
    (run : (clientSystem token resilient).Reachable c) (here : s ∈ c.streams) (sent : .data id bytes ∈ s.emitted) :
    bytes ∈ prelude s.front ∨ bytes.length ≤ bufferSize := by
  obtain ⟨chunks, front, shape⟩ := ((ClientInvariant.client_valid run).streams.handled s here).conforms
  have member : bytes ∈ chunks ∧ s.id = id := by simpa [openFrame] using shape.subset sent
  rcases List.mem_append.mp (front.subset member.1) with own | read
  · exact .inl own
  · exact .inr (chunks_bounded run s here bytes read)

/-- Every DATA frame of every handler of this request is accepted, in every run. -/
def RequestAccepted (request : ProxyRequest) : Prop :=
  ∀ (token : String) (resilient : Bool) (c : Client), (clientSystem token resilient).Reachable c → ∀ s ∈ c.streams,
    s.front.tunnel = .viaMux request ∨ s.front.tunnel = .viaMuxWithTimeout request →
      ∀ id bytes, .data id bytes ∈ s.emitted → Accepted (.data id bytes)

/-- The frame that carries the request is small enough. -/
def FitsOneFrame (request : ProxyRequest) : Prop :=
  request.isConnect = true ∨ (asBytes request.headers).length + request.body.length + 5 ≤ maxFrameSize

private theorem prelude_request {s : Stream Handler} {request : ProxyRequest}
    (tunnel : s.front.tunnel = .viaMux request ∨ s.front.tunnel = .viaMuxWithTimeout request) :
    prelude s.front = firstData request := by
  rcases tunnel with tunnel | tunnel <;>
    cases connect : request.isConnect <;>
      simp [prelude, Handler.spec, tunnel, Tunnel.spec, handleViaMux, handleViaMuxWithTimeout, firstData, connect]

private theorem read_accepted (id : StreamId) {bytes : Bytes} (short : bytes.length ≤ bufferSize) : Accepted (.data id bytes) := by
  have room : bufferSize + 5 ≤ maxFrameSize := by decide
  rw [accepted_data]
  omega

theorem fits_accepted {request : ProxyRequest} (fits : FitsOneFrame request) : RequestAccepted request := by
  intro token resilient c run s here tunnel id bytes sent
  rcases payload_source run here sent with own | read
  · rw [prelude_request tunnel, firstData] at own
    rcases fits with connect | small
    · simp [connect] at own
    · rw [accepted_data]
      cases connect : request.isConnect with
      | true => simp [connect] at own
      | false =>
        have same : bytes = asBytes request.headers ++ request.body := by simpa [connect] using own
        rw [same, List.length_append]
        exact small
  · exact read_accepted id read

/-- A tunnel for a plain request is granted and sends the request. -/
private def forwardRun (request : ProxyRequest) : List ClientAction :=
  [.connect, .accept 1 (.viaMux request), .handler 0 .register, .handler 0 .insertAck, .handler 0 .send,
    .incoming (Frame.openAck 1 true).message, .handler 0 (.stream .acked), .handler 0 .send]

private theorem forwardRun_sends (request : ProxyRequest) (plain : request.isConnect = false) :
    ∃ c s, (clientSystem "t" false).Reachable c ∧ s ∈ c.streams ∧ s.front.tunnel = .viaMux request ∧
      .data 1 (asBytes request.headers ++ request.body) ∈ s.emitted := by
  obtain ⟨host, connect, headers, body⟩ := request
  cases plain
  have executed : ∃ c s, (clientSystem "t" false).exec (Client.fresh "t" false) (forwardRun ⟨host, false, headers, body⟩) = some c ∧
      c.streams = [s] ∧ s.front.tunnel = .viaMux ⟨host, false, headers, body⟩ ∧
      s.emitted = [.openStream 1 host, .data 1 (asBytes headers ++ body)] := ⟨_, _, rfl, rfl, rfl, rfl⟩
  obtain ⟨c, s, ran, streams, tunnel, emitted⟩ := executed
  have start : (clientSystem "t" false).Reachable (Client.fresh "t" false) := .init rfl
  exact ⟨c, s, start.exec (fun _ _ => trivial) ran, by simp [streams], tunnel, by simp [emitted]⟩

/-- The frames of a request are all accepted exactly if the one that carries it is small
enough; those of a SOCKS5 tunnel always are. -/
theorem data_frames_accepted (request : ProxyRequest) :
    (RequestAccepted request ↔ FitsOneFrame request) ∧
    ∀ (token : String) (resilient : Bool) (c : Client), (clientSystem token resilient).Reachable c → ∀ s ∈ c.streams,
      ∀ dest, s.front.tunnel = .socksViaMuxWithTimeout dest → ∀ id bytes, .data id bytes ∈ s.emitted → Accepted (.data id bytes) := by
  refine ⟨⟨fun accepted => ?_, fits_accepted⟩, ?_⟩
  · cases connect : request.isConnect with
    | true => exact .inl connect
    | false =>
      obtain ⟨c, s, run, here, tunnel, sent⟩ := forwardRun_sends request connect
      have whole := accepted "t" false c run s here (.inl tunnel) 1 _ sent
      rw [accepted_data, List.length_append] at whole
      exact .inr whole
  · intro token resilient c run s here dest tunnel id bytes sent
    rcases payload_source run here sent with own | read
    · simp [prelude, Handler.spec, tunnel, Tunnel.spec, handleSocksViaMuxWithTimeout] at own
    · exact read_accepted id read

private def uploadHead : Bytes := asBytes "POST / HTTP/1.1\r\nHost: a:1\r\nContent-Length: 16777216\r\n\r\n"

/-- An upload of 16 MiB. -/
private def upload : Bytes := uploadHead ++ List.replicate 16777216 0

private theorem upload_parsed : ∃ request rest, parseRequestHeader byteReader (upload, false) = some (request, rest) ∧
    request.isConnect = false ∧ request.body.length = 16777216 := by
  have executed : (readHeaders byteReader (maxHeaderBytes + 1) .empty (uploadHead, true)).any (fun found =>
      decide ("CONNECT ".toList.isPrefixOf found.1.headers.toList = false ∧ found.1.contentLength = 16777216 ∧ found.2.1 = [])) =
        true := by decide +kernel
  obtain ⟨⟨block, rest, left⟩, read, view⟩ := (Option.any_eq_true _ _).mp executed
  obtain ⟨plain, length, empty⟩ := of_decide_eq_true view
  dsimp only at plain length empty
  subst empty
  have headers := readHeaders_extend read (List.replicate 16777216 0) false
  refine ⟨⟨block.host, false, block.headers, List.replicate 16777216 0⟩, ([], false), ?_, rfl, List.length_replicate⟩
  have body := byteReader_all (List.replicate 16777216 0) false
  rw [List.length_replicate] at body
  rw [parseRequestHeader, upload, headers, Option.bind_some, List.nil_append]
  simp only [length, body, plain, Option.map_some]

/-- A request that is admitted and makes the server's reader fail. -/
theorem upload_rejected : ∃ socket request rest, localRequest socket = some (request, rest) ∧ ¬RequestAccepted request := by
  obtain ⟨request, rest, parsed, plain, length⟩ := upload_parsed
  have bytes := localRequest_bytes upload (fun _ => 0) false
  rw [parsed, Option.map_some] at bytes
  obtain ⟨⟨found, socket⟩, read, rfl⟩ := Option.map_eq_some_iff.mp bytes
  refine ⟨_, _, _, read, fun accepted => ?_⟩
  obtain ⟨c, s, run, here, tunnel, sent⟩ := forwardRun_sends found plain
  have whole := accepted "t" false c run s here (.inl tunnel) 1 _ sent
  rw [accepted_data, List.length_append, length] at whole
  have limit : maxFrameSize = 16777216 := rfl
  omega

end EchoProxy.Proofs.FrameLimits
