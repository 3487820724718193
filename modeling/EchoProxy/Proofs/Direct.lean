import EchoProxy.Direct
import EchoProxy.Proofs.DirectRelay

/-! What the direct route delivers. Its two ends see the same bytes as the two ends of a
tunnel: the same reply, the same head, and then the relay. -/

namespace EchoProxy.Proofs.Direct
open EchoProxy Transition EndToEnd StreamEnd DirectRelay

/-! ### What the two ends see -/

/-- Everything written to the local client. -/
def told : EchoProxy.Direct → Bytes
  | .dialing client | .refusing client _ | .greeting client _ _ | .forwarding client _ _ | .returned client _ => client.written
  | .relaying told _ relay => told ++ relay.a.written

/-- Everything written to the destination. -/
def reached : EchoProxy.Direct → Bytes
  | .dialing _ | .refusing _ _ | .returned _ none => []
  | .greeting _ upstream _ | .forwarding _ upstream _ | .returned _ (some upstream) => upstream.written
  | .relaying _ forwarded relay => forwarded ++ relay.b.written

def client : EchoProxy.Direct → Socket
  | .dialing client | .refusing client _ | .greeting client _ _ | .forwarding client _ _ | .returned client _ => client
  | .relaying _ _ relay => relay.a

def upstream : EchoProxy.Direct → Option Socket
  | .dialing _ | .refusing _ _ => none
  | .greeting _ upstream _ | .forwarding _ upstream _ => some upstream
  | .returned _ upstream => upstream
  | .relaying _ _ relay => some relay.b

/-- The two directions of the route, with `a` for the local client. -/
def source : Direction → EchoProxy.Direct → Option Socket
  | .aToB, d => some (client d)
  | .bToA, d => upstream d

def written : Direction → EchoProxy.Direct → Bytes
  | .aToB, d => reached d
  | .bToA, d => told d

/-- The tunnel that the direct route stands in for. -/
abbrev tunnel (request : ProxyRequest) : Tunnel := .viaMuxWithTimeout request

/-- What is written ahead of the relay. -/
def ahead (request : ProxyRequest) : Direction → Bytes
  | .aToB => forwarded (tunnel request)
  | .bToA => successReply (tunnel request)

def sentBy (direction : Direction) (d : EchoProxy.Direct) : Bytes := ((source direction d).map sent).getD []

/-! ### Steps -/

/-- What a move does. -/
inductive DirectEffect (request : ProxyRequest) : EchoProxy.Direct → DirectMove → EchoProxy.Direct → Prop where
  | connected {client} (connects : request.isConnect = true) :
    DirectEffect request (.dialing client) .connected (.greet client .fresh connectionEstablished)
  | forwards {client} (plain : request.isConnect = false) :
    DirectEffect request (.dialing client) .connected (.forward client .fresh (asBytes request.headers ++ request.body))
  | unconnected {client} : DirectEffect request (.dialing client) .unconnected (.refuse client badGateway)
  | dialing {client move client'} (moved : client.peer move = some client') :
    DirectEffect request (.dialing client) (.client move) (.dialing client')
  | refusing {client rest move client'} (moved : client.peer move = some client') :
    DirectEffect request (.refusing client rest) (.client move) (.refusing client' rest)
  | refuse {client rest count client' rest'} (wrote : client.write rest count = some (client', rest')) :
    DirectEffect request (.refusing client rest) (.write count) (.refuse client' rest')
  | unrefused {client rest} : DirectEffect request (.refusing client rest) .writeError (.returned client none)
  | greetingClient {client upstream rest move client'} (moved : client.peer move = some client') :
    DirectEffect request (.greeting client upstream rest) (.client move) (.greeting client' upstream rest)
  | greetingUpstream {client upstream rest move upstream'} (moved : upstream.peer move = some upstream') :
    DirectEffect request (.greeting client upstream rest) (.upstream move) (.greeting client upstream' rest)
  | greet {client upstream rest count client' rest'} (wrote : client.write rest count = some (client', rest')) :
    DirectEffect request (.greeting client upstream rest) (.write count) (.greet client' upstream rest')
  | ungreeted {client upstream rest} :
    DirectEffect request (.greeting client upstream rest) .writeError (.returned client (some upstream))
  | forwardingClient {client upstream rest move client'} (moved : client.peer move = some client') :
    DirectEffect request (.forwarding client upstream rest) (.client move) (.forwarding client' upstream rest)
  | forwardingUpstream {client upstream rest move upstream'} (moved : upstream.peer move = some upstream') :
    DirectEffect request (.forwarding client upstream rest) (.upstream move) (.forwarding client upstream' rest)
  | forward {client upstream rest count upstream' rest'}
      (wrote : upstream.write rest count = some (upstream', rest')) :
    DirectEffect request (.forwarding client upstream rest) (.write count) (.forward client upstream' rest')
  | unforwarded {client upstream rest} :
    DirectEffect request (.forwarding client upstream rest) .writeError (.returned client (some upstream))
  | relay {told reached relay action relay'} (stepped : relay.step action = some relay') :
    DirectEffect request (.relaying told reached relay) (.relay action) (.relaying told reached relay')

theorem direct_effect {request : ProxyRequest} {d d' : EchoProxy.Direct} {move : DirectMove}
    (taken : d.step request move = some d') :
    DirectEffect request d move d' := by
  unfold Direct.step at taken
  split at taken
  · cases taken
    split
    · next connects => exact .connected connects
    · next plain => exact .forwards (by simpa using plain)
  · cases taken; exact .unconnected
  · obtain ⟨client', moved, rfl⟩ := Option.map_eq_some_iff.mp taken
    exact .dialing moved
  · obtain ⟨client', moved, rfl⟩ := Option.map_eq_some_iff.mp taken
    exact .refusing moved
  · obtain ⟨⟨client', rest'⟩, wrote, rfl⟩ := Option.map_eq_some_iff.mp taken
    exact .refuse wrote
  · cases taken; exact .unrefused
  · obtain ⟨client', moved, rfl⟩ := Option.map_eq_some_iff.mp taken
    exact .greetingClient moved
  · obtain ⟨upstream', moved, rfl⟩ := Option.map_eq_some_iff.mp taken
    exact .greetingUpstream moved
  · obtain ⟨⟨client', rest'⟩, wrote, rfl⟩ := Option.map_eq_some_iff.mp taken
    exact .greet wrote
  · cases taken; exact .ungreeted
  · obtain ⟨client', moved, rfl⟩ := Option.map_eq_some_iff.mp taken
    exact .forwardingClient moved
  · obtain ⟨upstream', moved, rfl⟩ := Option.map_eq_some_iff.mp taken
    exact .forwardingUpstream moved
  · obtain ⟨⟨upstream', rest'⟩, wrote, rfl⟩ := Option.map_eq_some_iff.mp taken
    exact .forward wrote
  · cases taken; exact .unforwarded
  · obtain ⟨relay', stepped, rfl⟩ := Option.map_eq_some_iff.mp taken
    exact .relay stepped
  · cases taken

private theorem write_same {socket socket' : Socket} {rest rest' : Bytes} {count : Nat}
    (wrote : socket.write rest count = some (socket', rest')) :
    sent socket' = sent socket ∧ socket'.shut = socket.shut := by
  obtain ⟨-, same⟩ := Option.ite_none_right_eq_some.mp wrote
  cases same
  exact ⟨rfl, rfl⟩

private theorem refuse_client (client' : Socket) (rest : Bytes) : client (.refuse client' rest) = client' := by
  unfold Direct.refuse
  split <;> rfl

private theorem greet_client (client' upstream' : Socket) (rest : Bytes) :
    sent (client (.greet client' upstream' rest)) = sent client' := by
  unfold Direct.greet
  split <;> rfl

private theorem forward_client (client' upstream' : Socket) (rest : Bytes) :
    sent (client (.forward client' upstream' rest)) = sent client' := by
  unfold Direct.forward
  split <;> rfl

/-- What the client has sent behind its request only grows. -/
theorem client_grows {request : ProxyRequest} {d d' : EchoProxy.Direct} {move : DirectMove}
    (effect : DirectEffect request d move d') :
    sent (client d) <+: sent (client d') := by
  cases effect with
  | connected => rw [greet_client]; rfl
  | forwards => rw [forward_client]; rfl
  | unconnected => rw [refuse_client]; rfl
  | dialing moved | refusing moved | greetingClient moved | forwardingClient moved => exact peer_grows moved
  | refuse wrote => rw [refuse_client, (write_same wrote).1]; rfl
  | greet wrote => rw [greet_client, (write_same wrote).1]; rfl
  | forward wrote => rw [forward_client]; rfl
  | greetingUpstream | forwardingUpstream | unrefused | ungreeted | unforwarded => exact List.prefix_rfl
  | relay stepped => exact source_grows .aToB stepped

/-! ### Accounts -/

/-- Where the handler stands, after moves all of which were allowed. -/
def Attends (request : ProxyRequest) (allowed : DirectMove → Prop) : EchoProxy.Direct → Prop
  | .dialing client => client.chunks = [] ∧ client.written = []
  | .refusing client rest => rest ≠ [] ∧ client.written ++ rest = badGateway
  | .greeting client upstream rest => (rest ≠ [] ∧ client.written ++ rest = successReply (tunnel request)) ∧
    forwarded (tunnel request) = [] ∧ (client.chunks = [] ∧ upstream.chunks = []) ∧ upstream.written = []
  | .forwarding client upstream rest => (rest ≠ [] ∧ upstream.written ++ rest = forwarded (tunnel request)) ∧
    successReply (tunnel request) = [] ∧ (client.chunks = [] ∧ upstream.chunks = []) ∧ client.written = []
  | .relaying told reached relay => told = successReply (tunnel request) ∧ reached = forwarded (tunnel request) ∧
    relayTcpSystem.Reach (fun action => allowed (.relay action)) relay
  | .returned client upstream => (client.written = badGateway ∧ upstream = none) ∨ allowed .writeError ∧
    ((client.written <+: badGateway ∧ upstream = none) ∨
      ∃ socket, upstream = some socket ∧ client.written <+: successReply (tunnel request) ∧
        socket.written <+: forwarded (tunnel request))

section Accounts
variable {request : ProxyRequest} {allowed : DirectMove → Prop}

private theorem attends_relay {client upstream : Socket}
    (greeted : client.written = successReply (tunnel request))
    (headed : upstream.written = forwarded (tunnel request))
    (unread : client.chunks = [] ∧ upstream.chunks = []) :
    Attends request allowed (.relay client upstream) :=
  ⟨greeted, headed, .init ⟨⟨rfl, rfl⟩, ⟨unread.1, rfl⟩, unread.2, rfl⟩⟩

private theorem attends_refuse {client : Socket} {rest : Bytes} (whole : client.written ++ rest = badGateway) :
    Attends request allowed (.refuse client rest) := by
  unfold Direct.refuse
  split
  · next none => exact .inl ⟨by simpa [none] using whole, rfl⟩
  · next some => exact ⟨some, whole⟩

private theorem attends_greet {client upstream : Socket} {rest : Bytes}
    (whole : client.written ++ rest = successReply (tunnel request))
    (headless : forwarded (tunnel request) = []) (unread : client.chunks = [] ∧ upstream.chunks = [])
    (unwritten : upstream.written = []) :
    Attends request allowed (.greet client upstream rest) := by
  unfold Direct.greet
  split
  · next none => exact attends_relay (by simpa [none] using whole) (unwritten.trans headless.symm) unread
  · next some => exact ⟨⟨some, whole⟩, headless, unread, unwritten⟩

private theorem attends_forward {client upstream : Socket} {rest : Bytes}
    (whole : upstream.written ++ rest = forwarded (tunnel request))
    (silent : successReply (tunnel request) = []) (unread : client.chunks = [] ∧ upstream.chunks = [])
    (untold : client.written = []) :
    Attends request allowed (.forward client upstream rest) := by
  unfold Direct.forward
  split
  · next none => exact attends_relay (untold.trans silent.symm) (by simpa [none] using whole) unread
  · next some => exact ⟨⟨some, whole⟩, silent, unread, untold⟩

private theorem write_whole {socket socket' : Socket} {rest rest' whole : Bytes} {count : Nat}
    (written : socket.write rest count = some (socket', rest')) (account : socket.written ++ rest = whole) :
    socket'.written ++ rest' = whole ∧ socket'.chunks = socket.chunks := by
  obtain ⟨-, same⟩ := Option.ite_none_right_eq_some.mp written
  cases same
  exact ⟨by simpa using account, rfl⟩

theorem Attends.step {d d' : EchoProxy.Direct} {move : DirectMove} (valid : Attends request allowed d)
    (permitted : allowed move)
    (effect : DirectEffect request d move d') : Attends request allowed d' := by
  cases effect with
  | connected connects =>
    obtain ⟨unread, untold⟩ := valid
    exact attends_greet (by simp [untold, successReply, connects]) (by simp [forwarded, connects])
      ⟨unread, rfl⟩ rfl
  | forwards plain =>
    obtain ⟨unread, untold⟩ := valid
    exact attends_forward (by simp [Socket.fresh, forwarded, plain]) (by simp [successReply, plain])
      ⟨unread, rfl⟩ untold
  | unconnected => exact attends_refuse (by simp [valid.2])
  | dialing moved =>
    obtain ⟨chunks, written⟩ := peer_same moved
    exact ⟨chunks.trans valid.1, written.trans valid.2⟩
  | refusing moved =>
    obtain ⟨some, whole⟩ := valid
    exact ⟨some, (peer_same moved).2.symm ▸ whole⟩
  | refuse wrote => exact attends_refuse (write_whole wrote valid.2).1
  | unrefused => exact .inr ⟨permitted, .inl ⟨⟨_, valid.2⟩, rfl⟩⟩
  | greetingClient moved =>
    obtain ⟨⟨some, whole⟩, headless, unread, unwritten⟩ := valid
    obtain ⟨chunks, written⟩ := peer_same moved
    exact ⟨⟨some, written ▸ whole⟩, headless, ⟨chunks.trans unread.1, unread.2⟩, unwritten⟩
  | greetingUpstream moved =>
    obtain ⟨account, headless, unread, unwritten⟩ := valid
    obtain ⟨chunks, written⟩ := peer_same moved
    exact ⟨account, headless, ⟨unread.1, chunks.trans unread.2⟩, written.trans unwritten⟩
  | greet wrote =>
    obtain ⟨⟨-, whole⟩, headless, unread, unwritten⟩ := valid
    obtain ⟨account, chunks⟩ := write_whole wrote whole
    exact attends_greet account headless ⟨chunks.trans unread.1, unread.2⟩ unwritten
  | ungreeted =>
    obtain ⟨⟨-, whole⟩, headless, -, unwritten⟩ := valid
    exact .inr ⟨permitted, .inr ⟨_, rfl, ⟨_, whole⟩, unwritten ▸ List.nil_prefix⟩⟩
  | forwardingClient moved =>
    obtain ⟨account, silent, unread, untold⟩ := valid
    obtain ⟨chunks, written⟩ := peer_same moved
    exact ⟨account, silent, ⟨chunks.trans unread.1, unread.2⟩, written.trans untold⟩
  | forwardingUpstream moved =>
    obtain ⟨⟨some, whole⟩, silent, unread, untold⟩ := valid
    obtain ⟨chunks, written⟩ := peer_same moved
    exact ⟨⟨some, written ▸ whole⟩, silent, ⟨unread.1, chunks.trans unread.2⟩, untold⟩
  | forward wrote =>
    obtain ⟨⟨-, whole⟩, silent, unread, untold⟩ := valid
    obtain ⟨account, chunks⟩ := write_whole wrote whole
    exact attends_forward account silent ⟨unread.1, chunks.trans unread.2⟩ untold
  | unforwarded =>
    obtain ⟨⟨-, whole⟩, silent, -, untold⟩ := valid
    exact .inr ⟨permitted, .inr ⟨_, rfl, untold ▸ List.nil_prefix, ⟨_, whole⟩⟩⟩
  | relay stepped =>
    obtain ⟨greeted, headed, run⟩ := valid
    exact ⟨greeted, headed, run.step permitted stepped⟩

theorem attends {d : EchoProxy.Direct} (run : (directSystem request).Reach allowed d) :
    Attends request allowed d := by
  refine run.invariant (p := Attends request allowed) ?_ fun _ _ _ _ valid permitted taken =>
    valid.step permitted (direct_effect taken)
  rintro d ⟨client, rfl, unread, unwritten⟩
  exact ⟨unread, unwritten⟩

/-- The client has been told of the failed connect, or both ends have a front of what is
due to them. -/
theorem Attends.fronts {d : EchoProxy.Direct} (valid : Attends request allowed d) :
    (told d <+: badGateway ∧ upstream d = none) ∨ ∀ direction,
      written direction d <+: ahead request direction ++ sentBy direction d := by
  cases d with
  | dialing client =>
    refine .inl ⟨?_, rfl⟩
    rw [told, valid.2]
    exact List.nil_prefix
  | refusing client rest => exact .inl ⟨⟨rest, valid.2⟩, rfl⟩
  | greeting client upstream rest =>
    obtain ⟨⟨-, whole⟩, -, -, unwritten⟩ := valid
    refine .inr fun direction => ?_
    cases direction with
    | aToB =>
      rw [written, reached, unwritten]
      exact List.nil_prefix
    | bToA =>
      have front : client.written <+: successReply (tunnel request) := ⟨rest, whole⟩
      exact front.trans (List.prefix_append _ _)
  | forwarding client upstream rest =>
    obtain ⟨⟨-, whole⟩, -, -, untold⟩ := valid
    refine .inr fun direction => ?_
    cases direction with
    | aToB =>
      have front : upstream.written <+: forwarded (tunnel request) := ⟨rest, whole⟩
      exact front.trans (List.prefix_append _ _)
    | bToA =>
      rw [written, told, untold]
      exact List.nil_prefix
  | relaying told' reached' relay =>
    obtain ⟨rfl, rfl, run⟩ := valid
    refine .inr fun direction => ?_
    have front := written_front run.reachable direction
    cases direction with
    | aToB | bToA => exact (List.prefix_append_right_inj _).mpr front
  | returned client upstream =>
    rcases valid with ⟨answered, none⟩ | ⟨-, ⟨answered, none⟩ | ⟨socket, some, told, reached⟩⟩
    · exact .inl ⟨answered ▸ List.prefix_rfl, none⟩
    · exact .inl ⟨answered, none⟩
    · subst some
      refine .inr fun direction => ?_
      cases direction with
      | aToB => exact reached.trans (List.prefix_append _ _)
      | bToA => exact told.trans (List.prefix_append _ _)

end Accounts

/-! ### Work -/

/-- The bytes that an answer to the dial puts before the handler. -/
def dialWork (request : ProxyRequest) : Nat :=
  badGateway.length + connectionEstablished.length + (asBytes request.headers ++ request.body).length + 2

def directWork (request : ProxyRequest) : EchoProxy.Direct → Nat
  | .dialing client => 2 * client.incoming.length + dialWork request
  | .refusing _ rest => rest.length
  | .greeting client upstream rest | .forwarding client upstream rest =>
    2 * client.incoming.length + 2 * upstream.incoming.length + rest.length + 2
  | .relaying _ _ relay => relayWork relay
  | .returned _ _ => 0

section Work
variable {request : ProxyRequest}

end Work

/-! ### Rest -/

/-- A read or a write fails that the direction depends on: the handler's own before the
relay, and then those of its task. -/
def fails (direction : Direction) : DirectMove → Bool
  | .writeError => true
  | .relay action => direction.fails action
  | _ => false

/-- Both sockets take writes. -/
def Writable (d : EchoProxy.Direct) : Prop :=
  (client d).writable = true ∧ ∀ socket, upstream d = some socket → socket.writable = true

/-- What one side had sent `before` is written at the other, and the task that wrote it has
ended if that side has. -/
def Delivered (request : ProxyRequest) (direction : Direction) (before final : EchoProxy.Direct) : Prop :=
  written direction final = ahead request direction ++ sentBy direction before ∧
    ∃ socket told forwarded relay, source direction before = some socket ∧
      final = .relaying told forwarded relay ∧
      (direction.pump relay = .ended ↔ socket.shut = true)

/-- From `before` on, with no more from the network: the handler comes to rest, in the
dial, after the failure reply, or in the relay with everything delivered. -/
structure Serves (request : ProxyRequest) (direction : Direction) (before : EchoProxy.Direct) : Prop where
  rests : ∃ moves final, (∀ move ∈ moves, move.isInternal = true) ∧
    (directSystem request).exec before moves = some final ∧
    (directSystem request).Quiescent (fun move => move.isInternal = true) final
  bounded : ∀ moves final, (∀ move ∈ moves, move.isInternal = true) →
    (directSystem request).exec before moves = some final →
    moves.length ≤ directWork request before
  delivered : ∀ moves final, (∀ move ∈ moves, move.isInternal = true) →
    (directSystem request).exec before moves = some final →
    (directSystem request).Quiescent (fun move => move.isInternal = true) final → Writable final →
    (∃ client, final = .dialing client) ∨ (told final = badGateway ∧ upstream final = none) ∨
      Delivered request direction before final

section Rest
variable {request : ProxyRequest} {direction : Direction}

private theorem internal_holds {move : DirectMove} (kind : move.isInternal = true) :
    fails direction move = false := by
  cases move with
  | write => rfl
  | relay action => exact DirectRelay.internal_holds direction kind
  | connected | unconnected | client | upstream | writeError => cases kind

end Rest

end EchoProxy.Proofs.Direct
