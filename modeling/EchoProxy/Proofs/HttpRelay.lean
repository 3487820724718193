import EchoProxy.Proofs.HttpParser
import EchoProxy.Routing

/-! What a local HTTP connection forwards, and where to. The parser's reader is dropped
with the bytes it read ahead, so that they are lost to the relay; and the first request
decides the destination of all that follows. -/

namespace EchoProxy.Proofs.HttpRelay
open EchoProxy Buffered HttpParser

/-- Everything the connection sends for its destination. -/
def forDestination (request : ProxyRequest) (bytes : Bytes) : Bytes :=
  if request.isConnect then bytes.drop (asBytes request.headers).length else bytes

/-- The bytes of a connection are its request, what the parser read ahead and what
the relay finds. -/
theorem localRequest_splits {bytes : Bytes} {arrived : Nat → Nat} {fails : Bool} {request : ProxyRequest} {socket : Source UInt8}
    (parsed : localRequest ⟨bytes, 0, arrived, fails⟩ = some (request, socket)) :
    ∃ surplus, bytes = asBytes request.headers ++ request.body ++ (surplus ++ socket.rest) ∧
      (surplus = [] ↔ EndsWithRead request bytes.length arrived) := by
  obtain ⟨⟨found, reader⟩, read, same⟩ := Option.map_eq_some_iff.mp parsed
  cases same
  have views := bufReader_views.parseRequestHeader ⟨⟨bytes, 0, arrived, fails⟩, []⟩
  rw [read] at views
  exact ⟨reader.buffer, parse_bytes views.symm, parse_surplus read⟩

theorem forwardedData_flatten (request : ProxyRequest) (socket : Source UInt8) :
    (forwardedData request socket).flatten =
      (if request.isConnect then [] else asBytes request.headers ++ request.body) ++ socket.rest := by
  rw [forwardedData, List.flatten_append, Source.pieces_flatten socket (by decide) (Nat.lt_succ_self _)]
  cases connect : request.isConnect <;> simp [firstData, connect]

/-- All there is for the destination is forwarded exactly if one of the parser's reads
ends with the request, and CONNECT has no body. -/
theorem forwardedData_exact {bytes : Bytes} {arrived : Nat → Nat} {fails : Bool} {request : ProxyRequest} {socket : Source UInt8}
    (parsed : localRequest ⟨bytes, 0, arrived, fails⟩ = some (request, socket)) :
    (forwardedData request socket).flatten = forDestination request bytes ↔
      EndsWithRead request bytes.length arrived ∧ (request.isConnect = true → request.body = []) := by
  obtain ⟨surplus, split, ends⟩ := localRequest_splits parsed
  rw [forwardedData_flatten, ← ends, forDestination]
  cases connect : request.isConnect with
  | false =>
    simp only [Bool.false_eq_true, ↓reduceIte, false_implies, and_true]
    rw [split, List.append_right_inj, List.self_eq_append_left]
  | true =>
    have after : bytes.drop (asBytes request.headers).length = request.body ++ surplus ++ socket.rest := by
      rw [split, List.append_assoc, List.drop_left, List.append_assoc]
    simp only [↓reduceIte, List.nil_append, true_implies, after]
    rw [List.self_eq_append_left, List.append_eq_nil_iff, and_comm]

/-- What is parsed does not depend on the pieces the bytes arrive in; that nothing is
lost between the parser and the relay does. -/
theorem forwards_everything (bytes : Bytes) (arrived : Nat → Nat) (fails : Bool) (request : ProxyRequest) (socket : Source UInt8)
    (parsed : localRequest ⟨bytes, 0, arrived, fails⟩ = some (request, socket)) :
    (∀ other, (localRequest ⟨bytes, 0, other, fails⟩).map Prod.fst = some request) ∧
    ((forwardedData request socket).flatten = forDestination request bytes ↔
      EndsWithRead request bytes.length arrived ∧ (request.isConnect = true → request.body = [])) := by
  refine ⟨?_, forwardedData_exact parsed⟩
  intro other
  rw [localRequest_bytes, ← localRequest_bytes bytes arrived, parsed]
  rfl

private def connectBytes : Bytes := asBytes "CONNECT a:1 HTTP/1.1\r\nHost: a:1\r\n\r\nhi"

private theorem connect_forwards (arrived : Nat → Nat) (forwarded : Bytes)
    (executed : (localRequest ⟨connectBytes, 0, arrived, false⟩).any (fun found =>
      decide (found.1.isConnect = true ∧ (asBytes found.1.headers).length = 35 ∧ found.1.body = [] ∧
        (forwardedData found.1 found.2).flatten = forwarded)) = true) :
    ∃ request socket, localRequest ⟨connectBytes, 0, arrived, false⟩ = some (request, socket) ∧ request.isConnect = true ∧
      (asBytes request.headers).length = 35 ∧ request.body = [] ∧ (forwardedData request socket).flatten = forwarded := by
  obtain ⟨⟨request, socket⟩, parsed, view⟩ := (Option.any_eq_true _ _).mp executed
  exact ⟨request, socket, parsed, of_decide_eq_true view⟩

/-- The header block arrives by itself. -/
theorem separate_head_forwards : ∃ request socket,
    localRequest ⟨connectBytes, 0, fun position => 34 - position, false⟩ = some (request, socket) ∧
      (forwardedData request socket).flatten = [104, 105] := by
  obtain ⟨request, socket, parsed, connect, header, body, forwarded⟩ :=
    connect_forwards (fun position => 34 - position) [104, 105] (by decide +kernel)
  have exact := (forwards_everything _ _ _ request socket parsed).2.mpr ⟨⟨1, by simp [header, body]; decide⟩, fun _ => body⟩
  refine ⟨request, socket, parsed, exact.trans ?_⟩
  rw [forDestination, if_pos connect, header]
  decide +kernel

/-- The same bytes in one piece: what follows the header block is lost. -/
theorem surplus_lost : ¬∀ (bytes : Bytes) (arrived : Nat → Nat) (fails : Bool) (request : ProxyRequest) (socket : Source UInt8),
    localRequest ⟨bytes, 0, arrived, fails⟩ = some (request, socket) →
      (forwardedData request socket).flatten = forDestination request bytes := by
  intro forwards
  obtain ⟨request, socket, parsed, connect, header, -, forwarded⟩ :=
    connect_forwards (fun _ => 8191) [] (by decide +kernel)
  have whole := forwards _ _ _ _ _ parsed
  rw [forwarded, forDestination, if_pos connect, header] at whole
  revert whole
  decide +kernel

/-! ### Several requests on one connection -/

/-- A plain request that is complete by itself. -/
structure HttpRequest where
  bytes : Bytes
  request : ProxyRequest
  parsed : parseRequestHeader byteReader (bytes, true) = some (request, [], true)
  plain : request.isConnect = false

/-- Each request goes to its own host, the ones in a row for one host together. -/
def ownRoutes (config : RoutingConfig) (lower : Lowercase) : List HttpRequest → List Route
  | [] => []
  | r :: rest =>
    match ownRoutes config lower rest with
    | [] => [routeTo config lower r.request.host r.bytes]
    | route :: routes =>
      if route.dest = r.request.host then { route with bytes := r.bytes ++ route.bytes } :: routes
      else routeTo config lower r.request.host r.bytes :: route :: routes

section ownRoutes
variable {config : RoutingConfig} {lower : Lowercase}

theorem ownRoutes_host (config : RoutingConfig) (lower : Lowercase) {requests : List HttpRequest} {r : HttpRequest}
    (member : r ∈ requests) :
    ∃ route ∈ ownRoutes config lower requests, route.dest = r.request.host := by
  induction requests with
  | nil => cases member
  | cons first rest ih =>
    rw [ownRoutes]
    rcases List.mem_cons.mp member with rfl | later
    · split
      · exact ⟨_, List.mem_singleton_self _, rfl⟩
      · split
        · next same => exact ⟨_, List.mem_cons_self, same⟩
        · exact ⟨_, List.mem_cons_self, rfl⟩
    · obtain ⟨route, here, dest⟩ := ih later
      split
      · next none => simp [none] at here
      · next head tail routes =>
        rw [routes] at here
        rcases List.mem_cons.mp here with rfl | behind
        · split
          · exact ⟨_, List.mem_cons_self, dest⟩
          · exact ⟨_, by simp, dest⟩
        · split
          · exact ⟨route, by simp [behind], dest⟩
          · exact ⟨route, by simp [behind], dest⟩

/-- Requests for one host take one route. -/
theorem ownRoutes_same {r : HttpRequest} {rest : List HttpRequest} (same : ∀ later ∈ rest, later.request.host = r.request.host) :
    ownRoutes config lower (r :: rest) = [routeTo config lower r.request.host ((r :: rest).flatMap (·.bytes))] := by
  induction rest generalizing r with
  | nil => simp [ownRoutes]
  | cons second rest ih =>
    have host := same second (by simp)
    have others : ∀ later ∈ rest, later.request.host = second.request.host := by
      intro later member
      rw [host]
      exact same later (by simp [member])
    rw [ownRoutes, ih others]
    simp [routeTo, host]

end ownRoutes

theorem routed_first (config : RoutingConfig) (lower : Lowercase) (r : HttpRequest) (rest : Bytes) (arrived : Nat → Nat) (fails : Bool) :
    ∃ socket, localRequest ⟨r.bytes ++ rest, 0, arrived, fails⟩ = some (r.request, socket) ∧
      handleLocalConnection config lower ⟨r.bytes ++ rest, 0, arrived, fails⟩ =
        some (routeTo config lower r.request.host (forwardedData r.request socket).flatten) := by
  have alike := localRequest_bytes (r.bytes ++ rest) arrived fails
  rw [parse_extend r.parsed, Option.map_some] at alike
  obtain ⟨⟨request, socket⟩, read, rfl⟩ := Option.map_eq_some_iff.mp alike
  exact ⟨socket, read, by simp [handleLocalConnection, read]⟩

/-- A connection serves each of its requests by the request's own host exactly if they
all name the first one's, and the parser reads nothing beyond the first. -/
theorem served_by_own_host (config : RoutingConfig) (lower : Lowercase) (r : HttpRequest) (rest : List HttpRequest)
    (arrived : Nat → Nat) (fails : Bool) :
    (handleLocalConnection config lower ⟨(r :: rest).flatMap (·.bytes), 0, arrived, fails⟩).toList =
        ownRoutes config lower (r :: rest) ↔
      (∀ later ∈ rest, later.request.host = r.request.host) ∧
        EndsWithRead r.request ((r :: rest).flatMap (·.bytes)).length arrived := by
  obtain ⟨socket, parsed, handled⟩ := routed_first config lower r (rest.flatMap (·.bytes)) arrived fails
  rw [← List.flatMap_cons] at parsed handled
  have exact := forwardedData_exact parsed
  rw [forDestination, r.plain] at exact
  simp only [Bool.false_eq_true, ↓reduceIte, false_implies, and_true] at exact
  rw [handled, ← exact]
  constructor
  · intro own
    have one : ∀ later ∈ r :: rest, later.request.host = r.request.host := by
      intro later member
      obtain ⟨route, here, dest⟩ := ownRoutes_host config lower member
      rw [← own] at here
      rw [← dest, List.mem_singleton.mp here]
      rfl
    have same : ∀ later ∈ rest, later.request.host = r.request.host := fun later member => one later (by simp [member])
    rw [ownRoutes_same same] at own
    exact ⟨same, congrArg Route.bytes (List.singleton_inj.mp own)⟩
  · intro ⟨same, whole⟩
    rw [ownRoutes_same same, whole]
    rfl

private def getA : HttpRequest where
  bytes := asBytes "GET / HTTP/1.1\r\nHost: a\r\n\r\n"
  request := ⟨"a:80", false, "GET / HTTP/1.1\r\nHost: a\r\n\r\n", []⟩
  parsed := by decide +kernel
  plain := rfl

private def getB : HttpRequest where
  bytes := asBytes "GET / HTTP/1.1\r\nHost: b\r\n\r\n"
  request := ⟨"b:80", false, "GET / HTTP/1.1\r\nHost: b\r\n\r\n", []⟩
  parsed := by decide +kernel
  plain := rfl

/-- Two requests of 27 bytes, the second sent after the first: both go to the host of
the first. -/
theorem second_host_ignored : ∃ (config : RoutingConfig) (lower : Lowercase) (r second : HttpRequest) (arrived : Nat → Nat),
    EndsWithRead r.request (r.bytes ++ second.bytes).length arrived ∧
      (handleLocalConnection config lower ⟨r.bytes ++ second.bytes, 0, arrived, false⟩).map (fun route => (route.dest, route.bytes)) =
        some ("a:80", r.bytes ++ second.bytes) ∧
      (ownRoutes config lower [r, second]).map (fun route => (route.dest, route.bytes)) =
        [("a:80", r.bytes), ("b:80", second.bytes)] :=
  ⟨⟨[], [], none, []⟩, ⟨List.map Char.toLower, fun _ _ => rfl⟩, getA, getB, fun position => 26 - position % 27,
    ⟨1, by decide +kernel⟩, by decide +kernel, by decide +kernel⟩

end EchoProxy.Proofs.HttpRelay
