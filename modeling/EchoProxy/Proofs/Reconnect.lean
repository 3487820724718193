import EchoProxy.Proofs.ProxyInvariant

/-! The connections of the resilient client do not get in each other's way: what a
handler, a reader or a writer of one connection does stays on that connection, and the
keeper lets go of a connection for that connection's own end. -/

namespace EchoProxy.Proofs.Reconnect
open EchoProxy StreamFlow EndpointSteps EndpointAccounts ClientSteps FrameSequences ProxySteps ProxyInvariant Places

variable {socks : Bool} {p p' : Resilient} {action : ResilientAction}

/-! ### One connection -/

/-- The tokens a connection has sent in HELLO frames. -/
def hellos (c : Client) : List String :=
  c.put.filterMap fun
    | .hello token => some token
    | _ => none

private theorem put_shape {token : String} {c : Client} (valid : ClientInvariant.Valid token c) :
    c.put = [] ∨ ∃ rest, c.put = .hello token :: rest ∧ ∀ other, .hello other ∉ rest := by
  have front := valid.started.order.put_isPrefix
  cases put : c.put with
  | nil => exact .inl rfl
  | cons frame rest =>
    rw [put, List.singleton_append, List.cons_prefix_cons] at front
    obtain ⟨rfl, inside⟩ := front
    refine .inr ⟨rest, rfl, ?_⟩
    intro other member
    obtain ⟨id, -, own⟩ := valid.sources.known _ (inside.subset member)
    cases own

private theorem hellos_sublist {token : String} {c : Client} (valid : ClientInvariant.Valid token c) : (hellos c).Sublist [token] := by
  rcases put_shape valid with none | ⟨rest, put, silent⟩
  · simp [hellos, none]
  · have others : rest.filterMap (fun | .hello token => some token | _ => none) = [] := by
      apply List.filterMap_eq_nil_iff.mpr
      intro frame member
      cases frame with
      | hello other => exact absurd member (silent other)
      | _ => rfl
    simp [hellos, put, others]

/-- What a stream has sent is on the frame channel of its connection, in order. -/
theorem client_carried {token : String} {resilient : Bool} {c : Client} (run : (clientSystem token resilient).Reachable c) :
    ∀ s ∈ c.streams, s.emitted.Sublist c.frames.history := by
  refine run.invariant (p := fun c => ∀ s ∈ c.streams, s.emitted.Sublist c.frames.history) ?_ ?_
  · rintro c rfl s member
    simp [Client.fresh, Endpoint.fresh] at member
  · intro before action after _ valid _ taken
    cases ClientInvariant.client_sends (client_effect taken) with
    | same streams history => rwa [streams, history]
    | quiet found id emitted streams history =>
      rw [streams, history]
      exact forall_set valid (emitted ▸ valid _ (List.mem_of_getElem? found))
    | accept streams history =>
      rw [streams, history]
      exact forall_append valid (List.nil_sublist _)
    | @sent k s s' frame found id own emitted streams history =>
      rw [streams, history]
      have longer : ∀ s ∈ before.streams, s.emitted.Sublist (before.frames.history ++ [frame]) :=
        fun s member => (valid s member).trans (List.sublist_append_left _ _)
      refine forall_set longer ?_
      rw [emitted]
      exact (valid _ (List.mem_of_getElem? found)).append (List.Sublist.refl _)

/-- A message that came in concerns what is registered on the connection for its id. -/
structure Confined (message : Message) (c c' : Client) : Prop where
  streams : ∀ (k : Nat) (s : Stream Handler), c.streams[k]? = some s → c'.streams[k]? = some s ∨
    ∃ data, message = .binary data ∧
      ((∃ bytes, Frame.decode data = .ok (.data s.id bytes) ∧ c.registry s.id = some k) ∨
        ∃ ok, Frame.decode data = .ok (.openAck s.id ok) ∧ c.pendingAcks s.id = some k)
  count : c'.streams.length = c.streams.length
  registry : ∀ id, c'.registry id = c.registry id ∨ ∃ data, message = .binary data ∧ Frame.decode data = .ok (.close id)
  acks : ∀ id, c'.pendingAcks id = c.pendingAcks id ∨
    ∃ data ok, message = .binary data ∧ Frame.decode data = .ok (.openAck id ok)

private theorem update_cases {α : Type} {f : StreamId → α} {id : StreamId} {value : α} (other : StreamId) :
    Function.update f id value other = f other ∨ other = id := by
  by_cases own : other = id
  · exact .inr own
  · exact .inl (Function.update_of_ne own ..)

theorem received_confined {token : String} {c c' : Client} {message : Message} (valid : ClientInvariant.Valid token c)
    (effect : ClientEffect c (.incoming message) c') : Confined message c c' := by
  cases effect with
  | ignored | broken | skipped => exact ⟨fun _ _ found => .inl found, rfl, fun _ => .inl rfl, fun _ => .inl rfl⟩
  | @acked id ok k s s' data _ _ decoded pending found stepped =>
    obtain ⟨_, there, own⟩ := valid.acks.pending id k pending
    cases found.symm.trans there
    refine ⟨?_, by simp, fun _ => .inl rfl, ?_⟩
    · intro j t here
      by_cases same : j = k
      · subst same
        cases here.symm.trans found
        subst own
        exact .inr ⟨data, rfl, .inr ⟨ok, decoded, pending⟩⟩
      · exact .inl ((set_other same s').trans here)
    · intro other
      apply (update_cases other).imp_right
      rintro rfl
      exact ⟨data, ok, rfl, decoded⟩
  | @routing id bytes k s s' data _ _ decoded registered found stepped =>
    obtain ⟨_, there, own⟩ := valid.wired.registered id k registered
    cases found.symm.trans there
    refine ⟨?_, by simp, fun _ => .inl rfl, fun _ => .inl rfl⟩
    intro j t here
    by_cases same : j = k
    · subst same
      cases here.symm.trans found
      subst own
      exact .inr ⟨data, rfl, .inl ⟨bytes, decoded, registered⟩⟩
    · exact .inl ((set_other same s').trans here)
  | @closed id data _ _ decoded =>
    refine ⟨fun _ _ found => .inl found, rfl, ?_, fun _ => .inl rfl⟩
    intro other
    apply (update_cases other).imp_right
    rintro rfl
    exact ⟨data, rfl, decoded⟩

/-- A task that has ended stays so. -/
private theorem ended_stays {token : String} {c c' : Client} {move : ClientAction} (valid : ClientInvariant.Valid token c)
    (effect : ClientEffect c move c') (ended : c.reader = .ended ∨ c.writer = .ended) : c'.reader = .ended ∨ c'.writer = .ended := by
  cases effect with
  | endpoint effect =>
    cases effect with
    | pop now | put now | putFail now => exact .inl (ended.resolve_right (by simp [now]))
    | _ => exact ended
  | connect connecting =>
    have unspawned := valid.spawned.connecting ⟨_, connecting⟩
    have idle := (valid.started.connecting _ connecting).2
    simp [unspawned, idle] at ended
  | broken running => exact .inr (ended.resolve_left (by simp [running]))
  | readerCloseAll now => exact .inr (ended.resolve_left (by simp [now]))
  | readerClear => exact .inl rfl
  | writerExit _ _ receiving => exact .inl (ended.resolve_right (by simp [receiving]))
  | writerStop => exact .inr rfl
  | _ => exact ended

/-! ### The connections together -/

private theorem disconnected_iff {conn : Nat} :
    p.isDisconnected conn = true ↔ ∃ c, p.conns[conn]? = some c ∧ (c.reader = .ended ∨ c.writer = .ended) := by
  simp [Resilient.isDisconnected, Option.any_eq_true]

private theorem disconnected_stays (run : (resilientSystem socks).Reachable p) (effect : ResilientEffect p action p') {conn : Nat}
    (ended : p.isDisconnected conn = true) : p'.isDisconnected conn = true := by
  rw [disconnected_iff] at ended ⊢
  obtain ⟨c, found, ended⟩ := ended
  rcases conns_change effect with same | ⟨j, move, moved⟩ | ⟨token, -, -, conns⟩
  · exact ⟨c, same ▸ found, ended⟩
  · generalize p'.conns = conns at moved
    obtain ⟨there, stepped⟩ := moved
    obtain ⟨token, reached⟩ := conn_reachable run there
    apply exists_set there _ ⟨c, found, ended⟩
    exact ended_stays (ClientInvariant.client_valid reached) (client_effect stepped)
  · exact ⟨c, conns ▸ append_found found _, ended⟩

/-- The keeper closes a connection whose reader or writer has ended. -/
private theorem closes_ended (run : (resilientSystem socks).Reachable p) :
    ∀ conn, p.keeper = .clearing conn false ∨ p.keeper = .closing conn false → p.isDisconnected conn = true := by
  refine run.invariant (p := fun p => ∀ conn, p.keeper = .clearing conn false ∨ p.keeper = .closing conn false →
    p.isDisconnected conn = true) ?_ ?_
  · rintro p rfl conn closing
    simp [Resilient.fresh] at closing
  · intro before action after prior valid _ taken conn closing
    have effect := resilient_effect taken
    apply disconnected_stays prior effect
    cases effect with
    | keeper effect =>
      cases effect with
      | took now slot why =>
        have same := slot_waits prior _ slot
        rw [now, Keeper.waiting.injEq] at same
        subst same
        simp only [Keeper.clearing.injEq, reduceCtorEq, or_false] at closing
        obtain ⟨rfl, rfl⟩ := closing
        rcases why with ⟨-, -, ended⟩ | ⟨-, different, -⟩
        · exact ended
        · cases different
      | clear now =>
        simp only [Keeper.closing.injEq, reduceCtorEq, false_or] at closing
        obtain ⟨rfl, rfl⟩ := closing
        exact valid _ (.inl now)
      | @close _ last => cases last <;> simp at closing
      | @empty _ _ last => cases last <;> simp at closing
      | _ => simp at closing
    | _ => exact valid conn closing

/-- The connection the keeper is at work on. -/
def current : Keeper → Option Nat
  | .greeting conn | .waiting conn | .clearing conn _ | .closing conn _ => some conn
  | _ => none

/-- Nothing changes but connection `conn`. -/
structure OnlyConn (conn : Nat) (p p' : Resilient) : Prop where
  others : ∀ j, j ≠ conn → p'.conns[j]? = p.conns[j]?
  slot : p'.shared = p.shared
  keeper : p'.keeper = p.keeper
  listeners : p'.listeners = p.listeners

structure Reconnects (p : Resilient) : Prop where
  helloFirst : ∀ c ∈ p.conns, c.put = [] ∨ ∃ token rest, c.put = .hello token :: rest ∧ ∀ other, .hello other ∉ rest
  carries : ∀ c ∈ p.conns, ∃ token, c.put <+: .hello token :: c.frames.history
  /-- Each obtained token is in at most one HELLO. -/
  tokens : (p.conns.flatMap hellos).Sublist p.obtained
  /-- What a handler has sent is on the connection it took. -/
  travels : ∀ (h : Nat) (id : StreamId) (listener : Listener) (conn k : Nat),
    p.listeners.accepted[h]? = some ⟨id, listener, .tunnelled conn k⟩ →
      ∃ c s, p.conns[conn]? = some c ∧ c.streams[k]? = some s ∧ s.id = id ∧ s.emitted.Sublist c.frames.history
  /-- Nothing else is. -/
  owned : ∀ (conn : Nat) (c : Client) (frame : Frame), p.conns[conn]? = some c → frame ∈ c.frames.history →
    ∃ (h : Nat) (id : StreamId) (listener : Listener) (k : Nat),
      p.listeners.accepted[h]? = some ⟨id, listener, .tunnelled conn k⟩ ∧ streamId frame = some id
  slot : ∀ conn, p.shared = some conn → p.keeper = .waiting conn
  /-- Short of a shutdown the keeper closes only a connection that has ended. -/
  closes : ∀ conn, p.keeper = .clearing conn false ∨ p.keeper = .closing conn false → p.isDisconnected conn = true

structure StepIsolated (p : Resilient) (action : ResilientAction) (p' : Resilient) : Prop where
  took : ∀ (h : Nat) (tunnel : Tunnel) (id : StreamId) (listener : Listener) (conn k : Nat), action = .snapshot h tunnel →
    p'.listeners.accepted[h]? = some ⟨id, listener, .tunnelled conn k⟩ → p.shared = some conn
  kept : ∀ (h : Nat) (id : StreamId) (listener : Listener) (conn k : Nat),
    p.listeners.accepted[h]? = some ⟨id, listener, .tunnelled conn k⟩ →
      p'.listeners.accepted[h]? = some ⟨id, listener, .tunnelled conn k⟩
  handler : ∀ h task, action = .handler h task → ∃ id listener conn k,
    p.listeners.accepted[h]? = some ⟨id, listener, .tunnelled conn k⟩ ∧ OnlyConn conn p p'
  loop : ∀ conn move, action = .loop conn move → OnlyConn conn p p'
  received : ∀ (conn : Nat) (message : Message) (c c' : Client), action = .loop conn (.incoming message) →
    p.conns[conn]? = some c → p'.conns[conn]? = some c' → Confined message c c'
  /-- The slot loses a connection for its own end or on a shutdown. -/
  withdrawn : ∀ conn, p.shared = some conn → p'.shared ≠ some conn →
    action = .keeper .disconnected ∧ p.isDisconnected conn = true ∨ action = .keeper .shutdown ∧ p.running = false
  keeper : ∀ (move : KeeperAction) (conn : Nat) (c : Client), action = .keeper move → p.conns[conn]? = some c →
    p'.conns[conn]? ≠ some c → current p.keeper = some conn

private theorem moved_only {conn : Nat} {move : ClientAction} {conns : List Client} (moved : ConnStep p conn move conns) :
    ∀ j, j ≠ conn → conns[j]? = p.conns[j]? := by
  obtain ⟨there, stepped⟩ := moved
  intro j other
  exact set_other other _

private theorem moved_current {conn j : Nat} {move : ClientAction} {conns : List Client} {c : Client}
    (moved : ConnStep p conn move conns) (found : p.conns[j]? = some c) (changed : conns[j]? ≠ some c) : j = conn := by
  by_contra other
  exact changed ((moved_only moved j other).trans found)

private theorem hellos_tokens {tokens : List String} {conns : List Client}
    (each : List.Forall₂ (fun token c => (hellos c).Sublist [token]) tokens conns) : (conns.flatMap hellos).Sublist tokens := by
  induction each with
  | nil => exact .slnil
  | cons own _ ih => exact own.append ih

theorem reconnects (run : (resilientSystem socks).Reachable p) : Reconnects p := by
  obtain ⟨tokens, dialled⟩ := dialled run
  refine ⟨?_, ?_, ?_, ?_, ?_, slot_waits run, closes_ended run⟩
  · intro c member
    obtain ⟨conn, found⟩ := List.getElem?_of_mem member
    obtain ⟨token, reached⟩ := conn_reachable run found
    rcases put_shape (ClientInvariant.client_valid reached) with none | ⟨rest, put, silent⟩
    · exact .inl none
    · exact .inr ⟨token, rest, put, silent⟩
  · intro c member
    obtain ⟨conn, found⟩ := List.getElem?_of_mem member
    obtain ⟨token, reached⟩ := conn_reachable run found
    exact ⟨token, (ClientInvariant.client_valid reached).started.order.put_isPrefix⟩
  · have each : List.Forall₂ (fun token c => (hellos c).Sublist [token]) tokens p.conns := by
      apply List.forall₂_iff_get.mpr
      refine ⟨dialled.length, ?_⟩
      intro i inside inside'
      exact hellos_sublist (ClientInvariant.client_valid (dialled.runs i _ _ (List.getElem?_eq_getElem inside)
        (List.getElem?_eq_getElem inside')))
    exact (hellos_tokens each).trans ((List.sublist_append_left _ _).trans dialled.obtained)
  · intro h id listener conn k found
    obtain ⟨c, s, there, here, same⟩ := (placed run conn k id).mpr ⟨h, listener, found⟩
    obtain ⟨token, reached⟩ := conn_reachable run there
    exact ⟨c, s, there, here, same, client_carried reached s (List.mem_of_getElem? here)⟩
  · intro conn c frame there sent
    obtain ⟨token, reached⟩ := conn_reachable run there
    obtain ⟨id, known, own⟩ := (ClientInvariant.client_valid reached).sources.known frame sent
    obtain ⟨s, member, rfl⟩ := List.mem_map.mp known
    obtain ⟨k, here⟩ := List.getElem?_of_mem member
    obtain ⟨h, listener, found⟩ := (placed run conn k s.id).mp ⟨c, s, there, here, rfl⟩
    exact ⟨h, s.id, listener, k, found, own⟩

private theorem conn_only {conn : Nat} {move : ClientAction} {conns : List Client} (moved : ConnStep p conn move conns) :
    OnlyConn conn p { p with conns } :=
  ⟨moved_only moved, rfl, rfl, rfl⟩

private theorem handler_kept (effect : ResilientEffect p action p') {h : Nat} {id : StreamId} {listener : Listener} {conn k : Nat}
    (found : p.listeners.accepted[h]? = some ⟨id, listener, .tunnelled conn k⟩) :
    p'.listeners.accepted[h]? = some ⟨id, listener, .tunnelled conn k⟩ := by
  have settled {i : Nat} {own : StreamId} {which : Listener} {standing : Standing}
      (parsing : p.listeners.accepted[i]? = some ⟨own, which, .parsing⟩) :
      (p.listeners.settle i standing).accepted[h]? = some ⟨id, listener, .tunnelled conn k⟩ := by
    have different : h ≠ i := by
      rintro rfl
      rw [found] at parsing
      cases parsing
    exact (settle_other different).trans found
  cases effect with
  | accept => exact append_found found _
  | departed parsing | unavailable parsing | tunnelled parsing => exact settled parsing
  | keeper effect => cases effect <;> exact found
  | _ => exact found

theorem step_isolated (run : (resilientSystem socks).Reachable p) (effect : ResilientEffect p action p') :
    StepIsolated p action p' := by
  refine ⟨?_, fun h id listener conn k found => handler_kept effect found, ?_, ?_, ?_, ?_, ?_⟩
  · intro h tunnel id listener conn k same found
    subst same
    cases effect with
    | unavailable parsing =>
      rw [settle_own parsing] at found
      cases found
    | tunnelled parsing slot =>
      rw [settle_own parsing] at found
      cases found
      exact slot
    | halted which => simp at which
  · intro h task same
    subst same
    cases effect with
    | handler found moved => exact ⟨_, _, _, _, found, conn_only moved⟩
    | halted which => simp at which
  · intro conn move same
    subst same
    cases effect with
    | loop moved => exact conn_only moved
    | halted which => simp at which
  · intro conn message c c' same found found'
    subst same
    cases effect with
    | loop moved =>
      obtain ⟨there, stepped⟩ := moved
      cases there.symm.trans found
      cases (set_found there _).symm.trans found'
      obtain ⟨token, reached⟩ := conn_reachable run found
      exact received_confined (ClientInvariant.client_valid reached) (client_effect stepped)
    | halted which => simp at which
  · intro conn slot lost
    cases effect with
    | keeper effect =>
      have waits := slot_waits run conn slot
      cases effect with
      | took now _ why =>
        rw [now, Keeper.waiting.injEq] at waits
        subst waits
        rcases why with ⟨rfl, -, ended⟩ | ⟨rfl, -, stopped⟩
        · exact .inl ⟨rfl, ended⟩
        · exact .inr ⟨rfl, stopped⟩
      | greeted now => rw [now] at waits; cases waits
      | _ => exact absurd slot lost
    | _ => exact absurd slot lost
  · intro move conn c same found changed
    subst same
    cases effect with
    | keeper effect =>
      cases effect with
      | obtained | unobtained | slept | unconnected | empty | stopped => exact absurd found changed
      | connected => exact absurd (append_found found _) changed
      | greeted now moved | ungreeted now moved | clear now moved | close now moved =>
        rw [moved_current moved found changed, now, current]
      | took _ slot _ moved => rw [moved_current moved found changed, slot_waits run _ slot, current]
    | halted which => simp at which

/-- In every reachable state each connection starts with a HELLO of its own token and
carries its own handlers' frames; every step stays on one connection. -/
theorem reconnect_isolated (socks : Bool) (p : Resilient) (run : (resilientSystem socks).Reachable p) :
    Reconnects p ∧ ∀ action p', p.step action = some p' → StepIsolated p action p' :=
  ⟨reconnects run, fun _ _ taken => step_isolated run (resilient_effect taken)⟩

/-- A handler opens a stream, the connection breaks, and the next one serves a second
handler while the first still waits. -/
private def brokenOnce : List ResilientAction :=
  [.keeper (.obtained "a"), .keeper .connected, .keeper .greeted, .accept .http,
    .snapshot 0 (.viaMuxWithTimeout ⟨"1.1.1.1:80", true, "", []⟩), .handler 0 (.handler .register), .handler 0 (.handler .insertAck),
    .handler 0 (.handler .send), .loop 0 .pop, .loop 0 .put, .loop 0 (.incoming .other), .loop 0 .readerCloseAll,
    .loop 0 .readerClear, .keeper .disconnected, .keeper .clear, .keeper .close, .keeper (.obtained "b"), .keeper .connected,
    .keeper .greeted, .accept .socks5, .snapshot 1 (.socksViaMuxWithTimeout "1.1.1.1:80")]

theorem broken_once_isolated : ∃ p, p.shared = some 1 ∧ p.conns.map hellos = [["a"], ["b"]] ∧ Reconnects p ∧
    ∀ p', p.step (.loop 0 .pop) = some p' → StepIsolated p (.loop 0 .pop) p' := by
  have executed : ((resilientSystem true).exec (Resilient.fresh true) brokenOnce).any (fun p =>
      decide (p.shared = some 1 ∧ p.conns.map hellos = [["a"], ["b"]])) = true := by decide +kernel
  obtain ⟨p, run, view⟩ := Transition.System.reached executed rfl
  obtain ⟨slot, sent⟩ := of_decide_eq_true view
  obtain ⟨holds, steps⟩ := reconnect_isolated true p run
  exact ⟨p, slot, sent, holds, fun p' taken => steps _ p' taken⟩

end EchoProxy.Proofs.Reconnect
