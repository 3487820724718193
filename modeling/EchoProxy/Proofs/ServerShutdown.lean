import EchoProxy.Proofs.Authentication
import EchoProxy.Stoppable

/-! Who sees the shutdown of `serve`. Closing the channel wakes the accept loop and every
connection; a unit sent into it wakes one of them. -/

namespace EchoProxy.Proofs.ServerShutdown
open EchoProxy ServerSteps Authentication Places

variable {crates : Crates} {users : List String} {s s' : Stoppable} {action : StoppableAction}

/-! ### Steps -/

/-- What `serve` and the owner of its shutdown channel do. -/
inductive StoppableEffect (crates : Crates) (users : List String) (s : Stoppable) : StoppableAction → Stoppable → Prop where
  | sent {shutdown} (room : s.shutdown.send = some shutdown) : StoppableEffect crates users s .send { s with shutdown }
  | closed : StoppableEffect crates users s .close { s with shutdown := s.shutdown.close }
  | accepted (listening : s.serve.listening = true) :
    StoppableEffect crates users s .accept { s with handshakes := s.handshakes + 1 }
  | acceptError {serve} (stepped : s.serve.step crates users .stop = some serve) :
    StoppableEffect crates users s .acceptError { s with serve }
  | refused (pending : 0 < s.handshakes) :
    StoppableEffect crates users s (.handshake none) { s with handshakes := s.handshakes - 1 }
  | entered {path} (pending : 0 < s.handshakes) :
    StoppableEffect crates users s (.handshake (some path)) { s with handshakes := s.handshakes - 1, serve := s.serve.enter path }
  | shutdown {select serve shutdown} (received : s.shutdown.recv = some shutdown)
      (stepped : s.serve.step crates users select.branch = some serve) :
    StoppableEffect crates users s (.shutdown select) { s with serve, shutdown }
  | serve {action serve} (connection : action.isConnection = true) (stepped : s.serve.step crates users action = some serve) :
    StoppableEffect crates users s (.serve action) { s with serve }

theorem stoppable_effect (taken : s.step crates users action = some s') : StoppableEffect crates users s action s' := by
  unfold Stoppable.step at taken
  split at taken
  · obtain ⟨shutdown, room, rfl⟩ := Option.map_eq_some_iff.mp taken
    exact .sent room
  · cases taken
    exact .closed
  · split at taken
    · next listening =>
      cases taken
      exact .accepted listening
    · cases taken
  · obtain ⟨serve, stepped, rfl⟩ := Option.map_eq_some_iff.mp taken
    exact .acceptError stepped
  · next path =>
    split at taken
    · next pending =>
      cases taken
      cases path with
      | none => exact .refused pending
      | some path => exact .entered pending
    · cases taken
  · obtain ⟨shutdown, received, taken⟩ := Option.bind_eq_some_iff.mp taken
    obtain ⟨serve, stepped, rfl⟩ := Option.map_eq_some_iff.mp taken
    exact .shutdown received stepped
  · split at taken
    · next connection =>
      obtain ⟨serve, stepped, rfl⟩ := Option.map_eq_some_iff.mp taken
      exact .serve connection stepped
    · cases taken

/-! ### The receivers of the shutdown channel -/

def isLive (c : Control) : Bool := c.stage ≠ .ended

def isServing (session : Session) : Bool := !session.server.isOver

/-- The accept loop and the connections whose future runs hold one each, -/
def served (s : Serve) : Nat := s.listening.toNat + s.controls.countP isLive + s.sessions.countP isServing

/-- and so does every connection in its handshake. -/
def receivers (s : Stoppable) : Nat := served s.serve + s.handshakes

/-- What a step of connection `i` of `/control` does to the receivers. -/
structure ControlMoved (s s' : Serve) (i : Nat) (drops : Prop) : Prop where
  listening : s'.listening = s.listening
  sessions : s'.sessions = s.sessions
  moved : ∃ c c', s.controls[i]? = some c ∧ isLive c = true ∧ s'.controls = s.controls.set i c' ∧ (drops → isLive c' = false)

private theorem control_moved {s s' : Serve} {i : Nat} {move : ControlAction}
    (taken : s.step crates users (.control i move) = some s') : ControlMoved s s' i (move = .drop) := by
  obtain ⟨c, found, taken⟩ := Option.bind_eq_some_iff.mp taken
  have stage {after : List Control} (live : c.stage ≠ .ended) (set : ∃ c', after = s.controls.set i c') (other : move ≠ .drop) :
      ∃ d c', s.controls[i]? = some d ∧ isLive d = true ∧ after = s.controls.set i c' ∧ (move = .drop → isLive c' = false) := by
    obtain ⟨c', same⟩ := set
    exact ⟨c, c', found, by simpa [isLive] using live, same, fun drops => absurd drops other⟩
  unfold Serve.controlStep at taken
  split at taken
  · split at taken
    · next waiting =>
      have live : c.stage ≠ .ended := by simp [waiting]
      split at taken <;> cases taken <;> exact ⟨rfl, rfl, stage live ⟨_, rfl⟩ (by simp)⟩
    · cases taken
  · split at taken
    · next now =>
      cases taken
      exact ⟨rfl, rfl, stage (by simp [now]) ⟨_, rfl⟩ (by simp)⟩
    · cases taken
  · split at taken
    · next now =>
      cases taken
      exact ⟨rfl, rfl, stage (by simp [now]) ⟨_, rfl⟩ (by simp)⟩
    · cases taken
  · split at taken
    · next now =>
      cases taken
      exact ⟨rfl, rfl, stage (by simp [now]) ⟨_, rfl⟩ (by simp)⟩
    · cases taken
  · split at taken
    · cases taken
    · next live =>
      cases taken
      exact ⟨rfl, rfl, c, _, found, by simpa [isLive] using live, rfl, fun _ => by simp [isLive]⟩

/-- A session whose future is dropped held a receiver until then. -/
private theorem drop_ends {c c' : Server} (effect : ServerEffect c .drop c') : c.isOver = false ∧ c'.isOver = true := by
  cases effect with
  | dropped suspended =>
    refine ⟨?_, by simp [Server.isOver]⟩
    cases now : c.reader <;> simp_all [Server.isOver, SessionReader.suspended]
  | droppedAcking acking => exact ⟨by simp [Server.isOver, acking], by simp [Server.isOver]⟩

/-- What a step of connection `j` of `/mux` does to the receivers. -/
structure SessionMoved (s s' : Serve) (j : Nat) (drops : Prop) : Prop where
  listening : s'.listening = s.listening
  controls : s'.controls = s.controls
  moved : ∃ session session', s.sessions[j]? = some session ∧ s'.sessions = s.sessions.set j session' ∧
    (isServing session' = true → isServing session = true) ∧ (drops → isServing session = true ∧ isServing session' = false)

private theorem serving_stays {session session' : Session} {move : ServerAction}
    (stepped : session.server.step move = some session'.server) (serving : isServing session' = true) : isServing session = true := by
  by_contra idle
  have finished : session.server.isOver = true := by simpa [isServing] using idle
  have still := (over_effect finished (server_effect stepped)).1
  simp [isServing, still] at serving

private theorem session_moved {s s' : Serve} {j : Nat} {move : ServerAction}
    (taken : s.step crates users (.session j move) = some s') : SessionMoved s s' j (move = .drop) := by
  cases serve_effect taken with
  | @session _ session _ server found _ stepped =>
    refine ⟨rfl, rfl, session, { session with server }, found, rfl, serving_stays stepped, ?_⟩
    rintro rfl
    simpa [isServing] using drop_ends (server_effect stepped)

private theorem present_moved {s s' : Serve} {j : Nat}
    (taken : s.step crates users (.present j) = some s') : SessionMoved s s' j False := by
  cases serve_effect taken with
  | @admitted _ session _ uuid server found _ _ _ stepped =>
    exact ⟨rfl, rfl, session, ⟨server, some uuid⟩, found, rfl, serving_stays stepped, False.elim⟩
  | @rejected _ session server found stepped =>
    exact ⟨rfl, rfl, session, { session with server }, found, rfl, serving_stays stepped, False.elim⟩

private theorem ControlMoved.served {s s' : Serve} {i : Nat} {drops : Prop} (moved : ControlMoved s s' i drops) :
    served s' ≤ served s ∧ (drops → served s' + 1 = served s) := by
  obtain ⟨listening, sessions, c, c', found, live, controls, ended⟩ := moved
  unfold ServerShutdown.served
  rw [listening, sessions, controls]
  constructor
  · have fewer := countP_set_le found (fun _ : isLive c' = true => live)
    omega
  · intro drops
    have lost := countP_set_lost found live (ended drops)
    omega

private theorem SessionMoved.served {s s' : Serve} {j : Nat} {drops : Prop} (moved : SessionMoved s s' j drops) :
    served s' ≤ served s ∧ (drops → served s' + 1 = served s) := by
  obtain ⟨listening, controls, session, session', found, sessions, stays, ended⟩ := moved
  unfold ServerShutdown.served
  rw [listening, sessions, controls]
  constructor
  · have fewer := countP_set_le found stays
    omega
  · intro drops
    have lost := countP_set_lost found (ended drops).1 (ended drops).2
    omega

private theorem stop_served {s s' : Serve} (taken : s.step crates users .stop = some s') : served s' + 1 = served s := by
  simp only [Serve.step] at taken
  split at taken
  · next listening =>
    cases taken
    simp only [served, listening, Bool.toNat_true, Bool.toNat_false]
    omega
  · cases taken

/-- A shutdown branch gives up one receiver. -/
theorem branch_served {s s' : Serve} {select : ShutdownSelect} (taken : s.step crates users select.branch = some s') :
    served s' + 1 = served s := by
  cases select with
  | acceptLoop => exact stop_served taken
  | control i => exact (control_moved taken).served.2 rfl
  | session j => exact (session_moved taken).served.2 rfl

/-- Whatever else a connection does gains none. -/
theorem connection_served {s s' : Serve} {action : ServeAction} (connection : action.isConnection = true)
    (taken : s.step crates users action = some s') : served s' ≤ served s := by
  cases action with
  | connect | stop => cases connection
  | control => exact (control_moved taken).served.1
  | present => exact (present_moved taken).served.1
  | session => exact (session_moved taken).served.1

private theorem enter_served (s : Serve) (path : String) : served (s.enter path) ≤ served s + 1 := by
  unfold Serve.enter served
  split
  · omega
  · simp [isLive]
    omega
  · simp [isServing, Server.fresh, Server.isOver]
    omega

theorem receivers_step (effect : StoppableEffect crates users s action s') :
    receivers s' ≤ receivers s ∨ action = .accept ∧ s.serve.listening = true := by
  cases effect with
  | sent | closed => exact .inl (Nat.le_refl _)
  | accepted listening => exact .inr ⟨rfl, listening⟩
  | acceptError stepped =>
    have one := stop_served stepped
    simp only [receivers]
    omega
  | refused =>
    simp only [receivers]
    omega
  | @entered path pending =>
    have one := enter_served s.serve path
    simp only [receivers]
    omega
  | shutdown _ stepped =>
    have one := branch_served stepped
    simp only [receivers]
    omega
  | serve connection stepped =>
    have fewer := connection_served connection stepped
    simp only [receivers]
    omega

/-! ### At rest -/

/-- None of the program's own steps is enabled. -/
def Quiet (crates : Crates) (users : List String) (s : Stoppable) : Prop :=
  ∀ action, action.isOwn = true → s.step crates users action = none

/-- The accept loop has ended, and so has every connection. -/
structure Stopped (s : Serve) : Prop where
  accepts : s.listening = false
  controls : ∀ c ∈ s.controls, c.stage = .ended
  sessions : ∀ session ∈ s.sessions, session.server.isOver = true

theorem stopped_iff {s : Serve} : Stopped s ↔ served s = 0 := by
  constructor
  · intro stopped
    have controls : s.controls.countP isLive = 0 := List.countP_eq_zero.mpr fun c member => by simp [isLive, stopped.controls c member]
    have sessions : s.sessions.countP isServing = 0 :=
      List.countP_eq_zero.mpr fun session member => by simp [isServing, stopped.sessions session member]
    simp [served, stopped.accepts, controls, sessions]
  · intro none
    unfold served at none
    have listening : s.listening.toNat = 0 := by omega
    have controls : s.controls.countP isLive = 0 := by omega
    have sessions : s.sessions.countP isServing = 0 := by omega
    refine ⟨by simpa using listening, ?_, ?_⟩
    · simpa [List.countP_eq_zero, isLive] using controls
    · simpa [List.countP_eq_zero, isServing] using sessions

private theorem serve_sessions {s s' : Serve} {action : ServeAction} (taken : s.step crates users action = some s')
    (known : ∀ session ∈ s.sessions, serverSystem.Reachable session.server) :
    ∀ session ∈ s'.sessions, serverSystem.Reachable session.server := by
  have moves {j : Nat} {session : Session} {move : ServerAction} {server : Server} (found : s.sessions[j]? = some session)
      (stepped : session.server.step move = some server) : serverSystem.Reachable server :=
    (known session (List.mem_of_getElem? found)).step trivial stepped
  cases serve_effect taken with
  | unrouted | control | stop | issued | controlled => exact known
  | mux => exact forall_append known (.init rfl)
  | admitted found _ _ _ stepped | rejected found stepped | session found _ stepped => exact forall_set known (moves found stepped)

private theorem enter_sessions {s : Serve} {path : String}
    (known : ∀ session ∈ s.sessions, serverSystem.Reachable session.server) :
    ∀ session ∈ (s.enter path).sessions, serverSystem.Reachable session.server := by
  unfold Serve.enter
  split
  · exact known
  · exact known
  · exact forall_append known (.init rfl)

theorem sessions_reachable (run : (stoppableSystem crates users).Reachable s) :
    ∀ session ∈ s.serve.sessions, serverSystem.Reachable session.server := by
  apply run.invariant (p := fun s => ∀ session ∈ s.serve.sessions, serverSystem.Reachable session.server)
  · intro start initial session member
    subst initial
    cases member
  · intro before action after _ known _ taken
    cases stoppable_effect taken with
    | sent | closed | accepted | refused => exact known
    | acceptError stepped | shutdown _ stepped | serve _ stepped => exact serve_sessions stepped known
    | entered => exact enter_sessions known

private theorem control_drops {s : Serve} {i : Nat} {c : Control} (found : s.controls[i]? = some c) (live : c.stage ≠ .ended) :
    (s.step crates users (.control i .drop)).isSome = true := by
  simp [Serve.step, found, Serve.controlStep, live]

private theorem session_drops {s : Serve} {j : Nat} {session : Session} (found : s.sessions[j]? = some session)
    (run : serverSystem.Reachable session.server) (suspended : session.server.reader.suspended = true) :
    (s.step crates users (.session j .drop)).isSome = true := by
  have drops : (session.server.step .drop).isSome = true := by
    simp only [Server.step, Server.drop, suspended, if_true]
    split
    · next k acking =>
      obtain ⟨t, there, -⟩ := (ServerInvariant.server_valid run).streams.acking k acking
      simp [Endpoint.modify, there]
    · rfl
  simpa [Serve.step, found, ServerAction.isVerdict] using drops

/-- A session future that cannot be dropped is at a point it leaves by itself. -/
private theorem session_moves (crates : Crates) (users : List String) {s : Serve} {j : Nat} {session : Session}
    (found : s.sessions[j]? = some session)
    (unsuspended : session.server.reader.suspended = false) (serving : session.server.isOver = false) :
    (s.step crates users (.present j)).isSome = true ∨ (s.step crates users (.session j .readerCloseAll)).isSome = true := by
  cases now : session.server.reader with
  | hello | running | connecting | acking | refusing => simp [now, SessionReader.suspended] at unsuspended
  | ended | dropped => simp [Server.isOver, now] at serving
  | presenting token =>
    left
    simp only [Serve.step, found, Option.bind_some, Serve.present, now]
    split
    · simp [Server.step, now]
    · split <;> simp [Server.step, now]
  | closing =>
    right
    simp [Serve.step, found, ServerAction.isVerdict, Server.step, now]

/-- At rest with a shutdown branch ready everything has stopped. -/
theorem ready_stops (run : (stoppableSystem crates users).Reachable s) (quiet : Quiet crates users s)
    (ready : s.shutdown.recv ≠ none) : Stopped s.serve := by
  obtain ⟨shutdown, received⟩ := Option.ne_none_iff_exists'.mp ready
  have branches (select : ShutdownSelect) (enabled : (s.serve.step crates users select.branch).isSome = true) : False := by
    have idle := quiet (.shutdown select) rfl
    obtain ⟨serve, stepped⟩ := Option.isSome_iff_exists.mp enabled
    simp [Stoppable.step, received, stepped] at idle
  have tasks (action : ServeAction) (own : (StoppableAction.serve action).isOwn = true) (connection : action.isConnection = true)
      (enabled : (s.serve.step crates users action).isSome = true) : False := by
    have idle := quiet (.serve action) own
    obtain ⟨serve, stepped⟩ := Option.isSome_iff_exists.mp enabled
    simp [Stoppable.step, connection, stepped] at idle
  constructor
  · by_contra listening
    exact branches .acceptLoop (by simp [ShutdownSelect.branch, Serve.step, listening])
  · intro c member
    obtain ⟨i, found⟩ := List.getElem?_of_mem member
    by_contra live
    exact branches (.control i) (control_drops found live)
  · intro session member
    obtain ⟨j, found⟩ := List.getElem?_of_mem member
    by_contra serving
    have reachable := sessions_reachable run session member
    cases suspended : session.server.reader.suspended with
    | true => exact branches (.session j) (session_drops found reachable suspended)
    | false =>
      obtain presents | closes := session_moves crates users found suspended (by simpa using serving)
      · exact tasks (.present j) rfl rfl presents
      · exact tasks (.session j .readerCloseAll) rfl rfl closes

/-! ### Runs -/

/-- A unit is taken only by the last receiver that is left. -/
def alone (s : Stoppable) : StoppableAction → Bool
  | .shutdown _ => s.shutdown.closed ∨ receivers s = 1
  | _ => true

/-- The taker of the unit was the last receiver. -/
def Spent (s : Stoppable) : Prop := s.shutdown.closed = false → s.shutdown.received = 0 ∨ receivers s = 0

theorem Spent.step (spent : Spent s) (single : alone s action = true) (effect : StoppableEffect crates users s action s') :
    Spent s' := by
  have fewer := receivers_step effect
  have kept (received : s'.shutdown.received = s.shutdown.received) (closed : s'.shutdown.closed = s.shutdown.closed) : Spent s' := by
    intro opened
    obtain unused | none := spent (closed.symm.trans opened)
    · exact .inl (received.trans unused)
    · right
      obtain less | ⟨_, listening⟩ := fewer
      · omega
      · simp [receivers, served, listening] at none
  cases effect with
  | sent room => exact kept (Signal.send_received room).1 (Signal.send_received room).2
  | closed =>
    intro opened
    cases opened
  | shutdown received stepped =>
    intro opened
    have before := (Signal.recv_closed received).symm.trans opened
    have one : receivers s = 1 := by simpa [alone, before] using single
    have gone := branch_served stepped
    right
    simp only [receivers] at one ⊢
    omega
  | accepted | acceptError | refused | entered | serve => exact kept rfl rfl

theorem spent (run : ((stoppableSystem crates users).when alone).Reachable s) : Spent s := by
  apply run.invariant
  · intro start initial _
    subst initial
    exact .inl rfl
  · intro before action after _ spent _ taken
    obtain ⟨single, taken⟩ := Transition.System.when_step.mp taken
    exact spent.step single (stoppable_effect taken)

theorem closed_stops (run : (stoppableSystem crates users).Reachable s) (closed : s.shutdown.closed = true)
    (quiet : Quiet crates users s) : Stopped s.serve := by
  apply ready_stops run quiet
  intro idle
  have opened := (Signal.recv_none.mp idle).2
  simp [closed] at opened

theorem sent_stops (run : ((stoppableSystem crates users).when alone).Reachable s) (sent : 0 < s.shutdown.sent)
    (quiet : Quiet crates users s) : Stopped s.serve := by
  have reachable : (stoppableSystem crates users).Reachable s := run.unguarded
  by_cases idle : s.shutdown.recv = none
  · obtain ⟨empty, opened⟩ := Signal.recv_none.mp idle
    have balanced := s.shutdown.balanced
    obtain unused | none := spent run opened
    · omega
    · apply stopped_iff.mpr
      simp only [receivers] at none
      omega
  · exact ready_stops reachable quiet idle

/-- Nothing of the session is under way inside the program. -/
def isIdle (c : Server) : Bool :=
  c.writer = .unspawned ∧ c.streams.isEmpty ∧ c.routing = none ∧ (c.reader = .hello ∨ c.reader = .ended)

private theorem idle_waits {c : Server} {move : ServerAction} (idle : isIdle c = true) (own : move.isOwn = true) : c.step move = none := by
  obtain ⟨writer, streams, routing, reader⟩ := of_decide_eq_true idle
  have none := List.isEmpty_iff.mp streams
  cases move with
  | endpoint move =>
    cases move <;> simp_all [Server.step, Endpoint.step, ServerAction.isOwn, EndpointAction.isInternal, Endpoint.modify]
  | incoming | accept | reject | connectOk | connectFail | drop => cases own
  | answer => obtain now | now := reader <;> simp [Server.step, Server.answer, now]
  | readerCloseAll => obtain now | now := reader <;> simp [Server.step, now]
  | writerExit => simp [Server.step, Endpoint.writerExit, writer]
  | writerStop => simp [Server.step, Endpoint.writerStop, writer]

private theorem idle_quiet (empty : s.shutdown.queued = 0 ∧ s.shutdown.closed = false)
    (idle : s.serve.sessions.all (fun session => isIdle session.server) = true) : Quiet crates users s := by
  intro action own
  cases action with
  | send | close | accept | acceptError | handshake => cases own
  | shutdown select => simp [Stoppable.step, Signal.recv_none.mpr empty]
  | serve action =>
    cases action with
    | connect | stop | control => cases own
    | present j =>
      cases found : s.serve.sessions[j]? with
      | none => simp [Stoppable.step, ServeAction.isConnection, Serve.step, found]
      | some session =>
        have still := List.all_eq_true.mp idle session (List.mem_of_getElem? found)
        obtain ⟨_, _, _, now | now⟩ := of_decide_eq_true still <;>
          simp [Stoppable.step, ServeAction.isConnection, Serve.step, found, Serve.present, now]
    | session j move =>
      cases found : s.serve.sessions[j]? with
      | none => simp [Stoppable.step, Serve.step, found]
      | some session =>
        have still := List.all_eq_true.mp idle session (List.mem_of_getElem? found)
        simp [Stoppable.step, Serve.step, found, idle_waits still own]

/-- The shutdown of `serve` reaches everyone once the channel is closed, or if whoever
takes the unit is the last receiver. A unit that is taken earlier leaves the others waiting. -/
theorem shutdown_reaches (crates : Crates) (users : List String) :
    (∀ s, (stoppableSystem crates users).Reachable s → s.shutdown.closed = true → Quiet crates users s → Stopped s.serve) ∧
      (∀ s, ((stoppableSystem crates users).when alone).Reachable s → 0 < s.shutdown.sent → Quiet crates users s →
        Stopped s.serve) ∧
      ∀ s select s', s.shutdown.closed = false → 1 < receivers s → s.step crates users (.shutdown select) = some s' →
        0 < receivers s' ∧ ∀ other, s'.step crates users (.shutdown other) = none := by
  refine ⟨fun s run closed quiet => closed_stops run closed quiet, fun s run sent quiet => sent_stops run sent quiet, ?_⟩
  intro s select s' opened others taken
  cases stoppable_effect taken with
  | @shutdown _ serve shutdown received stepped =>
    obtain ⟨still, _, unit⟩ := Signal.recv_takes received opened
    have fits := s.shutdown.fits
    have empty : shutdown.recv = none := Signal.recv_none.mpr ⟨by omega, still⟩
    constructor
    · have one := branch_served stepped
      simp only [receivers] at others ⊢
      omega
    · intro other
      simp [Stoppable.step, empty]

/-- Crates whose functions the runs below do not reach. -/
private def unused : Crates := ⟨fun _ => none, fun _ => "", Unit, fun _ => none, fun _ _ => false⟩

/-- A session ends by itself, then a unit is sent and the accept loop takes it. -/
theorem last_receiver_stops : ∃ s : Stoppable, s.serve.sessions.length = 1 ∧ 0 < s.shutdown.sent ∧ Stopped s.serve := by
  have executed : (((stoppableSystem unused []).when alone).exec Stoppable.fresh
      [.accept, .handshake (some "/mux"), .serve (.session 0 (.incoming .other)), .send, .shutdown .acceptLoop]).any (fun s =>
        decide (s.serve.sessions.length = 1 ∧ 0 < s.shutdown.sent ∧ (s.shutdown.queued = 0 ∧ s.shutdown.closed = false) ∧
          s.serve.sessions.all (fun session => isIdle session.server) = true)) = true := by decide +kernel
  obtain ⟨s, run, view⟩ := Transition.System.reached executed rfl
  obtain ⟨one, sent, empty, idle⟩ := of_decide_eq_true view
  exact ⟨s, one, sent, (shutdown_reaches unused []).2.1 s run sent (idle_quiet empty idle)⟩

/-- The accept loop takes the unit, and the session goes on. -/
theorem session_outlives_unit : ¬∀ (crates : Crates) (users : List String) (s : Stoppable),
    (stoppableSystem crates users).Reachable s → s.shutdown.closed = true ∨ 0 < s.shutdown.sent → Quiet crates users s →
      Stopped s.serve := by
  intro stops
  have executed : ((stoppableSystem unused []).exec Stoppable.fresh
      [.accept, .handshake (some "/mux"), .send, .shutdown .acceptLoop]).any (fun s =>
        decide (0 < s.shutdown.sent ∧ (s.shutdown.queued = 0 ∧ s.shutdown.closed = false) ∧
          s.serve.sessions.all (fun session => isIdle session.server) = true ∧ served s.serve = 1)) = true := by decide +kernel
  obtain ⟨s, run, view⟩ := Transition.System.reached executed rfl
  obtain ⟨sent, empty, idle, one⟩ := of_decide_eq_true view
  have stopped := stops unused [] s run (.inr sent) (idle_quiet empty idle)
  rw [stopped_iff] at stopped
  omega

end EchoProxy.Proofs.ServerShutdown
