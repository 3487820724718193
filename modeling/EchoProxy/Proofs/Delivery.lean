import EchoProxy.Lib.Places
import EchoProxy.Proofs.EndpointSteps
import EchoProxy.Session

/-! Delivery through a `StreamRegistry`: a registration's receiver obtains the payloads
that were looked up for it, in order, and all of them before it is disconnected. -/

namespace EchoProxy.Proofs.Delivery
open EchoProxy EndpointSteps Places

variable {s s' : RegistryState}

/-! ### What the calls do -/

inductive RegistryEffect (s : RegistryState) : RegistryAction → RegistryState → Prop where
  | register {id} : RegistryEffect s (.register id) (s.register id)
  | close {id} : RegistryEffect s (.close id) { s with registry := s.registry.close id }
  | closeAll : RegistryEffect s .closeAll { s with registry := .new }
  | route {id bytes} (idle : s.routing = none) : RegistryEffect s (.route id bytes) (s.route id bytes)
  | sent {k bytes r channel} (routing : s.routing = some (k, bytes)) (found : s.receivers[k]? = some r)
      (accepts : r.channel.Accepts bytes channel) :
    RegistryEffect s .send { s with routing := none, receivers := s.receivers.set k { r with channel } }
  | discarded {k bytes r} (routing : s.routing = some (k, bytes)) (found : s.receivers[k]? = some r)
      (gone : r.channel.receiver = false) : RegistryEffect s .send { s with routing := none }
  | received {k r bytes channel} (found : s.receivers[k]? = some r) (alive : r.channel.receiver = true)
      (takes : r.channel.Takes bytes channel) :
    RegistryEffect s (.recv k) { s with receivers := s.receivers.set k { r with channel } }
  | dropped {k r} (found : s.receivers[k]? = some r) :
    RegistryEffect s (.dropReceiver k) { s with receivers := s.receivers.set k { r with channel := r.channel.dropReceiver } }

theorem registry_effect {action : RegistryAction} (taken : s.step action = some s') : RegistryEffect s action s' := by
  cases action with
  | register id => cases taken; exact .register
  | close id => cases taken; exact .close
  | closeAll => cases taken; exact .closeAll
  | route id bytes =>
    simp only [RegistryState.step] at taken
    split at taken
    · next idle => cases taken; exact .route idle
    · cases taken
  | send =>
    obtain ⟨⟨k, bytes⟩, routing, taken⟩ := Option.bind_eq_some_iff.mp taken
    obtain ⟨r, found, taken⟩ := Option.bind_eq_some_iff.mp taken
    split at taken
    · cases taken
    · next closed => cases taken; exact .discarded routing found (Channel.send_closed closed)
    · next accepted => cases taken; exact .sent routing found (Channel.send_accepted accepted)
  | recv k =>
    obtain ⟨r, found, taken⟩ := Option.bind_eq_some_iff.mp taken
    split at taken
    · next alive =>
      obtain ⟨⟨bytes, channel⟩, received, rfl⟩ := Option.map_eq_some_iff.mp taken
      exact .received found alive (Channel.recv_some received)
    · cases taken
  | dropReceiver k =>
    obtain ⟨r, found, rfl⟩ := Option.map_eq_some_iff.mp taken
    exact .dropped found

/-! ### Payloads and receivers -/

/-- The payload that waits for room in the queue of registration `k`. -/
def waiting (s : RegistryState) (k : Nat) : List Bytes :=
  match s.routing with
  | some (j, bytes) => if j = k then [bytes] else []
  | none => []

theorem waiting_idle (idle : s.routing = none) (k : Nat) : waiting s k = [] := by rw [waiting, idle]

theorem waiting_routing {j : Nat} {bytes : Bytes} (routing : s.routing = some (j, bytes)) (k : Nat) :
    waiting s k = if j = k then [bytes] else [] := by rw [waiting, routing]

theorem lookedUp_route (id : StreamId) (bytes : Bytes) (k : Nat) :
    (s.route id bytes).lookedUp k = s.lookedUp k ++ if s.registry id = some k then [bytes] else [] := by
  rw [RegistryState.lookedUp, RegistryState.lookedUp, RegistryState.route, List.filterMap_append]
  congr 1
  by_cases found : s.registry id = some k <;> simp [found]

theorem waiting_route (id : StreamId) (bytes : Bytes) (k : Nat) :
    waiting (s.route id bytes) k = if s.registry id = some k then [bytes] else [] := by
  cases found : s.registry id with
  | none => simp [waiting, RegistryState.route, found]
  | some j => simp [waiting, RegistryState.route, found]

/-- What the queue of registration `k` accepted is the front of what was looked up for it,
and all of it but the payload that waits, as long as there is a receiver. -/
structure Flows (s : RegistryState) (k : Nat) (r : DataRx) : Prop where
  front : r.channel.history <+: s.lookedUp k
  all : r.channel.receiver = true → r.channel.history ++ waiting s k = s.lookedUp k

structure Valid (s : RegistryState) : Prop where
  registered : ∀ id k, s.registry id = some k → ∃ r, s.receivers[k]? = some r ∧ r.id = id
  routed : ∀ k bytes, s.routing = some (k, bytes) → ∃ r, s.receivers[k]? = some r
  called : ∀ call ∈ s.calls, ∀ k, call.found = some k → ∃ r, s.receivers[k]? = some r ∧ r.id = call.id
  flows : ∀ k r, s.receivers[k]? = some r → Flows s k r

theorem lookedUp_none {k : Nat} (valid : Valid s) (outside : s.receivers[k]? = none) : s.lookedUp k = [] ∧ waiting s k = [] := by
  constructor
  · rw [RegistryState.lookedUp, List.filterMap_eq_nil_iff]
    intro call member
    rw [ite_eq_right_iff]
    intro found
    obtain ⟨r, there, -⟩ := valid.called call member k found
    simp [outside] at there
  · cases routing : s.routing with
    | none => exact waiting_idle routing k
    | some pending =>
      obtain ⟨j, bytes⟩ := pending
      rw [waiting_routing routing, if_neg]
      rintro rfl
      obtain ⟨r, there⟩ := valid.routed j bytes routing
      simp [outside] at there

/-- A step that only replaces the receiver of one registration. -/
private theorem Valid.set {k : Nat} {r : DataRx} (r' : DataRx) (valid : Valid s) (found : s.receivers[k]? = some r)
    (same : r'.id = r.id)
    (registry : s'.registry = s.registry) (receivers : s'.receivers = s.receivers.set k r') (calls : s'.calls = s.calls)
    (routing : ∀ j bytes, s'.routing = some (j, bytes) → s.routing = some (j, bytes)) (own : Flows s' k r')
    (others : ∀ j, j ≠ k → waiting s' j = waiting s j) : Valid s' := by
  have looked (j : Nat) : s'.lookedUp j = s.lookedUp j := by rw [RegistryState.lookedUp, calls, RegistryState.lookedUp]
  refine ⟨?_, ?_, ?_, ?_⟩
  · intro id j registered
    rw [registry] at registered
    rw [receivers]
    exact exists_set found (fun own => same.trans own) (valid.registered id j registered)
  · intro j bytes pending
    obtain ⟨t, there⟩ := valid.routed j bytes (routing j bytes pending)
    rw [receivers]
    have kept : ∃ t, (s.receivers.set k r')[j]? = some t ∧ True := exists_set found (fun _ => trivial) ⟨t, there, trivial⟩
    exact kept.imp fun _ both => both.1
  · intro call member j found'
    rw [calls] at member
    rw [receivers]
    exact exists_set found (fun own => same.trans own) (valid.called call member j found')
  · intro j t there
    rw [receivers] at there
    rcases set_cases there with ⟨rfl, rfl⟩ | ⟨different, there⟩
    · exact own
    · obtain ⟨front, all⟩ := valid.flows j t there
      exact ⟨by rw [looked]; exact front, fun alive => by rw [looked, others j different]; exact all alive⟩

theorem Valid.step {action : RegistryAction} (valid : Valid s) (effect : RegistryEffect s action s') : Valid s' := by
  cases effect with
  | @register id =>
    obtain ⟨nothing, idle⟩ := lookedUp_none valid (List.getElem?_eq_none (Nat.le_refl s.receivers.length))
    refine ⟨?_, ?_, ?_, ?_⟩
    · intro other k registered
      rcases register_some.mp registered with ⟨rfl, rfl⟩ | ⟨-, registered⟩
      · exact ⟨_, List.getElem?_concat_length, rfl⟩
      · obtain ⟨r, there, own⟩ := valid.registered other k registered
        exact ⟨r, append_found there _, own⟩
    · intro k bytes routing
      obtain ⟨r, there⟩ := valid.routed k bytes routing
      exact ⟨r, append_found there _⟩
    · intro call member k found
      obtain ⟨r, there, own⟩ := valid.called call member k found
      exact ⟨r, append_found there _, own⟩
    · intro k r there
      rcases append_cases there with ⟨rfl, rfl⟩ | there
      · refine ⟨List.nil_prefix, fun _ => ?_⟩
        change [] ++ waiting s s.receivers.length = s.lookedUp s.receivers.length
        rw [nothing, idle]
        rfl
      · obtain ⟨front, all⟩ := valid.flows k r there
        exact ⟨front, all⟩
  | close =>
    refine ⟨?_, valid.routed, valid.called, fun k r there => ⟨(valid.flows k r there).front, (valid.flows k r there).all⟩⟩
    intro other k registered
    exact valid.registered other k (close_some.mp registered).2
  | closeAll =>
    exact ⟨fun _ _ registered => by simp [StreamRegistry.new] at registered, valid.routed, valid.called,
      fun k r there => ⟨(valid.flows k r there).front, (valid.flows k r there).all⟩⟩
  | @route id bytes idle =>
    refine ⟨valid.registered, ?_, ?_, ?_⟩
    · intro k payload routing
      obtain ⟨j, registered, same⟩ := Option.map_eq_some_iff.mp routing
      cases same
      obtain ⟨r, there, -⟩ := valid.registered id _ registered
      exact ⟨r, there⟩
    · intro call member k found
      rcases List.mem_append.mp member with old | new
      · exact valid.called call old k found
      · cases List.mem_singleton.mp new
        exact valid.registered id k found
    · intro k r there
      obtain ⟨front, all⟩ := valid.flows k r there
      rw [waiting_idle idle, List.append_nil] at all
      refine ⟨?_, fun alive => ?_⟩
      · rw [lookedUp_route]
        exact front.trans (List.prefix_append _ _)
      · rw [lookedUp_route, waiting_route, all alive]
  | @sent k bytes r channel routing found accepts =>
    obtain ⟨front, all⟩ := valid.flows k r found
    have whole := all accepts.receiver
    rw [waiting_routing routing, if_pos rfl] at whole
    refine valid.set { r with channel } found rfl rfl rfl rfl (by simp) ?_ ?_
    · refine ⟨?_, fun _ => ?_⟩
      · have same : channel.history = s.lookedUp k := by rw [accepts.history, whole]
        exact same ▸ List.prefix_rfl
      · change channel.history ++ [] = s.lookedUp k
        rw [accepts.history, whole, List.append_nil]
    · intro j different
      rw [waiting_idle rfl, waiting_routing routing, if_neg (Ne.symm different)]
  | @discarded k bytes r routing found gone =>
    refine ⟨valid.registered, by simp, valid.called, ?_⟩
    intro j t there
    obtain ⟨front, all⟩ := valid.flows j t there
    refine ⟨front, fun alive => ?_⟩
    have different : k ≠ j := by
      rintro rfl
      cases found.symm.trans there
      simp [gone] at alive
    rw [waiting_routing routing, if_neg different] at all
    rw [waiting_idle rfl]
    exact all alive
  | @received k r bytes channel found alive takes =>
    obtain ⟨front, all⟩ := valid.flows k r found
    refine valid.set { r with channel } found rfl rfl rfl rfl (fun _ _ same => same) ?_ (fun _ _ => rfl)
    refine ⟨?_, fun _ => ?_⟩
    · change channel.history <+: s.lookedUp k
      rw [takes.history]
      exact front
    · change channel.history ++ waiting s k = s.lookedUp k
      rw [takes.history]
      exact all alive
  | @dropped k r found =>
    obtain ⟨front, -⟩ := valid.flows k r found
    refine valid.set { r with channel := r.channel.dropReceiver } found rfl rfl rfl rfl (fun _ _ same => same) ?_ (fun _ _ => rfl)
    exact ⟨front, by simp⟩

theorem registry_valid (run : registrySystem.Reachable s) : Valid s := by
  refine run.invariant (p := Valid) ?_ ?_
  · rintro s rfl
    refine ⟨?_, ?_, ?_, ?_⟩ <;> simp [RegistryState.fresh, StreamRegistry.new]
  · intro before action after _ valid _ taken
    exact valid.step (registry_effect taken)

/-! ### Disconnection -/

/-- No sender of registration `k` is left, nor will there be one. -/
structure Gone (k : Nat) (obtained : List Bytes) (s : RegistryState) : Prop where
  inside : k < s.receivers.length
  unregistered : ∀ id, s.registry id ≠ some k
  idle : ∀ bytes, s.routing ≠ some (k, bytes)
  obtained : s.lookedUp k = obtained

theorem Gone.step {k : Nat} {obtained : List Bytes} {action : RegistryAction} (gone : Gone k obtained s)
    (taken : s.step action = some s') : Gone k obtained s' := by
  obtain ⟨inside, unregistered, idle, obtained⟩ := gone
  cases registry_effect taken with
  | @register id =>
    refine ⟨?_, ?_, idle, obtained⟩
    · rw [RegistryState.register, List.length_append]
      exact Nat.lt_add_right _ inside
    · intro other registered
      rcases register_some.mp registered with ⟨-, rfl⟩ | ⟨-, registered⟩
      · exact Nat.lt_irrefl _ inside
      · exact unregistered other registered
  | close =>
    refine ⟨inside, ?_, idle, obtained⟩
    intro other registered
    exact unregistered other (close_some.mp registered).2
  | closeAll => exact ⟨inside, by simp [StreamRegistry.new], idle, obtained⟩
  | @route id bytes =>
    refine ⟨inside, unregistered, ?_, ?_⟩
    · intro payload routing
      obtain ⟨j, registered, same⟩ := Option.map_eq_some_iff.mp routing
      cases same
      exact unregistered id registered
    · rw [lookedUp_route, if_neg (unregistered id), List.append_nil]
      exact obtained
  | sent => exact ⟨by simpa using inside, unregistered, by simp, obtained⟩
  | discarded => exact ⟨inside, unregistered, by simp, obtained⟩
  | received | dropped => exact ⟨by simpa using inside, unregistered, idle, obtained⟩

theorem disconnected_gone {k : Nat} {r : DataRx} (valid : Valid s) (there : s.receivers[k]? = some r)
    (disconnected : s.disconnected k = true) : Gone k r.channel.taken s := by
  rw [RegistryState.disconnected, there, Option.any_some, decide_eq_true_eq] at disconnected
  obtain ⟨alive, empty, closed, released⟩ := disconnected
  have idle : ∀ bytes, s.routing ≠ some (k, bytes) := by
    intro bytes routing
    simp [routing] at released
  refine ⟨(List.getElem?_eq_some_iff.mp there).1, ?_, idle, ?_⟩
  · intro id registered
    obtain ⟨r', found, own⟩ := valid.registered id k registered
    cases there.symm.trans found
    exact closed (own ▸ registered)
  · have nothing : waiting s k = [] := by
      unfold waiting
      split
      · next j bytes routing =>
        rw [if_neg]
        rintro rfl
        exact idle bytes routing
      · rfl
    rw [← (valid.flows k r there).all alive, nothing, List.append_nil, Channel.history, empty, List.append_nil]

/-! ### Delivery -/

/-- A receiver obtains, in order, the first of the payloads whose `route` call looked up its
own registration, which calls for its id alone do; and all there will ever be of them, if it
observes disconnection. -/
theorem delivered_in_order (s : RegistryState) (k : Nat) (r : DataRx) (run : registrySystem.Reachable s)
    (there : s.receivers[k]? = some r) :
    r.channel.taken <+: s.lookedUp k ∧
    (s.disconnected k = true → ∀ actions s', registrySystem.exec s actions = some s' → s'.lookedUp k = r.channel.taken) ∧
    ∀ call ∈ s.calls, call.found = some k → call.id = r.id := by
  have valid := registry_valid run
  refine ⟨?_, ?_, ?_⟩
  · exact r.channel.taken_isPrefix.trans (valid.flows k r there).front
  · intro disconnected actions s' later
    have gone := Transition.System.exec_preserves (p := Gone k r.channel.taken) (fun _ _ _ gone taken => gone.step taken) later
      (disconnected_gone valid there disconnected)
    exact gone.obtained
  · intro call member found
    obtain ⟨r', found', own⟩ := valid.called call member k found
    cases there.symm.trans found'
    exact own.symm

/-- A `route` call waits on the full queue of the first registration of an id, which is
closed and registered again meanwhile. -/
private def reregistered : List RegistryAction :=
  .register 7 :: (List.replicate 32 [.route 7 [1], .send]).flatten ++
    [.route 7 [2], .close 7, .register 7, .recv 0, .send, .route 7 [3], .send] ++ List.replicate 32 (.recv 0) ++ [.recv 1]

theorem reregistered_apart : ∃ (s : RegistryState) (first second : DataRx), s.receivers[0]? = some first ∧ s.receivers[1]? = some second ∧
    first.channel.taken = List.replicate 32 [1] ++ [[2]] ∧ s.disconnected 0 = true ∧ s.lookedUp 0 = first.channel.taken ∧
    second.channel.taken <+: s.lookedUp 1 := by
  have executed : (registrySystem.exec RegistryState.fresh reregistered).any (fun s =>
      decide (s.receivers.map (fun r => r.channel.taken) = [List.replicate 32 [1] ++ [[2]], [[3]]] ∧ s.disconnected 0 = true)) = true := by
    decide +kernel
  obtain ⟨s, run, view⟩ := Transition.System.reached executed rfl
  obtain ⟨taken, disconnected⟩ := of_decide_eq_true view
  obtain ⟨first, second, receivers⟩ := List.length_eq_two.mp (by simpa using congrArg List.length taken)
  rw [receivers] at taken
  simp only [List.map_cons, List.map_nil, List.cons.injEq, and_true] at taken
  have one : s.receivers[0]? = some first := by rw [receivers]; rfl
  have two : s.receivers[1]? = some second := by rw [receivers]; rfl
  have complete := (delivered_in_order s 0 first run one).2.1 disconnected [] s rfl
  exact ⟨s, first, second, one, two, taken.1, disconnected, complete, (delivered_in_order s 1 second run two).1⟩

end EchoProxy.Proofs.Delivery
