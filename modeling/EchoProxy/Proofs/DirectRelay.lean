import EchoProxy.Lib.Rank
import EchoProxy.Proofs.StreamEnd

/-! What `relay_tcp` delivers. The two directions are alike and independent: a read or a
write that fails ends one of them and takes nothing from the other. -/

namespace EchoProxy.Proofs.DirectRelay
open EchoProxy Transition StreamEnd

inductive Direction where
  | aToB
  | bToA

namespace Direction

def pump : Direction → RelayTcp → Pump
  | aToB, r => r.aToB
  | bToA, r => r.bToA

def source : Direction → RelayTcp → Socket
  | aToB, r => r.a
  | bToA, r => r.b

def target : Direction → RelayTcp → Socket
  | aToB, r => r.b
  | bToA, r => r.a

/-- A read or a write of the direction fails. -/
def fails : Direction → RelayTcpAction → Bool
  | aToB, .aToB .readError | aToB, .aToB .writeError | bToA, .bToA .readError | bToA, .bToA .writeError => true
  | _, _ => false

end Direction

/-! ### One direction -/

/-- A pump without failures: what was read is written but for the rest, and it ends with its
source. -/
structure Sound (pump : Pump) (source target : Socket) : Prop where
  carried : Carried pump source target
  finished : pump = .ended → target.written = source.chunks.flatten ∧ source.incoming = [] ∧ source.shut = true

/-- What the pump has left to do: each byte is read once and written once. -/
def pumpWork (pump : Pump) (source : Socket) : Nat :=
  2 * source.incoming.length +
    match pump with
    | .reading => 1
    | .writing rest => rest.length + 1
    | .ended => 0

private theorem pumpWork_writeAll (bytes : Bytes) (source : Socket) :
    pumpWork (.writeAll bytes) source = 2 * source.incoming.length + bytes.length + 1 := by
  cases bytes <;> rfl

/-- What a step of a pump does. -/
inductive PumpEffect (source target : Socket) : Pump → PumpMove → Pump → Socket → Socket → Prop where
  | read {count} (some : 0 < count) (there : count ≤ source.incoming.length) :
    PumpEffect source target .reading (.read count) (.writeAll (source.incoming.take count))
      { source with
        incoming := source.incoming.drop count
        chunks := source.chunks ++ [source.incoming.take count] } target
  | readEnd (drained : source.incoming = []) (shut : source.shut = true) :
    PumpEffect source target .reading .readEnd .ended source target
  | readError : PumpEffect source target .reading .readError .ended source target
  | write {rest count} (some : 0 < count) (there : count ≤ rest.length) :
    PumpEffect source target (.writing rest) (.write count) (.writeAll (rest.drop count)) source
      { target with written := target.written ++ rest.take count }
  | writeError {rest} : PumpEffect source target (.writing rest) .writeError .ended source target

theorem pump_effect {pump pump' : Pump} {source target source' target' : Socket} {move : PumpMove}
    (taken : pump.step source target move = some (pump', source', target')) :
    PumpEffect source target pump move pump' source' target' := by
  unfold Pump.step at taken
  split at taken
  · split at taken
    · next holds =>
      cases taken
      exact .read holds.1 holds.2.2
    · cases taken
  · split at taken
    · next holds =>
      cases taken
      exact .readEnd holds.1 holds.2
    · cases taken
  · cases taken
    exact .readError
  · split at taken
    · next holds =>
      cases taken
      exact .write holds.2.1 holds.2.2
    · cases taken
  · cases taken
    exact .writeError
  · cases taken

section Pump
variable {source target source' target' : Socket} {pump pump' : Pump} {move : PumpMove}

theorem PumpEffect.pays (effect : PumpEffect source target pump move pump' source' target') :
    pumpWork pump' source' + (if move.isInternal then 1 else 0) ≤ pumpWork pump source := by
  cases effect with
  | read some there =>
    rw [pumpWork_writeAll]
    simp only [PumpMove.isInternal, if_true, pumpWork, List.length_drop, List.length_take]
    omega
  | readEnd | readError => simp [PumpMove.isInternal, pumpWork]
  | write some there =>
    rw [pumpWork_writeAll]
    simp only [PumpMove.isInternal, if_true, pumpWork, List.length_drop]
    omega
  | writeError => simp [PumpMove.isInternal, pumpWork]

/-- The source has sent what it had sent, and nothing else changes at it or at the target
but what is written. -/
theorem PumpEffect.ends (effect : PumpEffect source target pump move pump' source' target') :
    (sent source' = sent source ∧ source'.shut = source.shut ∧ source'.writable = source.writable ∧
      source'.written = source.written) ∧
      sent target' = sent target ∧ target'.shut = target.shut ∧ target'.writable = target.writable ∧
        target'.chunks = target.chunks ∧ target'.incoming = target.incoming := by
  cases effect with
  | read some there => exact ⟨⟨by simp [sent], rfl, rfl, rfl⟩, rfl, rfl, rfl, rfl, rfl⟩
  | _ => exact ⟨⟨rfl, rfl, rfl, rfl⟩, rfl, rfl, rfl, rfl, rfl⟩

private theorem writeAll_unended (bytes : Bytes) : Pump.writeAll bytes ≠ .ended := by
  unfold Pump.writeAll
  split <;> simp

/-- What is written is a front of what was read, also when the pump has failed. -/
theorem PumpEffect.front (effect : PumpEffect source target pump move pump' source' target')
    (carried : Carried pump source target)
    (front : target.written <+: source.chunks.flatten) : target'.written <+: source'.chunks.flatten := by
  cases effect with
  | read some there =>
    rw [List.flatten_append]
    exact front.trans (List.prefix_append _ _)
  | readEnd | readError | writeError => exact front
  | @write rest count some there =>
    rw [← carried.2]
    exact (List.prefix_append_right_inj target.written).mpr (List.take_prefix count rest)

theorem PumpEffect.finished (effect : PumpEffect source target pump move pump' source' target')
    (holds : move ≠ .readError ∧ move ≠ .writeError) (carried : Carried pump source target)
    (ended : pump' = .ended) :
    target'.written = source'.chunks.flatten ∧ source'.incoming = [] ∧ source'.shut = true := by
  cases effect with
  | read | write => exact absurd ended (writeAll_unended _)
  | readEnd drained shut => exact ⟨carried, drained, shut⟩
  | readError => exact absurd rfl holds.1
  | writeError => exact absurd rfl holds.2

/-- At rest a pump without failures has delivered everything, and waits for more as long as
its source may send it. -/
theorem Sound.rests (valid : Sound pump source target) (blocked : ∀ move : PumpMove, move.isInternal = true →
    pump.step source target move = none) (writable : target.writable = true) :
    target.written = sent source ∧ (pump = .ended ↔ source.shut = true) := by
  cases pump with
  | reading =>
    have drained : source.incoming = [] := by
      by_contra some
      have disabled := blocked (.read 1) rfl
      simp [Pump.step, bufferSize] at disabled
      exact some disabled
    have open' : source.shut = false := by
      have disabled := blocked .readEnd rfl
      simpa [Pump.step, drained] using disabled
    have all : target.written = source.chunks.flatten := valid.carried
    exact ⟨by simp [sent, drained, all], by simp [open']⟩
  | writing rest =>
    obtain ⟨left, -⟩ := valid.carried
    have disabled := blocked (.write 1) rfl
    simp only [Pump.step, writable, ite_eq_right_iff, reduceCtorEq, imp_false, true_and, Nat.lt_one_iff,
      not_le] at disabled
    exact absurd (List.eq_nil_of_length_eq_zero disabled) left
  | ended =>
    obtain ⟨all, drained, shut⟩ := valid.finished rfl
    exact ⟨by simp [sent, drained, all], by simp [shut]⟩

end Pump

/-! ### The two directions -/

namespace Direction

def other : Direction → Direction
  | aToB => bToA
  | bToA => aToB

/-- The steps of the direction's own task. -/
def task : Direction → PumpMove → RelayTcpAction
  | aToB => .aToB
  | bToA => .bToA

def peer : Direction → PeerMove → RelayTcpAction
  | aToB => .a
  | bToA => .b

end Direction

/-- What a step of the relay is to one of its directions. -/
inductive DirectionEffect (direction : Direction) (r r' : RelayTcp) : RelayTcpAction → Prop where
  | source {move} (moved : (direction.source r).peer move = some (direction.source r'))
      (target : direction.target r' = direction.target r)
    (pump : direction.pump r' = direction.pump r) : DirectionEffect direction r r' (direction.peer move)
  | target {move} (moved : (direction.target r).peer move = some (direction.target r'))
      (source : direction.source r' = direction.source r)
    (pump : direction.pump r' = direction.pump r) : DirectionEffect direction r r' (direction.other.peer move)
  | own {move} (effect : PumpEffect (direction.source r) (direction.target r) (direction.pump r) move (direction.pump r')
      (direction.source r') (direction.target r')) : DirectionEffect direction r r' (direction.task move)
  | other {move} (effect : PumpEffect (direction.target r) (direction.source r) (direction.other.pump r) move (direction.other.pump r')
      (direction.target r') (direction.source r')) (pump : direction.pump r' = direction.pump r) :
    DirectionEffect direction r r' (direction.other.task move)

theorem direction_effect (direction : Direction) {r r' : RelayTcp} {action : RelayTcpAction}
    (taken : r.step action = some r') :
    DirectionEffect direction r r' action := by
  cases action with
  | a move =>
    obtain ⟨a, moved, rfl⟩ := Option.map_eq_some_iff.mp taken
    cases direction with
    | aToB => exact @DirectionEffect.source .aToB r _ move moved rfl rfl
    | bToA => exact @DirectionEffect.target .bToA r _ move moved rfl rfl
  | b move =>
    obtain ⟨b, moved, rfl⟩ := Option.map_eq_some_iff.mp taken
    cases direction with
    | aToB => exact @DirectionEffect.target .aToB r _ move moved rfl rfl
    | bToA => exact @DirectionEffect.source .bToA r _ move moved rfl rfl
  | aToB move =>
    obtain ⟨⟨pump, a, b⟩, moved, rfl⟩ := Option.map_eq_some_iff.mp taken
    cases direction with
    | aToB => exact @DirectionEffect.own .aToB r _ move (pump_effect moved)
    | bToA => exact @DirectionEffect.other .bToA r _ move (pump_effect moved) rfl
  | bToA move =>
    obtain ⟨⟨pump, b, a⟩, moved, rfl⟩ := Option.map_eq_some_iff.mp taken
    cases direction with
    | aToB => exact @DirectionEffect.other .aToB r _ move (pump_effect moved) rfl
    | bToA => exact @DirectionEffect.own .bToA r _ move (pump_effect moved)

/-! ### Runs -/

theorem peer_grows {socket socket' : Socket} {move : PeerMove} (moved : socket.peer move = some socket') :
    sent socket <+: sent socket' := by
  cases move with
  | arrive bytes =>
    simp only [Socket.peer] at moved
    split at moved
    · cases moved
    · cases moved
      exact ⟨bytes, by simp [sent]⟩
  | shut | setWritable => cases moved; exact List.prefix_rfl

/-- What a side has sent only grows. -/
theorem source_grows (direction : Direction) {r r' : RelayTcp} {action : RelayTcpAction}
    (taken : r.step action = some r') :
    sent (direction.source r) <+: sent (direction.source r') := by
  cases direction_effect direction taken with
  | source moved => exact peer_grows moved
  | target moved source => rw [source]
  | own effect => rw [effect.ends.1.1]
  | other effect => rw [effect.ends.2.1]

theorem carried {r : RelayTcp} (run : relayTcpSystem.Reachable r) (direction : Direction) :
    Carried (direction.pump r) (direction.source r) (direction.target r) := by
  obtain ⟨up, down⟩ := relay_carried run
  cases direction with
  | aToB => exact up
  | bToA => exact down

private theorem initial_unread {r : RelayTcp} (initial : relayTcpSystem.init r) (direction : Direction) :
    direction.pump r = .reading ∧ (direction.source r).chunks = [] ∧ (direction.target r).written = [] := by
  obtain ⟨⟨aToB, bToA⟩, ⟨aChunks, aWritten⟩, bChunks, bWritten⟩ := initial
  cases direction with
  | aToB => exact ⟨aToB, aChunks, bWritten⟩
  | bToA => exact ⟨bToA, bChunks, aWritten⟩

/-- Whatever fails, what is written at one end is a front of what the other has sent. -/
theorem written_front {r : RelayTcp} (run : relayTcpSystem.Reachable r) (direction : Direction) :
    (direction.target r).written <+: sent (direction.source r) := by
  have front : (direction.target r).written <+: (direction.source r).chunks.flatten := by
    refine run.invariant (p := fun r =>
      (direction.target r).written <+: (direction.source r).chunks.flatten) ?_ ?_
    · intro start initial
      obtain ⟨-, unread, unwritten⟩ := initial_unread initial direction
      rw [unread, unwritten]
      exact List.nil_prefix
    · intro before action after reached front _ taken
      cases direction_effect direction taken with
      | source moved target pump => rwa [target, (peer_same moved).1]
      | target moved source pump => rwa [source, (peer_same moved).2]
      | own effect => exact effect.front (carried reached direction) front
      | other effect pump =>
        obtain ⟨⟨-, -, -, written⟩, -, -, -, chunks, -⟩ := effect.ends
        rwa [written, chunks]
  exact front.trans (List.prefix_append _ _)

private theorem peer_shut {socket socket' : Socket} {move : PeerMove} (moved : socket.peer move = some socket')
    (drained : socket.incoming = []) (shut : socket.shut = true) :
    socket'.incoming = [] ∧ socket'.shut = true := by
  cases move with
  | arrive bytes => simp [Socket.peer, shut] at moved
  | shut => cases moved; exact ⟨drained, rfl⟩
  | setWritable => cases moved; exact ⟨drained, shut⟩

private theorem fails_task {direction : Direction} {move : PumpMove}
    (holds : direction.fails (direction.task move) = false) :
    move ≠ .readError ∧ move ≠ .writeError := by
  cases direction with
  | aToB | bToA => cases move <;> simp [Direction.fails, Direction.task] at holds ⊢

/-- A direction none of whose reads and writes fails ends with its source, whatever fails in
the other. -/
theorem sound {r : RelayTcp} {direction : Direction}
    (run : relayTcpSystem.Reach (fun action => direction.fails action = false) r) :
    Sound (direction.pump r) (direction.source r) (direction.target r) := by
  refine ⟨carried run.reachable direction, ?_⟩
  refine run.invariant (p := fun r => direction.pump r = .ended →
    (direction.target r).written = (direction.source r).chunks.flatten ∧
    (direction.source r).incoming = [] ∧ (direction.source r).shut = true) ?_ ?_
  · intro start initial ended
    obtain ⟨reading, -⟩ := initial_unread initial direction
    rw [reading] at ended
    cases ended
  · intro before action after reached finished holds taken ended
    cases direction_effect direction taken with
    | source moved target pump =>
      obtain ⟨all, drained, shut⟩ := finished (pump ▸ ended)
      refine ⟨?_, peer_shut moved drained shut⟩
      rw [target, (peer_same moved).1, all]
    | target moved source pump =>
      rw [source, (peer_same moved).2]
      exact finished (pump ▸ ended)
    | own effect => exact effect.finished (fails_task holds) (carried reached.reachable direction) ended
    | other effect pump =>
      obtain ⟨⟨-, -, -, written⟩, -, shut, -, chunks, incoming⟩ := effect.ends
      rw [written, chunks, incoming, shut]
      exact finished (pump ▸ ended)

/-! ### The work of the two tasks -/

def relayWork (r : RelayTcp) : Nat := pumpWork r.aToB r.a + pumpWork r.bToA r.b

def peerBrings : PeerMove → Nat
  | .arrive bytes => 2 * bytes.length
  | _ => 0

def relayBrings : RelayTcpAction → Nat
  | .a move | .b move => peerBrings move
  | _ => 0

theorem peer_work {socket socket' : Socket} {move : PeerMove} (pump : Pump)
    (moved : socket.peer move = some socket') :
    pumpWork pump socket' ≤ pumpWork pump socket + peerBrings move := by
  cases move with
  | arrive bytes =>
    simp only [Socket.peer] at moved
    split at moved
    · cases moved
    · cases moved
      simp only [pumpWork, peerBrings, List.length_append]
      omega
  | shut | setWritable => cases moved; exact le_rfl

theorem relay_ranked : relayTcpSystem.Ranked RelayTcpAction.isInternal relayWork relayBrings where
  pays before action after taken := by
    cases action with
    | a move =>
      obtain ⟨a, moved, rfl⟩ := Option.map_eq_some_iff.mp taken
      have paid := peer_work before.aToB moved
      simp only [relayWork, relayBrings, RelayTcpAction.isInternal, Bool.false_eq_true, if_false]
      omega
    | b move =>
      obtain ⟨b, moved, rfl⟩ := Option.map_eq_some_iff.mp taken
      have paid := peer_work before.bToA moved
      simp only [relayWork, relayBrings, RelayTcpAction.isInternal, Bool.false_eq_true, if_false]
      omega
    | aToB move =>
      obtain ⟨⟨pump, a, b⟩, moved, rfl⟩ := Option.map_eq_some_iff.mp taken
      have effect := pump_effect moved
      have paid := effect.pays
      obtain ⟨-, -, -, -, -, incoming⟩ := effect.ends
      change pumpWork pump a + pumpWork before.bToA b + (if move.isInternal then 1 else 0) ≤ relayWork before
      simp only [relayWork, pumpWork, incoming] at paid ⊢
      omega
    | bToA move =>
      obtain ⟨⟨pump, b, a⟩, moved, rfl⟩ := Option.map_eq_some_iff.mp taken
      have effect := pump_effect moved
      have paid := effect.pays
      obtain ⟨-, -, -, -, -, incoming⟩ := effect.ends
      change pumpWork before.aToB a + pumpWork pump b + (if move.isInternal then 1 else 0) ≤ relayWork before
      simp only [relayWork, pumpWork, incoming] at paid ⊢
      omega
  own action kind := by
    cases action with
    | a | b => cases kind
    | aToB | bToA => rfl

/-- The tasks' own steps leave what the two ends have sent and how they stand. -/
theorem own_ends (direction : Direction) {before after : RelayTcp} {action : RelayTcpAction}
    (kind : action.isInternal = true) (taken : before.step action = some after) :
    sent (direction.source after) = sent (direction.source before) ∧
    (direction.source after).shut = (direction.source before).shut ∧
      (direction.target after).writable = (direction.target before).writable := by
  cases direction_effect direction taken with
  | source | target => cases direction <;> cases kind
  | own effect =>
    obtain ⟨⟨sent, shut, -, -⟩, -, -, writable, -, -⟩ := effect.ends
    exact ⟨sent, shut, writable⟩
  | other effect =>
    obtain ⟨⟨-, -, writable, -⟩, sent, shut, -, -, -⟩ := effect.ends
    exact ⟨sent, shut, writable⟩

/-- From `before` on, with no more from the two ends: the tasks come to rest, and then
everything that had been sent is written, unless the target takes no writes. -/
structure Delivers (direction : Direction) (before : RelayTcp) : Prop where
  rests : ∃ actions after, (∀ action ∈ actions, action.isInternal = true) ∧
    relayTcpSystem.exec before actions = some after ∧
    relayTcpSystem.Quiescent (fun action => action.isInternal = true) after
  bounded : ∀ actions after, (∀ action ∈ actions, action.isInternal = true) →
    relayTcpSystem.exec before actions = some after →
    actions.length ≤ relayWork before
  delivered : ∀ actions after, (∀ action ∈ actions, action.isInternal = true) →
    relayTcpSystem.exec before actions = some after →
    relayTcpSystem.Quiescent (fun action => action.isInternal = true) after →
      (direction.target before).writable = true →
    (direction.target after).written = sent (direction.source before) ∧
      (direction.pump after = .ended ↔ (direction.source before).shut = true)

theorem internal_holds (direction : Direction) {action : RelayTcpAction} (kind : action.isInternal = true) :
    direction.fails action = false := by
  cases action with
  | a | b => cases kind
  | aToB move | bToA move => cases direction <;> cases move <;> first | rfl | cases kind

theorem sound_delivers {direction : Direction} {before : RelayTcp}
    (run : relayTcpSystem.Reach (fun action => direction.fails action = false) before) :
    Delivers direction before where
  rests := relay_ranked.settles before
  bounded actions after kinds executed := Nat.le_of_add_right_le (relay_ranked.exec_length kinds executed)
  delivered actions after kinds executed quiet writable := by
    obtain ⟨sent, shut, still⟩ :=
      System.exec_keeps (p := fun r =>
        StreamEnd.sent (direction.source r) = StreamEnd.sent (direction.source before) ∧
        (direction.source r).shut = (direction.source before).shut ∧
        (direction.target r).writable = (direction.target before).writable)
      kinds (fun before' action after' same kind taken => by
        obtain ⟨sent, shut, writable⟩ := own_ends direction kind taken
        exact ⟨sent.trans same.1, shut.trans same.2.1, writable.trans same.2.2⟩) executed ⟨rfl, rfl, rfl⟩
    have sound := sound (run.exec (fun action member => internal_holds direction (kinds action member)) executed)
    rw [← sent, ← shut]
    refine sound.rests (fun move kind => ?_) (still.trans writable)
    cases direction with
    | aToB => exact Option.map_eq_none_iff.mp (quiet (.aToB move) kind)
    | bToA => exact Option.map_eq_none_iff.mp (quiet (.bToA move) kind)

/-- Of every run: the tasks make at most so many steps, each end has been written a front of
what the other has sent, and a direction that has not failed itself will be written all. -/
theorem relay_delivers (start : RelayTcp) (initial : relayTcpSystem.init start)
    (actions : List RelayTcpAction) (r : RelayTcp) (ran : relayTcpSystem.exec start actions = some r) :
    actions.countP RelayTcpAction.isInternal ≤
        2 + 2 * (start.a.incoming.length + start.b.incoming.length) + (actions.map relayBrings).sum ∧
      ∀ direction : Direction, (direction.target r).written <+: sent (direction.source r) ∧
        ((∀ action ∈ actions, direction.fails action = false) → Delivers direction r) := by
  have begin : relayTcpSystem.Reachable start := .init initial
  refine ⟨?_, ?_⟩
  · have counted := relay_ranked.exec_count ran
    obtain ⟨⟨aToB, bToA⟩, -⟩ := initial
    simp only [relayWork, pumpWork, aToB, bToA] at counted
    omega
  · intro direction
    refine ⟨written_front (begin.exec (fun _ _ => trivial) ran) direction, ?_⟩
    intro holds
    have begin : relayTcpSystem.Reach (fun action => direction.fails action = false) start := .init initial
    exact sound_delivers (begin.exec holds ran)

/-- The write to `b` fails, and what `b` has sent still reaches `a`. -/
theorem half_delivers : ∃ r, relayTcpSystem.exec ⟨.fresh, .fresh, .reading, .reading⟩
      [.a (.arrive [7]), .b (.arrive [8, 9]), .aToB (.read 1), .bToA (.read 2), .aToB .writeError] = some r ∧
    r.b.written <+: sent r.a ∧ Delivers .bToA r := by
  have executed : (relayTcpSystem.exec ⟨.fresh, .fresh, .reading, .reading⟩
      [.a (.arrive [7]), .b (.arrive [8, 9]), .aToB (.read 1), .bToA (.read 2), .aToB .writeError]).isSome =
        true := by decide +kernel
  obtain ⟨r, ran⟩ := Option.isSome_iff_exists.mp executed
  obtain ⟨-, delivers⟩ :=
    relay_delivers ⟨.fresh, .fresh, .reading, .reading⟩ ⟨⟨rfl, rfl⟩, ⟨rfl, rfl⟩, rfl, rfl⟩ _ r ran
  refine ⟨r, ran, (delivers .aToB).1, (delivers .bToA).2 ?_⟩
  decide

end EchoProxy.Proofs.DirectRelay
