import EchoProxy.Lib.Transition
import EchoProxy.Mux
import EchoProxy.Proofs.ServerSteps
import EchoProxy.Proofs.WireFormat

/-! What an OPEN that is refused does to the registry. For a blocked destination
`handle_open` leaves it alone; after a failed connect it closes the id, whoever has it. -/

namespace EchoProxy.Proofs.Refusal
open EchoProxy EndpointSteps ServerSteps

/-! ### The other tasks -/

/-- The relay tasks and the writer loop, which go on while the session is in `handle_open`. -/
def isElsewhere : ServerAction → Bool
  | .endpoint _ | .writerExit | .writerStop => true
  | _ => false

/-- What a step of another task makes of the registry. -/
def takeAway (c : Server) (registry : StreamRegistry) : ServerAction → StreamRegistry
  | .endpoint (.unregister k) => c.streams[k]?.elim registry fun s => registry.close s.id
  | .writerStop => registry.closeAll
  | _ => registry

/-- Steps of the other tasks only, with what they make of any registry. -/
inductive Meanwhile (c : Server) : (StreamRegistry → StreamRegistry) → Server → Prop where
  | none : Meanwhile c (fun registry => registry) c
  | step {change before action after} (earlier : Meanwhile c change before) (elsewhere : isElsewhere action = true)
      (taken : before.step action = some after) : Meanwhile c (fun registry => takeAway before (change registry) action) after

theorem elsewhere_step {c c' : Server} {action : ServerAction} (elsewhere : isElsewhere action = true)
    (taken : c.step action = some c') : c'.registry = takeAway c c.registry action ∧ c'.reader = c.reader := by
  cases server_effect taken with
  | endpoint effect =>
    cases effect with
    | unregister found => simp [takeAway, found]
    | _ => exact ⟨rfl, rfl⟩
  | writerExit | writerStop => exact ⟨rfl, rfl⟩
  | _ => simp [isElsewhere] at elsewhere

theorem Meanwhile.keeps {c c' : Server} {change : StreamRegistry → StreamRegistry} (others : Meanwhile c change c') :
    c'.registry = change c.registry ∧ c'.reader = c.reader := by
  induction others with
  | none => exact ⟨rfl, rfl⟩
  | step earlier elsewhere taken ih =>
    obtain ⟨registry, reader⟩ := elsewhere_step elsewhere taken
    exact ⟨by rw [registry, ih.1], reader.trans ih.2⟩

/-- The other tasks take entries away and do nothing else. -/
theorem Meanwhile.closes {c c' : Server} {change : StreamRegistry → StreamRegistry} (others : Meanwhile c change c') :
    ∃ gone : StreamId → Prop, ∀ registry id, (gone id → change registry id = Option.none) ∧
      (¬gone id → change registry id = registry id) := by
  induction others with
  | none => exact ⟨fun _ => False, fun _ _ => ⟨False.elim, fun _ => rfl⟩⟩
  | @step change before action after _ elsewhere _ ih =>
    obtain ⟨gone, closes⟩ := ih
    have same (unchanged : ∀ registry, takeAway before registry action = registry) :
        ∃ gone : StreamId → Prop, ∀ registry id, (gone id → takeAway before (change registry) action id = Option.none) ∧
          (¬gone id → takeAway before (change registry) action id = registry id) := by
      refine ⟨gone, fun registry id => ?_⟩
      rw [unchanged]
      exact closes registry id
    cases action with
    | writerStop => exact ⟨fun _ => True, fun _ _ => ⟨fun _ => rfl, fun not => absurd trivial not⟩⟩
    | endpoint action =>
      cases action with
      | unregister k =>
        cases found : before.streams[k]? with
        | none => exact same fun registry => by simp [takeAway, found]
        | some s =>
          refine ⟨fun id => id = s.id ∨ gone id, fun registry id => ?_⟩
          simp only [takeAway, found, Option.elim_some, StreamRegistry.close, Function.update_apply]
          constructor
          · rintro (rfl | earlier)
            · simp
            · simp [(closes registry id).1 earlier]
          · intro kept
            obtain ⟨other, still⟩ := not_or.mp kept
            rw [if_neg other, (closes registry id).2 still]
      | _ => exact same fun _ => rfl
    | _ => exact same fun _ => rfl

/-! ### Refused OPENs -/

/-- `handle_open` from the frame to OPEN_ACK false, with what the other tasks make of the
registry before it returns. -/
inductive Refused (id : StreamId) (dest : String) (c : Server) : (StreamRegistry → StreamRegistry) → Server → Prop where
  | blocked {data opened change answering after} (decoded : Frame.decode data = .ok (.openStream id dest))
      (incoming : c.step (.incoming (.binary data)) = some opened) (refusing : opened.reader = .refusing id)
      (others : Meanwhile opened change answering) (answered : answering.step .answer = some after) :
    Refused id dest c change after
  | failed {data opened first connecting closed second answering after} (decoded : Frame.decode data = .ok (.openStream id dest))
      (incoming : c.step (.incoming (.binary data)) = some opened) (others : Meanwhile opened first connecting)
      (failed : connecting.step .connectFail = some closed) (later : Meanwhile closed second answering)
      (answered : answering.step .answer = some after) :
    Refused id dest c (second ∘ first) after

/-- The frame alone leaves the registry as it is; the destination decides what comes next. -/
theorem incoming_open {c c' : Server} {data : Bytes} {id : StreamId} {dest : String}
    (decoded : Frame.decode data = .ok (.openStream id dest)) (taken : c.step (.incoming (.binary data)) = some c') :
    c'.registry = c.registry ∧ (c'.reader = .connecting id dest ∧ isDestAllowed dest = true ∨
      c'.reader = .refusing id ∧ isDestAllowed dest = false ∨ c'.reader = .ended) := by
  cases server_effect taken with
  | unwelcome => exact ⟨rfl, .inr (.inr rfl)⟩
  | opening _ _ same allowed => cases decoded.symm.trans same; exact ⟨rfl, .inl ⟨rfl, allowed⟩⟩
  | blocked _ _ same forbidden => cases decoded.symm.trans same; exact ⟨rfl, .inr (.inl ⟨rfl, forbidden⟩)⟩
  | ignored ready =>
    rcases ready with ⟨-, ping⟩ | ⟨-, -, ping | ⟨_, _, same, bad⟩⟩
    · cases ping
    · cases ping
    · cases same
      cases decoded.symm.trans bad
  | hello _ same | closed _ _ same | routing _ _ same => cases decoded.symm.trans same
  | skipped _ _ same unknown =>
    cases decoded.symm.trans same
    simp at unknown

theorem answer_registry {c c' : Server} (taken : c.step .answer = some c') : c'.registry = c.registry := by
  cases server_effect taken <;> rfl

theorem connectFail_registry {c c' : Server} {id : StreamId} {dest : String} (connecting : c.reader = .connecting id dest)
    (taken : c.step .connectFail = some c') : c'.registry = c.registry.close id := by
  cases server_effect taken with
  | connectFail now => cases connecting.symm.trans now; rfl

/-- Closing an id first shows exactly if the others would have left it an entry. -/
private theorem close_shows {c c' : Server} {change : StreamRegistry → StreamRegistry} (others : Meanwhile c change c')
    (registry : StreamRegistry) (id : StreamId) : change (registry.close id) = change registry ↔ change registry id = none := by
  obtain ⟨gone, closes⟩ := others.closes
  constructor
  · intro same
    rw [← same]
    by_cases taken : gone id
    · exact (closes _ id).1 taken
    · rw [(closes _ id).2 taken]
      simp [StreamRegistry.close]
  · intro absent
    funext other
    by_cases taken : gone other
    · rw [(closes _ other).1 taken, (closes _ other).1 taken]
    · rw [(closes _ other).2 taken, (closes _ other).2 taken]
      by_cases own : other = id
      · subst own
        rw [← (closes registry other).2 taken, absent]
        simp [StreamRegistry.close]
      · simp [StreamRegistry.close, own]

/-- A refused OPEN leaves the registry to the other tasks exactly if the destination was
blocked or they leave no entry for its id. -/
theorem refused_open (c c' : Server) (id : StreamId) (dest : String) (change : StreamRegistry → StreamRegistry)
    (refused : Refused id dest c change c') :
    c'.registry = change c.registry ↔ isDestAllowed dest = false ∨ change c.registry id = none := by
  cases refused with
  | blocked decoded incoming refusing others answered =>
    obtain ⟨same, which⟩ := incoming_open decoded incoming
    have forbidden : isDestAllowed dest = false := by
      rcases which with ⟨connecting, -⟩ | ⟨-, forbidden⟩ | ended
      · simp [refusing] at connecting
      · exact forbidden
      · simp [refusing] at ended
    rw [answer_registry answered, others.keeps.1, same]
    exact iff_of_true rfl (.inl forbidden)
  | @failed data opened first connecting closed second answering _ decoded incoming others failed later answered =>
    obtain ⟨same, which⟩ := incoming_open decoded incoming
    obtain ⟨registry, reader⟩ := others.keeps
    have closing : ∃ allowed : isDestAllowed dest = true, closed.registry = (first c.registry).close id := by
      rcases which with ⟨now, allowed⟩ | ⟨now, -⟩ | now
      · exact ⟨allowed, by rw [connectFail_registry (reader.trans now) failed, registry, same]⟩
      · simp [Server.step, reader, now] at failed
      · simp [Server.step, reader, now] at failed
    obtain ⟨allowed, close⟩ := closing
    rw [answer_registry answered, later.keeps.1, close, Function.comp_apply, close_shows later]
    simp [allowed]

/-! ### Two runs -/

/-- The steps of `handle_open` on a failed connect, with nothing in between. -/
private def failing (id : StreamId) (dest : String) : List ServerAction :=
  [.incoming (Frame.openStream id dest).message, .connectFail, .answer]

private theorem failing_refused {c c' : Server} {id : StreamId} {dest : String}
    (executed : serverSystem.exec c (failing id dest) = some c') :
    Refused id dest c ((fun registry => registry) ∘ fun registry => registry) c' := by
  obtain ⟨opened, incoming, executed⟩ := Option.bind_eq_some_iff.mp executed
  obtain ⟨closed, failed, executed⟩ := Option.bind_eq_some_iff.mp executed
  obtain ⟨after, answered, executed⟩ := Option.bind_eq_some_iff.mp executed
  cases executed
  exact .failed (WireFormat.decode_encode _) incoming .none failed .none answered

/-- A session with stream 1 open. -/
private def oneStream : List ServerAction := [.incoming (Frame.hello "t").message, .accept,
  .incoming (Frame.openStream 1 "1.1.1.1:80").message, .connectOk, .answer]

private theorem after_oneStream (id : StreamId) (dest : String) (left : Option Nat)
    (executed : (serverSystem.exec Server.fresh oneStream).any (fun c => decide (c.registry 1 = some 0 ∧ c.registry 2 = none) &&
      (serverSystem.exec c (failing id dest)).any fun c' => decide (c'.registry 1 = left)) = true) :
    ∃ c c' : Server, serverSystem.Reachable c ∧ c.registry 1 = some 0 ∧ c.registry 2 = none ∧ c'.registry 1 = left ∧
      Refused id dest c ((fun registry => registry) ∘ fun registry => registry) c' := by
  obtain ⟨c, run, view⟩ := Transition.System.reached executed rfl
  obtain ⟨registered, goes⟩ := Bool.and_eq_true_iff.mp view
  obtain ⟨one, two⟩ := of_decide_eq_true registered
  obtain ⟨c', executed, stays⟩ := (Option.any_eq_true _ _).mp goes
  exact ⟨c, c', run, one, two, of_decide_eq_true stays, failing_refused executed⟩

/-- A connect that fails for an id of its own leaves the open stream registered. -/
theorem other_id_refused : ∃ c c' : Server, serverSystem.Reachable c ∧ c.registry 1 = some 0 ∧ c'.registry = c.registry := by
  obtain ⟨c, c', run, one, two, -, refused⟩ := after_oneStream 2 "1.1.1.1:81" (some 0) (by decide +kernel)
  exact ⟨c, c', run, one, (refused_open c c' 2 "1.1.1.1:81" _ refused).mpr (.inr two)⟩

/-- A connect that fails for the id of the open stream takes it out of the registry. -/
theorem open_stream_unregistered : ¬∀ (c c' : Server) (id : StreamId) (dest : String) (change : StreamRegistry → StreamRegistry),
    serverSystem.Reachable c → Refused id dest c change c' → c'.registry = change c.registry := by
  intro kept
  obtain ⟨c, c', run, one, -, gone, refused⟩ := after_oneStream 1 "1.1.1.1:81" none (by decide +kernel)
  have same := congrFun (kept c c' 1 "1.1.1.1:81" _ run refused) 1
  rw [gone, Function.comp_apply, one] at same
  cases same

end EchoProxy.Proofs.Refusal
