import EchoProxy.Proofs.ProxyInvariant

/-! The ids `next_id.fetch_add` gives out. They start at 1 and wrap around after 2^32
accepted connections, so an id can come back, 0 among them: what is said of ids here is
said of the numbers of the accepted connections. -/

namespace EchoProxy.Proofs.StreamIds
open EchoProxy StreamFlow HandlerFlow EndpointSteps EndpointAccounts ClientSteps FrameSequences ProxySteps ProxyInvariant Places

/-! ### One connection -/

/-- No OPEN carries the id of HELLO, and streams that are live together have different ids. -/
structure Separate (c : Client) : Prop where
  reserved : ∀ dest, .openStream 0 dest ∉ c.frames.history
  live : ∀ (j k : Nat) (s t : Stream Handler), c.streams[j]? = some s → c.streams[k]? = some t →
    s.phase ≠ .done → t.phase ≠ .done → s.id = t.id → j = k

private theorem HandlerEffect.live {s s' : Stream Handler} {move} (effect : HandlerEffect s move s') (live : s'.phase ≠ .done) :
    s.phase ≠ .done := by
  cases effect with
  | ack => exact live
  | _ front => simp [front]

private theorem client_live {c c' : Client} {action : ClientAction} (effect : ClientEffect c action c') (other : action.isAccept = false)
    {j : Nat} {t' : Stream Handler} (found : c'.streams[j]? = some t') (live : t'.phase ≠ .done) :
    ∃ t, c.streams[j]? = some t ∧ t.id = t'.id ∧ t.phase ≠ .done := by
  have keeps := client_keeps effect other
  have change := ClientInvariant.client_streams effect
  generalize c'.streams = after at change found keeps
  cases change with
  | same => exact ⟨t', found, rfl, live⟩
  | shared there stepped =>
    rcases set_cases found with ⟨rfl, rfl⟩ | ⟨-, found⟩
    · exact ⟨_, there, stepped.same.1.symm, fun ended => live (Effect.done stepped ended)⟩
    · exact ⟨t', found, rfl, live⟩
  | handler there stepped =>
    rcases set_cases found with ⟨rfl, rfl⟩ | ⟨-, found⟩
    · exact ⟨_, there, stepped.same.1.symm, HandlerEffect.live stepped live⟩
    · exact ⟨t', found, rfl, live⟩
  | accept =>
    have count := congrArg List.length keeps
    simp at count

/-- A stream is about to have its OPEN accepted. -/
def opens (c : Client) (k : Nat) : Bool :=
  c.frames.receiver && c.streams[k]?.any fun s => s.phase = .front ∧ s.front.stage = .opening

theorem Separate.step {c c' : Client} {action : ClientAction} (valid : Separate c) (effect : ClientEffect c action c')
    (other : action.isAccept = false)
    (named : ∀ k s, action = .handler k .send → c.streams[k]? = some s → opens c k = true → s.id ≠ 0) : Separate c' := by
  constructor
  · intro dest
    cases ClientInvariant.client_sends effect with
    | same _ history | quiet _ _ _ _ history | accept _ history => exact history ▸ valid.reserved dest
    | @sent k s s' frame found id own emitted streams history accepting which =>
      rw [history, List.mem_append, List.mem_singleton, not_or]
      refine ⟨valid.reserved dest, ?_⟩
      rintro rfl
      rcases which with ⟨same, request⟩ | ⟨-, outgoing⟩
      · refine named k s same found ?_ (Option.some.inj own).symm
        unfold Stream.request at request
        split at request
        · next front opening => simp [opens, accepting, found, front, opening]
        · cases request
        · cases request
      · unfold Stream.outgoing at outgoing
        split at outgoing <;> cases outgoing
  · intro j k s t found found' live live' same
    obtain ⟨s', there, id, before⟩ := client_live effect other found live
    obtain ⟨t', there', id', before'⟩ := client_live effect other found' live'
    exact valid.live j k s' t' there there' before before' (id.trans (same.trans id'.symm))

/-- A new stream is told apart from the live ones when none has its id, and only then. -/
theorem Separate.accept {c c' : Client} {id : StreamId} {tunnel : Tunnel} (valid : Separate c)
    (effect : ClientEffect c (.accept id tunnel) c')
    (free : ∀ (k : Nat) (s : Stream Handler), c.streams[k]? = some s → s.phase ≠ .done → s.id ≠ id) : Separate c' := by
  cases effect with
  | accept =>
    refine ⟨valid.reserved, ?_⟩
    intro j k s t found found' live live' same
    rcases append_cases found with ⟨rfl, rfl⟩ | found
    · rcases append_cases found' with ⟨rfl, rfl⟩ | found'
      · rfl
      · exact absurd same.symm (free k t found' live')
    · rcases append_cases found' with ⟨rfl, rfl⟩ | found'
      · exact absurd same (free j s found live)
      · exact valid.live j k s t found found' live live' same

theorem accepted_free {c c' : Client} {id : StreamId} {tunnel : Tunnel} (effect : ClientEffect c (.accept id tunnel) c')
    (separate : Separate c') : ∀ (k : Nat) (s : Stream Handler), c.streams[k]? = some s → s.phase ≠ .done → s.id ≠ id := by
  cases effect with
  | accept =>
    intro k s found live same
    have place := separate.live k c.streams.length s _ (append_found found _) List.getElem?_concat_length live
      (by simp [Stream.fresh]) same
    have inside := (List.getElem?_eq_some_iff.mp found).1
    omega

/-- An OPEN with the id of HELLO is not separate. -/
theorem opened_reserved {c c' : Client} {k : Nat} {s : Stream Handler} (effect : ClientEffect c (.handler k .send) c')
    (found : c.streams[k]? = some s) (opening : opens c k = true) (zero : s.id = 0) : ¬ Separate c' := by
  intro separate
  simp only [opens, found, Option.any_some, Bool.and_eq_true, decide_eq_true_eq] at opening
  obtain ⟨accepting, front, stage⟩ := opening
  have request : s.request = some (.openStream 0 s.front.spec.dest) := by simp [Stream.request, front, stage, zero]
  cases effect with
  | sent there request' accepts =>
    cases there.symm.trans found
    cases request.symm.trans request'
    refine separate.reserved s.front.spec.dest ?_
    simp [accepts.history]
  | unsent _ _ closed => simp [accepting] at closed

/-! ### Numbers and ids -/

/-- How many ids there are. -/
def idSpace : Nat := 2 ^ 32

/-- The id of the `h`-th accepted connection, counted from 0. -/
def idOf (h : Nat) : StreamId := UInt32.ofNat (h + 1)

theorem idOf_succ (h : Nat) : idOf h + 1 = idOf (h + 1) := by
  simp [idOf, UInt32.ofNat_add]

theorem idOf_inj {h i : Nat} : idOf h = idOf i ↔ h % idSpace = i % idSpace := by
  rw [← UInt32.toNat_inj, idOf, idOf, UInt32.toNat_ofNat', UInt32.toNat_ofNat', idSpace]
  omega

theorem idOf_zero {h : Nat} : idOf h = 0 ↔ (h + 1) % idSpace = 0 := by
  rw [← UInt32.toNat_inj, idOf, UInt32.toNat_ofNat', idSpace]
  simp

/-- The accepted connections have the ids of their numbers. -/
structure Numbered (l : Listeners) : Prop where
  next : l.nextId = idOf l.accepted.length
  ids : ∀ (h : Nat) (connection : LocalConnection), l.accepted[h]? = some connection → connection.id = idOf h

theorem Numbered.fresh : Numbered .fresh := ⟨rfl, by simp [Listeners.fresh]⟩

theorem Numbered.accept {l : Listeners} (valid : Numbered l) (listener : Listener) (standing : Standing) :
    Numbered (l.accept listener standing) := by
  constructor
  · simp [Listeners.accept, valid.next, idOf_succ]
  · intro h connection found
    rcases append_cases found with ⟨rfl, rfl⟩ | found
    · exact valid.next
    · exact valid.ids h connection found

theorem Numbered.settle {l : Listeners} (valid : Numbered l) {h : Nat} {id : StreamId} {listener : Listener} {old : Standing}
    (found : l.accepted[h]? = some ⟨id, listener, old⟩) (standing : Standing) : Numbered (l.settle h standing) := by
  constructor
  · simp [Listeners.settle, valid.next]
  · intro i connection there
    by_cases own : i = h
    · subst own
      rw [settle_own found] at there
      cases there
      have own := valid.ids i _ found
      exact own
    · exact valid.ids i connection (settle_other own ▸ there)

/-- The stream of an accepted connection is live on connection `conn`. -/
def isLive (c : Client) (conn : Nat) (connection : LocalConnection) : Bool :=
  match connection.standing with
  | .tunnelled j k => j = conn && c.streams[k]?.any (·.phase ≠ .done)
  | _ => false

/-- The `h`-th accepted connection may become a stream of `c`, made as number `conn`: no
live stream of it was accepted a whole number of turns before. -/
def mayJoin (l : Listeners) (c : Client) (conn h : Nat) : Bool :=
  l.accepted.zipIdx.all fun entry => !isLive c conn entry.1 || entry.2 % idSpace ≠ h % idSpace

/-- Stream `k` of `c` may have its OPEN accepted: its number is not that of id 0. -/
def mayOpen (l : Listeners) (c : Client) (conn k : Nat) : Bool :=
  l.accepted.zipIdx.all fun entry => entry.1.standing ≠ .tunnelled conn k || !opens c k || (entry.2 + 1) % idSpace ≠ 0

section Numbers
variable {l : Listeners} {conns : List Client} {conn : Nat} {c : Client}

theorem mayJoin_iff (numbered : Numbered l) (placed : Placed l conns) (found : conns[conn]? = some c) (h : Nat) :
    mayJoin l c conn h = true ↔ ∀ (k : Nat) (s : Stream Handler), c.streams[k]? = some s → s.phase ≠ .done → s.id ≠ idOf h := by
  simp only [mayJoin, List.all_eq_true, Prod.forall, List.mem_zipIdx_iff_getElem?, Bool.or_eq_true, Bool.not_eq_true',
    decide_eq_true_eq]
  constructor
  · intro free k s there live same
    obtain ⟨i, listener, accepted⟩ := (placed conn k s.id).mp ⟨c, s, found, there, rfl⟩
    have own : s.id = idOf i := numbered.ids i _ accepted
    rcases free _ i accepted with idle | different
    · simp [isLive, there, live] at idle
    · exact different (idOf_inj.mp (own.symm.trans same))
  · intro free connection i accepted
    obtain ⟨id, listener, standing⟩ := connection
    cases standing with
    | tunnelled j k =>
      by_cases own : j = conn
      · subst own
        obtain ⟨c', s, found', there, same⟩ := (placed j k id).mpr ⟨i, listener, accepted⟩
        cases found.symm.trans found'
        by_cases live : s.phase = .done
        · exact .inl (by simp [isLive, there, live])
        · refine .inr ?_
          intro turn
          have number : id = idOf i := numbered.ids i _ accepted
          exact free k s there live (same.trans (number.trans (idOf_inj.mpr turn)))
      · exact .inl (by simp [isLive, own])
    | _ => exact .inl rfl

theorem mayOpen_iff (numbered : Numbered l) (placed : Placed l conns) (found : conns[conn]? = some c) (k : Nat) :
    mayOpen l c conn k = true ↔ ∀ s, c.streams[k]? = some s → opens c k = true → s.id ≠ 0 := by
  simp only [mayOpen, List.all_eq_true, Prod.forall, List.mem_zipIdx_iff_getElem?, Bool.or_eq_true, Bool.not_eq_true',
    decide_eq_true_eq]
  constructor
  · intro free s there opening zero
    obtain ⟨i, listener, accepted⟩ := (placed conn k s.id).mp ⟨c, s, found, there, rfl⟩
    have own : s.id = idOf i := numbered.ids i _ accepted
    rcases free _ i accepted with (other | shut) | named
    · exact other rfl
    · simp [shut] at opening
    · exact named (idOf_zero.mp (own.symm.trans zero))
  · intro free connection i accepted
    obtain ⟨id, listener, standing⟩ := connection
    by_cases place : standing = .tunnelled conn k
    · subst place
      obtain ⟨c', s, found', there, same⟩ := (placed conn k id).mpr ⟨i, listener, accepted⟩
      cases found.symm.trans found'
      cases opening : opens c k with
      | false => exact .inl (.inr rfl)
      | true =>
        refine .inr ?_
        intro turn
        have number : id = idOf i := numbered.ids i _ accepted
        exact free s there opening (same.trans (number.trans (idOf_zero.mpr turn)))
    · exact .inl (.inl place)

end Numbers

/-! ### Runs -/

theorem plain_numbered {token : String} {p : Plain} (run : (plainSystem token).Reachable p) : Numbered p.listeners := by
  refine run.invariant (p := fun p => Numbered p.listeners) ?_ ?_
  · rintro p rfl
    exact .fresh
  · intro before action after _ valid _ taken
    cases plain_effect taken with
    | elsewhere | tunnelled => exact valid.accept _ _
    | client => exact valid

theorem resilient_numbered {socks : Bool} {p : Resilient} (run : (resilientSystem socks).Reachable p) : Numbered p.listeners := by
  refine run.invariant (p := fun p => Numbered p.listeners) ?_ ?_
  · rintro p rfl
    exact .fresh
  · intro before action after _ valid _ taken
    cases resilient_effect taken with
    | accept => exact valid.accept _ _
    | departed found | unavailable found | tunnelled found => exact valid.settle found _
    | halted | handler | loop => exact valid
    | keeper effect => cases effect <;> exact valid

/-- The steps of `run_proxy_with_routing` after which ids are still told apart. -/
def plainMeets (p : Plain) : PlainAction → Bool
  | .accept (some _) => mayJoin p.listeners p.client 0 p.listeners.accepted.length
  | .client (.handler k .send) => mayOpen p.listeners p.client 0 k
  | _ => true

/-- The steps of `run_proxy_resilient` after which ids are still told apart. -/
def resilientMeets (p : Resilient) : ResilientAction → Bool
  | .snapshot h _ =>
    match p.shared with
    | some conn => p.conns[conn]?.all fun c => mayJoin p.listeners c conn h
    | none => true
  | .handler h (.handler .send) =>
    match p.listeners.accepted[h]? with
    | some ⟨_, _, .tunnelled conn k⟩ => p.conns[conn]?.all fun c => mayOpen p.listeners c conn k
    | _ => true
  | _ => true

private theorem separate_fresh (token : String) (resilient : Bool) : Separate (Client.fresh token resilient) :=
  ⟨by simp [Client.fresh, Endpoint.fresh, Channel.empty, Channel.history], by simp [Client.fresh, Endpoint.fresh]⟩

private theorem plain_step {token : String} {p p' : Plain} {action : PlainAction} (run : (plainSystem token).Reachable p)
    (valid : Separate p.client) (effect : PlainEffect p action p') (meets : plainMeets p action = true) : Separate p'.client := by
  have numbered := plain_numbered run
  have there : [p.client][0]? = some p.client := rfl
  cases effect with
  | elsewhere => exact valid
  | tunnelled stepped =>
    apply valid.accept (client_effect stepped)
    rw [numbered.next]
    exact (mayJoin_iff numbered (plain_placed run) there _).mp meets
  | client other stepped =>
    apply valid.step (client_effect stepped) other
    intro k s same found
    subst same
    exact (mayOpen_iff numbered (plain_placed run) there k).mp meets s found

private theorem task_sends {action : TaskAction} {k j : Nat} (sends : action.on k = .handler j .send) :
    action = .handler .send ∧ k = j := by
  cases action <;> simp_all [TaskAction.on]

private theorem conn_step {p : Resilient} {conn : Nat} {move : ClientAction} {conns : List Client}
    (valid : ∀ c ∈ p.conns, Separate c) (moved : ConnStep p conn move conns)
    (keeps : ∀ c c', p.conns[conn]? = some c → ClientEffect c move c' → Separate c') : ∀ c ∈ conns, Separate c := by
  obtain ⟨there, stepped⟩ := moved
  exact forall_set valid (keeps _ _ there (client_effect stepped))

private theorem resilient_step {socks : Bool} {p p' : Resilient} {action : ResilientAction}
    (run : (resilientSystem socks).Reachable p) (valid : ∀ c ∈ p.conns, Separate c) (effect : ResilientEffect p action p')
    (meets : resilientMeets p action = true) : ∀ c ∈ p'.conns, Separate c := by
  have numbered := resilient_numbered run
  have placed := placed run
  have at_ {conn : Nat} {c : Client} (found : p.conns[conn]? = some c) : Separate c := valid c (List.mem_of_getElem? found)
  cases effect with
  | accept | halted | departed | unavailable => exact valid
  | @tunnelled h id listener tunnel conn c conns found slot there moved =>
    refine conn_step valid moved ?_
    intro c₁ c' there' effect
    apply (at_ there').accept effect
    have own : id = idOf h := numbered.ids h _ found
    rw [own]
    have may : mayJoin p.listeners c₁ conn h = true := by simpa [resilientMeets, slot, there'] using meets
    exact (mayJoin_iff numbered placed there' h).mp may
  | @handler h id listener conn k action conns found moved =>
    refine conn_step valid moved ?_
    intro c c' there effect
    apply (at_ there).step effect (by cases action <;> rfl)
    intro j s sends here
    obtain ⟨rfl, rfl⟩ := task_sends sends
    have may : mayOpen p.listeners c conn k = true := by simpa [resilientMeets, found, there] using meets
    exact (mayOpen_iff numbered placed there k).mp may s here
  | @loop conn action conns moved =>
    refine conn_step valid moved ?_
    intro c c' there effect
    apply (at_ there).step effect (by cases action <;> rfl)
    intro j s sends
    cases action <;> cases sends
  | keeper effect =>
    cases effect with
    | obtained | unobtained | slept | unconnected | empty | stopped => exact valid
    | connected =>
      exact forall_append valid (separate_fresh _ _)
    | greeted _ moved | ungreeted _ moved | took _ _ _ moved | clear _ moved | close _ moved =>
      refine conn_step valid moved ?_
      intro c c' there effect
      apply (at_ there).step effect rfl
      intro j s sends
      cases sends

private theorem open_clashes {l : Listeners} {conns : List Client} {conn k : Nat} {c c' : Client} (numbered : Numbered l)
    (placed : Placed l conns) (found : conns[conn]? = some c) (effect : ClientEffect c (.handler k .send) c')
    (fails : mayOpen l c conn k = false) : ¬ Separate c' := by
  by_contra separate
  have may : mayOpen l c conn k = true := by
    apply (mayOpen_iff numbered placed found k).mpr
    intro s here opening zero
    exact opened_reserved effect here opening zero separate
  simp [fails] at may

private theorem plain_clashes {token : String} {p p' : Plain} {action : PlainAction} (run : (plainSystem token).Reachable p)
    (effect : PlainEffect p action p') (fails : plainMeets p action = false) : ¬ Separate p'.client := by
  have numbered := plain_numbered run
  have there : [p.client][0]? = some p.client := rfl
  cases effect with
  | elsewhere => cases fails
  | tunnelled stepped =>
    intro separate
    have free := accepted_free (client_effect stepped) separate
    rw [numbered.next] at free
    have may := (mayJoin_iff numbered (plain_placed run) there _).mpr free
    rw [plainMeets, may] at fails
    cases fails
  | @client action client other stepped =>
    unfold plainMeets at fails
    split at fails
    · next same => cases same
    · next same =>
      cases same
      exact open_clashes numbered (plain_placed run) there (client_effect stepped) fails
    · cases fails

private theorem resilient_clashes {socks : Bool} {p p' : Resilient} {action : ResilientAction}
    (run : (resilientSystem socks).Reachable p) (effect : ResilientEffect p action p') (fails : resilientMeets p action = false) :
    ∃ c ∈ p'.conns, ¬ Separate c := by
  have numbered := resilient_numbered run
  have placed := placed run
  cases effect with
  | accept | departed | loop | keeper => simp [resilientMeets] at fails
  | halted which => rcases which with rfl | ⟨_, rfl⟩ <;> simp [resilientMeets] at fails
  | unavailable _ slot => simp [resilientMeets, slot] at fails
  | @tunnelled h id listener tunnel conn c conns found slot there moved =>
    obtain ⟨there', stepped⟩ := moved
    cases there.symm.trans there'
    refine ⟨_, List.mem_of_getElem? (set_found there _), ?_⟩
    intro separate
    have free := accepted_free (client_effect stepped) separate
    have own : id = idOf h := numbered.ids h _ found
    rw [own] at free
    have may := (mayJoin_iff numbered placed there h).mpr free
    simp [resilientMeets, slot, there, may] at fails
  | @handler h id listener conn k action conns found moved =>
    obtain ⟨there, stepped⟩ := moved
    refine ⟨_, List.mem_of_getElem? (set_found there _), ?_⟩
    unfold resilientMeets at fails
    split at fails
    · next same => cases same
    · next same =>
      cases same
      simp only [found, there, Option.all_some] at fails
      exact open_clashes numbered placed there (client_effect stepped) fails
    · cases fails

/-- Ids are told apart in every run whose steps meet the condition on the numbers, and a
step that does not meet it confuses them. -/
theorem ids_told_apart (token : String) (socks : Bool) :
    (∀ p, ((plainSystem token).when plainMeets).Reachable p → Separate p.client) ∧
      (∀ p, ((resilientSystem socks).when resilientMeets).Reachable p → ∀ c ∈ p.conns, Separate c) ∧
      (∀ p action p', (plainSystem token).Reachable p → p.step action = some p' → plainMeets p action = false →
        ¬ Separate p'.client) ∧
      ∀ p action p', (resilientSystem socks).Reachable p → p.step action = some p' → resilientMeets p action = false →
        ∃ c ∈ p'.conns, ¬ Separate c := by
  refine ⟨?_, ?_, fun p action p' run taken => plain_clashes run (plain_effect taken),
    fun p action p' run taken => resilient_clashes run (resilient_effect taken)⟩
  · intro p run
    refine run.invariant (p := fun p => Separate p.client) ?_ ?_
    · rintro p rfl
      exact separate_fresh token false
    · intro before action after prior valid _ taken
      obtain ⟨meets, taken⟩ := Transition.System.when_step.mp taken
      exact plain_step prior.unguarded valid (plain_effect taken) meets
  · intro p run
    refine run.invariant (p := fun p => ∀ c ∈ p.conns, Separate c) ?_ ?_
    · rintro p rfl c member
      simp [Resilient.fresh] at member
    · intro before action after prior valid _ taken
      obtain ⟨meets, taken⟩ := Transition.System.when_step.mp taken
      exact resilient_step prior.unguarded valid (resilient_effect taken) meets

theorem two_streams_told_apart : ∃ p : Plain, p.client.streams.map Stream.id = [1, 3] ∧ Separate p.client := by
  have executed : (((plainSystem "t").when plainMeets).exec (Plain.fresh "t") [.client .connect,
      .accept (some (.viaMux ⟨"1.1.1.1:80", true, "", []⟩)), .accept none, .accept (some (.viaMux ⟨"1.1.1.1:80", true, "", []⟩)),
      .client (.handler 0 .register), .client (.handler 0 .insertAck), .client (.handler 0 .send)]).any (fun p =>
        decide (p.client.streams.map Stream.id = [1, 3])) = true := by decide +kernel
  obtain ⟨p, run, view⟩ := Transition.System.reached executed rfl
  exact ⟨p, of_decide_eq_true view, (ids_told_apart "t" true).1 p run⟩

/-! ### The 2^32nd connection -/

/-- Connections that bypass the tunnel use up ids as well. -/
private theorem bypassed (n : Nat) {p : Plain} (run : (plainSystem "t").Reachable p) (attached : p.client.link = .attached) :
    ∃ p', (plainSystem "t").Reachable p' ∧ p'.client = p.client ∧ p'.listeners.accepted.length = p.listeners.accepted.length + n := by
  induction n with
  | zero => exact ⟨p, run, rfl, rfl⟩
  | succ n ih =>
    obtain ⟨q, reached, same, count⟩ := ih
    have taken : (plainSystem "t").step q (.accept none) = some { q with listeners := q.listeners.accept .http .elsewhere } := by
      simp [plainSystem, Plain.step, same, attached]
    refine ⟨_, reached.step trivial taken, same, ?_⟩
    simp [Listeners.accept, count, Nat.add_assoc]

private theorem plain_exec {actions : List ClientAction} {listeners : Listeners} {c c' : Client}
    (others : ∀ action ∈ actions, action.isAccept = false) (ran : (clientSystem "t" false).exec c actions = some c') :
    (plainSystem "t").exec ⟨listeners, c⟩ (actions.map .client) = some ⟨listeners, c'⟩ := by
  induction actions generalizing c with
  | nil =>
    cases ran
    rfl
  | cons action rest ih =>
    obtain ⟨next, taken, remaining⟩ := Option.bind_eq_some_iff.mp ran
    have moved : (plainSystem "t").step ⟨listeners, c⟩ (.client action) = some ⟨listeners, next⟩ := by
      have stepped : c.step action = some next := taken
      simp [plainSystem, Plain.step, others action (by simp), stepped]
    simp only [List.map_cons, Transition.System.exec, moved, Option.bind_some]
    exact ih (fun later member => others later (by simp [member])) remaining

/-- The client once connected, and with a first stream. -/
private def connected : Client :=
  { Client.fresh "t" false with link := .attached, reader := .running, writer := .receiving, put := [.hello "t"] }

private def firstStream (id : StreamId) : Client :=
  { connected with streams := [Stream.fresh id ⟨.viaMux ⟨"1.1.1.1:80", true, "", []⟩, .start, none⟩] }

/-- The handler of connection 2^32 gets the id of HELLO and opens a stream under it. -/
theorem reserved_id_opened : ∃ p, (plainSystem "t").Reachable p ∧ p.listeners.accepted.length = idSpace ∧
    .openStream 0 "1.1.1.1:80" ∈ p.client.frames.history ∧ ¬ Separate p.client := by
  have fresh : (plainSystem "t").Reachable (Plain.fresh "t") := .init rfl
  have connects : (plainSystem "t").step (Plain.fresh "t") (.client .connect) = some ⟨.fresh, connected⟩ := rfl
  have start := fresh.step trivial connects
  obtain ⟨p, run, same, count⟩ := bypassed (idSpace - 1) start rfl
  have zero : p.listeners.nextId = 0 := by
    rw [(plain_numbered run).next, idOf_zero, count]
    simp [Listeners.fresh, idSpace]
  have taken : (plainSystem "t").step p (.accept (some (.viaMux ⟨"1.1.1.1:80", true, "", []⟩))) =
      some ⟨p.listeners.accept .http (.tunnelled 0 0), firstStream 0⟩ := by
    simp only [plainSystem, Plain.step, zero, same]
    rfl
  have executed : ((clientSystem "t" false).exec (firstStream 0)
      [.handler 0 .register, .handler 0 .insertAck, .handler 0 .send]).any (fun c =>
        decide (.openStream 0 "1.1.1.1:80" ∈ c.frames.history)) = true := by decide +kernel
  obtain ⟨c, ran, view⟩ := (Option.any_eq_true _ _).mp executed
  have sent : .openStream 0 "1.1.1.1:80" ∈ c.frames.history := of_decide_eq_true view
  refine ⟨_, (run.step trivial taken).exec (fun _ _ => trivial) (plain_exec (by simp [ClientAction.isAccept]) ran), ?_, sent,
    fun separate => separate.reserved _ sent⟩
  simp [Listeners.accept, Listeners.fresh, count, idSpace]

end EchoProxy.Proofs.StreamIds
