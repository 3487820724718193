import EchoProxy.Proofs.ClientInvariant
import EchoProxy.Proofs.ProxySteps

/-! Invariants of the client programs: what is in the slot, which token each connection
has, and which stream each handler is. -/

namespace EchoProxy.Proofs.ProxyInvariant
open EchoProxy StreamFlow HandlerFlow EndpointSteps EndpointAccounts ClientSteps ProxySteps Places

variable {socks : Bool} {p p' : Resilient} {action : ResilientAction}

/-! ### The slot -/

/-- The connection in the slot is the one the keeper waits on. -/
def SlotWaits (p : Resilient) : Prop := ∀ conn, p.shared = some conn → p.keeper = .waiting conn

theorem SlotWaits.step (valid : SlotWaits p) (effect : ResilientEffect p action p') : SlotWaits p' := by
  intro conn slot
  cases effect with
  | keeper effect =>
    cases effect with
    | obtained now | unobtained now | slept now | connected now | unconnected now | ungreeted now | stopped now | clear now
    | close now => exact absurd (valid conn slot) (by simp [now])
    | greeted => simpa using slot
    | took => cases slot
    | empty _ empty => exact absurd (slot.symm.trans empty) (by simp)
  | _ => exact valid conn slot

theorem slot_waits (run : (resilientSystem socks).Reachable p) : SlotWaits p := by
  refine run.invariant ?_ ?_
  · rintro p rfl conn slot
    cases slot
  · intro before action after _ valid _ taken
    exact valid.step (resilient_effect taken)

/-! ### Connections and tokens -/

/-- The token of a connection that is being made. -/
def inHand : Keeper → List String
  | .connecting token => [token]
  | _ => []

/-- What a step does to the connections. -/
theorem conns_change (effect : ResilientEffect p action p') :
    p'.conns = p.conns ∨ (∃ conn move, ConnStep p conn move p'.conns) ∨
      ∃ token, action = .keeper .connected ∧ p.keeper = .connecting token ∧ p'.conns = p.conns ++ [Client.fresh token true] := by
  cases effect with
  | accept | halted | departed | unavailable => exact .inl rfl
  | tunnelled _ _ _ moved | handler _ moved | loop moved => exact .inr (.inl ⟨_, _, moved⟩)
  | keeper effect =>
    cases effect with
    | obtained | unobtained | slept | unconnected | empty | stopped => exact .inl rfl
    | connected now => exact .inr (.inr ⟨_, rfl, now, rfl⟩)
    | greeted _ moved | ungreeted _ moved | took _ _ _ moved | clear _ moved | close _ moved => exact .inr (.inl ⟨_, _, moved⟩)

/-- Each connection is a run of its own and has a token of its own. -/
structure Dialled (p : Resilient) (tokens : List String) : Prop where
  length : tokens.length = p.conns.length
  runs : ∀ (conn : Nat) (token : String) (c : Client), tokens[conn]? = some token → p.conns[conn]? = some c →
    (clientSystem token true).Reachable c
  obtained : (tokens ++ inHand p.keeper).Sublist p.obtained

private theorem Dialled.frame {tokens : List String} (dialled : Dialled p tokens)
    (conns : p'.conns = p.conns ∨ ∃ conn move, ConnStep p conn move p'.conns)
    (obtained : (tokens ++ inHand p'.keeper).Sublist p'.obtained) : Dialled p' tokens := by
  rcases conns with same | ⟨conn, move, moved⟩
  · exact ⟨same ▸ dialled.length, same ▸ dialled.runs, obtained⟩
  · generalize after : p'.conns = conns at moved
    obtain ⟨there, stepped⟩ := moved
    refine ⟨by simp [after, dialled.length], ?_, obtained⟩
    intro j token c own found
    rw [after] at found
    rcases set_cases found with ⟨rfl, rfl⟩ | ⟨-, found⟩
    · exact (dialled.runs _ token _ own there).step trivial stepped
    · exact dialled.runs j token c own found

private theorem tokens_sublist {keeper : Keeper} {tokens obtained : List String}
    (front : (tokens ++ inHand keeper).Sublist obtained) : tokens.Sublist obtained :=
  (List.sublist_append_left _ _).trans front

theorem Dialled.step {tokens : List String} (dialled : Dialled p tokens) (effect : ResilientEffect p action p') :
    ∃ tokens, Dialled p' tokens := by
  have change := conns_change effect
  have front := tokens_sublist dialled.obtained
  cases effect with
  | keeper effect =>
    cases effect with
    | obtained =>
      exact ⟨tokens, dialled.frame (.inl rfl) (by simpa [inHand] using front)⟩
    | @connected token now =>
      refine ⟨tokens ++ [token], ⟨by simp [dialled.length], ?_, ?_⟩⟩
      · intro conn own c mine found
        rcases append_cases found with ⟨rfl, rfl⟩ | found
        · rw [← dialled.length, List.getElem?_concat_length] at mine
          cases mine
          exact .init rfl
        · have inside := (List.getElem?_eq_some_iff.mp found).1
          rw [List.getElem?_append_left (dialled.length ▸ inside)] at mine
          exact dialled.runs conn own c mine found
      · have whole := dialled.obtained
        simpa [now, inHand] using whole
    | unobtained | slept | unconnected | stopped => exact ⟨tokens, dialled.frame (.inl rfl) (by simpa [inHand] using front)⟩
    | @empty _ _ last =>
      exact ⟨tokens, dialled.frame (.inl rfl) (by cases last <;> simpa [inHand] using front)⟩
    | greeted _ moved | ungreeted _ moved | took _ _ _ moved | clear _ moved =>
      exact ⟨tokens, dialled.frame (.inr ⟨_, _, moved⟩) (by simpa [inHand] using front)⟩
    | @close _ last _ _ moved =>
      exact ⟨tokens, dialled.frame (.inr ⟨_, _, moved⟩) (by cases last <;> simpa [inHand] using front)⟩
  | accept | halted | departed | unavailable => exact ⟨tokens, dialled.frame (.inl rfl) dialled.obtained⟩
  | tunnelled _ _ _ moved | handler _ moved | loop moved =>
    exact ⟨tokens, dialled.frame (.inr ⟨_, _, moved⟩) dialled.obtained⟩

theorem dialled (run : (resilientSystem socks).Reachable p) : ∃ tokens, Dialled p tokens := by
  refine run.invariant (p := fun p => ∃ tokens, Dialled p tokens) ?_ ?_
  · rintro p rfl
    exact ⟨[], ⟨rfl, by simp, by simp [Resilient.fresh, inHand]⟩⟩
  · intro before action after _ valid _ taken
    obtain ⟨tokens, valid⟩ := valid
    exact valid.step (resilient_effect taken)

/-- Every connection of a run is valid for a token. -/
theorem conn_reachable (run : (resilientSystem socks).Reachable p) {conn : Nat} {c : Client} (found : p.conns[conn]? = some c) :
    ∃ token, (clientSystem token true).Reachable c := by
  obtain ⟨tokens, dialled⟩ := dialled run
  have inside := (List.getElem?_eq_some_iff.mp found).1
  rw [← dialled.length] at inside
  exact ⟨tokens[conn], dialled.runs conn _ c (List.getElem?_eq_getElem inside) found⟩

/-! ### Handlers and streams -/

/-- Only the acceptance of a handler adds a stream. -/
theorem client_keeps {c c' : Client} {action : ClientAction} (effect : ClientEffect c action c') (other : action.isAccept = false) :
    c'.streams.map Stream.id = c.streams.map Stream.id := by
  cases effect with
  | endpoint effect => exact (endpoint_ids effect).1
  | accept => cases other
  | register found stepped | insertAck found stepped | leave found stepped | sent found _ _ _ stepped
  | unsent found _ _ _ stepped | ackLost found _ stepped | handler found _ stepped | acked _ _ _ _ found stepped =>
    exact set_ids found stepped.same.1
  | routing _ _ _ _ found stepped => exact set_ids found stepped.same.1
  | _ => rfl

private theorem task_isAccept (k : Nat) (action : TaskAction) : (action.on k).isAccept = false := by cases action <;> rfl

private theorem loop_isAccept (action : LoopAction) : action.on.isAccept = false := by cases action <;> rfl

/-- Stream `k` of connection `conn` has the id. -/
def IsStream (conns : List Client) (conn k : Nat) (id : StreamId) : Prop :=
  ∃ c s, conns[conn]? = some c ∧ c.streams[k]? = some s ∧ s.id = id

/-- Stream `k` of connection `conn` is the one of a handler with the id. -/
def IsHandler (l : Listeners) (conn k : Nat) (id : StreamId) : Prop :=
  ∃ (h : Nat) (listener : Listener), l.accepted[h]? = some ⟨id, listener, .tunnelled conn k⟩

/-- The tunnelled handlers are the streams of the connections they took. -/
def Placed (l : Listeners) (conns : List Client) : Prop :=
  ∀ conn k id, IsStream conns conn k id ↔ IsHandler l conn k id

private theorem isStream_map {c : Client} {k : Nat} {id : StreamId} :
    (∃ s, c.streams[k]? = some s ∧ s.id = id) ↔ (c.streams.map Stream.id)[k]? = some id := by
  simp

private theorem isStream_set {conns : List Client} {j conn k : Nat} {id : StreamId} {c c' : Client} (there : conns[j]? = some c)
    (same : c'.streams.map Stream.id = c.streams.map Stream.id) :
    IsStream (conns.set j c') conn k id ↔ IsStream conns conn k id := by
  by_cases own : conn = j
  · subst own
    simp only [IsStream, set_found there, there, Option.some.injEq, exists_and_left, exists_eq_left', isStream_map, same]
  · simp only [IsStream, set_other own]

theorem settle_other {l : Listeners} {h i : Nat} {standing : Standing} (different : i ≠ h) :
    (l.settle h standing).accepted[i]? = l.accepted[i]? := by
  simp [Listeners.settle, Ne.symm different]

theorem settle_own {l : Listeners} {h : Nat} {id : StreamId} {listener : Listener} {old standing : Standing}
    (found : l.accepted[h]? = some ⟨id, listener, old⟩) :
    (l.settle h standing).accepted[h]? = some ⟨id, listener, standing⟩ := by
  simp [Listeners.settle, found]

private theorem isStream_append {conns : List Client} {j conn k : Nat} {id : StreamId} {c c' : Client} {new : Stream Handler}
    (there : conns[j]? = some c) (streams : c'.streams = c.streams ++ [new]) :
    IsStream (conns.set j c') conn k id ↔ IsStream conns conn k id ∨ conn = j ∧ k = c.streams.length ∧ new.id = id := by
  by_cases own : conn = j
  · subst own
    simp only [IsStream, set_found there, there, Option.some.injEq, exists_and_left, exists_eq_left', streams, true_and]
    constructor
    · intro present
      obtain ⟨s, found, same⟩ := present
      rcases append_cases found with ⟨rfl, rfl⟩ | found
      · exact .inr ⟨rfl, same⟩
      · exact .inl ⟨s, found, same⟩
    · intro present
      rcases present with ⟨s, found, same⟩ | ⟨rfl, same⟩
      · exact ⟨s, append_found found new, same⟩
      · exact ⟨new, List.getElem?_concat_length, same⟩
  · simp [IsStream, set_other own, own]

private theorem isStream_accept {conns : List Client} {j conn k : Nat} {id other : StreamId} {tunnel : Tunnel} {c c' : Client}
    (there : conns[j]? = some c) (effect : ClientEffect c (.accept id tunnel) c') :
    IsStream (conns.set j c') conn k other ↔
      IsStream conns conn k other ∨ other = id ∧ Standing.tunnelled j c.streams.length = .tunnelled conn k := by
  cases effect with
  | accept =>
    rw [isStream_append there rfl]
    simp only [Stream.fresh, Standing.tunnelled.injEq]
    constructor <;>
    · intro either
      apply either.imp_right
      intro new
      simp [new]

private theorem isStream_dial {conns : List Client} {conn k : Nat} {id : StreamId} {token : String} :
    IsStream (conns ++ [Client.fresh token true]) conn k id ↔ IsStream conns conn k id := by
  constructor
  · intro present
    obtain ⟨c, s, found, there, same⟩ := present
    rcases append_cases found with ⟨rfl, rfl⟩ | found
    · simp [Client.fresh, Endpoint.fresh] at there
    · exact ⟨c, s, found, there, same⟩
  · intro present
    obtain ⟨c, s, found, there, same⟩ := present
    exact ⟨c, s, append_found found _, there, same⟩

theorem isHandler_accept {l : Listeners} {listener : Listener} {standing : Standing} {conn k : Nat} {id : StreamId} :
    IsHandler (l.accept listener standing) conn k id ↔ IsHandler l conn k id ∨ id = l.nextId ∧ standing = .tunnelled conn k := by
  constructor
  · intro present
    obtain ⟨h, which, found⟩ := present
    rcases append_cases found with ⟨-, own⟩ | found
    · cases own
      exact .inr ⟨rfl, rfl⟩
    · exact .inl ⟨h, which, found⟩
  · intro present
    rcases present with ⟨h, which, found⟩ | ⟨rfl, rfl⟩
    · exact ⟨h, which, append_found found _⟩
    · exact ⟨l.accepted.length, listener, List.getElem?_concat_length⟩

private theorem isHandler_settle {l : Listeners} {h : Nat} {id other : StreamId} {listener : Listener} {standing : Standing}
    {conn k : Nat} (found : l.accepted[h]? = some ⟨id, listener, .parsing⟩) :
    IsHandler (l.settle h standing) conn k other ↔ IsHandler l conn k other ∨ other = id ∧ standing = .tunnelled conn k := by
  constructor
  · intro present
    obtain ⟨i, which, there⟩ := present
    by_cases own : i = h
    · subst own
      rw [settle_own found] at there
      cases there
      exact .inr ⟨rfl, rfl⟩
    · exact .inl ⟨i, which, settle_other own ▸ there⟩
  · intro present
    rcases present with ⟨i, which, there⟩ | ⟨rfl, rfl⟩
    · have different : i ≠ h := by
        rintro rfl
        rw [found] at there
        cases there
      exact ⟨i, which, (settle_other different).trans there⟩
    · exact ⟨h, listener, settle_own found⟩

private theorem isStream_moved {p : Resilient} {conn j k : Nat} {id : StreamId} {action : ClientAction} {conns : List Client}
    (moved : ConnStep p conn action conns) (other : action.isAccept = false) : IsStream conns j k id ↔ IsStream p.conns j k id := by
  obtain ⟨there, stepped⟩ := moved
  exact isStream_set there (client_keeps (client_effect stepped) other)

theorem Placed.step (placed : Placed p.listeners p.conns) (effect : ResilientEffect p action p') :
    Placed p'.listeners p'.conns := by
  intro conn k id
  have before := placed conn k id
  cases effect with
  | accept => simpa [isHandler_accept] using before
  | halted => exact before
  | departed found | unavailable found => simpa [isHandler_settle found] using before
  | @tunnelled h own listener tunnel j c conns found slot there moved =>
    obtain ⟨there', stepped⟩ := moved
    cases there.symm.trans there'
    rw [isHandler_settle found, isStream_accept there (client_effect stepped), before]
  | handler _ moved => exact (isStream_moved moved (task_isAccept _ _)).trans before
  | loop moved => exact (isStream_moved moved (loop_isAccept _)).trans before
  | keeper effect =>
    cases effect with
    | obtained | unobtained | slept | unconnected | empty | stopped => exact before
    | connected => exact isStream_dial.trans before
    | greeted _ moved | ungreeted _ moved | took _ _ _ moved | clear _ moved | close _ moved =>
      exact (isStream_moved moved rfl).trans before

theorem placed (run : (resilientSystem socks).Reachable p) : Placed p.listeners p.conns := by
  refine run.invariant (p := fun p => Placed p.listeners p.conns) ?_ ?_
  · rintro p rfl conn k id
    simp [IsStream, IsHandler, Resilient.fresh, Listeners.fresh]
  · intro before action after _ valid _ taken
    exact valid.step (resilient_effect taken)

/-- The one connection of `run_proxy_with_routing` has number 0. -/
theorem plain_placed {token : String} {q : Plain} (run : (plainSystem token).Reachable q) : Placed q.listeners [q.client] := by
  refine run.invariant (p := fun q => Placed q.listeners [q.client]) ?_ ?_
  · rintro q rfl conn k id
    cases conn <;> simp [IsStream, IsHandler, Plain.fresh, Listeners.fresh, Client.fresh, Endpoint.fresh]
  · intro before action after _ valid _ taken conn k id
    have earlier := valid conn k id
    have there : [before.client][0]? = some before.client := rfl
    cases plain_effect taken with
    | elsewhere => simpa [isHandler_accept] using earlier
    | tunnelled stepped =>
      rw [isHandler_accept, ← earlier]
      exact isStream_accept there (client_effect stepped)
    | client other stepped => exact (isStream_set there (client_keeps (client_effect stepped) other)).trans earlier

end EchoProxy.Proofs.ProxyInvariant
