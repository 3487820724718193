import EchoProxy.Lib.BufReader

/-! Programs that read a byte stream exactly, answer it, and may give up. A program
that accepts by a grammar takes exactly the words of the grammar off the front. -/

namespace Dialogue
open Buffered
variable {α β γ : Type}

/-- A connection: what arrives on it and what was written to it. -/
structure Peer (α : Type) where
  source : Source α
  written : List α
  writable : Bool

/-- The connection stays as the program left it, also when it gave up. -/
def Program (α β : Type) : Type := Peer α → Option β × Peer α

instance : Monad (Program α) where
  pure value := fun peer => (some value, peer)
  bind first next := fun peer =>
    match first peer with
    | (some value, peer) => next value peer
    | (none, peer) => (none, peer)

def giveUp : Program α β := fun peer => (none, peer)

def readExact (count : Nat) : Program α (List α) := fun peer =>
  let found := peer.source.readExact count count
  (found.1, { peer with source := found.2 })

def writeAll (reply : List α) : Program α Unit := fun peer =>
  if peer.writable then (some (), { peer with written := peer.written ++ reply }) else (none, peer)

/-- Answer, if that is still possible, and give up. -/
def refuse (reply : List α) : Program α β := fun peer => (none, (writeAll reply peer).2)

/-- The connection after so many elements were read and the reply was written. -/
def Peer.after (peer : Peer α) (count : Nat) (reply : List α) : Peer α :=
  { peer with source := peer.source.skip count, written := peer.written ++ reply }

/-- While replies can be written, the program succeeds exactly on the words of the
grammar, takes nothing but the word and writes nothing but the reply. -/
def Reads (program : Program α β) (grammar : List α → β → Prop) (reply : List α) : Prop :=
  ∀ peer, peer.writable = true → ∀ value last, program peer = (some value, last) ↔
    ∃ word, word <+: peer.source.rest ∧ grammar word value ∧ last = peer.after word.length reply

namespace Reads
variable {program : Program α β} {grammar : List α → β → Prop} {reply : List α}

theorem congr {other : List α → β → Prop} (reads : Reads program grammar reply)
    (same : ∀ word value, grammar word value ↔ other word value) : Reads program other reply := by
  intro peer writable value last
  rw [reads peer writable]
  simp only [same]

theorem pure (value : β) : Reads (Pure.pure value : Program α β) (fun word found => word = [] ∧ found = value) [] := by
  intro peer writable found last
  have unmoved : peer.after 0 [] = peer := by simp [Peer.after, Source.skip]
  change (some value, peer) = (some found, last) ↔ _
  rw [Prod.mk.injEq, Option.some.injEq]
  constructor
  · rintro ⟨same, stays⟩
    subst same stays
    exact ⟨[], List.nil_prefix, ⟨rfl, rfl⟩, unmoved.symm⟩
  · rintro ⟨word, _, ⟨empty, same⟩, stays⟩
    subst empty
    exact ⟨same.symm, unmoved.symm.trans stays.symm⟩

theorem readExact (count : Nat) :
    Reads (Dialogue.readExact count : Program α (List α)) (fun word found => word.length = count ∧ found = word) [] := by
  intro peer writable found last
  unfold Dialogue.readExact
  dsimp only
  rw [Prod.mk.injEq]
  constructor
  · rintro ⟨got, stays⟩
    have read : peer.source.readExact count count = (some found, (peer.source.readExact count count).2) := Prod.ext got rfl
    obtain ⟨front, length, skipped⟩ := (Source.readExact_some le_rfl).mp read
    refine ⟨found, front, ⟨length, rfl⟩, ?_⟩
    rw [← stays, skipped, length]
    simp [Peer.after]
  · rintro ⟨word, front, ⟨length, same⟩, stays⟩
    subst same
    have read : peer.source.readExact count count = (some found, peer.source.skip count) :=
      (Source.readExact_some le_rfl).mpr ⟨front, length, rfl⟩
    rw [read, stays, length]
    simp [Peer.after]

theorem writeAll (reply : List α) : Reads (Dialogue.writeAll reply) (fun word _ => word = []) reply := by
  intro peer writable value last
  have moved : peer.after 0 reply = { peer with written := peer.written ++ reply } := by simp [Peer.after, Source.skip]
  unfold Dialogue.writeAll
  rw [if_pos writable, ← moved, Prod.mk.injEq, Option.some.injEq]
  constructor
  · rintro ⟨_, stays⟩
    exact ⟨[], List.nil_prefix, rfl, stays.symm⟩
  · rintro ⟨word, _, empty, stays⟩
    subst empty
    exact ⟨rfl, stays.symm⟩

/-- A program that always gives up accepts nothing. -/
theorem never (gives : ∀ peer, (program peer).1 = none) : Reads program (fun _ _ => False) reply := by
  intro peer writable value last
  constructor
  · intro done
    have given := gives peer
    rw [done] at given
    cases given
  · rintro ⟨_, _, impossible, _⟩
    exact impossible.elim

theorem giveUp : Reads (Dialogue.giveUp : Program α β) (fun _ _ => False) reply := never fun _ => rfl

theorem refuse (answer : List α) : Reads (Dialogue.refuse answer : Program α β) (fun _ _ => False) reply := never fun _ => rfl

/-- What is read in turn is one word after the other. -/
theorem bind {next : β → Program α γ} {later : β → List α → γ → Prop} {more : List α} (first : Reads program grammar reply)
    (rest : ∀ word value, grammar word value → Reads (next value) (later value) more) :
    Reads (program >>= next)
      (fun word value => ∃ front middle back, word = front ++ back ∧ grammar front middle ∧ later middle back value)
      (reply ++ more) := by
  intro peer writable value last
  change (match program peer with
    | (some middle, peer) => next middle peer
    | (none, peer) => (none, peer)) = (some value, last) ↔ _
  have joined (front back : List α) :
      (peer.after front.length reply).after back.length more = peer.after (front ++ back).length (reply ++ more) := by
    simp [Peer.after, Source.skip_skip]
  constructor
  · intro done
    split at done
    · next middle between taken =>
      obtain ⟨front, start, accepted, moved⟩ := (first peer writable middle between).mp taken
      subst moved
      obtain ⟨back, follows, also, finished⟩ := (rest front middle accepted (peer.after front.length reply) writable value last).mp done
      refine ⟨front ++ back, ?_, ⟨front, middle, back, rfl, accepted, also⟩, finished.trans (joined front back)⟩
      obtain ⟨remaining, split⟩ := start
      rw [← split]
      apply (List.prefix_append_right_inj front).mpr
      simpa [Peer.after, Source.skip, ← split] using follows
    · cases done
  · rintro ⟨word, start, ⟨front, middle, back, split, accepted, also⟩, finished⟩
    subst split
    obtain ⟨remaining, whole⟩ := start
    have taken := (first peer writable middle (peer.after front.length reply)).mpr
      ⟨front, ⟨back ++ remaining, by rw [← whole, List.append_assoc]⟩, accepted, rfl⟩
    rw [taken]
    apply (rest front middle accepted (peer.after front.length reply) writable value last).mpr
    refine ⟨back, ⟨remaining, ?_⟩, also, finished.trans (joined front back).symm⟩
    simp [Peer.after, Source.skip, ← whole]

/-- Where the other branch only gives up, the test is part of the grammar. -/
theorem guarded {test : Prop} [Decidable test] {other : Program α β} (reads : test → Reads program grammar reply)
    (gives : ∀ peer, (other peer).1 = none) :
    Reads (if test then program else other) (fun word value => test ∧ grammar word value) reply := by
  by_cases holds : test
  · rw [if_pos holds]
    exact (reads holds).congr fun word value => (and_iff_right holds).symm
  · rw [if_neg holds]
    exact (never gives).congr fun word value => (iff_of_false not_false fun both => holds both.1)

end Reads

/-- While replies can be written, the program gives up on what begins with the word and
has written the reply. -/
def Refuses (program : Program α β) (word reply : List α) : Prop :=
  ∀ peer, peer.writable = true → word <+: peer.source.rest →
    (program peer).1 = none ∧ (program peer).2.written = peer.written ++ reply

namespace Refuses
variable {program : Program α β} {word reply : List α}

theorem giveUp (word : List α) : Refuses (Dialogue.giveUp : Program α β) word [] :=
  fun peer _ _ => ⟨rfl, (List.append_nil peer.written).symm⟩

theorem refuse (word answer : List α) : Refuses (Dialogue.refuse answer : Program α β) word answer := by
  intro peer writable _
  simp [Dialogue.refuse, writeAll, writable]

theorem extend (refuses : Refuses program word reply) (more : List α) : Refuses program (word ++ more) reply :=
  fun peer writable start => refuses peer writable ((List.prefix_append word more).trans start)

theorem bind (first : Refuses program word reply) (next : β → Program α γ) : Refuses (program >>= next) word reply := by
  intro peer writable start
  obtain ⟨gives, written⟩ := first peer writable start
  have stops : (program >>= next) peer = (none, (program peer).2) := by
    change (match program peer with
      | (some middle, peer) => next middle peer
      | (none, peer) => (none, peer)) = _
    cases ran : program peer with
    | mk result last =>
      rw [ran] at gives
      cases gives
      rfl
  rw [stops]
  exact ⟨rfl, written⟩

/-- What comes after a word that is read is refused where the rest of the program does. -/
theorem later {grammar : List α → β → Prop} {next : β → Program α γ} {front back more : List α}
    (first : Reads program grammar reply) (middle : β) (accepted : grammar front middle) (rest : Refuses (next middle) back more) :
    Refuses (program >>= next) (front ++ back) (reply ++ more) := by
  intro peer writable start
  obtain ⟨remaining, whole⟩ := start
  have taken := (first peer writable middle (peer.after front.length reply)).mpr
    ⟨front, ⟨back ++ remaining, by rw [← whole, List.append_assoc]⟩, accepted, rfl⟩
  have goes : (program >>= next) peer = next middle (peer.after front.length reply) := by
    change (match program peer with
      | (some middle, peer) => next middle peer
      | (none, peer) => (none, peer)) = _
    rw [taken]
  obtain ⟨gives, written⟩ := rest (peer.after front.length reply) writable
    ⟨remaining, by simp [Peer.after, Source.skip, ← whole]⟩
  rw [goes]
  exact ⟨gives, by rw [written]; simp [Peer.after]⟩

theorem exact {count : Nat} {next : List α → Program α γ} {front back : List α} (length : front.length = count)
    (rest : Refuses (next front) back reply) : Refuses (readExact count >>= next) (front ++ back) reply :=
  later (Reads.readExact count) front ⟨length, rfl⟩ rest

end Refuses

/-- The program gives up when no reply can be written. -/
def NeedsReply (program : Program α β) : Prop := ∀ peer, peer.writable = false → (program peer).1 = none

namespace NeedsReply
variable {program other : Program α β}

theorem giveUp : NeedsReply (Dialogue.giveUp : Program α β) := fun _ _ => rfl

theorem refuse (answer : List α) : NeedsReply (Dialogue.refuse answer : Program α β) := fun _ _ => rfl

theorem writeAll (reply : List α) : NeedsReply (Dialogue.writeAll reply) := by
  intro peer broken
  simp [Dialogue.writeAll, broken]

theorem ite {test : Prop} [Decidable test] (needs : NeedsReply program) (otherNeeds : NeedsReply other) :
    NeedsReply (if test then program else other) := by
  by_cases holds : test
  · rwa [if_pos holds]
  · rwa [if_neg holds]

private theorem bind_result (program : Program α β) (next : β → Program α γ) (peer : Peer α) :
    ((program >>= next) peer).1 = (program peer).1.bind fun value => (next value (program peer).2).1 := by
  change (match program peer with
    | (some middle, peer) => next middle peer
    | (none, peer) => (none, peer)).1 = _
  cases program peer with
  | mk result last => cases result <;> rfl

theorem bind (first : NeedsReply program) (next : β → Program α γ) : NeedsReply (program >>= next) := by
  intro peer broken
  rw [bind_result, first peer broken]
  rfl

/-- Reading changes nothing about the replies. -/
theorem read (count : Nat) {next : List α → Program α γ} (rest : ∀ found, NeedsReply (next found)) :
    NeedsReply (readExact count >>= next) := by
  intro peer broken
  rw [bind_result, Option.bind_eq_none_iff]
  intro found _
  exact rest found _ broken

end NeedsReply
end Dialogue
