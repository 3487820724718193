import EchoProxy.Frame

/-! Views of a sequence of frames: the frames of one stream, its payloads, and the
ids opened and acknowledged. Each is a homomorphism on append, so a prefix stays
a prefix. -/

namespace EchoProxy.Proofs.FrameSequences
open EchoProxy

def streamId : Frame → Option StreamId
  | .hello _ => none
  | .openStream id _ | .openAck id _ | .data id _ | .close id => some id

def ofId (id : StreamId) (frames : List Frame) : List Frame := frames.filter (streamId · = some id)

def payload (id : StreamId) : Frame → Option Bytes
  | .data other bytes => if other = id then some bytes else none
  | _ => none

def payloads (id : StreamId) (frames : List Frame) : List Bytes := frames.filterMap (payload id)

def openIds (frames : List Frame) : List StreamId :=
  frames.filterMap fun
    | .openStream id _ => some id
    | _ => none

def ackIds (frames : List Frame) : List StreamId :=
  frames.filterMap fun
    | .openAck id _ => some id
    | _ => none

@[simp] theorem ofId_nil (id : StreamId) : ofId id [] = [] := rfl
@[simp] theorem payloads_nil (id : StreamId) : payloads id [] = [] := rfl
@[simp] theorem openIds_nil : openIds [] = [] := rfl
@[simp] theorem ackIds_nil : ackIds [] = [] := rfl

@[simp] theorem ofId_append (id : StreamId) (xs ys : List Frame) : ofId id (xs ++ ys) = ofId id xs ++ ofId id ys :=
  List.filter_append ..

@[simp] theorem payloads_append (id : StreamId) (xs ys : List Frame) :
    payloads id (xs ++ ys) = payloads id xs ++ payloads id ys :=
  List.filterMap_append

@[simp] theorem openIds_append (xs ys : List Frame) : openIds (xs ++ ys) = openIds xs ++ openIds ys :=
  List.filterMap_append

@[simp] theorem ackIds_append (xs ys : List Frame) : ackIds (xs ++ ys) = ackIds xs ++ ackIds ys :=
  List.filterMap_append

theorem ofId_isPrefix (id : StreamId) {xs ys : List Frame} (front : xs <+: ys) : ofId id xs <+: ofId id ys := front.filter _

theorem payloads_isPrefix (id : StreamId) {xs ys : List Frame} (front : xs <+: ys) : payloads id xs <+: payloads id ys :=
  front.filterMap _

theorem openIds_isPrefix {xs ys : List Frame} (front : xs <+: ys) : openIds xs <+: openIds ys := front.filterMap _

theorem ofId_other {id : StreamId} {frame : Frame} (other : streamId frame ≠ some id) : ofId id [frame] = [] := by
  simp [ofId, other]

theorem ofId_single {id : StreamId} {frame : Frame} (own : streamId frame = some id) : ofId id [frame] = [frame] := by
  simp [ofId, own]

theorem payloads_ofId (id : StreamId) (frames : List Frame) : payloads id (ofId id frames) = payloads id frames := by
  unfold payloads ofId
  rw [List.filterMap_filter]
  congr 1
  funext frame
  cases frame <;> simp [streamId, payload]

theorem openIds_mem {frames : List Frame} {id : StreamId} : id ∈ openIds frames ↔ ∃ dest, .openStream id dest ∈ frames := by
  simp only [openIds, List.mem_filterMap]
  constructor
  · rintro ⟨frame, member, same⟩
    cases frame <;> simp at same
    subst same
    exact ⟨_, member⟩
  · rintro ⟨dest, member⟩
    exact ⟨_, member, rfl⟩

theorem openIds_of_ofId {frames : List Frame} {id : StreamId} (opened : id ∈ openIds frames) : ofId id frames ≠ [] := by
  obtain ⟨dest, member⟩ := openIds_mem.mp opened
  intro none
  have absent := List.filter_eq_nil_iff.mp none _ member
  simp [streamId] at absent

theorem payloads_of_ofId_nil {frames : List Frame} {id : StreamId} (none : ofId id frames = []) : payloads id frames = [] := by
  rw [← payloads_ofId, none, payloads_nil]

@[simp] theorem payloads_data (id : StreamId) (chunks : List Bytes) : payloads id (chunks.map (.data id)) = chunks := by
  induction chunks with
  | nil => rfl
  | cons chunk rest ih => simpa [payloads, payload] using ih

end EchoProxy.Proofs.FrameSequences
