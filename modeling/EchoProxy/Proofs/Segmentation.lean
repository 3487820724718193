import EchoProxy.Accept

/-! Whether the segments a request arrives in decide the branch of `accept_connection`. The
peek sees a front of the request, and that front alone decides. -/

namespace EchoProxy.Proofs.Segmentation
open EchoProxy

/-! ### Windows -/

theorem mem_windows {α : Type} {size : Nat} (positive : 0 < size) {list window : List α} :
    window ∈ windows size list ↔ window.length = size ∧ window <:+: list := by
  induction list with
  | nil =>
    simp only [windows, List.not_mem_nil, false_iff, not_and, List.infix_nil]
    rintro length rfl
    simp at length
    omega
  | cons a rest ih =>
    rw [windows]
    split
    · next fits =>
      rw [List.mem_cons, ih, List.infix_cons_iff]
      constructor
      · rintro (rfl | ⟨length, inside⟩)
        · exact ⟨by simp [fits], .inl (List.take_prefix _ _)⟩
        · exact ⟨length, .inr inside⟩
      · rintro ⟨length, front | inside⟩
        · exact .inl (by rw [← length]; exact List.prefix_iff_eq_take.mp front)
        · exact .inr ⟨length, inside⟩
    · next short =>
      simp only [List.not_mem_nil, false_iff, not_and]
      intro length inside
      have bound := inside.length_le
      simp at bound
      omega

/-! ### What a front of a request shows -/

/-- The word ends within the first bytes of the head, in any letter case. -/
def Shows (head : Bytes) (seen : Nat) : Prop :=
  ∃ before word after, head = before ++ word ++ after ∧ eqIgnoreAsciiCase word (asBytes "websocket") = true ∧
    before.length + word.length ≤ seen

theorem word_length {word : Bytes} (same : eqIgnoreAsciiCase word (asBytes "websocket") = true) : word.length = 9 := by
  have lengths := congrArg List.length (eq_of_beq same)
  have nine : (asBytes "websocket").length = 9 := by decide +kernel
  simpa [nine] using lengths

theorem windows_show (head : Bytes) (seen : Nat) :
    (windows 9 (head.take seen)).any (eqIgnoreAsciiCase · (asBytes "websocket")) = true ↔ Shows head seen := by
  rw [List.any_eq_true]
  constructor
  · rintro ⟨word, member, same⟩
    obtain ⟨-, before, after, split⟩ := (mem_windows (by decide)).mp member
    refine ⟨before, word, after ++ head.drop seen, ?_, same, ?_⟩
    · rw [← List.append_assoc, split, List.take_append_drop]
    · have bound := List.length_take_le seen head
      rw [← split] at bound
      simp only [List.length_append] at bound
      omega
  · rintro ⟨before, word, after, rfl, same, within⟩
    refine ⟨word, (mem_windows (by decide)).mpr ⟨word_length same, before, after.take (seen - (before ++ word).length), ?_⟩, same⟩
    have whole : (before ++ word).take seen = before ++ word := List.take_of_length_le (by simpa using within)
    rw [List.take_append, whole]

/-! ### The branch -/

/-- The head starts with the request for the root, and that much of it is seen. -/
def Rooted (head : Bytes) (seen : Nat) : Prop := asBytes "GET / " <+: head ∧ 6 ≤ seen

theorem root_prefix (head : Bytes) (seen : Nat) : (asBytes "GET / ").isPrefixOf (head.take seen) = true ↔ Rooted head seen := by
  have six : (asBytes "GET / ").length = 6 := by decide +kernel
  rw [List.isPrefixOf_iff_prefix, Rooted, List.prefix_take_iff, six]

theorem acceptBranch_iff {head : Bytes} {seen : Nat} (some : 0 < seen) (nonempty : head ≠ []) :
    (acceptBranch (head.take seen) = Option.some .webSocket ↔ Shows head seen) ∧
      (acceptBranch (head.take seen) = Option.some (.plain iAmRunning) ↔ ¬Shows head seen ∧ Rooted head seen) ∧
      (acceptBranch (head.take seen) = Option.some (.plain notFound) ↔ ¬Shows head seen ∧ ¬Rooted head seen) := by
  have present : head.take seen ≠ [] := by
    rw [Ne, List.take_eq_nil_iff]
    rintro (rfl | rfl)
    · exact absurd some (by decide)
    · exact nonempty rfl
  have apart : iAmRunning ≠ notFound := by decide +kernel
  rw [acceptBranch, if_neg present, ← windows_show, ← root_prefix]
  split
  · next shows => simp [shows]
  · next hides =>
    split
    · next rooted => simp [hides, rooted, apart]
    · next other => simp [hides, other, Ne.symm apart]

/-- How much of the request has arrived in so many segments, as far as the peek reads. -/
def seenBytes (segments : List Bytes) (arrived : Nat) : Nat := min peekSize (segments.take arrived).flatten.length

theorem peek_take (segments : List Bytes) (arrived : Nat) :
    peek segments arrived = segments.flatten.take (seenBytes segments arrived) := by
  have front : (segments.take arrived).flatten = segments.flatten.take (segments.take arrived).flatten.length := by
    conv_rhs => rw [← List.take_append_drop arrived segments, List.flatten_append]
    simp
  rw [peek, seenBytes, ← List.take_take, ← front]

theorem seen_positive {segments : List Bytes} {arrived : Nat} (cut : ∀ segment ∈ segments, segment ≠ []) (some : 0 < arrived)
    (nonempty : segments.flatten ≠ []) : 0 < seenBytes segments arrived := by
  cases segments with
  | nil => exact absurd rfl nonempty
  | cons first rest =>
    obtain ⟨count, rfl⟩ := Nat.exists_eq_succ_of_ne_zero (Nat.pos_iff_ne_zero.mp some)
    have length := List.length_pos_iff.mpr (cut first (by simp))
    simp only [seenBytes, peekSize, List.take_succ_cons, List.flatten_cons, List.length_append]
    omega

/-! ### Upgrade requests -/

def Mentions (text : String) (word : String) : Prop :=
  ∃ found, found <:+: asBytes text ∧ eqIgnoreAsciiCase found (asBytes word) = true

/-- A header line with whatever stands between the colon and the value. -/
structure Header where
  name : String
  space : String
  value : String

def Header.bytes (header : Header) : Bytes :=
  asBytes header.name ++ asBytes ":" ++ asBytes header.space ++ asBytes header.value ++ asBytes "\r\n"

def Header.named (header : Header) (name : String) : Prop := eqIgnoreAsciiCase (asBytes header.name) (asBytes name) = true

/-- A GET for `/control` or `/mux` with the headers of a WebSocket handshake, in any order,
letter case and company. -/
structure UpgradeRequest where
  path : String
  query : String
  headers : List Header
  routed : path = "/control" ∨ path = "/mux"
  upgrade : ∃ header ∈ headers, header.named "upgrade" ∧ Mentions header.value "websocket"
  connection : ∃ header ∈ headers, header.named "connection" ∧ Mentions header.value "upgrade"
  version : ∃ header ∈ headers, header.named "sec-websocket-version" ∧ header.value = "13"
  key : ∃ header ∈ headers, header.named "sec-websocket-key"

def UpgradeRequest.head (request : UpgradeRequest) : Bytes :=
  asBytes "GET " ++ asBytes request.path ++ asBytes request.query ++ asBytes " HTTP/1.1\r\n" ++
    (request.headers.map Header.bytes).flatten ++ asBytes "\r\n"

/-- All of an upgrade request shows that it is one. -/
theorem UpgradeRequest.shows (request : UpgradeRequest) : Shows request.head request.head.length := by
  obtain ⟨header, member, -, word, ⟨before, after, value⟩, same⟩ := request.upgrade
  obtain ⟨front, back, split⟩ := List.append_of_mem member
  refine ⟨asBytes "GET " ++ asBytes request.path ++ asBytes request.query ++ asBytes " HTTP/1.1\r\n" ++
    (front.map Header.bytes).flatten ++ (asBytes header.name ++ asBytes ":" ++ asBytes header.space ++ before), word,
    after ++ asBytes "\r\n" ++ (back.map Header.bytes).flatten ++ asBytes "\r\n", ?_, same, ?_⟩
  · simp [UpgradeRequest.head, split, Header.bytes, ← value]
  · simp only [UpgradeRequest.head, split, Header.bytes, ← value, List.map_append, List.map_cons, List.flatten_append,
      List.flatten_cons, List.length_append]
    omega

theorem UpgradeRequest.present (request : UpgradeRequest) : request.head ≠ [] := by
  intro empty
  have lengths := congrArg List.length empty
  have line : (asBytes "GET ").length = 4 := by decide +kernel
  simp only [UpgradeRequest.head, List.length_append, line, List.length_nil] at lengths
  omega

/-- Fronts of a head that come to the same. -/
def SameFront (head : Bytes) (seen other : Nat) : Prop :=
  (Shows head seen ↔ Shows head other) ∧ (¬Shows head seen → (Rooted head seen ↔ Rooted head other))

theorem same_branch {head : Bytes} {seen other : Nat} (first : 0 < seen) (second : 0 < other) (nonempty : head ≠ []) :
    acceptBranch (head.take seen) = acceptBranch (head.take other) ↔ SameFront head seen other := by
  obtain ⟨socket, root, missing⟩ := acceptBranch_iff first nonempty
  obtain ⟨socket', root', missing'⟩ := acceptBranch_iff second nonempty
  have apart : iAmRunning ≠ notFound := by decide +kernel
  unfold SameFront
  by_cases shows : Shows head seen
  · rw [socket.mpr shows, eq_comm, socket']
    simp [shows]
  · by_cases rooted : Rooted head seen
    · rw [root.mpr ⟨shows, rooted⟩, eq_comm, root']
      simp [shows, rooted]
    · rw [missing.mpr ⟨shows, rooted⟩, eq_comm, missing']
      simp [shows, rooted]

/-- A way of cutting a head into segments, none of them empty. -/
def Cuts (segments : List Bytes) (head : Bytes) : Prop := segments.flatten = head ∧ ∀ segment ∈ segments, segment ≠ []

/-- An upgrade request takes the WebSocket path exactly if the peek reaches the end of the
word, and two ways of cutting a head lead to one branch exactly if the peeks reach equally
far in this sense. -/
theorem branch_of_peek (request : UpgradeRequest) (head : Bytes) :
    (∀ (segments : List Bytes) (arrived : Nat), Cuts segments request.head → 0 < arrived →
      (acceptBranch (peek segments arrived) = some .webSocket ↔ Shows request.head (seenBytes segments arrived))) ∧
    ∀ (segments others : List Bytes) (arrived arrived' : Nat), Cuts segments head → Cuts others head →
      0 < arrived → 0 < arrived' → (acceptBranch (peek segments arrived) = acceptBranch (peek others arrived') ↔
        SameFront head (seenBytes segments arrived) (seenBytes others arrived')) := by
  constructor
  · intro segments arrived cuts some
    obtain ⟨whole, cut⟩ := cuts
    have nonempty : segments.flatten ≠ [] := whole ▸ request.present
    rw [peek_take, ← whole]
    exact (acceptBranch_iff (seen_positive cut some nonempty) nonempty).1
  · intro segments others arrived arrived' cuts cuts' some some'
    obtain ⟨whole, cut⟩ := cuts
    obtain ⟨whole', cut'⟩ := cuts'
    rw [peek_take, peek_take, whole, whole']
    by_cases nonempty : head = []
    · subst nonempty
      have hidden (seen : Nat) : ¬Shows [] seen := by
        rintro ⟨before, word, after, split, same, -⟩
        have empty : word = [] := by
          have lengths := congrArg List.length split
          simp only [List.length_nil, List.length_append] at lengths
          exact List.length_eq_zero_iff.mp (by omega)
        have nine := word_length same
        simp [empty] at nine
      have elsewhere (seen : Nat) : ¬Rooted [] seen := by
        rintro ⟨front, -⟩
        have empty := List.prefix_nil.mp front
        revert empty
        decide +kernel
      simp [SameFront, hidden, elsewhere]
    · exact same_branch (seen_positive cut some (whole ▸ nonempty)) (seen_positive cut' some' (whole' ▸ nonempty)) nonempty

private theorem mentions_itself (text : String) {word : String} (same : eqIgnoreAsciiCase (asBytes text) (asBytes word) = true) :
    Mentions text word := ⟨asBytes text, List.infix_rfl, same⟩

/-- The upgrade request of the client to `/control`. -/
private def controlUpgrade : UpgradeRequest where
  path := "/control"
  query := ""
  headers := [⟨"Host", " ", "localhost"⟩, ⟨"Connection", " ", "Upgrade"⟩, ⟨"Upgrade", " ", "websocket"⟩,
    ⟨"Sec-WebSocket-Version", " ", "13"⟩, ⟨"Sec-WebSocket-Key", " ", "dGhlIHNhbXBsZSBub25jZQ=="⟩]
  routed := .inl rfl
  upgrade := ⟨_, .tail _ (.tail _ (.head _)), by unfold Header.named; decide +kernel, mentions_itself _ (by decide +kernel)⟩
  connection := ⟨_, .tail _ (.head _), by unfold Header.named; decide +kernel, mentions_itself _ (by decide +kernel)⟩
  version := ⟨_, .tail _ (.tail _ (.tail _ (.head _))), by unfold Header.named; decide +kernel, rfl⟩
  key := ⟨_, .tail _ (.tail _ (.tail _ (.tail _ (.head _)))), by unfold Header.named; decide +kernel⟩

/-- The request arrives in one segment. -/
theorem whole_upgrade_taken : acceptBranch (peek [controlUpgrade.head] 1) = some .webSocket := by
  have reached : seenBytes [controlUpgrade.head] 1 = controlUpgrade.head.length := by decide +kernel
  have cuts : Cuts [controlUpgrade.head] controlUpgrade.head := ⟨by simp, by simpa using controlUpgrade.present⟩
  apply ((branch_of_peek controlUpgrade controlUpgrade.head).1 [controlUpgrade.head] 1 cuts (by decide)).mpr
  rw [reached]
  exact controlUpgrade.shows

/-- The request, or a request for the root, arrives with its method in a segment of its own. -/
theorem method_first : (¬∀ (request : UpgradeRequest) (segments : List Bytes) (arrived : Nat), Cuts segments request.head →
      0 < arrived → acceptBranch (peek segments arrived) = some .webSocket) ∧
    ¬∀ (head : Bytes) (segments others : List Bytes) (arrived arrived' : Nat), Cuts segments head → Cuts others head →
      0 < arrived → 0 < arrived' → acceptBranch (peek segments arrived) = acceptBranch (peek others arrived') := by
  constructor
  · intro taken
    have branch := taken controlUpgrade [controlUpgrade.head.take 4, controlUpgrade.head.drop 4] 1
      ⟨by simp, by simp only [List.forall_mem_cons]; decide +kernel⟩ (by decide)
    revert branch
    decide +kernel
  · intro same
    have branch := same (asBytes "GET / HTTP/1.1\r\n\r\n") [asBytes "GET ", asBytes "/ HTTP/1.1\r\n\r\n"]
      [asBytes "GET / HTTP/1.1\r\n\r\n"] 1 1 ⟨by decide +kernel, by decide +kernel⟩ ⟨by decide +kernel, by decide +kernel⟩
      (by decide) (by decide)
    revert branch
    decide +kernel

end EchoProxy.Proofs.Segmentation
