import EchoProxy.Geo
import EchoProxy.Lib.Loop

/-! The loop over the requested tags, which the GeoIP and the GeoSite loader share. -/

namespace EchoProxy.Proofs.GeoTags
open EchoProxy

variable {η α σ ε : Type} {upper : Uppercase} {countryCode : η → List Char} {items : η → List α}
  {missing : List Char → ε} {load : σ → α → Except ε σ} {entries : List η} {tags : List (List Char)}

/-- The tag and the country code are the same in upper case. -/
def SameTag (upper : Uppercase) (code tag : List Char) : Prop := upper.apply code = upper.apply tag

/-- The first entry whose country code is the tag. -/
def FirstEntry (upper : Uppercase) (countryCode : η → List Char) (entries : List η) (tag : List Char) (entry : η) : Prop :=
  ∃ before after, entries = before ++ entry :: after ∧ SameTag upper (countryCode entry) tag ∧
    ∀ earlier ∈ before, ¬SameTag upper (countryCode earlier) tag

private theorem ascii_case {c : Char} (small : c.toNat < 128) : c.toUpper.toLower = c.toLower ∧ c.toLower.toUpper = c.toUpper := by
  exact Text.ascii_table (p := fun c => c.toUpper.toLower = c.toLower ∧ c.toLower.toUpper = c.toUpper) (by decide) small

/-- On ASCII text tags are compared without regard to case. -/
theorem sameTag_ascii {code tag : List Char} (first : ∀ c ∈ code, c.toNat < 128) (second : ∀ c ∈ tag, c.toNat < 128) :
    SameTag upper code tag ↔ code.map Char.toLower = tag.map Char.toLower := by
  have lowered {text : List Char} (small : ∀ c ∈ text, c.toNat < 128) :
      (text.map Char.toUpper).map Char.toLower = text.map Char.toLower := by
    rw [List.map_map]
    exact List.map_congr_left fun c member => (ascii_case (small c member)).1
  have raised {text : List Char} (small : ∀ c ∈ text, c.toNat < 128) :
      (text.map Char.toLower).map Char.toUpper = text.map Char.toUpper := by
    rw [List.map_map]
    exact List.map_congr_left fun c member => (ascii_case (small c member)).2
  rw [SameTag, upper.ascii code first, upper.ascii tag second]
  constructor
  · intro same
    rw [← lowered first, ← lowered second, same]
  · intro same
    rw [← raised first, ← raised second, same]

theorem find_iff {tag : List Char} {entry : η} :
    entries.find? (fun e => upper.apply (countryCode e) == upper.apply tag) = some entry ↔
      FirstEntry upper countryCode entries tag entry := by
  rw [List.find?_eq_some_iff_append]
  constructor
  · intro ⟨same, before, after, split, others⟩
    refine ⟨before, after, split, by simpa [SameTag] using same, ?_⟩
    intro earlier member
    simpa [SameTag] using others earlier member
  · intro ⟨before, after, split, same, others⟩
    refine ⟨by simpa [SameTag] using same, before, after, split, ?_⟩
    intro earlier member
    simpa [SameTag] using others earlier member

theorem firstEntry_unique {tag : List Char} {entry other : η} (first : FirstEntry upper countryCode entries tag entry)
    (second : FirstEntry upper countryCode entries tag other) : entry = other :=
  Option.some.inj ((find_iff.mpr first).symm.trans (find_iff.mpr second))

theorem exists_firstEntry {tag : List Char} :
    (∃ entry, FirstEntry upper countryCode entries tag entry) ↔ ∃ entry ∈ entries, SameTag upper (countryCode entry) tag := by
  constructor
  · intro ⟨entry, before, after, split, same, _⟩
    exact ⟨entry, by simp [split], same⟩
  · intro ⟨entry, member, same⟩
    have found : (entries.find? fun e => upper.apply (countryCode e) == upper.apply tag).isSome = true := by
      rw [List.find?_isSome]
      exact ⟨entry, member, by simpa [SameTag] using same⟩
    obtain ⟨first, there⟩ := Option.isSome_iff_exists.mp found
    exact ⟨first, find_iff.mp there⟩

private theorem turn_ok {result next : σ} {tag : List Char}
    (taken : (match entries.find? (fun e => upper.apply (countryCode e) == upper.apply tag) with
      | some entry => (items entry).foldlM load result
      | none => Except.error (missing tag)) = Except.ok next) :
    ∃ entry, FirstEntry upper countryCode entries tag entry ∧ (items entry).foldlM load result = .ok next := by
  split at taken
  · next entry found => exact ⟨entry, find_iff.mp found, taken⟩
  · cases taken

/-- The loader ends well exactly if every tag is there and every item of its first
entry is good. -/
theorem loadTags_ok {Good : α → Prop} (takes : ∀ state item, (∃ next, load state item = .ok next) ↔ Good item) (start : σ) :
    (∃ last, loadTags upper countryCode items missing load entries tags start = .ok last) ↔
      ∀ tag ∈ tags, ∃ entry, FirstEntry upper countryCode entries tag entry ∧ ∀ item ∈ items entry, Good item := by
  apply Loop.foldlM_ok
  intro result tag
  constructor
  · intro ⟨next, taken⟩
    obtain ⟨entry, first, ran⟩ := turn_ok taken
    exact ⟨entry, first, (Loop.foldlM_ok takes _ _).mp ⟨next, ran⟩⟩
  · intro ⟨entry, first, good⟩
    rw [find_iff.mpr first]
    exact (Loop.foldlM_ok takes _ _).mpr good

/-- What the result shows is what the items of the first entries added. -/
theorem loadTags_collects (Seen : σ → Prop) (Adds : α → Prop)
    (collects : ∀ state item next, load state item = .ok next → (Seen next ↔ Seen state ∨ Adds item)) {start last : σ}
    (ran : loadTags upper countryCode items missing load entries tags start = .ok last) :
    Seen last ↔ Seen start ∨
      ∃ tag ∈ tags, ∃ entry, FirstEntry upper countryCode entries tag entry ∧ ∃ item ∈ items entry, Adds item := by
  apply Loop.foldlM_collects _ ran
  intro result tag next _ taken
  obtain ⟨entry, first, inner⟩ := turn_ok taken
  rw [Loop.foldlM_collects (fun state item after _ => collects state item after) inner]
  apply or_congr_right
  constructor
  · intro adds
    exact ⟨entry, first, adds⟩
  · intro ⟨other, second, adds⟩
    rwa [firstEntry_unique first second]

end EchoProxy.Proofs.GeoTags
