import LevelFormat.Proofs.Save.ItemReading
import LevelFormat.Save.Recording

/-!
Recordings that were written and are read back.

Main statement: `Recording.ofText_toText_iff`. Nothing stands between items, so whether one of them
is found again depends on the one behind it.
-/

namespace LevelFormat.Save

open LevelFormat.Number (Binary64)

namespace RecordingItem

variable {item : RecordingItem} {items : List RecordingItem}

theorem afterSeparator?_chars {marks : Marks} (distinct : marks.Distinct)
    (printable : item.Printable) (behind : List Char) :
    afterSeparator? marks (item.chars marks ++ behind) = none := by
  obtain ⟨spelling, -, same⟩ := exists_spelling_chars marks item printable.1 printable.2
  rw [← same]
  exact afterSeparator?_spelling distinct spelling behind

theorem afterSeparator?_flatMap {marks : Marks} (distinct : marks.Distinct)
    (printable : ∀ item ∈ items, item.Printable) :
    afterSeparator? marks (items.flatMap (chars marks)) = none := by
  cases items with
  | nil => rfl
  | cons item items => exact afterSeparator?_chars distinct (printable item List.mem_cons_self) _

theorem isSome_afterMark?_flatMap (printable : ∀ item ∈ items, item.Printable) :
    (afterMark? {} (items.flatMap (chars {}))).isSome ↔
      ∃ first, items.head? = some first ∧ (first.previous = true ∨ first.timestamp = .one) := by
  cases items with
  | nil => simp [afterMark?]
  | cons item items =>
      have first := printable item List.mem_cons_self
      rw [List.flatMap_cons]
      cases marked : item.previous with
      | true =>
          rw [chars_of_previous marked, (afterMark?_one_iff _ _).mpr rfl]
          simp [marked]
      | false =>
          rw [chars_of_not_previous marked, afterMark?_text first.1 first.2]
          by_cases one : item.timestamp = .one
          · simp [one]
          · simp [one, marked]

end RecordingItem

namespace Recording

open RecordingItem (Printable chars)

theorem scan_of_match? {marks : Marks} {text rest : List Char} {item : RecordingItem}
    (found : RecordingItem.match? marks false text = some (item, rest)) :
    scan marks text = item :: scan marks rest := by
  cases text with
  | nil =>
      have shorter := RecordingItem.length_match? found
      simp at shorter
  | cons char skipped =>
      rw [scan]
      split
      next other behind same =>
        rw [found] at same
        cases same
        rfl
      next none =>
        rw [found] at none
        cases none

theorem scan_of_unmatched {marks : Marks} {char : Char} {rest : List Char}
    (unmatched : RecordingItem.match? marks false (char :: rest) = none) :
    scan marks (char :: rest) = scan marks rest := by
  rw [scan]
  split
  next found =>
    rw [unmatched] at found
    cases found
  next => rfl

theorem scan_flatMap_iff (items : List RecordingItem)
    (printable : ∀ item ∈ items, item.Printable) :
    scan {} (items.flatMap (chars {})) = items ↔
      ∀ (index : Nat) (item : RecordingItem), items[index]? = some item →
        ¬ item.Ambiguous ((items.drop (index + 1)).flatMap (chars {})) := by
  induction items with
  | nil => simp [scan]
  | cons item items ih =>
      have later (other : RecordingItem) (member : other ∈ items) : other.Printable :=
        printable other (List.mem_cons_of_mem item member)
      have closed := RecordingItem.afterSeparator?_flatMap Marks.distinct_default later
      rw [List.flatMap_cons]
      by_cases ambiguous : item.Ambiguous (items.flatMap (chars {}))
      · obtain ⟨other, rest, found, previous⟩ := RecordingItem.match?_of_ambiguous ambiguous
        rw [scan_of_match? found]
        constructor
        · intro same
          rw [List.cons.injEq] at same
          rw [same.1, ambiguous.1] at previous
          cases previous
        · intro clear
          exact absurd ambiguous (clear 0 item rfl)
      · have found := RecordingItem.match?_of_clear (printable item List.mem_cons_self) closed
          ambiguous
        rw [scan_of_match? found, List.cons.injEq, eq_self, true_and, ih later]
        constructor
        · intro clear index other same
          cases index with
          | zero =>
              cases same
              exact ambiguous
          | succ index => exact clear index other same
        · intro clear index other same
          exact clear (index + 1) other same

/-- With the marks of the game, a recording is read back as it was written unless an item with the
timestamp one has no previous state and a next one, and is for the second player or in front of an
item that begins with a one. -/
theorem ofText_toText_iff (items : List RecordingItem)
    (printable : ∀ item ∈ items,
      item.timestamp.isFinite = true ∧ item.timestamp.isNegative = false) :
    ofText {} (toText {} ⟨items⟩) = ⟨items⟩ ↔
      ¬ ∃ index item, items[index]? = some item ∧ item.previous = false ∧
        item.timestamp = .one ∧ item.next = true ∧
          (item.secondary = true ∨ ∃ following, items[index + 1]? = some following ∧
            (following.previous = true ∨ following.timestamp = .one)) := by
  rw [ofText, toText, String.toList_ofList, mk.injEq, scan_flatMap_iff items printable]
  have behind (index : Nat) : (RecordingItem.afterMark? {}
      ((items.drop (index + 1)).flatMap (chars {}))).isSome ↔
        ∃ following, items[index + 1]? = some following ∧
          (following.previous = true ∨ following.timestamp = .one) := by
    rw [RecordingItem.isSome_afterMark?_flatMap
      fun item member => printable item (List.mem_of_mem_drop member), List.head?_drop]
  simp only [RecordingItem.Ambiguous, behind]
  constructor
  · rintro clear ⟨index, item, same, ambiguous⟩
    exact clear index item same ambiguous
  · intro clear index item same ambiguous
    exact clear ⟨index, item, same, ambiguous⟩

theorem ofText_toText_iff_ambiguousPair :
    ofText {} (toText {} ⟨[⟨.one, false, true, false⟩, ⟨.zero, true, false, false⟩]⟩) ≠
      ⟨[⟨.one, false, true, false⟩, ⟨.zero, true, false, false⟩]⟩ := by
  rw [ne_eq, ofText_toText_iff _ (by decide), Classical.not_not]
  exact ⟨0, _, rfl, rfl, rfl, rfl, .inr ⟨_, rfl, .inl rfl⟩⟩

end Recording

end LevelFormat.Save
