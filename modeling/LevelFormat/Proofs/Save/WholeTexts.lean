import LevelFormat.Proofs.Save.Grammar
import LevelFormat.Proofs.Save.Rescanning

/-!
Texts that are one item.

A text that is read as an item is also a recording, and that item is all it holds. In doubt are only
texts that begin like a mark: a scan takes the reading with the mark wherever it ends, but an item has
to end with its text. By the number of separators there is no text in which the two differ
(`RecordingItem.match?_of_whole`). Main statement: `Recording.ofText_of_item`.
-/

namespace LevelFormat.Save

variable {marks : Marks} {text rest : List Char} {item : RecordingItem}

namespace Spelling

theorem getLast?_body (marks : Marks) (spelling : Spelling) :
    (spelling.body marks).getLast? = some marks.recordingSeparator := by
  have ended : spelling.body marks = (spelling.timestamp ++ marks.recordingSeparator ::
      ((if spelling.next then marks.affirmative else []) ++
        (if spelling.secondary then [marks.recordingSeparator] else []))) ++
          [marks.recordingSeparator] := by
    cases same : spelling.secondary with
    | false => simp [body, same]
    | true => simp [body, same]
  rw [ended, List.getLast?_concat]

/-- What is spelled without a mark in front has no room for a mark, an item behind it and more text:
the mark and the item need all of its separators, and it ends with one. -/
theorem eq_nil_of_body_eq (distinct : marks.Distinct) {spelling marked : Spelling}
    (same : spelling.body marks =
      marks.affirmative ++ marks.recordingSeparator :: (marked.body marks ++ rest)) :
    rest = [] := by
  have none : rest.count marks.recordingSeparator = 0 := by
    have counted := spelling.count_body distinct
    have mark : spelling.next.toNat * marks.affirmative.count marks.recordingSeparator ≤
        1 * marks.affirmative.count marks.recordingSeparator :=
      Nat.mul_le_mul_right _ spelling.next.toNat_le
    have last := spelling.secondary.toNat_le
    rw [same, List.count_append, List.count_cons_self, List.count_append,
      marked.count_body distinct] at counted
    omega
  by_contra nonempty
  have ended := spelling.getLast?_body marks
  rw [same, ← List.cons_append, ← List.append_assoc,
    List.getLast?_append_of_ne_nil _ nonempty] at ended
  exact List.count_eq_zero.mp none (List.mem_of_getLast? ended)

end Spelling

namespace RecordingItem

theorem afterMark?_body_eq_none (distinct : marks.Distinct) {spelling : Spelling}
    (clear : ∀ other, ¬ Spells marks true (spelling.body marks) other) :
    (afterMark? marks (spelling.body marks)).bind (body? marks false true) = none := by
  rw [Option.eq_none_iff_forall_ne_some]
  rintro ⟨other, behind⟩ started
  obtain ⟨inner, mark, started⟩ := Option.bind_eq_some_iff.mp started
  obtain ⟨second, marked, -, rfl⟩ := exists_spelling_body started
  have same := (afterMark?_eq_some_iff.mp mark).2
  obtain rfl := Spelling.eq_nil_of_body_eq distinct same
  refine clear second.item ⟨second, ?_, marked, rfl⟩
  rw [same, Spelling.chars, marked]
  simp

/-- An item that is the whole of a text is what is found in front of the text. -/
theorem match?_of_whole (distinct : marks.Distinct)
    (found : match? marks true text = some (item, rest)) :
    match? marks false text = some (item, []) := by
  have nothing : afterSeparator? marks [] = none := rfl
  obtain ⟨-, ⟨spelling, rfl, marked, rfl⟩ | ⟨⟨spelling, rfl, unmarked, rfl⟩, clear⟩⟩ :=
    (match?_whole_iff distinct).mp found
  · have read := body?_body distinct nothing spelling
    have inFront := afterMark?_chars distinct marked []
    rw [List.append_nil] at inFront
    rw [marked] at read
    rw [match?, inFront, Option.bind_some, read]
  · have read := body?_body distinct nothing spelling
    have chars : spelling.chars marks = spelling.body marks := by
      rw [Spelling.chars, unmarked, if_neg Bool.false_ne_true, List.nil_append]
    rw [chars] at clear ⊢
    rw [List.append_nil, unmarked] at read
    rw [match?, afterMark?_body_eq_none distinct clear, read]

end RecordingItem

namespace Recording

/-- A text that is read as an item is, as a recording, this item and nothing else. -/
theorem ofText_of_item (text : String) (item : RecordingItem)
    (read : RecordingItem.ofText {} text = .ok item) : ofText {} text = ⟨[item]⟩ := by
  obtain ⟨rest, found⟩ := RecordingItem.ofText_eq_ok_iff_match?.mp read
  rw [ofText, scan_of_match? (RecordingItem.match?_of_whole Marks.distinct_default found), scan]

/-- Without the mark in front, this is an item with a next state, for the second player. -/
theorem ofText_of_item_twofold :
    RecordingItem.ofText {} "1;1;;" = .ok ⟨.one, true, false, false⟩ ∧
      ofText {} "1;1;;" = ⟨[⟨.one, true, false, false⟩]⟩ := by
  have read : RecordingItem.ofText {} "1;1;;" = .ok ⟨.one, true, false, false⟩ := by
    decide +kernel
  exact ⟨read, ofText_of_item _ _ read⟩

end Recording

end LevelFormat.Save
