import LevelFormat.Proofs.Save.Spelling

/-!
What is found where an item was written.

Behind a mark in front, an item is read back as soon as its tokens can be told apart
(`RecordingItem.body?_body`). Of the marks of the game, however, the mark of a state is also the
text of the timestamp one, so an item may be found in another way than it was written.
`RecordingItem.match?_of_clear` and `RecordingItem.match?_of_ambiguous` say when, by the item and by
the text behind it.
-/

namespace LevelFormat.Save

/-- Marks that leave no doubt where a timestamp ends, nor whether a mark or a separator is behind
it. -/
structure Marks.Distinct (marks : Marks) : Prop where
  separator_not_digit : marks.recordingSeparator.isDigit = false
  separator_not_point : marks.recordingSeparator ≠ '.'
  mark_opens : ∃ first rest, marks.affirmative = first :: rest ∧ first ≠ marks.recordingSeparator

theorem Marks.distinct_default : Marks.Distinct {} :=
  ⟨by decide, by decide, '1', [], rfl, by decide⟩

theorem Spelling.separator_not_mem_timestamp {marks : Marks} (distinct : marks.Distinct)
    (spelling : Spelling) : marks.recordingSeparator ∉ spelling.timestamp := by
  intro member
  rcases spelling.isDigit_of_mem_timestamp member with digit | point
  · rw [distinct.separator_not_digit] at digit
    cases digit
  · exact distinct.separator_not_point point

end LevelFormat.Save

namespace LevelFormat.Save.RecordingItem

open LevelFormat.Number (Binary64)

def Printable (item : RecordingItem) : Prop :=
  item.timestamp.isFinite = true ∧ item.timestamp.isNegative = false

/-! ### Any distinct marks -/

section

variable {marks : Marks} {behind : List Char}

theorem stops_separator (distinct : marks.Distinct) (fraction : Option (List Char))
    (rest : List Char) : Stops fraction (marks.recordingSeparator :: rest) := by
  rintro _ ⟨⟩
  exact ⟨distinct.separator_not_digit, fun _ => distinct.separator_not_point⟩

theorem next?_written (distinct : marks.Distinct) (next : Bool) (rest : List Char) :
    next? marks ((if next then marks.affirmative else []) ++ marks.recordingSeparator :: rest) =
      some (next, rest) := by
  obtain ⟨-, -, first, more, mark, other⟩ := distinct
  cases next with
  | true =>
      have marked := afterMark?_eq_some_iff.mpr
        ⟨mark ▸ List.cons_ne_nil first more, Eq.refl (marks.affirmative ++ _ :: rest)⟩
      rw [if_pos rfl, next?, marked]
  | false =>
      have unmarked : afterMark? marks (marks.recordingSeparator :: rest) = none := by
        rw [Option.eq_none_iff_forall_ne_some]
        intro tail marked
        have same := (afterMark?_eq_some_iff.mp marked).2
        rw [mark] at same
        exact other (List.cons.inj same).1.symm
      rw [if_neg Bool.false_ne_true, List.nil_append, next?, unmarked,
        afterSeparator?_eq_some_iff.mpr rfl]
      rfl

theorem secondary?_written (closed : afterSeparator? marks behind = none) (secondary : Bool) :
    secondary? marks false ((if secondary then [marks.recordingSeparator] else []) ++ behind) =
      some (secondary, behind) := by
  cases secondary with
  | true =>
      rw [if_pos rfl, List.singleton_append, secondary?, afterSeparator?_eq_some_iff.mpr rfl]
      rfl
  | false =>
      rw [if_neg Bool.false_ne_true, List.nil_append, secondary?, closed]
      rfl

theorem afterSeparator?_timestamp (distinct : marks.Distinct) (spelling : Spelling)
    (behind : List Char) : afterSeparator? marks (spelling.timestamp ++ behind) = none := by
  obtain ⟨digit, rest, stamp, isDigit⟩ := spelling.exists_first_timestamp
  have other : digit ≠ marks.recordingSeparator := by
    rintro rfl
    rw [distinct.separator_not_digit] at isDigit
    cases isDigit
  rw [stamp, List.cons_append]
  exact if_neg other

theorem afterSeparator?_spelling (distinct : marks.Distinct) (spelling : Spelling)
    (behind : List Char) : afterSeparator? marks (spelling.chars marks ++ behind) = none := by
  cases marked : spelling.previous with
  | true =>
      obtain ⟨first, more, mark, other⟩ := distinct.mark_opens
      rw [Spelling.chars, marked, if_pos rfl, mark]
      exact if_neg other
  | false =>
      rw [Spelling.chars, marked, if_neg Bool.false_ne_true, List.nil_append, Spelling.body,
        List.append_assoc]
      exact afterSeparator?_timestamp distinct spelling _

theorem afterMark?_chars (distinct : marks.Distinct) {spelling : Spelling}
    (marked : spelling.previous = true) (behind : List Char) :
    afterMark? marks (spelling.chars marks ++ behind) = some (spelling.body marks ++ behind) := by
  obtain ⟨first, more, mark, -⟩ := distinct.mark_opens
  rw [afterMark?_eq_some_iff]
  refine ⟨mark ▸ List.cons_ne_nil first more, ?_⟩
  simp [Spelling.chars, marked]

/-- Behind its mark in front, a spelling is read to its end if no separator follows. -/
theorem body?_body (distinct : marks.Distinct) (closed : afterSeparator? marks behind = none)
    (spelling : Spelling) :
    body? marks false spelling.previous (spelling.body marks ++ behind) =
      some (spelling.item, behind) := by
  rw [Spelling.body, List.append_assoc, List.cons_append, List.append_assoc, List.cons_append,
    body?_timestamp marks false _ spelling (stops_separator distinct _ _), next?_written distinct,
    Option.bind_some, secondary?_written closed]
  rfl

end

/-! ### The marks of the game -/

theorem afterMark?_one_iff (text rest : List Char) :
    afterMark? {} text = some rest ↔ text = '1' :: ';' :: rest :=
  afterMark?_eq_some_iff.trans (and_iff_right (List.cons_ne_nil _ _))

theorem next?_eq_none {text : List Char} (unmarked : afterMark? {} text = none)
    (closed : afterSeparator? {} text = none) : next? {} text = none := by
  simp [next?, unmarked, closed]

theorem text_plain {timestamp : Binary64} (finite : timestamp.isFinite = true)
    (nonnegative : timestamp.isNegative = false) :
    timestamp.text ≠ [] ∧ ';' ∉ timestamp.text := by
  obtain ⟨spelling, -, text⟩ :=
    exists_spelling_text ⟨timestamp, false, false, false⟩ finite nonnegative
  obtain ⟨digit, rest, stamp, -⟩ := spelling.exists_first_timestamp
  rw [← text]
  exact ⟨stamp ▸ List.cons_ne_nil digit rest,
    spelling.separator_not_mem_timestamp Marks.distinct_default⟩

theorem afterMark?_text {timestamp : Binary64} (finite : timestamp.isFinite = true)
    (nonnegative : timestamp.isNegative = false) (behind : List Char) :
    afterMark? {} (timestamp.text ++ ';' :: behind) =
      if timestamp = .one then some behind else none := by
  split
  next one =>
    rw [one, Binary64.text_one]
    rfl
  next other =>
    rw [Option.eq_none_iff_forall_ne_some]
    intro rest marked
    rw [afterMark?_one_iff] at marked
    obtain ⟨nonempty, plain⟩ := text_plain finite nonnegative
    obtain ⟨first, digits, text⟩ := List.exists_cons_of_ne_nil nonempty
    rw [text, List.cons_append, List.cons.injEq] at marked
    obtain ⟨rfl, marked⟩ := marked
    cases digits with
    | nil => exact other ((Binary64.text_eq_one_iff finite nonnegative).mp text)
    | cons second digits =>
        rw [List.cons_append, List.cons.injEq] at marked
        obtain ⟨rfl, -⟩ := marked
        rw [text] at plain
        exact plain (by simp)

/-! ### The item -/

def tail (item : RecordingItem) : List Char :=
  (if item.next then ['1'] else []) ++ ';' :: if item.secondary then [';'] else []

theorem chars_eq (item : RecordingItem) :
    item.chars {} =
      (if item.previous then ['1', ';'] else []) ++ (item.timestamp.text ++ ';' :: item.tail) := by
  simp [chars, tail]

variable {item : RecordingItem} {behind : List Char}

theorem body?_tail (printable : item.Printable) (closed : afterSeparator? {} behind = none) :
    body? {} false item.previous (item.timestamp.text ++ ';' :: (item.tail ++ behind)) =
      some (item, behind) := by
  obtain ⟨spelling, rfl, text⟩ := exists_spelling_text item printable.1 printable.2
  have read := body?_body Marks.distinct_default closed spelling
  rw [Spelling.body, text, List.append_assoc] at read
  exact read

/-- The item is written like a mark and the timestamp one, and what is behind can be read as the
rest of such an item. -/
def Ambiguous (item : RecordingItem) (behind : List Char) : Prop :=
  item.previous = false ∧ item.timestamp = .one ∧ item.next = true ∧
    (item.secondary = true ∨ (afterMark? {} behind).isSome)

theorem body?_one (behind : List Char) :
    body? {} false true ('1' :: ';' :: behind) =
      (next? {} behind).bind fun found =>
        (secondary? {} false found.2).map fun last => (⟨.one, true, found.1, last.1⟩, last.2) := by
  obtain ⟨spelling, same, text⟩ := exists_spelling_text ⟨.one, true, false, false⟩ rfl rfl
  have read := body?_timestamp {} false true spelling
    (stops_separator Marks.distinct_default _ behind)
  rw [text, same, Binary64.text_one] at read
  exact read

theorem body?_tail_eq_none (closed : afterSeparator? {} behind = none)
    (clear : ¬ (item.next = true ∧ (item.secondary = true ∨ (afterMark? {} behind).isSome))) :
    body? {} false true (item.tail ++ behind) = none := by
  obtain ⟨timestamp, previous, next, secondary⟩ := item
  cases next with
  | false => rfl
  | true =>
      simp only [true_and, not_or, Bool.not_eq_true, Option.isSome_eq_false_iff,
        Option.isNone_iff_eq_none] at clear
      obtain ⟨rfl, unmarked⟩ := clear
      change body? {} false true ('1' :: ';' :: behind) = none
      rw [body?_one, next?_eq_none unmarked closed]
      rfl

theorem chars_of_previous (marked : item.previous = true) :
    item.chars {} ++ behind =
      '1' :: ';' :: (item.timestamp.text ++ ';' :: (item.tail ++ behind)) := by
  simp [chars_eq, marked]

theorem chars_of_not_previous (unmarked : item.previous = false) :
    item.chars {} ++ behind = item.timestamp.text ++ ';' :: (item.tail ++ behind) := by
  simp [chars_eq, unmarked]

theorem match?_of_clear (printable : item.Printable) (closed : afterSeparator? {} behind = none)
    (clear : ¬ item.Ambiguous behind) :
    match? {} false (item.chars {} ++ behind) = some (item, behind) := by
  have found := body?_tail printable closed
  cases marked : item.previous with
  | true =>
      rw [marked] at found
      rw [chars_of_previous marked, match?, (afterMark?_one_iff _ _).mpr rfl, Option.bind_some,
        found]
  | false =>
      rw [marked] at found
      rw [chars_of_not_previous marked, match?, afterMark?_text printable.1 printable.2]
      by_cases one : item.timestamp = .one
      · rw [if_pos one, Option.bind_some,
          body?_tail_eq_none closed fun followed => clear ⟨marked, one, followed⟩]
        exact found
      · rw [if_neg one, Option.bind_none]
        exact found

theorem exists_next? (marked : (afterMark? {} behind).isSome) :
    ∃ found, next? {} behind = some found := by
  obtain ⟨rest, same⟩ := Option.isSome_iff_exists.mp marked
  exact ⟨(true, rest), by rw [next?, same]⟩

theorem exists_body?_tail (marked : item.next = true)
    (followed : item.secondary = true ∨ (afterMark? {} behind).isSome) :
    ∃ other rest, body? {} false true (item.tail ++ behind) = some (other, rest) ∧
      other.previous = true := by
  obtain ⟨timestamp, previous, _, secondary⟩ := item
  subst marked
  have opened : ∃ found, next? {} ((if secondary then [';'] else []) ++ behind) = some found := by
    cases secondary with
    | true => exact ⟨_, next?_written Marks.distinct_default false behind⟩
    | false => exact exists_next? (by simpa using followed)
  obtain ⟨found, next⟩ := opened
  obtain ⟨last, ended⟩ := Option.isSome_iff_exists.mp (isSome_secondary? {} found.2)
  refine ⟨⟨.one, true, found.1, last.1⟩, last.2, ?_, rfl⟩
  change body? {} false true ('1' :: ';' :: ((if secondary then [';'] else []) ++ behind)) = _
  rw [body?_one, next, Option.bind_some, ended, Option.map_some]

theorem match?_of_ambiguous (ambiguous : item.Ambiguous behind) :
    ∃ other rest, match? {} false (item.chars {} ++ behind) = some (other, rest) ∧
      other.previous = true := by
  obtain ⟨unmarked, one, next, followed⟩ := ambiguous
  obtain ⟨other, rest, found, previous⟩ := exists_body?_tail next followed
  refine ⟨other, rest, ?_, previous⟩
  rw [chars_of_not_previous unmarked, match?, one,
    afterMark?_text (by decide : Binary64.one.isFinite = true) (by decide), if_pos rfl,
    Option.bind_some, found]

end LevelFormat.Save.RecordingItem
