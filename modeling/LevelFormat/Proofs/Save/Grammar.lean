import LevelFormat.Proofs.Save.ItemReading
import LevelFormat.Proofs.Save.Lookahead
import Mathlib.Computability.RegularExpressions

/-!
The grammar of an item.

A text is read as an item exactly if it is a spelling of the item. It may be one with a mark in front
and another without, as `1;1;;` is; then the mark counts (`RecordingItem.match?_whole_iff`). With the
marks of the game, the texts that are spellings are those that match a regular expression. Main
statement: `RecordingItem.ofText_iff_matches`.
-/

namespace LevelFormat.Save

/-! ### The regular expression -/

namespace Grammar

open RegularExpression

def literal (text : List Char) : RegularExpression Char := (text.map char).prod

def oneOf (choices : List Char) : RegularExpression Char := (choices.map char).sum

def optional (expression : RegularExpression Char) : RegularExpression Char := 1 + expression

def digits : List Char := ['0', '1', '2', '3', '4', '5', '6', '7', '8', '9']

def timestamp : RegularExpression Char :=
  oneOf digits * star (oneOf digits) * optional (literal ['.'] * star (oneOf digits))

def item : RegularExpression Char :=
  optional (literal ['1', ';']) * timestamp * literal [';'] * optional (literal ['1']) *
    literal [';'] * optional (literal [';'])

variable {text : List Char}

theorem mem_literal_iff {chars : List Char} : text ∈ (literal chars).matches' ↔ text = chars := by
  induction chars generalizing text with
  | nil => exact Language.mem_one text
  | cons first rest ih =>
      change text ∈ (char first * literal rest).matches' ↔ _
      rw [matches'_mul, matches'_char, Language.mem_mul]
      constructor
      · rintro ⟨_, rfl, back, inBack, rfl⟩
        rw [ih.mp inBack]
        rfl
      · rintro rfl
        exact ⟨[first], rfl, rest, ih.mpr rfl, rfl⟩

theorem mem_oneOf_iff {choices : List Char} :
    text ∈ (oneOf choices).matches' ↔ ∃ choice ∈ choices, text = [choice] := by
  induction choices with
  | nil => exact iff_of_false (Language.notMem_zero text) (by simp)
  | cons first rest ih =>
      change text ∈ (char first + oneOf rest).matches' ↔ _
      have here : text ∈ (char first).matches' ↔ text = [first] := Iff.rfl
      rw [matches'_add, Language.mem_add, here, ih]
      simp

theorem mem_optional_iff {expression : RegularExpression Char} :
    text ∈ (optional expression).matches' ↔ text = [] ∨ text ∈ expression.matches' := by
  rw [optional, matches'_add, matches'_epsilon, Language.mem_add, Language.mem_one]

theorem exists_digitChar {char : Char} (isDigit : char.isDigit = true) :
    ∃ value < 10, Nat.digitChar value = char := by
  have code : ∀ value < 10, (Nat.digitChar value).toNat = 48 + value := by decide
  rw [Char.isDigit_iff_toNat] at isDigit
  obtain ⟨lower, upper⟩ := isDigit
  change 48 ≤ char.toNat at lower
  change char.toNat ≤ 57 at upper
  have small : char.toNat - 48 < 10 := by omega
  refine ⟨char.toNat - 48, small, ?_⟩
  rw [← Char.toNat_inj, code _ small]
  omega

theorem mem_digits_iff {char : Char} : char ∈ digits ↔ char.isDigit = true := by
  have all : digits.all Char.isDigit = true := by decide
  constructor
  · exact List.all_eq_true.mp all char
  · intro isDigit
    obtain ⟨value, small, rfl⟩ := exists_digitChar isDigit
    revert value
    decide

theorem mem_star_digits_iff :
    text ∈ (star (oneOf digits)).matches' ↔ ∀ char ∈ text, char.isDigit = true := by
  rw [matches'_star, Language.mem_kstar]
  constructor
  · rintro ⟨parts, rfl, each⟩ char member
    obtain ⟨part, inParts, inPart⟩ := List.mem_flatten.mp member
    obtain ⟨digit, inDigits, rfl⟩ := mem_oneOf_iff.mp (each part inParts)
    rw [List.mem_singleton.mp inPart]
    exact mem_digits_iff.mp inDigits
  · intro all
    refine ⟨text.map fun char => [char], ?_, ?_⟩
    · rw [← List.flatMap_def, List.flatMap_singleton']
    · intro part member
      obtain ⟨char, inText, rfl⟩ := List.mem_map.mp member
      exact mem_oneOf_iff.mpr ⟨char, mem_digits_iff.mpr (all char inText), rfl⟩

theorem mem_flag_iff {chars : List Char} :
    text ∈ (optional (literal chars)).matches' ↔
      ∃ present : Bool, (if present then chars else []) = text := by
  rw [mem_optional_iff, mem_literal_iff, Bool.exists_bool, if_neg Bool.false_ne_true, if_pos rfl,
    eq_comm, eq_comm (a := text)]

theorem mem_whole_iff :
    text ∈ (oneOf digits * star (oneOf digits)).matches' ↔
      text ≠ [] ∧ ∀ char ∈ text, char.isDigit = true := by
  rw [matches'_mul, Language.mem_mul]
  constructor
  · rintro ⟨_, first, rest, others, rfl⟩
    obtain ⟨digit, inDigits, rfl⟩ := mem_oneOf_iff.mp first
    refine ⟨List.cons_ne_nil digit rest, List.forall_mem_cons.mpr ⟨?_, ?_⟩⟩
    · exact mem_digits_iff.mp inDigits
    · exact mem_star_digits_iff.mp others
  · rintro ⟨nonempty, all⟩
    obtain ⟨digit, rest, rfl⟩ := List.exists_cons_of_ne_nil nonempty
    obtain ⟨isDigit, others⟩ := List.forall_mem_cons.mp all
    exact ⟨[digit], mem_oneOf_iff.mpr ⟨digit, mem_digits_iff.mpr isDigit, rfl⟩, rest,
      mem_star_digits_iff.mpr others, rfl⟩

theorem mem_fraction_iff :
    text ∈ (optional (literal ['.'] * star (oneOf digits))).matches' ↔
      ∃ fraction : Option (List Char), (∀ char ∈ fraction.getD [], char.isDigit = true) ∧
        fraction.elim [] ('.' :: ·) = text := by
  rw [mem_optional_iff, matches'_mul, Language.mem_mul]
  constructor
  · rintro (rfl | ⟨_, point, fraction, digits, rfl⟩)
    · exact ⟨none, nofun, rfl⟩
    · rw [mem_literal_iff.mp point]
      exact ⟨some fraction, mem_star_digits_iff.mp digits, rfl⟩
  · rintro ⟨fraction, digits, rfl⟩
    cases fraction with
    | none => exact .inl rfl
    | some fraction =>
        exact .inr ⟨['.'], mem_literal_iff.mpr rfl, fraction, mem_star_digits_iff.mpr digits, rfl⟩

theorem mem_timestamp_iff :
    text ∈ timestamp.matches' ↔ ∃ (whole : List Char) (fraction : Option (List Char)),
      whole ≠ [] ∧ (∀ char ∈ whole ++ fraction.getD [], char.isDigit = true) ∧
        whole ++ fraction.elim [] ('.' :: ·) = text := by
  rw [timestamp, matches'_mul, Language.mem_mul]
  simp only [mem_whole_iff, mem_fraction_iff, List.forall_mem_append]
  constructor
  · rintro ⟨whole, ⟨nonempty, first⟩, _, ⟨fraction, second, rfl⟩, rfl⟩
    exact ⟨whole, fraction, nonempty, ⟨first, second⟩, rfl⟩
  · rintro ⟨whole, fraction, nonempty, ⟨first, second⟩, rfl⟩
    exact ⟨whole, ⟨nonempty, first⟩, _, ⟨fraction, second, rfl⟩, rfl⟩

/-- What matches is a spelling of some item. -/
theorem mem_item_iff :
    text ∈ item.matches' ↔ ∃ spelling : Spelling, spelling.chars {} = text := by
  simp only [item, matches'_mul, Language.mem_mul, mem_flag_iff, mem_literal_iff,
    mem_timestamp_iff]
  constructor
  · rintro ⟨_, ⟨_, ⟨_, ⟨_, ⟨_, ⟨previous, rfl⟩, _, ⟨whole, fraction, nonempty, digits, rfl⟩, rfl⟩, _,
      rfl, rfl⟩, _, ⟨next, rfl⟩, rfl⟩, _, rfl, rfl⟩, _, ⟨secondary, rfl⟩, rfl⟩
    refine ⟨⟨whole, fraction, previous, next, secondary, nonempty, digits⟩, ?_⟩
    simp [Spelling.chars, Spelling.body, Spelling.timestamp]
  · rintro ⟨⟨whole, fraction, previous, next, secondary, nonempty, digits⟩, rfl⟩
    refine ⟨_, ⟨_, ⟨_, ⟨_, ⟨_, ⟨previous, rfl⟩, _, ⟨whole, fraction, nonempty, digits, rfl⟩, rfl⟩, _,
      rfl, rfl⟩, _, ⟨next, rfl⟩, rfl⟩, _, rfl, rfl⟩, _, ⟨secondary, rfl⟩, ?_⟩
    simp [Spelling.chars, Spelling.body, Spelling.timestamp]

end Grammar

/-! ### What a whole text is read as -/

def Spells (marks : Marks) (previous : Bool) (text : List Char) (item : RecordingItem) : Prop :=
  ∃ spelling : Spelling,
    spelling.chars marks = text ∧ spelling.previous = previous ∧ spelling.item = item

namespace RecordingItem

variable {marks : Marks} {previous : Bool} {text rest : List Char} {item : RecordingItem}

theorem eq_nil_of_secondary? {secondary : Bool}
    (found : secondary? marks true text = some (secondary, rest)) : rest = [] := by
  unfold secondary? at found
  split at found
  next ended =>
    cases found
    simpa [mayEnd] using (Option.filter_eq_some_iff.mp ended).2
  next =>
    split at found
    next ended =>
      cases found
      simpa [mayEnd] using ended
    next => cases found

theorem body?_whole_iff (distinct : marks.Distinct) :
    body? marks true previous text = some (item, rest) ↔
      rest = [] ∧ ∃ spelling : Spelling,
        spelling.body marks = text ∧ spelling.previous = previous ∧ spelling.item = item := by
  constructor
  · intro found
    obtain ⟨_, _, _, _, _, _, _, -, -, -, last, -⟩ := body?_eq_some_iff.mp found
    obtain rfl := eq_nil_of_secondary? last
    obtain ⟨spelling, previous, same, rfl⟩ := exists_spelling_body found
    exact ⟨rfl, spelling, (List.append_nil _).symm, previous, same⟩
  · rintro ⟨rfl, spelling, rfl, rfl, rfl⟩
    have nothing : afterSeparator? marks [] = none := rfl
    exact body?_alone (body?_body distinct nothing spelling)

theorem afterMark?_whole_iff (distinct : marks.Distinct) :
    (afterMark? marks text).bind (body? marks true true) = some (item, rest) ↔
      rest = [] ∧ Spells marks true text item := by
  rw [Option.bind_eq_some_iff]
  constructor
  · rintro ⟨behind, mark, found⟩
    obtain ⟨ended, spelling, rfl, previous, same⟩ := (body?_whole_iff distinct).mp found
    refine ⟨ended, spelling, ?_, previous, same⟩
    rw [(afterMark?_eq_some_iff.mp mark).2, Spelling.chars, if_pos previous, List.append_assoc]
    rfl
  · rintro ⟨ended, spelling, rfl, previous, same⟩
    refine ⟨spelling.body marks, ?_, (body?_whole_iff distinct).mpr
      ⟨ended, spelling, rfl, previous, same⟩⟩
    simpa using afterMark?_chars distinct previous []

theorem unmarked_whole_iff (distinct : marks.Distinct) :
    body? marks true false text = some (item, rest) ↔
      rest = [] ∧ Spells marks false text item := by
  rw [body?_whole_iff distinct]
  refine and_congr_right fun _ => exists_congr fun spelling => and_congr_left fun ⟨unmarked, _⟩ => ?_
  rw [Spelling.chars, unmarked, if_neg Bool.false_ne_true, List.nil_append]

/-- A whole text is read with a mark in front if that is possible at all. -/
theorem match?_whole_iff (distinct : marks.Distinct) :
    match? marks true text = some (item, rest) ↔
      rest = [] ∧ (Spells marks true text item ∨
        Spells marks false text item ∧ ∀ other, ¬ Spells marks true text other) := by
  unfold match?
  cases front : (afterMark? marks text).bind (body? marks true true) with
  | some found =>
      obtain ⟨other, behind⟩ := found
      dsimp only
      rw [← front, afterMark?_whole_iff distinct]
      have marked := ((afterMark?_whole_iff distinct).mp front).2
      have clear : ¬ ∀ other, ¬ Spells marks true text other := fun none => none other marked
      simp [clear]
  | none =>
      have unmarked (other : RecordingItem) : ¬ Spells marks true text other := by
        intro spells
        have found := (afterMark?_whole_iff distinct).mpr ⟨Eq.refl [], spells⟩
        rw [front] at found
        cases found
      simp [unmarked, unmarked_whole_iff distinct]

theorem ofText_eq_ok_iff_match? {text : String} :
    ofText marks text = .ok item ↔
      ∃ rest, match? marks true text.toList = some (item, rest) := by
  unfold ofText
  split
  next found rest delivered => simp [delivered]
  next failed => simp [failed]

theorem ofText_eq_ok_iff (distinct : marks.Distinct) {text : String} :
    ofText marks text = .ok item ↔ Spells marks true text.toList item ∨
      Spells marks false text.toList item ∧ ∀ other, ¬ Spells marks true text.toList other := by
  simp only [ofText_eq_ok_iff_match?, match?_whole_iff distinct, exists_eq_left]

theorem exists_ofText_iff (distinct : marks.Distinct) {text : String} :
    (∃ item, ofText marks text = .ok item) ↔
      ∃ spelling : Spelling, spelling.chars marks = text.toList := by
  simp only [ofText_eq_ok_iff distinct]
  constructor
  · rintro ⟨item, ⟨spelling, same, -⟩ | ⟨⟨spelling, same, -⟩, -⟩⟩
    · exact ⟨spelling, same⟩
    · exact ⟨spelling, same⟩
  · rintro ⟨spelling, same⟩
    by_cases marked : ∃ other, Spells marks true text.toList other
    · obtain ⟨other, spells⟩ := marked
      exact ⟨other, .inl spells⟩
    · have unmarked : spelling.previous = false := by
        rw [← Bool.not_eq_true]
        exact fun previous => marked ⟨spelling.item, spelling, same, previous, rfl⟩
      exact ⟨spelling.item, .inr ⟨⟨spelling, same, unmarked, rfl⟩, not_exists.mp marked⟩⟩

theorem ofText_eq_error_iff {text : String} :
    ofText marks text = .error (.malformedText text .recordingItem) ↔
      ¬ ∃ item, ofText marks text = .ok item := by
  unfold ofText
  split
  next => simp
  next => simp

/-- With the marks of the game, exactly the texts that match the grammar are read, and all others are
refused as no recording item. What is read is what the text spells with a mark in front, and only if
it spells nothing so, what it spells without one. -/
theorem ofText_iff_matches (text : String) :
    ((∃ item, ofText {} text = .ok item) ↔ text.toList ∈ Grammar.item.matches') ∧
      (ofText {} text = .error (.malformedText text .recordingItem) ↔
        text.toList ∉ Grammar.item.matches') ∧
      ∀ item, ofText {} text = .ok item ↔
        Spells {} true text.toList item ∨
          Spells {} false text.toList item ∧ ∀ other, ¬ Spells {} true text.toList other := by
  have accepted : (∃ item, ofText {} text = .ok item) ↔ text.toList ∈ Grammar.item.matches' := by
    rw [exists_ofText_iff Marks.distinct_default, Grammar.mem_item_iff]
  refine ⟨accepted, ?_, fun item => ofText_eq_ok_iff Marks.distinct_default⟩
  rw [ofText_eq_error_iff, accepted]

end RecordingItem

end LevelFormat.Save
