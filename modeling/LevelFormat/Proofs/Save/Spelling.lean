import LevelFormat.Proofs.Number.Printing
import LevelFormat.Save.Recording

/-!
The spellings of an item.

An item is found in more texts than the one it is written as: there may be zeros in front of its
timestamp and behind, and a point with nothing behind it. `RecordingItem.exists_spelling` says that
whatever is found stands there in such a spelling. `Recording.scan_induction` carries what holds of
single items over to all that are found in a text.
-/

namespace LevelFormat.Save

open LevelFormat.Number (Binary64 Decimal fixedPoint)

structure Spelling where
  whole : List Char
  fraction : Option (List Char)
  previous : Bool
  next : Bool
  secondary : Bool
  some_digit : whole ≠ []
  digits : ∀ char ∈ whole ++ fraction.getD [], char.isDigit = true

namespace Spelling

def timestamp (spelling : Spelling) : List Char :=
  spelling.whole ++ spelling.fraction.elim [] ('.' :: ·)

def item (spelling : Spelling) : RecordingItem where
  timestamp := (Decimal.ofDigits spelling.whole (spelling.fraction.getD [])).toBinary64
  previous := spelling.previous
  next := spelling.next
  secondary := spelling.secondary

def body (marks : Marks) (spelling : Spelling) : List Char :=
  spelling.timestamp ++ marks.recordingSeparator ::
    ((if spelling.next then marks.affirmative else []) ++ marks.recordingSeparator ::
      (if spelling.secondary then [marks.recordingSeparator] else []))

def chars (marks : Marks) (spelling : Spelling) : List Char :=
  (if spelling.previous then marks.affirmative ++ [marks.recordingSeparator] else []) ++
    spelling.body marks

theorem isNegative_item (spelling : Spelling) : spelling.item.timestamp.isNegative = false :=
  decide_eq_false (Nat.not_le.mpr (Binary64.bits_toBinary64_lt _))

theorem isDigit_of_mem_timestamp (spelling : Spelling) {char : Char}
    (member : char ∈ spelling.timestamp) : char.isDigit = true ∨ char = '.' := by
  have digits := spelling.digits char
  rw [List.mem_append] at digits
  rw [timestamp, List.mem_append] at member
  cases same : spelling.fraction with
  | none =>
      rw [same] at member
      exact .inl (digits (.inl (by simpa using member)))
  | some fraction =>
      rw [same, Option.elim_some, List.mem_cons] at member
      rw [same, Option.getD_some] at digits
      rcases member with inFront | point | inBack
      · exact .inl (digits (.inl inFront))
      · exact .inr point
      · exact .inl (digits (.inr inBack))

theorem exists_first_timestamp (spelling : Spelling) :
    ∃ digit rest, spelling.timestamp = digit :: rest ∧ digit.isDigit = true := by
  obtain ⟨digit, rest, whole⟩ := List.exists_cons_of_ne_nil spelling.some_digit
  refine ⟨digit, rest ++ spelling.fraction.elim [] ('.' :: ·), ?_, ?_⟩
  · rw [timestamp, whole, List.cons_append]
  · exact spelling.digits digit (by simp [whole])

end Spelling

namespace RecordingItem

variable {marks : Marks} {whole : Bool} {text rest : List Char}

theorem afterSeparator?_eq_some_iff :
    afterSeparator? marks text = some rest ↔ text = marks.recordingSeparator :: rest := by
  cases text with
  | nil => simp [afterSeparator?]
  | cons char text => simp [afterSeparator?]

theorem afterMark?_eq_some_iff :
    afterMark? marks text = some rest ↔
      marks.affirmative ≠ [] ∧ text = marks.affirmative ++ marks.recordingSeparator :: rest := by
  unfold afterMark?
  split
  next marked =>
    rw [Bool.and_eq_true, decide_eq_true_eq, List.isPrefixOf_iff_prefix] at marked
    obtain ⟨some, behind, rfl⟩ := marked
    rw [List.drop_left, afterSeparator?_eq_some_iff, List.append_right_inj]
    exact (and_iff_right some).symm
  next unmarked =>
    refine iff_of_false nofun ?_
    rintro ⟨some, rfl⟩
    apply unmarked
    rw [Bool.and_eq_true, decide_eq_true_eq, List.isPrefixOf_iff_prefix]
    exact ⟨some, List.prefix_append _ _⟩

theorem isDigit_of_mem_takeWhile {char : Char} (member : char ∈ text.takeWhile Char.isDigit) :
    char.isDigit = true :=
  List.all_eq_true.mp List.all_takeWhile char member

theorem isDigit_of_head?_dropWhile {stop : Char}
    (first : stop ∈ (text.dropWhile Char.isDigit).head?) : stop.isDigit = false := by
  have outside := text.head?_dropWhile_not Char.isDigit
  rw [Option.mem_def.mp first] at outside
  exact outside

theorem span_digits {digits : List Char} (all : ∀ char ∈ digits, char.isDigit = true)
    (stops : ∀ stop ∈ rest.head?, stop.isDigit = false) :
    (digits ++ rest).takeWhile Char.isDigit = digits ∧
      (digits ++ rest).dropWhile Char.isDigit = rest := by
  rw [List.takeWhile_append_of_pos all, List.dropWhile_append_of_pos all]
  cases rest with
  | nil => exact ⟨List.append_nil digits, rfl⟩
  | cons stop rest =>
      have other : ¬ stop.isDigit = true := by simpa using stops stop rfl
      rw [List.takeWhile_cons_of_neg other, List.dropWhile_cons_of_neg other, List.append_nil]
      exact ⟨rfl, rfl⟩

def Stops (fraction : Option (List Char)) (rest : List Char) : Prop :=
  ∀ stop ∈ rest.head?, stop.isDigit = false ∧ (fraction = none → stop ≠ '.')

theorem timestamp?_eq_some_iff {front back : List Char} :
    timestamp? text = some ((front, back), rest) ↔
      front ≠ [] ∧ (∀ char ∈ front ++ back, char.isDigit = true) ∧
        ∃ fraction : Option (List Char), fraction.getD [] = back ∧
          text = front ++ fraction.elim [] ('.' :: ·) ++ rest ∧ Stops fraction rest := by
  constructor
  · intro found
    have parts := text.takeWhile_append_dropWhile (p := Char.isDigit)
    unfold timestamp? at found
    split at found
    next => cases found
    next some =>
      have nonempty : text.takeWhile Char.isDigit ≠ [] := by simpa using some
      split at found
      next tail point =>
        cases found
        refine ⟨nonempty, ?_, Option.some (tail.takeWhile Char.isDigit), rfl, ?_, ?_⟩
        · intro char member
          rcases List.mem_append.mp member with inFront | inBack
          · exact isDigit_of_mem_takeWhile inFront
          · exact isDigit_of_mem_takeWhile inBack
        · rw [Option.elim_some, List.append_assoc, List.cons_append,
            List.takeWhile_append_dropWhile, ← point, parts]
        · exact fun stop first => ⟨isDigit_of_head?_dropWhile first, nofun⟩
      next noPoint =>
        cases found
        refine ⟨nonempty, ?_, none, rfl, ?_, ?_⟩
        · intro char member
          rw [List.append_nil] at member
          exact isDigit_of_mem_takeWhile member
        · rw [Option.elim_none, List.append_nil, parts]
        · refine fun stop first => ⟨isDigit_of_head?_dropWhile first, ?_⟩
          rintro - rfl
          obtain ⟨tail, point⟩ := List.head?_eq_some_iff.mp first
          exact noPoint tail point
  · rintro ⟨nonempty, digits, fraction, rfl, rfl, stops⟩
    have some : front.isEmpty = false := List.isEmpty_eq_false_iff.mpr nonempty
    have frontDigits (char : Char) (member : char ∈ front) : char.isDigit = true :=
      digits char (List.mem_append_left _ member)
    unfold timestamp?
    cases fraction with
    | none =>
        obtain ⟨taken, dropped⟩ := span_digits frontDigits fun stop first => (stops stop first).1
        rw [Option.elim_none, List.append_nil, taken, dropped, some]
        simp only [Bool.false_eq_true, ↓reduceIte]
        split
        next tail => exact absurd rfl ((stops '.' rfl).2 rfl)
        next => rfl
    | some fraction =>
        have backDigits (char : Char) (member : char ∈ fraction) : char.isDigit = true :=
          digits char (List.mem_append_right front member)
        have point : ∀ stop ∈ ('.' :: (fraction ++ rest)).head?, stop.isDigit = false := by
          simp
        obtain ⟨taken, dropped⟩ := span_digits frontDigits point
        obtain ⟨inBack, behind⟩ := span_digits backDigits fun stop first => (stops stop first).1
        rw [Option.elim_some, List.append_assoc, List.cons_append, taken, dropped, some]
        simp only [inBack, behind]
        rfl

theorem eq_of_next? {next : Bool} (found : next? marks text = some (next, rest)) :
    text = (if next then marks.affirmative else []) ++ marks.recordingSeparator :: rest := by
  unfold next? at found
  split at found
  next marked =>
    cases found
    exact (afterMark?_eq_some_iff.mp marked).2
  next =>
    obtain ⟨_, separated, same⟩ := Option.map_eq_some_iff.mp found
    cases same
    exact afterSeparator?_eq_some_iff.mp separated

theorem eq_of_secondary? {secondary : Bool}
    (found : secondary? marks whole text = some (secondary, rest)) :
    text = (if secondary then [marks.recordingSeparator] else []) ++ rest := by
  unfold secondary? at found
  split at found
  next separated =>
    cases found
    exact afterSeparator?_eq_some_iff.mp (Option.filter_eq_some_iff.mp separated).1
  next =>
    split at found
    next =>
      cases found
      rfl
    next => cases found

theorem isSome_secondary? (marks : Marks) (text : List Char) :
    (secondary? marks false text).isSome := by
  unfold secondary?
  split
  · rfl
  · rfl

theorem body?_eq_some_iff {previous : Bool} {item : RecordingItem} :
    body? marks whole previous text = some (item, rest) ↔
      ∃ front back stamped separated next marked secondary,
        timestamp? text = some ((front, back), stamped) ∧
        afterSeparator? marks stamped = some separated ∧
        next? marks separated = some (next, marked) ∧
        secondary? marks whole marked = some (secondary, rest) ∧
        item = ⟨(Decimal.ofDigits front back).toBinary64, previous, next, secondary⟩ := by
  simp only [body?, Option.bind_eq_bind, Option.bind_eq_some_iff, Option.pure_def,
    Option.some.injEq, Prod.mk.injEq]
  constructor
  · rintro ⟨⟨⟨front, back⟩, stamped⟩, first, separated, second, ⟨next, marked⟩, third,
      ⟨secondary, _⟩, fourth, same, rfl⟩
    exact ⟨front, back, stamped, separated, next, marked, secondary, first, second, third, fourth,
      same.symm⟩
  · rintro ⟨front, back, stamped, separated, next, marked, secondary, first, second, third,
      fourth, same⟩
    exact ⟨_, first, separated, second, _, third, _, fourth, same.symm, rfl⟩

theorem timestamp?_timestamp (spelling : Spelling) (stops : Stops spelling.fraction rest) :
    timestamp? (spelling.timestamp ++ rest) =
      some ((spelling.whole, spelling.fraction.getD []), rest) :=
  timestamp?_eq_some_iff.mpr
    ⟨spelling.some_digit, spelling.digits, spelling.fraction, rfl, rfl, stops⟩

theorem body?_timestamp (marks : Marks) (whole previous : Bool) (spelling : Spelling)
    (stops : Stops spelling.fraction (marks.recordingSeparator :: rest)) :
    body? marks whole previous (spelling.timestamp ++ marks.recordingSeparator :: rest) =
      (next? marks rest).bind fun found =>
        (secondary? marks whole found.2).map fun last =>
          (⟨spelling.item.timestamp, previous, found.1, last.1⟩, last.2) := by
  rw [body?, timestamp?_timestamp spelling stops]
  simp only [Option.bind_eq_bind, Option.bind_some, afterSeparator?, ↓reduceIte]
  cases next? marks rest with
  | none => rfl
  | some found =>
      simp only [Option.bind_some]
      cases secondary? marks whole found.2 with
      | none => rfl
      | some last => rfl

theorem exists_spelling_body {previous : Bool} {item : RecordingItem}
    (found : body? marks whole previous text = some (item, rest)) :
    ∃ spelling : Spelling, spelling.previous = previous ∧ spelling.item = item ∧
      text = spelling.body marks ++ rest := by
  obtain ⟨front, back, stamped, separated, next, marked, secondary, first, second, third, fourth,
    rfl⟩ := body?_eq_some_iff.mp found
  obtain ⟨nonempty, digits, fraction, rfl, rfl, -⟩ := timestamp?_eq_some_iff.mp first
  refine ⟨⟨front, fraction, previous, next, secondary, nonempty, digits⟩, rfl, rfl, ?_⟩
  rw [afterSeparator?_eq_some_iff.mp second, eq_of_next? third, eq_of_secondary? fourth]
  simp [Spelling.body, Spelling.timestamp]

/-- What is found at the front of a text stands there in one of its spellings. -/
theorem exists_spelling {item : RecordingItem}
    (found : match? marks whole text = some (item, rest)) :
    ∃ spelling : Spelling, spelling.item = item ∧ text = spelling.chars marks ++ rest := by
  unfold match? at found
  split at found
  next marked =>
    cases found
    obtain ⟨behind, mark, inner⟩ := Option.bind_eq_some_iff.mp marked
    obtain ⟨spelling, previous, same, rfl⟩ := exists_spelling_body inner
    refine ⟨spelling, same, ?_⟩
    rw [(afterMark?_eq_some_iff.mp mark).2]
    simp [Spelling.chars, previous]
  next =>
    obtain ⟨spelling, previous, same, rfl⟩ := exists_spelling_body found
    refine ⟨spelling, same, ?_⟩
    simp [Spelling.chars, previous]

theorem exists_fraction (front back : List Char) :
    ∃ fraction : Option (List Char), fraction.getD [] = back ∧
      fixedPoint front back = front ++ fraction.elim [] ('.' :: ·) := by
  unfold fixedPoint
  split
  next none => exact ⟨Option.none, none.symm, rfl⟩
  next => exact ⟨some back, rfl, rfl⟩

/-- A printed timestamp is a spelling of itself. -/
theorem exists_spelling_text (item : RecordingItem) (finite : item.timestamp.isFinite = true)
    (nonnegative : item.timestamp.isNegative = false) :
    ∃ spelling : Spelling, spelling.item = item ∧ spelling.timestamp = item.timestamp.text := by
  obtain ⟨timestamp, previous, next, secondary⟩ := item
  obtain ⟨front, back, text, nonempty, digits, same⟩ :=
    Binary64.text_eq_fixedPoint finite nonnegative
  obtain ⟨fraction, rfl, printed⟩ := exists_fraction front back
  refine ⟨⟨front, fraction, previous, next, secondary, nonempty, digits⟩, ?_, ?_⟩
  · exact congrArg (RecordingItem.mk · previous next secondary) same
  · rw [text, printed, Spelling.timestamp]

theorem exists_spelling_chars (marks : Marks) (item : RecordingItem)
    (finite : item.timestamp.isFinite = true) (nonnegative : item.timestamp.isNegative = false) :
    ∃ spelling : Spelling, spelling.item = item ∧ spelling.chars marks = item.chars marks := by
  obtain ⟨spelling, rfl, text⟩ := exists_spelling_text item finite nonnegative
  refine ⟨spelling, rfl, ?_⟩
  simp only [Spelling.chars, Spelling.body, text, chars, List.append_assoc, List.singleton_append]
  rfl

end RecordingItem

namespace Recording

variable {marks : Marks}

theorem scan_induction {motive : List Char → List RecordingItem → Prop} (nil : motive [] [])
    (found : ∀ (spelling : Spelling) rest, motive rest (scan marks rest) →
      motive (spelling.chars marks ++ rest) (spelling.item :: scan marks rest))
    (skipped : ∀ char rest, motive rest (scan marks rest) →
      motive (char :: rest) (scan marks rest))
    (text : List Char) : motive text (scan marks text) := by
  fun_induction scan marks text with
  | case1 => exact nil
  | case2 char behind item rest matched ih =>
      obtain ⟨spelling, rfl, same⟩ := RecordingItem.exists_spelling matched
      rw [same]
      exact found spelling rest ih
  | case3 char rest _ ih => exact skipped char rest ih

theorem isNegative_of_mem_scan {marks : Marks} (text : List Char) :
    ∀ item ∈ scan marks text, item.timestamp.isNegative = false := by
  refine scan_induction (motive := fun _ items => ∀ item ∈ items, item.timestamp.isNegative = false)
    ?nil ?found ?skipped text
  case nil => exact fun _ member => absurd member List.not_mem_nil
  case found =>
    intro spelling rest later item member
    rcases List.mem_cons.mp member with rfl | member
    · exact spelling.isNegative_item
    · exact later item member
  case skipped => exact fun _ _ later => later

end Recording

end LevelFormat.Save
