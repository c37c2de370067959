import LevelFormat.Proofs.Save.RecordingRoundTrip
import Mathlib.Algebra.GroupWithZero.Nat

/-!
Recordings that were read and are written again.

Main statement: `Recording.ofText_toText_ofText_iff`. It needs finite timestamps, and no recording
that has another outlives printing (`Recording.isFinite_of_ofText_toText`): the word that is printed
keeps the separator behind it out of all items, and none of the separators can be spared.
-/

namespace LevelFormat.Save

open LevelFormat.Number (Binary64)

def Foreign (char : Char) : Prop := char.isDigit = false ∧ char ≠ '.' ∧ char ≠ ';'

instance (char : Char) : Decidable (Foreign char) := inferInstanceAs (Decidable (_ ∧ _ ∧ _))

theorem count_optional (char : Char) (present : Bool) (token : List Char) :
    (if present then token else []).count char = present.toNat * token.count char := by
  cases present with
  | false => simp
  | true => simp

namespace RecordingItem

def separators (item : RecordingItem) : Nat := 2 + item.previous.toNat + item.secondary.toNat

theorem count_chars {item : RecordingItem} (plain : ';' ∉ item.timestamp.text) :
    (item.chars {}).count ';' = item.separators := by
  have none : item.timestamp.text.count ';' = 0 := List.count_eq_zero.mpr plain
  have mark : ['1'].count ';' = 0 := rfl
  simp only [chars, separators, List.count_append, count_optional, none, mark,
    List.count_singleton_self]
  omega

end RecordingItem

namespace Spelling

theorem not_mem_chars (spelling : Spelling) {char : Char} (foreign : Foreign char) :
    char ∉ spelling.chars {} := by
  obtain ⟨digit, point, separator⟩ := foreign
  have outside : char ∉ spelling.timestamp := by
    intro member
    rcases spelling.isDigit_of_mem_timestamp member with isDigit | isPoint
    · rw [digit] at isDigit
      cases isDigit
    · exact point isPoint
  have mark : char ≠ '1' := by
    rintro rfl
    cases digit
  simp [chars, body, outside, mark, separator]

theorem count_body {marks : Marks} (distinct : marks.Distinct) (spelling : Spelling) :
    (spelling.body marks).count marks.recordingSeparator =
      2 + spelling.next.toNat * marks.affirmative.count marks.recordingSeparator +
        spelling.secondary.toNat := by
  have none := List.count_eq_zero.mpr (spelling.separator_not_mem_timestamp distinct)
  simp only [body, List.count_append, count_optional, List.count_cons_self, List.count_nil, none]
  omega

theorem count_chars (spelling : Spelling) :
    (spelling.chars {}).count ';' = spelling.item.separators := by
  have body := spelling.count_body Marks.distinct_default
  have mark : ['1'].count ';' = 0 := rfl
  rw [chars, List.count_append, count_optional, body, RecordingItem.separators, item]
  simp only [List.count_append, List.count_cons_self, List.count_nil, mark]
  omega

end Spelling

namespace RecordingItem

/-- A timestamp that is no finite number is printed as a word. -/
theorem text_of_not_finite {timestamp : Binary64} (infinite : timestamp.isFinite = false) :
    ';' ∉ timestamp.text ∧
      ∃ front letter, timestamp.text = front ++ [letter] ∧ Foreign letter := by
  simp only [Binary64.text, infinite, Bool.false_eq_true, ↓reduceIte]
  split
  next =>
    cases timestamp.isNegative with
    | false => exact ⟨by decide, ['i', 'n'], 'f', rfl, by decide⟩
    | true => exact ⟨by decide, ['-', 'i', 'n'], 'f', rfl, by decide⟩
  next => exact ⟨by decide, ['N', 'a'], 'N', rfl, by decide⟩

theorem chars_of_not_finite {item : RecordingItem} (infinite : item.timestamp.isFinite = false) :
    ∃ front letter behind, item.chars {} = front ++ letter :: ';' :: behind ∧ Foreign letter := by
  obtain ⟨-, front, letter, text, foreign⟩ := text_of_not_finite infinite
  refine ⟨(if item.previous then ['1', ';'] else []) ++ front, letter, item.tail, ?_, foreign⟩
  rw [chars_eq, text]
  simp

theorem separator_not_mem_text {timestamp : Binary64} (nonnegative : timestamp.isNegative = false) :
    ';' ∉ timestamp.text := by
  cases finite : timestamp.isFinite with
  | false => exact (text_of_not_finite finite).1
  | true => exact (text_plain finite nonnegative).2

end RecordingItem

namespace Recording

open RecordingItem (chars separators)

/-- No separator is part of two items. -/
theorem sum_separators_le (text : List Char) :
    ((scan {} text).map separators).sum ≤ text.count ';' := by
  refine scan_induction (motive := fun text items => (items.map separators).sum ≤ text.count ';')
    ?nil ?found ?skipped text
  case nil => exact Nat.le_refl 0
  case found =>
    intro spelling rest later
    rw [List.map_cons, List.sum_cons, List.count_append, spelling.count_chars]
    exact Nat.add_le_add_left later _
  case skipped =>
    intro char rest later
    exact Nat.le_trans later (List.count_le_count_cons)

theorem scan_separator (rest : List Char) : scan {} (';' :: rest) = scan {} rest :=
  scan_of_unmatched rfl

theorem sum_separators_lt {letter : Char} (foreign : Foreign letter) (front behind : List Char) :
    ((scan {} (front ++ letter :: ';' :: behind)).map separators).sum <
      (front ++ letter :: ';' :: behind).count ';' := by
  refine scan_induction (motive := fun text items => ∀ front,
    text = front ++ letter :: ';' :: behind → (items.map separators).sum < text.count ';')
    ?nil ?found ?skipped _ front rfl
  case nil =>
    intro front same
    cases front <;> cases same
  case found =>
    intro spelling rest later front same
    obtain ⟨between, rfl⟩ : ∃ between, rest = between ++ letter :: ';' :: behind := by
      rcases List.append_eq_append_iff.mp same with ⟨between, -, same⟩ | ⟨between, inside, same⟩
      · exact ⟨between, same⟩
      · cases between with
        | nil => exact ⟨[], same.symm⟩
        | cons first between =>
            obtain ⟨rfl, -⟩ := List.cons.inj same
            exact absurd (inside ▸ List.mem_append_right _ List.mem_cons_self)
              (spelling.not_mem_chars foreign)
    rw [List.map_cons, List.sum_cons, List.count_append, spelling.count_chars]
    exact Nat.add_lt_add_left (later between rfl) _
  case skipped =>
    intro char rest later front same
    cases front with
    | nil =>
        cases same
        rw [scan_separator, List.count_cons_of_ne foreign.2.2, List.count_cons_self]
        exact Nat.lt_succ_of_le (sum_separators_le behind)
    | cons first front =>
        cases same
        exact Nat.lt_of_lt_of_le (later front rfl) (List.count_le_count_cons)

theorem isFinite_of_scan_flatMap {items : List RecordingItem}
    (same : scan {} (items.flatMap (chars {})) = items) :
    ∀ item ∈ items, item.timestamp.isFinite = true := by
  intro item member
  rw [← Bool.not_eq_false]
  intro infinite
  have plain : ∀ item ∈ items, ';' ∉ item.timestamp.text := by
    intro item member
    rw [← same] at member
    exact RecordingItem.separator_not_mem_text (isNegative_of_mem_scan _ item member)
  have counted : (items.flatMap (chars {})).count ';' = (items.map separators).sum := by
    rw [List.count_flatMap]
    refine congrArg List.sum (List.map_congr_left fun item member => ?_)
    exact RecordingItem.count_chars (plain item member)
  obtain ⟨before, after, split⟩ := List.append_of_mem member
  obtain ⟨front, letter, behind, spelled, foreign⟩ := RecordingItem.chars_of_not_finite infinite
  have printed : items.flatMap (chars {}) = (before.flatMap (chars {}) ++ front) ++
      letter :: ';' :: (behind ++ after.flatMap (chars {})) := by
    rw [split, List.flatMap_append, List.flatMap_cons, spelled]
    simp
  have fewer := sum_separators_lt foreign (before.flatMap (chars {}) ++ front)
    (behind ++ after.flatMap (chars {}))
  rw [← printed, same, counted] at fewer
  exact Nat.lt_irrefl _ fewer

/-- A recording that is read back as it was written has no timestamp but finite ones. -/
theorem isFinite_of_ofText_toText {items : List RecordingItem}
    (same : ofText {} (toText {} ⟨items⟩) = ⟨items⟩) :
    ∀ item ∈ items, item.timestamp.isFinite = true := by
  rw [ofText, toText, String.toList_ofList, mk.injEq] at same
  exact isFinite_of_scan_flatMap same

theorem isSome_afterMark?_drop {items : List RecordingItem}
    (printable : ∀ item ∈ items, item.Printable) (index : Nat) :
    (RecordingItem.afterMark? {} ((items.drop (index + 1)).flatMap (chars {}))).isSome ↔
      ∃ following, items[index + 1]? = some following ∧
        (following.previous = true ∨ following.timestamp = .one) := by
  have later : ∀ item ∈ items.drop (index + 1), item.Printable :=
    fun item member => printable item (List.mem_of_mem_drop member)
  rw [RecordingItem.isSome_afterMark?_flatMap later, List.head?_drop]

/-- A recording that was read, with finite timestamps, is read again as the same after it was
written unless an item with the timestamp one has no previous state and a next one, and is for the
second player or in front of an item that begins with a one. What told it from a mark in the text,
such as a zero in front or a character that was skipped, is not written. -/
theorem ofText_toText_ofText_iff (text : String)
    (finite : ∀ item ∈ (ofText {} text).items, item.timestamp.isFinite = true) :
    ofText {} (toText {} (ofText {} text)) = ofText {} text ↔
      ¬ ∃ index item, (ofText {} text).items[index]? = some item ∧ item.previous = false ∧
        item.timestamp = .one ∧ item.next = true ∧ (item.secondary = true ∨
          ∃ following, (ofText {} text).items[index + 1]? = some following ∧
            (following.previous = true ∨ following.timestamp = .one)) := by
  generalize read : ofText {} text = recording at finite ⊢
  obtain ⟨items⟩ := recording
  have printable : ∀ item ∈ items, item.Printable := by
    intro item member
    rw [ofText, mk.injEq] at read
    rw [← read] at member
    exact ⟨finite item (read ▸ member), isNegative_of_mem_scan _ item member⟩
  rw [ofText, toText, String.toList_ofList, mk.injEq, scan_flatMap_iff items printable]
  simp only [RecordingItem.Ambiguous, isSome_afterMark?_drop printable, not_exists, not_and]

theorem scan_zeros : scan {} "007.50;;1;1.;1;;".toList =
    [⟨⟨0x401E000000000000⟩, false, false, false⟩, ⟨.one, true, true, true⟩] := by
  have first : RecordingItem.match? {} false "007.50;;1;1.;1;;".toList =
      some (⟨⟨0x401E000000000000⟩, false, false, false⟩, "1;1.;1;;".toList) := by
    decide +kernel
  have second : RecordingItem.match? {} false "1;1.;1;;".toList =
      some (⟨.one, true, true, true⟩, []) := by
    decide +kernel
  rw [scan_of_match? first, scan_of_match? second, scan]

theorem ofText_toText_ofText_iff_zeros :
    (∀ item ∈ (ofText {} "007.50;;1;1.;1;;").items, item.timestamp.isFinite = true) ∧
      ofText {} (toText {} (ofText {} "007.50;;1;1.;1;;")) = ofText {} "007.50;;1;1.;1;;" := by
  have finite : ∀ item ∈ (ofText {} "007.50;;1;1.;1;;").items, item.timestamp.isFinite = true := by
    rw [ofText, scan_zeros]
    decide
  refine ⟨finite, (ofText_toText_ofText_iff _ finite).mpr ?_⟩
  rw [ofText, scan_zeros]
  rintro ⟨index, item, found, unmarked, one, -⟩
  rcases index with - | - | index
  · cases found
    revert one
    decide
  · cases found
    cases unmarked
  · cases found

def outOfRange : List Char := '1' :: List.replicate 309 '0' ++ [';', ';']

theorem ofText_outOfRange :
    ofText {} (String.ofList outOfRange) = ⟨[⟨⟨0x7FF0000000000000⟩, false, false, false⟩]⟩ := by
  have found : RecordingItem.match? {} false outOfRange =
      some (⟨⟨0x7FF0000000000000⟩, false, false, false⟩, []) := by
    decide +kernel
  rw [ofText, String.toList_ofList, scan_of_match? found, scan]

theorem ofText_toText_ofText_ne :
    ofText {} (toText {} (ofText {} "01;1;;")) ≠ ofText {} "01;1;;" ∧
      ofText {} (toText {} (ofText {} (String.ofList outOfRange))) ≠
        ofText {} (String.ofList outOfRange) := by
  constructor
  · have found : RecordingItem.match? {} false "01;1;;".toList =
        some (⟨.one, false, true, true⟩, []) := by
      decide +kernel
    have again : RecordingItem.match? {} false (chars {} ⟨.one, false, true, true⟩) =
        some (⟨.one, true, false, false⟩, []) := by
      decide +kernel
    rw [ofText, ofText, toText, String.toList_ofList, scan_of_match? found, scan,
      List.flatMap_singleton, scan_of_match? again, scan]
    decide
  · rw [ofText_outOfRange]
    intro same
    have finite := isFinite_of_ofText_toText same _ List.mem_cons_self
    revert finite
    decide

end Recording

end LevelFormat.Save
