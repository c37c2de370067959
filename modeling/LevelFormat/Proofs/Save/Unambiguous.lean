import LevelFormat.Proofs.Save.Lookahead
import LevelFormat.Proofs.Save.Scattered

/-!
Marks that make no item ambiguous.

If no timestamp can begin like a mark, the first character of an item tells whether it has a
previous state. Then every recording is read back as it was written:
`Recording.ofText_toText_of_unambiguous`.
-/

namespace LevelFormat.Save

/-- Marks that leave no doubt about any token of an item. What a mark goes on with does not
matter. -/
structure Marks.Unambiguous (marks : Marks) : Prop extends Marks.Distinct marks where
  mark_not_digit : ∀ first ∈ marks.affirmative.head?, first.isDigit = false

variable {marks : Marks}

namespace RecordingItem

variable {behind : List Char}

theorem afterMark?_timestamp (unambiguous : marks.Unambiguous) (spelling : Spelling)
    (behind : List Char) : afterMark? marks (spelling.timestamp ++ behind) = none := by
  rw [Option.eq_none_iff_forall_ne_some]
  intro rest marked
  obtain ⟨first, more, mark, -⟩ := unambiguous.mark_opens
  obtain ⟨digit, digits, stamp, isDigit⟩ := spelling.exists_first_timestamp
  have same := (afterMark?_eq_some_iff.mp marked).2
  rw [stamp, mark, List.cons_append, List.cons_append, List.cons.injEq] at same
  have other := unambiguous.mark_not_digit first (by rw [mark]; rfl)
  rw [← same.1, isDigit] at other
  cases other

/-- Whatever the spelling of an item and the text behind it, it is found if no separator follows. -/
theorem match?_spelling (unambiguous : marks.Unambiguous)
    (closed : afterSeparator? marks behind = none) (spelling : Spelling) :
    match? marks false (spelling.chars marks ++ behind) = some (spelling.item, behind) := by
  have read := body?_body unambiguous.toDistinct closed spelling
  cases marked : spelling.previous with
  | true =>
      rw [marked] at read
      rw [match?, afterMark?_chars unambiguous.toDistinct marked, Option.bind_some, read]
  | false =>
      have none : afterMark? marks (spelling.body marks ++ behind) = none := by
        rw [Spelling.body, List.append_assoc]
        exact afterMark?_timestamp unambiguous spelling _
      rw [marked] at read
      rw [Spelling.chars, marked, if_neg Bool.false_ne_true, List.nil_append, match?, none,
        Option.bind_none, read]

theorem evident_of_unambiguous (unambiguous : marks.Unambiguous) {item : RecordingItem}
    (printable : item.Printable) : item.Evident marks := by
  intro behind closed
  obtain ⟨spelling, rfl, same⟩ := exists_spelling_chars marks item printable.1 printable.2
  rw [← same]
  exact match?_spelling unambiguous closed spelling

end RecordingItem

namespace Recording

open RecordingItem (chars)

theorem match?_flatMap (unambiguous : marks.Unambiguous) {item : RecordingItem}
    {items : List RecordingItem} (printable : ∀ other ∈ item :: items, other.Printable) :
    RecordingItem.match? marks false ((item :: items).flatMap (chars marks)) =
      some (item, items.flatMap (chars marks)) := by
  obtain ⟨first, later⟩ := List.forall_mem_cons.mp printable
  rw [List.flatMap_cons]
  exact RecordingItem.evident_of_unambiguous unambiguous first _
    (RecordingItem.afterSeparator?_flatMap unambiguous.toDistinct later)

theorem scan_flatMap (unambiguous : marks.Unambiguous) (items : List RecordingItem)
    (printable : ∀ item ∈ items, item.Printable) :
    scan marks (items.flatMap (chars marks)) = items := by
  induction items with
  | nil => rw [List.flatMap_nil, scan]
  | cons item items ih =>
      have found := match?_flatMap unambiguous printable
      rw [scan_of_match? found, ih fun other member => printable other (.tail item member)]

/-- With unambiguous marks, each recording with timestamps that are finite and not negative is read
back as it was written, and so is each of its items from its own text. -/
theorem ofText_toText_of_unambiguous (marks : Marks) (unambiguous : marks.Unambiguous)
    (items : List RecordingItem)
    (printable : ∀ item ∈ items,
      item.timestamp.isFinite = true ∧ item.timestamp.isNegative = false) :
    ofText marks (toText marks ⟨items⟩) = ⟨items⟩ ∧
      ∀ item ∈ items, RecordingItem.ofText marks (item.toText marks) = .ok item := by
  constructor
  · rw [ofText, toText, String.toList_ofList, scan_flatMap unambiguous items printable]
  · intro item member
    have single : ∀ other ∈ [item], other.Printable :=
      List.forall_mem_singleton.mpr (printable item member)
    have found := match?_flatMap unambiguous single
    rw [List.flatMap_cons, List.flatMap_nil] at found
    rw [RecordingItem.ofText, RecordingItem.toText, String.toList_ofList,
      RecordingItem.match?_alone found]

def mixedMarks : Marks where
  recordingSeparator := '|'
  affirmative := ['é', '|', '1']

theorem unambiguous_mixedMarks : mixedMarks.Unambiguous where
  separator_not_digit := by decide
  separator_not_point := by decide
  mark_opens := ⟨'é', ['|', '1'], rfl, by decide⟩
  mark_not_digit := by
    rintro _ ⟨⟩
    rfl

/-- The items that the marks of the game confuse. -/
theorem ofText_toText_of_unambiguous_mixedMarks :
    mixedMarks.Unambiguous ∧
      ofText mixedMarks
          (toText mixedMarks ⟨[⟨.one, false, true, true⟩, ⟨.zero, true, false, false⟩]⟩) =
        ⟨[⟨.one, false, true, true⟩, ⟨.zero, true, false, false⟩]⟩ ∧
      ∀ item ∈ [⟨.one, false, true, true⟩, ⟨.zero, true, false, false⟩],
        RecordingItem.ofText mixedMarks (item.toText mixedMarks) = .ok item :=
  ⟨unambiguous_mixedMarks, ofText_toText_of_unambiguous mixedMarks unambiguous_mixedMarks _
    (by decide)⟩

end Recording

end LevelFormat.Save
