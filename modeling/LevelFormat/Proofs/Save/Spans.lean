import LevelFormat.Proofs.Save.Lookahead
import Mathlib.Data.List.Forall2

/-!
Where the items of a recording stand in its text.

A scan is a run of calls, each of which moves on to the next item and behind it. Main statement:
`Recording.exists_spans`. The items stand in parts of the text that do not overlap, each of these
parts is an item by itself, and no item begins anywhere else.
-/

namespace LevelFormat.Save

structure Span (text : String) where
  start : text.Pos
  stop : text.Pos
  nonempty : start < stop

variable {text : String}

namespace Span

def content (span : Span text) : String := text.extract span.start span.stop

def Holds (span : Span text) (position : text.Pos) : Prop :=
  span.start ≤ position ∧ position < span.stop

end Span

/-! ### The text behind a position -/

def behind (position : text.Pos) : List Char := (text.sliceFrom position).copy.toList

theorem behind_of_splits {position : text.Pos} {front : String} {rest : List Char}
    (split : position.Splits front (String.ofList rest)) : behind position = rest := by
  rw [behind, split.copy_sliceFrom_eq, String.toList_ofList]

theorem behind_startPos (text : String) : behind text.startPos = text.toList := by
  rw [behind, (String.splits_startPos text).copy_sliceFrom_eq]

theorem behind_eq_nil_iff {position : text.Pos} :
    behind position = [] ↔ position = text.endPos := by
  rw [behind, position.splits.eq_endPos_iff, String.toList_eq_nil_iff]

theorem exists_span {start : text.Pos} {taken rest : List Char}
    (split : behind start = taken ++ rest) (nonempty : taken ≠ []) :
    ∃ span : Span text, span.start = start ∧ behind span.stop = rest ∧
      span.content = String.ofList taken := by
  have parts : (text.sliceFrom start).copy = String.ofList taken ++ String.ofList rest := by
    rw [← String.ofList_append, ← split, behind, String.ofList_toList]
  have before := start.splits
  rw [parts] at before
  have after := before.splits_rotateRight
  have forward : start < before.rotateRight :=
    (before.lt_iff_exists_eq_append after).mpr ⟨_, by simpa using nonempty, rfl, rfl⟩
  refine ⟨⟨start, before.rotateRight, forward⟩, rfl, behind_of_splits after, ?_⟩
  obtain ⟨order, same⟩ := String.copy_slice_eq_iff_splits.mpr ⟨_, _, before, after⟩
  rw [Span.content, String.extract_eq_copy_slice _ _ order, same]

theorem exists_next {start : text.Pos} {char : Char} {rest : List Char}
    (split : behind start = char :: rest) :
    ∃ next : text.Pos, start < next ∧ behind next = rest ∧
      ∀ position, start < position → next ≤ position := by
  have inside : start ≠ text.endPos := by
    rw [← behind_eq_nil_iff.ne, split]
    exact List.cons_ne_nil char rest
  refine ⟨start.next inside, String.Pos.lt_next, ?_, fun position later =>
    String.Pos.next_le_of_lt later⟩
  have parts := start.splits.eq_right (start.splits_next_right inside)
  rw [behind, parts, String.toList_append, String.toList_singleton, List.singleton_append,
    List.cons.injEq] at split
  exact split.2

/-- An item stands in a span: it is found there in the whole text, and in the span alone. -/
structure Span.Carries (marks : Marks) (span : Span text) (item : RecordingItem) : Prop where
  matched : RecordingItem.match? marks false (behind span.start) = some (item, behind span.stop)
  alone : RecordingItem.ofText marks span.content = .ok item

namespace Recording

variable {marks : Marks} {start : text.Pos} {items : List RecordingItem} {spans : List (Span text)}

/-! ### Calls -/

def call? (marks : Marks) : List Char → Option (RecordingItem × List Char)
  | [] => none
  | char :: skipped =>
    match RecordingItem.match? marks false (char :: skipped) with
    | some found => some found
    | none => call? marks skipped

/-- The calls from a position on, each of them from where the one before it stopped, up to the one
that delivers nothing. -/
inductive Run (marks : Marks) : text.Pos → List (Span text) → List RecordingItem → Prop
  | ended {position : text.Pos} (nothing : call? marks (behind position) = none) :
      Run marks position [] []
  | delivered {position : text.Pos} {span : Span text} {item : RecordingItem}
      {spans : List (Span text)} {items : List RecordingItem}
      (call : call? marks (behind position) = some (item, behind span.stop))
      (later : Run marks span.stop spans items) :
      Run marks position (span :: spans) (item :: items)

theorem match?_nil (marks : Marks) : RecordingItem.match? marks false [] = none := by
  rw [Option.eq_none_iff_forall_ne_some]
  rintro ⟨item, rest⟩ found
  exact absurd (RecordingItem.length_match? found) (Nat.not_lt_zero _)

theorem call?_of_match? {taken : List Char} {found : RecordingItem × List Char}
    (matched : RecordingItem.match? marks false taken = some found) :
    call? marks taken = some found := by
  cases taken with
  | nil =>
      rw [match?_nil] at matched
      cases matched
  | cons char skipped => rw [call?, matched]

theorem call?_of_unmatched {char : Char} {skipped : List Char}
    (unmatched : RecordingItem.match? marks false (char :: skipped) = none) :
    call? marks (char :: skipped) = call? marks skipped := by
  rw [call?, unmatched]

theorem Run.of_call?_eq {next : text.Pos} (run : Run marks next spans items)
    (same : call? marks (behind start) = call? marks (behind next)) :
    Run marks start spans items := by
  cases run with
  | ended nothing => exact .ended (same.trans nothing)
  | delivered call later => exact .delivered (same.trans call) later

/-! ### Spans -/

structure Covers (marks : Marks) (start : text.Pos) (spans : List (Span text))
    (items : List RecordingItem) : Prop where
  run : Run marks start spans items
  later : ∀ span ∈ spans, start ≤ span.start
  ordered : spans.Pairwise fun first second => first.stop ≤ second.start
  carried : List.Forall₂ (Span.Carries marks) spans items
  unmatched : ∀ position, start ≤ position → (∀ span ∈ spans, ¬ span.Holds position) →
    RecordingItem.match? marks false (behind position) = none

theorem covers_end (nothing : behind start = []) : Covers marks start [] [] where
  run := .ended (by rw [nothing, call?])
  later := by simp
  ordered := .nil
  carried := .nil
  unmatched position later _ := by
    obtain rfl : position = text.endPos :=
      Std.le_antisymm position.le_endPos (behind_eq_nil_iff.mp nothing ▸ later)
    rw [behind_eq_nil_iff.mpr rfl, match?_nil]

theorem exists_carries {item : RecordingItem} {rest : List Char}
    (matched : RecordingItem.match? marks false (behind start) = some (item, rest)) :
    ∃ span : Span text, span.start = start ∧ behind span.stop = rest ∧ span.Carries marks item := by
  obtain ⟨spelling, -, split⟩ := RecordingItem.exists_spelling matched
  have nonempty : spelling.chars marks ≠ [] := by
    intro empty
    have shorter := RecordingItem.length_match? matched
    rw [split, empty] at shorter
    exact Nat.lt_irrefl _ shorter
  obtain ⟨span, rfl, rfl, content⟩ := exists_span split nonempty
  refine ⟨span, rfl, rfl, matched, ?_⟩
  rw [split] at matched
  rw [RecordingItem.ofText, content, String.toList_ofList, RecordingItem.match?_alone matched]

theorem Covers.found {span : Span text} {item : RecordingItem} (carries : span.Carries marks item)
    (rest : Covers marks span.stop spans items) :
    Covers marks span.start (span :: spans) (item :: items) where
  run := .delivered (call?_of_match? carries.matched) rest.run
  later := by
    rintro other member
    rcases List.mem_cons.mp member with rfl | member
    · exact Std.le_refl _
    · exact Std.le_trans (Std.le_of_lt span.nonempty) (rest.later other member)
  ordered := .cons rest.later rest.ordered
  carried := .cons carries rest.carried
  unmatched position inside outside := by
    rw [List.forall_mem_cons] at outside
    refine rest.unmatched position ?_ outside.2
    exact Std.not_lt.mp fun before => outside.1 ⟨inside, before⟩

theorem Covers.skipped {next : text.Pos} {char : Char} (split : behind start = char :: behind next)
    (forward : start < next) (first : ∀ position, start < position → next ≤ position)
    (unmatched : RecordingItem.match? marks false (behind start) = none)
    (rest : Covers marks next spans items) : Covers marks start spans items where
  run := rest.run.of_call?_eq (by rw [split] at unmatched ⊢; exact call?_of_unmatched unmatched)
  later span member :=
    Std.le_trans (Std.le_of_lt forward) (rest.later span member)
  ordered := rest.ordered
  carried := rest.carried
  unmatched position inside outside := by
    rcases eq_or_ne start position with rfl | other
    · exact unmatched
    · exact rest.unmatched position (first position (Std.lt_of_le_of_ne inside other)) outside

theorem exists_covers (marks : Marks) (taken : List Char) (start : text.Pos)
    (split : behind start = taken) :
    ∃ spans : List (Span text), Covers marks start spans (scan marks taken) := by
  fun_induction scan marks taken generalizing start with
  | case1 => exact ⟨[], covers_end split⟩
  | case2 char skipped item rest matched ih =>
      rw [← split] at matched
      obtain ⟨span, rfl, stop, carries⟩ := exists_carries matched
      obtain ⟨spans, covers⟩ := ih span.stop stop
      exact ⟨span :: spans, covers.found carries⟩
  | case3 char skipped unmatched ih =>
      obtain ⟨next, forward, rfl, first⟩ := exists_next split
      obtain ⟨spans, covers⟩ := ih next rfl
      rw [← split] at unmatched
      exact ⟨spans, covers.skipped split forward first unmatched⟩

/-- The items of a text are what one call after the other delivers until one delivers nothing. They
stand in spans that follow one another without overlap. Each span alone is its item, and at no
position outside of them does an item begin. -/
theorem exists_spans (marks : Marks) (text : String) :
    ∃ spans : List (Span text), Run marks text.startPos spans (ofText marks text).items ∧
      spans.Pairwise (fun first second => first.stop ≤ second.start) ∧
      List.Forall₂ (fun span item =>
        RecordingItem.match? marks false (behind span.start) = some (item, behind span.stop) ∧
          RecordingItem.ofText marks span.content = .ok item)
        spans (ofText marks text).items ∧
      ∀ position : text.Pos, (∀ span ∈ spans, ¬ span.Holds position) →
        RecordingItem.match? marks false (behind position) = none := by
  obtain ⟨spans, covers⟩ := exists_covers marks text.toList text.startPos (behind_startPos text)
  refine ⟨spans, covers.run, covers.ordered, ?_, fun position outside =>
    covers.unmatched position position.startPos_le outside⟩
  exact covers.carried.imp fun span item carries => ⟨carries.matched, carries.alone⟩

end Recording

end LevelFormat.Save
