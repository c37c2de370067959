import LevelFormat.Proofs.Object.Calls
import LevelFormat.Proofs.Object.Concatenation
import LevelFormat.Proofs.Object.Reencoding

/-!
Streams that are cut off.

A stream can be cut between two objects, and then the objects before the cut are all of it. Any
other cut leaves an object of which bytes are missing at the end. Main statement: `decodeAll_take`.
-/

namespace LevelFormat.Object

open LevelFormat.Wire (Cursor Options)

variable {options : Options} {segments : List (List UInt8)} {entities : List Entity}

theorem Entity.Means.missesAt_take {found : List UInt8} {entity : Entity}
    (means : Entity.Means options found entity) (position : Nat) {count : Nat}
    (short : count < found.length) :
    ∃ fault last,
      Entity.decodeInferred options ⟨position, found.take count⟩ = .error fault last ∧
        fault.MissesAt (position + count) := by
  have spans : (Cursor.mk position found).Spans found ⟨position + found.length, []⟩ :=
    ⟨(List.append_nil found).symm, rfl⟩
  have delivered := (Entity.accepts_decodeInferred options _ entity _).mpr ⟨found, spans, means⟩
  exact (Entity.local_decodeInferred options).missesAt_take delivered rfl short

namespace Stream

theorem next?_of_error {stream : Stream} {fault : Fault} {last : Cursor}
    (running : stream.failed = false) (more : stream.cursor.rest ≠ [])
    (failed : Entity.decodeInferred stream.options stream.cursor = .error fault last) :
    stream.next? = some (.error fault, ⟨stream.options, last, true⟩) := by
  have goesOn : ¬(stream.failed || stream.cursor.isEmpty) = true := by
    simp [running, Cursor.isEmpty, more]
  rw [next?, if_neg goesOn, failed]

/-- A cut inside a segment ends the stream with what that object misses. -/
theorem toList_take (forms : List.Forall₂ (Entity.Means options) segments entities)
    (position : Nat) {count : Nat} (inside : count ≤ segments.flatten.length)
    (between : ∀ index ≤ segments.length, count ≠ (segments.take index).flatten.length) :
    ∃ fault, (Stream.mk options ⟨position, segments.flatten.take count⟩ false).toList =
      .error fault ∧ fault.MissesAt (position + count) := by
  induction forms generalizing position count with
  | nil => exact absurd (Nat.le_zero.mp inside) (between 0 (Nat.zero_le _))
  | @cons found entity segments entities means forms ih =>
      rw [List.flatten_cons] at inside ⊢
      rcases Nat.lt_or_ge count found.length with short | long
      · obtain ⟨fault, last, failed, misses⟩ := means.missesAt_take position short
        have some : count ≠ 0 := between 0 (Nat.zero_le _)
        have more : found.take count ≠ [] := by
          rw [Ne, List.take_eq_nil_iff, not_or]
          exact ⟨some, means.ne_nil⟩
        rw [List.take_append_of_le_length (Nat.le_of_lt short)]
        exact ⟨fault, toList_of_error (next?_of_error rfl more failed), misses⟩
      · obtain ⟨further, rfl⟩ := Nat.exists_eq_add_of_le long
        rw [List.length_append, Nat.add_le_add_iff_left] at inside
        have later : ∀ index ≤ segments.length,
            further ≠ (segments.take index).flatten.length := by
          intro index bound same
          refine between (index + 1) (Nat.succ_le_succ bound) ?_
          rw [List.take_succ_cons, List.flatten_cons, List.length_append, same]
        obtain ⟨fault, failed, misses⟩ := ih (position + found.length) inside later
        have spans : (Cursor.mk position (found ++ segments.flatten.take further)).Spans found
            ⟨position + found.length, segments.flatten.take further⟩ := ⟨rfl, rfl⟩
        rw [List.take_length_add_append,
          toList_of_ok (next?_eq_ok_iff.mpr ⟨found, _, spans, means, rfl⟩), failed]
        exact ⟨fault, rfl, by rwa [← Nat.add_assoc]⟩

end Stream

def boundary (options : Options) (bytes : List UInt8) (index : Nat) : Nat :=
  ((Stream.start options bytes).after index).position

theorem boundary_of_segments (forms : List.Forall₂ (Entity.Means options) segments entities)
    (index : Nat) :
    boundary options segments.flatten index = (segments.take index).flatten.length := by
  rw [boundary, Stream.start, Stream.after_of_segments rfl forms]
  exact Nat.zero_add _

theorem boundary_lt_succ (forms : List.Forall₂ (Entity.Means options) segments entities)
    {index : Nat} (bound : index < segments.length) :
    boundary options segments.flatten index < boundary options segments.flatten (index + 1) := by
  have means := List.forall₂_iff_get.mp forms
  have taken := (means.2 index bound (means.1 ▸ bound)).ne_nil
  rw [boundary_of_segments forms, boundary_of_segments forms, List.take_succ_eq_append_getElem bound,
    List.flatten_append, List.length_append, List.flatten_singleton]
  exact Nat.lt_add_of_pos_right (List.length_pos_iff.mpr taken)

/-- The reader of a stream stands where its objects end, and a stream can be cut off exactly there.
Cut off anywhere else it is refused, for bytes that are missing at the end. -/
theorem decodeAll_take {bytes : List UInt8} (decoded : decodeAll options bytes = .ok entities) :
    (boundary options bytes 0 = 0 ∧
      (∀ index < entities.length,
        boundary options bytes index < boundary options bytes (index + 1)) ∧
      boundary options bytes entities.length = bytes.length) ∧
    ∀ count ≤ bytes.length,
      (∀ index ≤ entities.length, count = boundary options bytes index →
        decodeAll options (bytes.take count) = .ok (entities.take index)) ∧
      ((∀ index ≤ entities.length, count ≠ boundary options bytes index) →
        ∃ offset needed remaining,
          decodeAll options (bytes.take count) = .error (.truncated offset needed remaining) ∧
            offset + remaining = count ∧ remaining < needed) := by
  obtain ⟨segments, rfl, forms⟩ := (decodeAll_ok_iff options bytes entities).mp decoded
  have ends := boundary_of_segments forms
  refine ⟨⟨rfl, fun index bound => boundary_lt_succ forms (forms.length_eq ▸ bound), ?_⟩,
    fun count inside => ⟨?_, ?_⟩⟩
  · rw [ends, ← forms.length_eq, List.take_length]
  · rintro index - rfl
    have whole : segments.flatten =
        (segments.take index).flatten ++ (segments.drop index).flatten := by
      rw [← List.flatten_append, List.take_append_drop]
    refine (decodeAll_ok_iff _ _ _).mpr ⟨segments.take index, ?_, List.forall₂_take index forms⟩
    rw [ends]
    exact (congrArg (List.take _) whole).trans List.take_left
  · intro between
    have outside : ∀ index ≤ segments.length, count ≠ (segments.take index).flatten.length := by
      intro index bound
      rw [← ends]
      exact between index (forms.length_eq ▸ bound)
    obtain ⟨fault, failed, misses⟩ := Stream.toList_take forms 0 inside outside
    obtain ⟨offset, needed, remaining, rfl, finish, short⟩ := Fault.exists_of_missesAt misses
    exact ⟨offset, needed, remaining, failed, by omega, short⟩

theorem decodeAll_take_listedTwice :
    decodeAll ⟨.little, .utf8⟩ (listedTwice.take 0) = .ok [] ∧
      ∃ offset needed remaining,
        decodeAll ⟨.little, .utf8⟩ (listedTwice.take 58) =
          .error (.truncated offset needed remaining) ∧
        offset + remaining = 58 ∧ remaining < needed := by
  obtain ⟨⟨first, -, last⟩, cut⟩ := decodeAll_take decodeAll_listedTwice
  refine ⟨(cut 0 (by decide)).1 0 (by decide) first.symm, (cut 58 (by decide)).2 ?_⟩
  intro index bound
  match index with
  | 0 =>
    rw [first]
    decide
  | 1 =>
    have ends : boundary ⟨.little, .utf8⟩ listedTwice 1 = 59 := last
    rw [ends]
    decide

end LevelFormat.Object
