import LevelFormat.Proofs.Object.Form

/-!
A stream as its segments.

Decoding a buffer cuts it into one segment for each object, and any such cut is the one that
decoding finds (`decodeAll_ok_iff`). The segments begin at the openings of the stream.
-/

namespace LevelFormat.Object

open LevelFormat.Wire (Cursor Options)

theorem Entity.Means.ne_nil {options : Options} {found : List UInt8} {entity : Entity}
    (means : Entity.Means options found entity) : found ≠ [] := by
  obtain ⟨long, -⟩ := Entity.id_of_means means.1 []
  intro empty
  simp [empty] at long

namespace Stream

variable {options : Options} {cursor : Cursor} {stream rest : Stream} {entity : Entity}
  {entities : List Entity}

theorem next?_eq_none_iff : (Stream.mk options cursor false).next? = none ↔ cursor.rest = [] := by
  simp only [next?, Bool.false_or, Cursor.isEmpty, List.isEmpty_iff]
  split
  next empty => simp [empty]
  next more =>
    split
    next => simp [more]
    next => simp [more]

theorem next?_eq_ok_iff :
    (Stream.mk options cursor false).next? = some (.ok entity, rest) ↔
      ∃ found next, cursor.Spans found next ∧ Entity.Means options found entity ∧
        rest = ⟨options, next, false⟩ := by
  have accepts := Entity.accepts_decodeInferred options cursor entity
  simp only [next?, Bool.false_or, Cursor.isEmpty, List.isEmpty_iff]
  constructor
  · intro delivered
    split at delivered
    next => cases delivered
    next =>
      split at delivered
      next next decoded =>
        cases delivered
        obtain ⟨found, spans, means⟩ := (accepts _).mp decoded
        exact ⟨found, next, spans, means, rfl⟩
      next => cases delivered
  · rintro ⟨found, next, spans, means, rfl⟩
    have more : cursor.rest ≠ [] := by
      rw [spans.1]
      exact List.append_ne_nil_of_left_ne_nil means.ne_nil _
    rw [if_neg more, (accepts next).mpr ⟨found, spans, means⟩]

theorem toList_of_none (ended : stream.next? = none) : stream.toList = .ok [] := by
  rw [toList]
  split
  next => rfl
  next some => exact absurd (ended.symm.trans some) (by simp)
  next some => exact absurd (ended.symm.trans some) (by simp)

theorem toList_of_error {fault : Fault} (delivered : stream.next? = some (.error fault, rest)) :
    stream.toList = .error fault := by
  rw [toList]
  split
  next none => exact absurd (delivered.symm.trans none) (by simp)
  next some =>
    cases delivered.symm.trans some
    rfl
  next some => cases delivered.symm.trans some

theorem toList_of_ok (delivered : stream.next? = some (.ok entity, rest)) :
    stream.toList = rest.toList.map (entity :: ·) := by
  rw [toList]
  split
  next none => exact absurd (delivered.symm.trans none) (by simp)
  next some => cases delivered.symm.trans some
  next some =>
    cases delivered.symm.trans some
    cases rest.toList with
    | ok others => rfl
    | error fault => rfl

theorem toList_eq_nil_iff : stream.toList = .ok [] ↔ stream.next? = none := by
  match delivered : stream.next? with
  | none => simp [toList_of_none delivered]
  | some (.error fault, rest) => simp [toList_of_error delivered]
  | some (.ok entity, rest) =>
    rw [toList_of_ok delivered]
    cases rest.toList with
    | ok others => simp [Except.map]
    | error fault => simp [Except.map]

theorem toList_eq_cons_iff :
    stream.toList = .ok (entity :: entities) ↔
      ∃ rest, stream.next? = some (.ok entity, rest) ∧ rest.toList = .ok entities := by
  match delivered : stream.next? with
  | none => simp [toList_of_none delivered]
  | some (.error fault, rest) => simp [toList_of_error delivered]
  | some (.ok found, rest) =>
    rw [toList_of_ok delivered]
    constructor
    · intro listed
      cases others : rest.toList with
      | error fault =>
          rw [others] at listed
          cases listed
      | ok list =>
          rw [others] at listed
          cases listed
          exact ⟨rest, rfl, others⟩
    · rintro ⟨_, ⟨rfl, rfl⟩, others⟩
      rw [others]
      rfl

/-- A stream delivers objects exactly where its bytes are forms of them, one right after another. -/
theorem toList_eq_ok_iff :
    (Stream.mk options cursor false).toList = .ok entities ↔
      ∃ segments : List (List UInt8), cursor.rest = segments.flatten ∧
        List.Forall₂ (Entity.Means options) segments entities := by
  induction entities generalizing cursor with
  | nil =>
      rw [toList_eq_nil_iff, next?_eq_none_iff]
      constructor
      · intro empty
        exact ⟨[], empty, .nil⟩
      · rintro ⟨segments, rests, forms⟩
        cases forms
        exact rests
  | cons entity entities ih =>
      rw [toList_eq_cons_iff]
      constructor
      · rintro ⟨rest, delivered, others⟩
        obtain ⟨found, next, spans, means, rfl⟩ := next?_eq_ok_iff.mp delivered
        obtain ⟨segments, rests, forms⟩ := ih.mp others
        exact ⟨found :: segments, by rw [spans.1, rests, List.flatten_cons], .cons means forms⟩
      · rintro ⟨segments, rests, forms⟩
        cases forms with
        | @cons found _ segments _ means forms =>
            let next : Cursor := ⟨cursor.position + found.length, segments.flatten⟩
            exact ⟨⟨options, next, false⟩,
              next?_eq_ok_iff.mpr ⟨found, next, ⟨rests, rfl⟩, means, rfl⟩,
              ih.mpr ⟨segments, rfl, forms⟩⟩

def openings (stream : Stream) : List Cursor :=
  match _delivered : stream.next? with
  | some (.ok _, rest) => stream.cursor :: rest.openings
  | _ => []
termination_by stream.cursor.remaining
decreasing_by exact remaining_lt_of_next? _delivered

theorem openings_of_none (ended : stream.next? = none) : stream.openings = [] := by
  rw [openings]
  split
  next some => exact absurd (ended.symm.trans some) (by simp)
  next => rfl

theorem openings_of_ok (delivered : stream.next? = some (.ok entity, rest)) :
    stream.openings = stream.cursor :: rest.openings := by
  rw [openings]
  split
  next found other same =>
    rw [delivered] at same
    cases same
    rfl
  next none => exact absurd delivered (none entity rest)

/-- What can be told of an object from its own bytes holds at every opening if and only if it holds
of every segment. -/
theorem forall_openings_iff {segments : List (List UInt8)} (rests : cursor.rest = segments.flatten)
    (forms : List.Forall₂ (Entity.Means options) segments entities) (property : List UInt8 → Prop)
    (own : ∀ found entity, Entity.Means options found entity →
      ∀ later, property (found ++ later) ↔ property found) :
    (∀ opening ∈ (Stream.mk options cursor false).openings, property opening.rest) ↔
      ∀ segment ∈ segments, property segment := by
  induction segments generalizing cursor entities with
  | nil => simp [openings_of_none (next?_eq_none_iff.mpr rests)]
  | cons found segments ih =>
      cases forms with
      | cons means forms =>
          let next : Cursor := ⟨cursor.position + found.length, segments.flatten⟩
          have later := ih (show next.rest = segments.flatten from rfl) forms
          rw [openings_of_ok (next?_eq_ok_iff.mpr ⟨found, next, ⟨rests, rfl⟩, means, rfl⟩),
            List.forall_mem_cons, List.forall_mem_cons, later, rests, List.flatten_cons,
            own found _ means]

end Stream

theorem decodeAll_ok_iff (options : Options) (bytes : List UInt8) (entities : List Entity) :
    decodeAll options bytes = .ok entities ↔
      ∃ segments : List (List UInt8), bytes = segments.flatten ∧
        List.Forall₂ (Entity.Means options) segments entities :=
  Stream.toList_eq_ok_iff

end LevelFormat.Object
