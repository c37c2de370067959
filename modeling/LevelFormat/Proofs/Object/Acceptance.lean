import LevelFormat.Proofs.Object.Fields

/-!
Which bytes are accepted as an object of a kind, and how others are refused.

Main statement: `Entity.decode_iff_readable`.
-/

namespace LevelFormat.Object

open LevelFormat.Wire (Cursor Decoder Order Piece firstFault?)

def Record.size? (kind : Kind) (order : Order) (found : List UInt8) : Option Nat :=
  if found.length < 53 ∨ kind = .text ∧ found.length < 57 + 2 * groupCount order found then none
  else some (55 + 2 * groupCount order found + totalWidth (kind.fields (textLength order found)))

/-- The bytes of an object are all there, its enumerations are defined and its text is valid. -/
structure Record.Readable (kind : Kind) (order : Order) (found : List UInt8) : Prop where
  whole : ∃ size, Record.size? kind order found = some size ∧ size ≤ found.length
  defined : ∀ before title count after,
    Record.fields kind order found = before ++ .code title count :: after →
      (found.getD (totalWidth before) 0).toNat < count
  valid : ∀ before length after,
    Record.fields kind order found = before ++ .content length :: after →
      (Text.Utf8.decode? ((found.drop (totalWidth before)).take length)).isSome

theorem forall_entry_cons {α : Type} (first : α) (rest : List α) (property : List α → α → Prop) :
    (∀ before entry after, first :: rest = before ++ entry :: after → property before entry) ↔
      property [] first ∧
        ∀ before entry after, rest = before ++ entry :: after → property (first :: before) entry := by
  constructor
  · intro all
    refine ⟨all [] first rest rfl, ?_⟩
    intro before entry after same
    exact all (first :: before) entry after (by rw [same, List.cons_append])
  · rintro ⟨head, tail⟩ before entry after same
    cases before with
    | nil =>
        cases same
        exact head
    | cons other before =>
        rw [List.cons_append, List.cons.injEq] at same
        obtain ⟨rfl, same⟩ := same
        exact tail before entry after same

theorem firstFault?_eq_none_iff (fields : List Field) (cursor : Cursor) :
    firstFault? (fields.map Field.piece) cursor = none ↔
      totalWidth fields ≤ cursor.remaining ∧ ∀ before field after,
        fields = before ++ field :: after →
          field.check (cursor.rest.drop (totalWidth before)) = none := by
  induction fields generalizing cursor with
  | nil => simp [firstFault?, totalWidth]
  | cons field fields ih =>
      have behind (before : List Field) :
          (cursor.advance field.width).rest.drop (totalWidth before) =
            cursor.rest.drop (totalWidth (field :: before)) := by
        rw [totalWidth, Cursor.advance, List.drop_drop]
      have later := ih (cursor.advance field.width)
      rw [Cursor.remaining_advance] at later
      simp only [behind] at later
      have total : totalWidth (field :: fields) = field.width + totalWidth fields := rfl
      rw [forall_entry_cons field fields
        fun before entry => entry.check (cursor.rest.drop (totalWidth before)) = none,
        List.map_cons, firstFault?, Option.or_eq_none_iff, total]
      change field.piece.fault? cursor = none ∧ _ ↔ _ ∧ field.check cursor.rest = none ∧ _
      by_cases short : cursor.remaining < field.width
      · rw [Piece.fault?_of_lt short]
        simp only [reduceCtorEq, false_and, false_iff]
        omega
      · rw [Piece.fault?_of_le (Nat.le_of_not_lt short)]
        change field.check cursor.rest = none ∧
          firstFault? (fields.map Field.piece) (cursor.advance field.width) = none ↔ _
        rw [later, ← and_assoc, and_comm (a := field.check cursor.rest = none), and_assoc]
        exact and_congr (by omega) Iff.rfl

theorem exists_of_firstFault? {fields : List Field} {cursor : Cursor} {fault : Fault}
    (first : firstFault? (fields.map Field.piece) cursor = some fault) :
    ∃ field ∈ fields, ∃ here : Cursor, field.piece.fault? here = some fault := by
  induction fields generalizing cursor with
  | nil => cases first
  | cons field fields ih =>
      rw [List.map_cons, firstFault?, Option.or_eq_some_iff] at first
      rcases first with same | ⟨-, behind⟩
      · exact ⟨field, List.mem_cons_self, cursor, same⟩
      · obtain ⟨later, member, here, found⟩ := ih behind
        exact ⟨later, List.mem_cons_of_mem field member, here, found⟩

inductive Record.Refusal (kind : Kind) (length : Nat) : Fault → Prop where
  | truncated (offset needed remaining : Nat) (short : remaining < needed) :
      Refusal kind length (.truncated offset needed remaining)
  | undefined {title : String} {count code : Nat} (listed : .code title count ∈ kind.fields length)
      (noLayer : title ≠ "ZLayer") (large : count ≤ code) :
      Refusal kind length (.invalidEnumeration title code)
  | undecodable (isText : kind = .text) (text : String) :
      Refusal kind length (.malformedText text .undecodable)

namespace Record

variable {kind : Kind} {order : Order}

theorem totalWidth_fields (found : List UInt8) :
    totalWidth (fields kind order found) =
      55 + 2 * groupCount order found + totalWidth (kind.fields (textLength order found)) := by
  rw [fields, totalWidth_append, totalWidth_baseFields]

theorem size?_eq_some_iff (found : List UInt8) (size : Nat) :
    size? kind order found = some size ↔
      (53 ≤ found.length ∧ (kind = .text → 57 + 2 * groupCount order found ≤ found.length)) ∧
        size = totalWidth (fields kind order found) := by
  unfold size?
  by_cases cut : found.length < 53 ∨ kind = .text ∧ found.length < 57 + 2 * groupCount order found
  · rw [if_pos cut]
    simp only [reduceCtorEq, false_iff]
    rintro ⟨⟨head, behind⟩, -⟩
    rcases cut with short | ⟨isText, short⟩
    · omega
    · have enough := behind isText
      omega
  · rw [if_neg cut, totalWidth_fields, Option.some.injEq, eq_comm]
    rw [not_or, not_and] at cut
    refine (and_iff_right ⟨by omega, fun isText => ?_⟩).symm
    have enough := cut.2 isText
    omega

theorem whole_iff (found : List UInt8) :
    (∃ size, size? kind order found = some size ∧ size ≤ found.length) ↔
      totalWidth (fields kind order found) ≤ found.length := by
  simp only [size?_eq_some_iff]
  constructor
  · rintro ⟨size, ⟨-, same⟩, enough⟩
    rw [← same]
    exact enough
  · intro enough
    have total := @totalWidth_fields kind order found
    refine ⟨_, ⟨⟨by omega, ?_⟩, rfl⟩, enough⟩
    rintro rfl
    have counted : totalWidth (Kind.text.fields (textLength order found)) =
      2 + textLength order found := rfl
    omega

theorem check_code_eq_none_iff (title : String) (count : Nat) (found : List UInt8) (offset : Nat) :
    (Field.code title count).check (found.drop offset) = none ↔
      (found.getD offset 0).toNat < count := by
  rw [Field.check, List.headD_eq_head?_getD, List.head?_drop, ← List.getD_eq_getElem?_getD,
    ite_eq_left_iff]
  simp only [reduceCtorEq, imp_false, Decidable.not_not]

theorem check_content_eq_none_iff (length : Nat) (rest : List UInt8) :
    (Field.content length).check rest = none ↔ (Text.Utf8.decode? (rest.take length)).isSome := by
  rw [Field.check]
  cases Text.Utf8.decode? (rest.take length) with
  | some text => simp
  | none => simp

theorem readable_iff (cursor : Cursor) :
    Readable kind order cursor.rest ↔
      firstFault? ((fields kind order cursor.rest).map Field.piece) cursor = none := by
  rw [firstFault?_eq_none_iff, Cursor.remaining, ← whole_iff]
  constructor
  · rintro ⟨whole, defined, valid⟩
    refine ⟨whole, ?_⟩
    intro before field after same
    cases field with
    | plain width => rfl
    | code title count =>
        exact (check_code_eq_none_iff _ _ _ _).mpr (defined before title count after same)
    | content length =>
        exact (check_content_eq_none_iff _ _).mpr (valid before length after same)
  · rintro ⟨whole, checked⟩
    refine ⟨whole, ?_, ?_⟩
    · intro before title count after same
      exact (check_code_eq_none_iff _ _ _ _).mp (checked before _ after same)
    · intro before length after same
      exact (check_content_eq_none_iff _ _).mp (checked before _ after same)

theorem plain_of_mem_plainFields {field : Field} {widths : List Nat}
    (member : field ∈ plainFields widths) : ∃ width, field = .plain width := by
  obtain ⟨width, -, rfl⟩ := List.mem_map.mp member
  exact ⟨width, rfl⟩

theorem plain_of_mem_baseFields {field : Field} {count : Nat} (member : field ∈ Base.fields count) :
    ∃ width, field = .plain width := by
  simp only [Base.fields, Hsv.fields, List.mem_append] at member
  rcases member with (((member | member) | member) | member) | member
  all_goals exact plain_of_mem_plainFields member

theorem mem_tail {found : List UInt8} {field : Field} (member : field ∈ fields kind order found)
    (notPlain : ∀ width, field ≠ .plain width) : field ∈ kind.fields (textLength order found) := by
  rcases List.mem_append.mp member with inBase | inTail
  · obtain ⟨width, rfl⟩ := plain_of_mem_baseFields inBase
    exact absurd rfl (notPlain width)
  · exact inTail

theorem isText_of_mem {length other : Nat} (member : .content other ∈ kind.fields length) :
    kind = .text := by
  cases kind with
  | text => rfl
  | trigger action =>
      cases action <;> simp [Kind.fields, TriggerKind.fields, Hsv.fields, plainFields] at member
  | _ => simp [Kind.fields, plainFields] at member

theorem title_ne_of_mem {length count : Nat} {title : String}
    (member : .code title count ∈ kind.fields length) : title ≠ "ZLayer" := by
  rintro rfl
  cases kind with
  | trigger action =>
      cases action <;> simp [Kind.fields, TriggerKind.fields, Hsv.fields, plainFields] at member
  | _ => simp [Kind.fields, plainFields] at member

theorem refusal_of_mem {found : List UInt8} {field : Field} {here : Cursor} {fault : Fault}
    (member : field ∈ fields kind order found) (refused : field.piece.fault? here = some fault) :
    Refusal kind (textLength order found) fault := by
  unfold Piece.fault? at refused
  split at refused
  next short =>
    cases refused
    exact .truncated _ _ _ short
  next =>
    cases field with
    | plain width => cases refused
    | code title count =>
        have listed := mem_tail member (by simp)
        simp only [Field.piece, Field.check] at refused
        split at refused
        next => cases refused
        next large =>
          cases refused
          exact .undefined listed (title_ne_of_mem listed) (Nat.le_of_not_lt large)
    | content length =>
        have listed := mem_tail member (by simp)
        simp only [Field.piece, Field.check] at refused
        split at refused
        next => cases refused
        next =>
          cases refused
          exact .undecodable (isText_of_mem listed) _

end Record

theorem Entity.follows_decode (kind : Kind) (order : Order) (cursor : Cursor) :
    (Entity.decode kind ⟨order, .utf8⟩).Follows cursor
      ((Record.fields kind order cursor.rest).map Field.piece) := by
  rw [← Record.pieces_layout, ← List.append_nil (Wire.Layout.pieces _ _ _)]
  exact (Wire.Layout.follows_read (Record.layout kind) ⟨order, .utf8⟩ cursor).bind
    fun record _ => Decoder.follows_pure (⟨kind, record⟩ : Entity)

/-- Bytes are accepted as an object of a kind exactly if they are those of its fields, and then no
more of them are taken. Otherwise the fault is that of the first field that cannot be read. -/
theorem Entity.decode_iff_readable (kind : Kind) (order : Order) (cursor : Cursor) :
    ((∃ entity next, Entity.decode kind ⟨order, .utf8⟩ cursor = .ok entity next) ↔
        Record.Readable kind order cursor.rest) ∧
      (∀ entity next, Entity.decode kind ⟨order, .utf8⟩ cursor = .ok entity next →
        ∃ size, Record.size? kind order cursor.rest = some size ∧ next = cursor.advance size) ∧
      ∀ fault next, Entity.decode kind ⟨order, .utf8⟩ cursor = .error fault next →
        firstFault? ((Record.fields kind order cursor.rest).map Field.piece) cursor = some fault ∧
          Record.Refusal kind (textLength order cursor.rest) fault := by
  have follows := follows_decode kind order cursor
  unfold Decoder.Follows at follows
  rw [Record.readable_iff]
  cases decoded : Entity.decode kind ⟨order, .utf8⟩ cursor with
  | ok entity next =>
      rw [decoded] at follows
      obtain ⟨none, moved⟩ := follows
      obtain ⟨size, known, -⟩ := ((Record.readable_iff cursor).mpr none).whole
      refine ⟨⟨fun _ => none, fun _ => ⟨entity, next, rfl⟩⟩, ?_, ?_⟩
      · rintro _ _ ⟨rfl, rfl⟩
        rw [totalWidth_pieces, ← ((Record.size?_eq_some_iff _ size).mp known).2] at moved
        exact ⟨size, known, moved⟩
      · intro fault other impossible
        cases impossible
  | error fault next =>
      rw [decoded] at follows
      dsimp only at follows
      refine ⟨?_, ?_, ?_⟩
      · rw [follows]
        simp
      · intro entity other impossible
        cases impossible
      · rintro _ _ ⟨rfl, rfl⟩
        obtain ⟨field, member, here, refused⟩ := exists_of_firstFault? follows
        exact ⟨follows, Record.refusal_of_mem member refused⟩

end LevelFormat.Object
