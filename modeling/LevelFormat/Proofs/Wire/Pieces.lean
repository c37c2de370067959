import LevelFormat.Proofs.Wire.Reading

/-!
The pieces that a layout takes from a buffer, and the first of them that cannot be read.

`Layout.follows_read` says that reading succeeds if every piece can be read, and fails otherwise
with the fault of the first one that cannot.
-/

namespace LevelFormat.Wire

/-- Some bytes that are read at once, and what is wrong with those in front of a buffer. The check
comes after the bytes are known to be there, and looks at no others. -/
structure Piece where
  width : Nat
  check : List UInt8 → Option Fault

namespace Piece

def plain (width : Nat) : Piece := ⟨width, fun _ => none⟩

def fault? (piece : Piece) (cursor : Cursor) : Option Fault :=
  if cursor.remaining < piece.width then
    some (.truncated cursor.position piece.width cursor.remaining)
  else piece.check cursor.rest

def faultOf {α : Type} : Except Fault α → Option Fault
  | .ok _ => none
  | .error fault => some fault

def checked {α : Type} (width : Nat) (outcome : List UInt8 → Except Fault α) : Piece :=
  ⟨width, fun rest => faultOf (outcome (rest.take width))⟩

def packed {ω α : Type} [Word ω] (packing : Packing ω α) (order : Order) : Piece :=
  checked (Word.width ω) fun found => packing.unpack (Word.ofBytes order found)

def content (length : Nat) (charset : Text.Charset) : Piece := checked length charset.decode

theorem fault?_of_lt {piece : Piece} {cursor : Cursor} (short : cursor.remaining < piece.width) :
    piece.fault? cursor = some (.truncated cursor.position piece.width cursor.remaining) :=
  if_pos short

theorem fault?_of_le {piece : Piece} {cursor : Cursor} (enough : piece.width ≤ cursor.remaining) :
    piece.fault? cursor = piece.check cursor.rest :=
  if_neg (Nat.not_lt.mpr enough)

end Piece

def totalWidth : List Piece → Nat
  | [] => 0
  | piece :: pieces => piece.width + totalWidth pieces

def firstFault? : List Piece → Cursor → Option Fault
  | [], _ => none
  | piece :: pieces, cursor =>
    (piece.fault? cursor).or (firstFault? pieces (cursor.advance piece.width))

theorem totalWidth_append (front back : List Piece) :
    totalWidth (front ++ back) = totalWidth front + totalWidth back := by
  induction front with
  | nil => rw [List.nil_append, totalWidth, Nat.zero_add]
  | cons piece front ih => rw [List.cons_append, totalWidth, totalWidth, ih, Nat.add_assoc]

theorem firstFault?_singleton (piece : Piece) (cursor : Cursor) :
    firstFault? [piece] cursor = piece.fault? cursor := by
  rw [firstFault?, firstFault?, Option.or_none]

theorem firstFault?_append (front back : List Piece) (cursor : Cursor) :
    firstFault? (front ++ back) cursor =
      (firstFault? front cursor).or (firstFault? back (cursor.advance (totalWidth front))) := by
  induction front generalizing cursor with
  | nil => rw [List.nil_append, firstFault?, Option.none_or, totalWidth, Cursor.advance_zero]
  | cons piece front ih =>
      rw [List.cons_append, firstFault?, firstFault?, ih, totalWidth, Option.or_assoc,
        Cursor.advance_advance]

def Decoder.Follows {α : Type} (decoder : Decoder α) (cursor : Cursor) (pieces : List Piece) : Prop :=
  match decoder cursor with
  | .ok _ next => firstFault? pieces cursor = none ∧ next = cursor.advance (totalWidth pieces)
  | .error fault _ => firstFault? pieces cursor = some fault

namespace Decoder

variable {α β : Type} {cursor : Cursor}

theorem follows_pure (value : α) : (pure value : Decoder α).Follows cursor [] :=
  ⟨rfl, cursor.advance_zero.symm⟩

theorem Follows.bind {decoder : Decoder α} {continuation : α → Decoder β} {front back : List Piece}
    (first : decoder.Follows cursor front)
    (second : ∀ value, decoder cursor = .ok value (cursor.advance (totalWidth front)) →
      (continuation value).Follows (cursor.advance (totalWidth front)) back) :
    (decoder >>= continuation).Follows cursor (front ++ back) := by
  unfold Follows at first ⊢
  change match EStateM.bind decoder continuation cursor with | .ok _ _ => _ | .error _ _ => _
  unfold EStateM.bind
  rw [firstFault?_append, totalWidth_append, ← Cursor.advance_advance]
  cases taken : decoder cursor with
  | error fault next =>
      rw [taken] at first
      dsimp only at first ⊢
      rw [first, Option.some_or]
  | ok value next =>
      rw [taken] at first
      obtain ⟨none, rfl⟩ := first
      rw [none, Option.none_or]
      exact second value taken

theorem take_eq (count : Nat) (cursor : Cursor) :
    take count cursor =
      if cursor.remaining < count then
        .error (.truncated cursor.position count cursor.remaining) cursor
      else .ok (cursor.rest.take count) (cursor.advance count) := by
  change EStateM.bind (peek count) _ cursor = _
  unfold EStateM.bind peek
  dsimp only
  rw [List.length_take, Cursor.remaining]
  by_cases short : cursor.rest.length < count
  · rw [if_pos short, if_neg (by omega)]
  · rw [if_neg short, if_pos (by omega)]
    rfl

theorem follows_checked (count : Nat) (outcome : List UInt8 → Except Fault α) :
    (take count >>= fun bytes => ofExcept (outcome bytes)).Follows cursor
      [Piece.checked count outcome] := by
  change match EStateM.bind (take count) (fun bytes => ofExcept (outcome bytes)) cursor with
    | .ok _ _ => _
    | .error _ _ => _
  unfold EStateM.bind
  rw [take_eq, firstFault?_singleton]
  by_cases short : cursor.remaining < count
  · rw [if_pos short, Piece.fault?_of_lt short]
    rfl
  · rw [if_neg short, Piece.fault?_of_le (Nat.le_of_not_lt short), Piece.checked]
    dsimp only
    cases outcome (cursor.rest.take count) with
    | ok value => exact ⟨rfl, rfl⟩
    | error fault => rfl

theorem follows_packed {ω : Type} [Word ω] (packing : Packing ω α) (order : Order) :
    (packed packing order).Follows cursor [Piece.packed packing order] := by
  have whole : packed packing order = take (Word.width ω) >>= fun found =>
      ofExcept (packing.unpack (Word.ofBytes order found)) := by
    simp only [packed, word, bind_assoc, pure_bind]
  rw [whole]
  exact follows_checked _ _

theorem follows_word (ω : Type) [Word ω] (order : Order) :
    (word ω order).Follows cursor [Piece.plain (Word.width ω)] :=
  follows_checked (Word.width ω) fun found => .ok (Word.ofBytes order found)

theorem eq_of_word_ok {ω : Type} [Word ω] {order : Order} {value : ω} {next : Cursor}
    (delivered : word ω order cursor = .ok value next) :
    value = Word.ofBytes order (cursor.rest.take (Word.width ω)) := by
  obtain ⟨bytes, _, taken, returned⟩ := (bind_ok_iff _ _ _ _ _).mp delivered
  obtain ⟨-, rfl, -⟩ := take_ok taken
  cases returned
  rfl

theorem follows_replicateOnto {decoder : Decoder α} {piece : Piece}
    (follows : ∀ cursor, decoder.Follows cursor [piece]) (count : Nat) (reversed : List α) :
    (replicateOnto decoder count reversed).Follows cursor (List.replicate count piece) := by
  induction count generalizing cursor reversed with
  | zero => exact follows_pure _
  | succ count ih => exact (follows cursor).bind fun value _ => ih (value :: reversed)

end Decoder

namespace Layout

def pieces : {α : Type} → Layout α → Options → List UInt8 → List Piece
  | _, empty, _, _ => []
  | _, word packing, options, _ => [.packed packing options.order]
  | _, bytes packing, options, found =>
    let count : UInt8 := Word.ofBytes options.order (found.take 1)
    .plain 1 :: List.replicate count.toNat (.packed packing options.order)
  | _, ids, options, found =>
    let count : UInt16 := Word.ofBytes options.order (found.take 2)
    .plain 2 :: List.replicate count.toNat (.plain 2)
  | _, text, options, found =>
    let length : UInt16 := Word.ofBytes options.order (found.take 2)
    [.plain 2, .content length.toNat options.charset]
  | _, pair first second, options, found =>
    first.pieces options found ++
      second.pieces options (found.drop (totalWidth (first.pieces options found)))
  | _, record _ layout, options, found => layout.pieces options found

/-- Reading takes the pieces of the layout, and fails with the fault of the first that cannot be
read. -/
theorem follows_read {α : Type} (layout : Layout α) (options : Options) (cursor : Cursor) :
    (layout.read options).Follows cursor (layout.pieces options cursor.rest) := by
  induction layout generalizing cursor with
  | empty => exact Decoder.follows_pure ()
  | word packing => exact Decoder.follows_packed packing options.order
  | bytes packing =>
      refine (Decoder.follows_word UInt8 options.order).bind fun count taken => ?_
      obtain rfl := Decoder.eq_of_word_ok taken
      exact Decoder.follows_replicateOnto
        (fun _ => Decoder.follows_packed packing options.order) _ _
  | ids =>
      refine (Decoder.follows_word UInt16 options.order).bind fun count taken => ?_
      obtain rfl := Decoder.eq_of_word_ok taken
      rw [← List.append_nil (List.replicate _ _)]
      exact (Decoder.follows_replicateOnto
        (fun _ => Decoder.follows_word UInt16 options.order) _ _).bind
          fun found _ => Decoder.follows_pure (IdSet.ofList found)
  | text =>
      refine (Decoder.follows_word UInt16 options.order).bind fun length taken => ?_
      obtain rfl := Decoder.eq_of_word_ok taken
      exact Decoder.follows_checked _ _
  | pair first second firstFollows secondFollows =>
      refine (firstFollows cursor).bind fun left _ => ?_
      rw [← List.append_nil (second.pieces _ _)]
      exact (secondFollows _).bind fun right _ => Decoder.follows_pure (left, right)
  | record parts layout follows =>
      rw [pieces, ← List.append_nil (layout.pieces _ _)]
      exact (follows cursor).bind fun value _ => Decoder.follows_pure (parts.build value)

end Layout

end LevelFormat.Wire
