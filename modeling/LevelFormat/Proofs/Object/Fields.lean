import LevelFormat.Object.Entity
import LevelFormat.Proofs.Object.Form
import LevelFormat.Proofs.Wire.Pieces

/-!
The fields of every kind of object, in the order in which they lie on the wire.

`Entity.pieces_layout` says that these are the pieces that the layouts of objects take.
-/

namespace LevelFormat.Object

open LevelFormat.Wire (Cursor Decoder Enumeration Layout Options Order Packing Piece Word)

inductive Field where
  | plain (width : Nat)
  | code (title : String) (count : Nat)
  | content (length : Nat)
  deriving DecidableEq

namespace Field

def width : Field → Nat
  | plain width => width
  | code _ _ => 1
  | content length => length

def check : Field → List UInt8 → Option Fault
  | plain _, _ => none
  | code title count, rest =>
    let found := (rest.headD 0).toNat
    if found < count then none else some (.invalidEnumeration title found)
  | content length, rest =>
    let found := rest.take length
    match Text.Utf8.decode? found with
    | some _ => none
    | none => some (.malformedText (Text.Utf8.decodeLossy found) .undecodable)

def piece (field : Field) : Piece := ⟨field.width, field.check⟩

end Field

def plainFields (widths : List Nat) : List Field := widths.map .plain

def Hsv.fields : List Field := plainFields [2, 4, 4, 1]

def Base.fields (count : Nat) : List Field :=
  plainFields [2, 4, 4, 4, 4, 1, 2, 2, 2, 2, 2] ++ Hsv.fields ++ Hsv.fields ++
    plainFields (2 :: List.replicate count 2) ++ plainFields [2]

def TriggerKind.fields : TriggerKind → List Field
  | plain => []
  | color =>
    plainFields [4, 3, 1, 2, 2] ++ Hsv.fields ++ plainFields [1] ++ [.code "PlayerColor" 3]
  | pulse =>
    plainFields [4, 4, 4, 3] ++ Hsv.fields ++
      [.code "PulseTargetType" 2, .code "PulseType" 2, .code "PulseMode" 3] ++ plainFields [1]
  | move =>
    plainFields [4] ++ [.code "Easing" 19] ++ plainFields [4, 4, 4, 1, 1] ++ [.code "TargetType" 3]
  | spawn => plainFields [2, 4, 1]
  | stop => plainFields [2]
  | rotate => plainFields [2, 2, 4] ++ [.code "Easing" 19] ++ plainFields [4, 4, 1]
  | follow => plainFields [2, 2, 4] ++ [.code "Easing" 19] ++ plainFields [4, 4, 4]
  | shake => plainFields [4, 4, 4]
  | animation => plainFields [2, 2]
  | touch => plainFields [2, 1, 1] ++ [.code "ToggleType" 3]
  | count => plainFields [2, 4, 1, 1]
  | instantCount => plainFields [2, 4, 1] ++ [.code "InstantCountComparison" 3]
  | pickup => plainFields [2, 4]
  | followPlayerY => plainFields [2, 4, 4, 4, 4]
  | onDeath => plainFields [2, 1]
  | collision => plainFields [2, 1, 2, 2]

def Kind.fields (length : Nat) : Kind → List Field
  | object => []
  | coin => plainFields [1]
  | text => plainFields [2] ++ [.content length]
  | teleport => plainFields [4, 1]
  | animatedObject => plainFields [1, 4]
  | collisionBlock => plainFields [2]
  | orb => plainFields [1]
  | pickupItem => plainFields [2, 2] ++ [.code "PickupItemMode" 3]
  | trigger action => plainFields [1] ++ action.fields

theorem faultOf_ofCode {α : Type} [DecidableEq α] [Enumeration α] (code : UInt8) :
    Piece.faultOf (Enumeration.ofCode α code) =
      if code.toNat < (Enumeration.all : List α).length then none
      else some (.invalidEnumeration (Enumeration.title α) code.toNat) := by
  unfold Enumeration.ofCode
  by_cases defined : code.toNat < (Enumeration.all : List α).length
  · rw [if_pos defined, List.getElem?_eq_getElem defined]
    rfl
  · rw [if_neg defined, List.getElem?_eq_none (Nat.le_of_not_lt defined)]
    rfl

theorem packed_enumeration (α : Type) [DecidableEq α] [Enumeration α] (order : Order) :
    Piece.packed (.enumeration α) order =
      (Field.code (Enumeration.title α) (Enumeration.all : List α).length).piece := by
  have first (rest : List UInt8) : (Word.ofBytes order (rest.take 1) : UInt8) = rest.headD 0 := by
    cases rest with
    | nil => cases order <;> rfl
    | cons byte rest => exact Decoder.ofBytes_singleton order byte
  unfold Piece.packed Piece.checked Field.piece
  congr 1
  funext rest
  change Piece.faultOf (Enumeration.ofCode α (Word.ofBytes order (rest.take 1))) = _
  rw [faultOf_ofCode, first]
  rfl

/-- The three bits beside the order within a layer always name a layer. -/
theorem unpack_zPacking (word : UInt16) : ∃ value, Base.zPacking.unpack word = .ok value := by
  have below : (Bits.split word.toUInt32 Base.zOrderMask).1.toUInt8.toNat <
      (Enumeration.all : List ZLayer).length := by
    have bounded := word.toNat_lt
    change (word.toUInt32 >>> Bits.bitWidth Base.zOrderMask).toUInt8.toNat < 8
    rw [UInt32.toNat_toUInt8, UInt32.toNat_shiftRight, UInt16.toNat_toUInt32,
      show (Bits.bitWidth Base.zOrderMask).toNat % 32 = 13 from rfl, Nat.shiftRight_eq_div_pow]
    omega
  unfold Base.zPacking
  dsimp only
  rw [Enumeration.ofCode, List.getElem?_eq_getElem below]
  exact ⟨_, rfl⟩

theorem packed_zPacking (order : Order) :
    Piece.packed Base.zPacking order = (Field.plain 2).piece := by
  unfold Piece.packed Piece.checked Field.piece
  congr 1
  funext rest
  obtain ⟨value, unpacked⟩ := unpack_zPacking (Word.ofBytes order (rest.take 2))
  change Piece.faultOf (Base.zPacking.unpack (Word.ofBytes order (rest.take 2))) = none
  rw [unpacked]
  rfl

theorem TriggerKind.pieces_actionLayout (kind : TriggerKind) (options : Options)
    (found : List UInt8) : kind.actionLayout.pieces options found = kind.fields.map Field.piece := by
  cases kind with
  | color =>
      simp only [actionLayout, ColorChange.layout, Layout.pieces, Layout.enumeration,
        packed_enumeration]
      rfl
  | pulse =>
      simp only [actionLayout, Pulse.layout, Layout.pieces, Layout.enumeration, packed_enumeration]
      rfl
  | move =>
      simp only [actionLayout, Move.layout, Curve.layout, Layout.pieces, Layout.enumeration,
        packed_enumeration]
      rfl
  | rotate =>
      simp only [actionLayout, Rotate.layout, Curve.layout, Layout.pieces, Layout.enumeration,
        packed_enumeration]
      rfl
  | follow =>
      simp only [actionLayout, Follow.layout, Curve.layout, Layout.pieces, Layout.enumeration,
        packed_enumeration]
      rfl
  | touch =>
      simp only [actionLayout, Touch.layout, Layout.pieces, Layout.enumeration, packed_enumeration]
      rfl
  | instantCount =>
      simp only [actionLayout, InstantCount.layout, Layout.pieces, Layout.enumeration,
        packed_enumeration]
      rfl
  | _ => rfl

theorem piece_content (length : Nat) : (Field.content length).piece = .content length .utf8 := by
  unfold Piece.content Piece.checked Field.piece
  congr 1
  funext rest
  simp only [Field.check, Text.Charset.decode, Text.Charset.utf8]
  cases Text.Utf8.decode? (rest.take length) with
  | some text => rfl
  | none => rfl

theorem Kind.pieces_payloadLayout (kind : Kind) (order : Order) (found : List UInt8) :
    kind.payloadLayout.pieces ⟨order, .utf8⟩ found =
      (kind.fields (wordAt order found 0).toNat).map Field.piece := by
  cases kind with
  | text =>
      change _ = [(Field.plain 2).piece, (Field.content _).piece]
      rw [piece_content]
      rfl
  | pickupItem =>
      simp only [payloadLayout, PickupItem.layout, Layout.pieces, Layout.enumeration,
        packed_enumeration]
      rfl
  | trigger action =>
      simp only [payloadLayout, Triggered.layout, Layout.pieces, action.pieces_actionLayout]
      rfl
  | _ => rfl

theorem pieces_pair_word {ω α β : Type} [Word ω] (packing : Packing ω α) (layout : Layout β)
    (options : Options) (found : List UInt8) :
    (Layout.pair (.word packing) layout).pieces options found =
      Piece.packed packing options.order :: layout.pieces options (found.drop (Word.width ω)) :=
  rfl

theorem pieces_pair_hsv {β : Type} (layout : Layout β) (options : Options) (found : List UInt8) :
    (Layout.pair Hsv.layout layout).pieces options found =
      Hsv.fields.map Field.piece ++ layout.pieces options (found.drop 11) :=
  rfl

theorem pieces_pair_ids (options : Options) (found : List UInt8) :
    (Layout.pair .ids .uint16).pieces options found =
      (plainFields (2 :: List.replicate (wordAt options.order found 0).toNat 2) ++
        plainFields [2]).map Field.piece := by
  simp only [plainFields, List.map_append, List.map_cons, List.map_replicate, List.map_nil]
  rfl

theorem Base.pieces_layout (options : Options) (found : List UInt8) :
    Base.layout.pieces options found =
      (Base.fields (wordAt options.order found 51).toNat).map Field.piece := by
  unfold Base.layout
  rw [Layout.pieces]
  simp only [Layout.uint16, Layout.binary32, Layout.flagByte, pieces_pair_word, packed_zPacking]
  rw [pieces_pair_hsv, pieces_pair_hsv]
  simp only [List.drop_drop]
  change _ :: _ :: _ :: _ :: _ :: _ :: _ :: _ :: _ :: _ :: _ :: (_ ++ (_ ++
    (Layout.pair .ids .uint16).pieces options (found.drop 51))) = _
  rw [pieces_pair_ids]
  simp only [Base.fields, List.map_append, List.append_assoc]
  rfl

theorem wordAt_drop (order : Order) (found : List UInt8) (first second : Nat) :
    wordAt order (found.drop first) second = wordAt order found (first + second) := by
  rw [wordAt, wordAt, List.drop_drop]

theorem wordAt_append {found : List UInt8} {offset : Nat} (order : Order)
    (inside : offset + 2 ≤ found.length) (rest : List UInt8) :
    wordAt order (found ++ rest) offset = wordAt order found offset := by
  have enough : 2 ≤ (found.drop offset).length := by
    rw [List.length_drop]
    omega
  rw [wordAt, wordAt, List.drop_append_of_le_length (by omega),
    List.take_append_of_le_length enough]

def totalWidth : List Field → Nat
  | [] => 0
  | field :: fields => field.width + totalWidth fields

theorem totalWidth_pieces (fields : List Field) :
    Wire.totalWidth (fields.map Field.piece) = totalWidth fields := by
  induction fields with
  | nil => rfl
  | cons field fields ih =>
      rw [List.map_cons, Wire.totalWidth, totalWidth, ih]
      rfl

theorem totalWidth_append (front back : List Field) :
    totalWidth (front ++ back) = totalWidth front + totalWidth back := by
  simp only [← totalWidth_pieces, List.map_append, Wire.totalWidth_append]

theorem totalWidth_replicate (count : Nat) :
    totalWidth (plainFields (List.replicate count 2)) = 2 * count := by
  induction count with
  | zero => rfl
  | succ count ih =>
      change 2 + totalWidth (plainFields (List.replicate count 2)) = _
      omega

theorem totalWidth_baseFields (count : Nat) : totalWidth (Base.fields count) = 55 + 2 * count := by
  have head : totalWidth (plainFields [2, 4, 4, 4, 4, 1, 2, 2, 2, 2, 2] ++ Hsv.fields ++
      Hsv.fields) = 51 := rfl
  have listed : totalWidth (plainFields (2 :: List.replicate count 2)) = 2 + 2 * count :=
    congrArg (2 + ·) (totalWidth_replicate count)
  have link : totalWidth (plainFields [2]) = 2 := rfl
  rw [Base.fields, totalWidth_append, totalWidth_append, head, listed, link]
  omega

def groupCount (order : Order) (found : List UInt8) : Nat := (wordAt order found 51).toNat

def textLength (order : Order) (found : List UInt8) : Nat :=
  (wordAt order found (55 + 2 * groupCount order found)).toNat

def Record.fields (kind : Kind) (order : Order) (found : List UInt8) : List Field :=
  Base.fields (groupCount order found) ++ kind.fields (textLength order found)

theorem Record.pieces_layout (kind : Kind) (order : Order) (found : List UInt8) :
    (Record.layout kind).pieces ⟨order, .utf8⟩ found =
      (Record.fields kind order found).map Field.piece := by
  change (Layout.pair Base.layout kind.payloadLayout).pieces _ found = _
  rw [Layout.pieces, Base.pieces_layout, totalWidth_pieces, totalWidth_baseFields,
    Kind.pieces_payloadLayout, wordAt_drop, Record.fields, List.map_append]
  rfl

end LevelFormat.Object
