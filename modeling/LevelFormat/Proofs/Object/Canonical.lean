import LevelFormat.Object.Entity
import LevelFormat.Proofs.Wire.Canonical

/-!
Which objects are written again as the bytes that they were read from.

The spans of each kind name all that reading an object can forget. Main statement:
`Record.encode_eq_iff_kept`.
-/

namespace LevelFormat.Object

open LevelFormat.Bits (FlagByte)
open LevelFormat.Wire (Enumeration Kept Layout Order Packing Span Word)

def wholes (widths : List Nat) : List Span := widths.map .whole

/-! ### The spans of every kind -/

def Hsv.spans : List Span := wholes [2, 4, 4] ++ [.byteBelow 4]

def Base.spans : List Span :=
  wholes [2, 4, 4, 4, 4, 1, 2, 2, 2, 2, 2] ++ Hsv.spans ++ Hsv.spans ++ [.ids] ++ wholes [2]

def TriggerKind.spans : TriggerKind → List Span
  | plain => []
  | color =>
    wholes [4, 3] ++ [.boolean] ++ wholes [2, 2] ++ Hsv.spans ++ [.boolean] ++ wholes [1]
  | pulse => wholes [4, 4, 4, 3] ++ Hsv.spans ++ wholes [1, 1, 1] ++ [.boolean]
  | move => wholes [4, 1, 4, 4, 4] ++ [.boolean, .boolean] ++ wholes [1]
  | spawn => wholes [2, 4] ++ [.boolean]
  | stop => wholes [2]
  | rotate => wholes [2, 2, 4, 1, 4, 4] ++ [.boolean]
  | follow => wholes [2, 2, 4, 1, 4, 4, 4]
  | shake => wholes [4, 4, 4]
  | animation => wholes [2, 2]
  | touch => wholes [2] ++ [.boolean, .boolean] ++ wholes [1]
  | count => wholes [2, 4] ++ [.boolean, .boolean]
  | instantCount => wholes [2, 4] ++ [.boolean] ++ wholes [1]
  | pickup => wholes [2, 4]
  | followPlayerY => wholes [2, 4, 4, 4, 4]
  | onDeath => wholes [2] ++ [.boolean]
  | collision => wholes [2] ++ [.boolean, .wordBelow 0x8000] ++ wholes [2]

def Kind.spans : Kind → List Span
  | object => []
  | coin => wholes [1]
  | text => [.text]
  | teleport => wholes [4] ++ [.byteBelow 2]
  | animatedObject => [.boolean] ++ wholes [4]
  | collisionBlock => wholes [2]
  | orb => [.boolean]
  | pickupItem => wholes [2, 2, 1]
  | trigger action => [.byteBelow 8] ++ action.spans

def Record.spans (kind : Kind) : List Span := Base.spans ++ kind.spans

/-! ### They are those of the layouts -/

theorem exact_checks_iff (byte : UInt8) : Hsv.checks.Exact byte ↔ byte.toNat < 4 := by
  have low : (byte &&& 3).toNat < 4 := by
    rw [UInt8.toNat_and]
    exact Nat.lt_of_le_of_lt Nat.and_le_right (by decide)
  have packed (bits : UInt8) (small : bits.toNat < 4) :
      (((FlagByte.empty 3).assign 1 (bits &&& 1 == 1)).assign 2 (bits &&& 2 == 2)).bits = bits := by
    have cases : bits = 0 ∨ bits = 1 ∨ bits = 2 ∨ bits = 3 := by
      simp only [← UInt8.toNat_inj, UInt8.reduceToNat]
      omega
    rcases cases with rfl | rfl | rfl | rfl
    all_goals decide
  have mask : (3 : UInt8).toNat = 2 ^ 2 - 1 := rfl
  rw [Hsv.checks, Packing.exact_total_iff, ← Packing.and_eq_self_iff 2 mask]
  exact iff_of_eq (congrArg (· = byte) (packed (byte &&& 3) low))

theorem toNat_and_zOrderMask (word : UInt32) :
    (word &&& Base.zOrderMask).toNat = word.toNat % 2 ^ 13 := by
  rw [UInt32.toNat_and, show Base.zOrderMask.toNat = 2 ^ 13 - 1 from rfl,
    Nat.and_two_pow_sub_one_eq_mod]

/-- The layer and the order within it use all bits of their word. -/
theorem exact_zPacking (word : UInt16) : Base.zPacking.Exact word := by
  intro value unpacked
  have bounded := word.toNat_lt
  unfold Base.zPacking at unpacked ⊢
  dsimp only at unpacked ⊢
  split at unpacked
  next layer found =>
    cases unpacked
    have code := Enumeration.code_eq_of_ofCode found
    have low : ((Bits.split word.toUInt32 Base.zOrderMask).2.toUInt16.toUInt32 &&&
        Base.zOrderMask).toNat = word.toNat % 2 ^ 13 := by
      rw [toNat_and_zOrderMask, UInt16.toNat_toUInt32, UInt32.toNat_toUInt16, Bits.split,
        toNat_and_zOrderMask, UInt16.toNat_toUInt32]
      omega
    have high : ((Enumeration.code layer).toUInt32 <<< Bits.bitWidth Base.zOrderMask).toNat =
        2 ^ 13 * (word.toNat / 2 ^ 13) := by
      rw [code, UInt32.toNat_shiftLeft, Bits.split, UInt8.toNat_toUInt32, UInt32.toNat_toUInt8,
        UInt32.toNat_shiftRight, UInt16.toNat_toUInt32,
        show (Bits.bitWidth Base.zOrderMask).toNat % 32 = 13 from rfl, Nat.shiftRight_eq_div_pow,
        Nat.shiftLeft_eq]
      omega
    have parts := Nat.two_pow_add_eq_or_of_lt
      (Nat.mod_lt word.toNat (by decide : 0 < 2 ^ 13)) (word.toNat / 2 ^ 13)
    rw [Base.zWord, UInt16.toUInt16_toInt16, Bits.join, ← UInt16.toNat_inj, UInt32.toNat_toUInt16,
      UInt32.toNat_or, low, high, Nat.or_comm, ← parts, Nat.div_add_mod]
    exact Nat.mod_eq_of_lt bounded
  next => cases unpacked

theorem Color.spanned : Color.layout.Spanned [.whole 3] :=
  .whole (Packing.exact_total fun _ => rfl)

theorem Hsv.spanned : Hsv.layout.Spanned Hsv.spans :=
  .of_eq (.record <| .pair .int16 <| .pair .binary32 <| .pair .binary32 <|
    .byteBelow exact_checks_iff) rfl

theorem Curve.spanned : Curve.layout.Spanned (wholes [1, 4]) :=
  .record <| .pair .enumeration .binary32

theorem GroupPair.spanned : GroupPair.layout.Spanned (wholes [2, 2]) :=
  .record <| .pair .uint16 .uint16

theorem exact_flags (byte : UInt8) : (Packing.flagByte 0xFF).Exact byte :=
  (Packing.exact_flagByte_iff 8 rfl byte).mpr byte.toNat_lt

theorem Base.spanned : Base.layout.Spanned Base.spans :=
  .of_eq (.record <| .pair .uint16 <| .pair .binary32 <| .pair .binary32 <| .pair .binary32 <|
    .pair .binary32 <| .pair (.whole exact_flags) <| .pair (.whole exact_zPacking) <|
    .pair .uint16 <| .pair .uint16 <| .pair .uint16 <| .pair .uint16 <| .pair Hsv.spanned <|
    .pair Hsv.spanned <| .pair .ids .uint16) rfl

theorem TriggerKind.spanned (kind : TriggerKind) : kind.actionLayout.Spanned kind.spans := by
  cases kind with
  | plain => exact .empty
  | color =>
      exact .of_eq (.record <| .pair .binary32 <| .pair Color.spanned <| .pair .bool <|
        .pair .uint16 <| .pair .uint16 <| .pair Hsv.spanned <| .pair .bool .enumeration) rfl
  | pulse =>
      exact .of_eq (.record <| .pair .binary32 <| .pair .binary32 <| .pair .binary32 <|
        .pair Color.spanned <| .pair Hsv.spanned <| .pair .enumeration <| .pair .enumeration <|
        .pair .enumeration .bool) rfl
  | move =>
      exact .of_eq (.record <| .pair .binary32 <| .pair Curve.spanned <| .pair .binary32 <|
        .pair .binary32 <| .pair .bool <| .pair .bool .enumeration) rfl
  | spawn => exact .of_eq (.record <| .pair .uint16 <| .pair .binary32 .bool) rfl
  | stop => exact .record .uint16
  | rotate =>
      exact .of_eq (.record <| .pair GroupPair.spanned <| .pair .binary32 <| .pair Curve.spanned <|
        .pair .binary32 .bool) rfl
  | follow =>
      exact .of_eq (.record <| .pair GroupPair.spanned <| .pair .binary32 <| .pair Curve.spanned <|
        .pair .binary32 .binary32) rfl
  | shake => exact .of_eq (.record <| .pair .binary32 <| .pair .binary32 .binary32) rfl
  | animation => exact .of_eq (.record <| .pair .uint16 .uint16) rfl
  | touch => exact .of_eq (.record <| .pair .uint16 <| .pair .bool <| .pair .bool .enumeration) rfl
  | count => exact .of_eq (.record <| .pair .uint16 <| .pair .int32 <| .pair .bool .bool) rfl
  | instantCount =>
      exact .of_eq (.record <| .pair .uint16 <| .pair .int32 <| .pair .bool .enumeration) rfl
  | pickup => exact .of_eq (.record <| .pair .uint16 .int32) rfl
  | followPlayerY =>
      exact .of_eq (.record <| .pair .uint16 <| .pair .binary32 <| .pair .binary32 <|
        .pair .binary32 .binary32) rfl
  | onDeath => exact .of_eq (.record <| .pair .uint16 .bool) rfl
  | collision =>
      exact .of_eq (.record <| .pair .uint16 <| .pair .bool <|
        .pair (.wordBelow Packing.exact_low15_iff) <| .whole Packing.exact_flagged15) rfl

theorem Kind.spanned (kind : Kind) : kind.payloadLayout.Spanned kind.spans := by
  cases kind with
  | object => exact .empty
  | coin => exact .uint8
  | text => exact .text
  | teleport => exact .of_eq (.record <| .pair .binary32 <| .byteBelow Packing.exact_lowBit_iff) rfl
  | animatedObject => exact .of_eq (.record <| .pair .bool .binary32) rfl
  | collisionBlock => exact .record <| .whole Packing.exact_flagged15
  | orb => exact .bool
  | pickupItem => exact .of_eq (.record <| .pair .uint16 <| .pair .uint16 .enumeration) rfl
  | trigger action =>
      exact .record <| .pair (.byteBelow (Packing.exact_flagByte_iff 3 rfl)) action.spanned

namespace Record

theorem spanned (kind : Kind) : (layout kind).Spanned (spans kind) :=
  .record <| .pair Base.spanned kind.spanned

/-- Bytes that were read whole as an object of a kind are what it is written as exactly if its
groups ascend, booleans are zero or one, and no flag is set that means nothing. -/
theorem encode_eq_iff_kept {kind : Kind} {order : Order} {bytes : List UInt8} {record : Record kind}
    (decoded : (layout kind).decode ⟨order, .utf8⟩ bytes = .ok record) :
    (layout kind).encode ⟨order, .utf8⟩ record = .ok bytes ↔ Kept order (spans kind) bytes :=
  (spanned kind).encode_eq_iff decoded

def collisionWithTop (top : UInt8) : List UInt8 :=
  [1, 0] ++ List.replicate 49 0 ++ [2, 0, 7, 0, 9, 0, 0, 0] ++ [5, 4, 0, 1, 1, top, 2, 0x80]

theorem encode_eq_iff_kept_collisionWithTop :
    (∃ record, (layout (.trigger .collision)).decode ⟨.little, .utf8⟩ (collisionWithTop 0x7F) =
        .ok record ∧
      (layout _).encode ⟨.little, .utf8⟩ record = .ok (collisionWithTop 0x7F)) ∧
    ∃ record, (layout (.trigger .collision)).decode ⟨.little, .utf8⟩ (collisionWithTop 0x80) =
        .ok record ∧
      (layout _).encode ⟨.little, .utf8⟩ record ≠ .ok (collisionWithTop 0x80) := by
  refine ⟨⟨_, rfl, (encode_eq_iff_kept rfl).mpr (by decide)⟩, ⟨_, rfl, ?_⟩⟩
  intro encoded
  exact absurd ((encode_eq_iff_kept rfl).mp encoded) (by decide)

end Record

end LevelFormat.Object
