import LevelFormat.Wire.Order

/-!
Words: the values that are read and written in one piece.

The values of a word type correspond, in either byte order, to all byte strings of one width.
-/

namespace LevelFormat.Wire

class Word (ω : Type) where
  width : Nat
  toBytes : Order → ω → List UInt8
  ofBytes : Order → List UInt8 → ω
  length_toBytes : ∀ order word, (toBytes order word).length = width
  ofBytes_toBytes : ∀ order word, ofBytes order (toBytes order word) = word
  toBytes_ofBytes : ∀ order bytes, bytes.length = width → toBytes order (ofBytes order bytes) = bytes

instance : Word UInt8 where
  width := 1
  toBytes order word := order.split 1 word.toNat
  ofBytes order bytes := UInt8.ofNat (order.join bytes)
  length_toBytes order word := order.length_split 1 word.toNat
  ofBytes_toBytes order word := by
    rw [order.join_split 1 _ word.toNat_lt, UInt8.ofNat_toNat]
  toBytes_ofBytes order bytes length := by
    have bound := order.join_lt bytes
    have whole := order.split_join bytes
    rw [length] at bound whole
    rw [UInt8.toNat_ofNat_of_lt' bound, whole]

instance : Word UInt16 where
  width := 2
  toBytes order word := order.split 2 word.toNat
  ofBytes order bytes := UInt16.ofNat (order.join bytes)
  length_toBytes order word := order.length_split 2 word.toNat
  ofBytes_toBytes order word := by
    rw [order.join_split 2 _ word.toNat_lt, UInt16.ofNat_toNat]
  toBytes_ofBytes order bytes length := by
    have bound := order.join_lt bytes
    have whole := order.split_join bytes
    rw [length] at bound whole
    rw [UInt16.toNat_ofNat_of_lt' bound, whole]

instance : Word UInt32 where
  width := 4
  toBytes order word := order.split 4 word.toNat
  ofBytes order bytes := UInt32.ofNat (order.join bytes)
  length_toBytes order word := order.length_split 4 word.toNat
  ofBytes_toBytes order word := by
    rw [order.join_split 4 _ word.toNat_lt, UInt32.ofNat_toNat]
  toBytes_ofBytes order bytes length := by
    have bound := order.join_lt bytes
    have whole := order.split_join bytes
    rw [length] at bound whole
    rw [UInt32.toNat_ofNat_of_lt' bound, whole]

end LevelFormat.Wire
