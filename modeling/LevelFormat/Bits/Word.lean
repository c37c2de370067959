import LevelFormat.Number.Power

/-!
Fields of bits inside a 32-bit word.

A field is given by its offset and its width, or by a mask that starts at bit 0.
-/

namespace LevelFormat.Bits

def lowMask (bits : UInt32) : UInt32 :=
  if 32 ≤ bits then 0xFFFFFFFF else (1 <<< bits) - 1

def bitWidth (mask : UInt32) : UInt32 :=
  if mask = 0 then 0 else UInt32.ofNat (mask.toNat.log2 + 1)

def extract (word offset width : UInt32) : UInt32 :=
  (word >>> offset) &&& lowMask width

def replace (word offset width value : UInt32) : UInt32 :=
  let mask := lowMask width <<< offset
  (word &&& ~~~mask) ||| ((value <<< offset) &&& mask)

def split (word mask : UInt32) : UInt32 × UInt32 :=
  (word >>> bitWidth mask, word &&& mask)

def join (high low mask : UInt32) : UInt32 :=
  (low &&& mask) ||| (high <<< bitWidth mask)

theorem toNat_lowMask (bits : UInt32) : (lowMask bits).toNat = 2 ^ min bits.toNat 32 - 1 := by
  unfold lowMask
  by_cases wide : 32 ≤ bits
  · have wideNat : 32 ≤ bits.toNat := by simpa [UInt32.le_iff_toNat_le] using wide
    rw [if_pos wide, Nat.min_eq_right wideNat]
    rfl
  · have narrow : bits.toNat < 32 := by
      simpa [UInt32.le_iff_toNat_le, Nat.not_le] using wide
    have power : 2 ^ bits.toNat < 2 ^ 32 := Nat.pow_lt_pow_right (by decide) narrow
    have one : (1 <<< bits).toNat = 2 ^ bits.toNat := by
      rw [UInt32.toNat_shiftLeft, Nat.mod_eq_of_lt narrow]
      simp only [UInt32.toNat_one, Nat.one_shiftLeft]
      exact Nat.mod_eq_of_lt power
    rw [if_neg wide, Nat.min_eq_left (Nat.le_of_lt narrow),
      UInt32.toNat_sub_of_le _ _ (by rw [UInt32.le_iff_toNat_le, one]; exact Nat.one_le_two_pow),
      one]
    rfl

theorem toNat_and_lowMask (word bits : UInt32) :
    (word &&& lowMask bits).toNat = word.toNat % 2 ^ min bits.toNat 32 := by
  rw [UInt32.toNat_and, toNat_lowMask, Nat.and_two_pow_sub_one_eq_mod]

theorem toNat_extract (word offset width : UInt32) (bound : offset < 32) :
    (extract word offset width).toNat = word.toNat / 2 ^ offset.toNat % 2 ^ min width.toNat 32 := by
  have boundNat : offset.toNat < 32 := by simpa [UInt32.lt_iff_toNat_lt] using bound
  rw [extract, toNat_and_lowMask, UInt32.toNat_shiftRight, Nat.mod_eq_of_lt boundNat,
    Nat.shiftRight_eq_div_pow]

theorem log2_lt (mask : UInt32) (nonzero : mask ≠ 0) : mask.toNat.log2 < 32 := by
  rw [Nat.log2_lt (by simpa [← UInt32.toNat_inj] using nonzero)]
  exact mask.toNat_lt

theorem toNat_bitWidth_le_iff (mask : UInt32) (width : Nat) :
    (bitWidth mask).toNat ≤ width ↔ mask.toNat < 2 ^ width := by
  unfold bitWidth
  split
  next zero =>
    rw [zero]
    exact ⟨fun _ => Nat.two_pow_pos width, fun _ => Nat.zero_le width⟩
  next nonzero =>
    have bound := log2_lt mask nonzero
    have positive : mask.toNat ≠ 0 := by simpa [← UInt32.toNat_inj] using nonzero
    rw [UInt32.toNat_ofNat', Nat.mod_eq_of_lt (by omega), Nat.add_one_le_iff,
      Nat.log2_lt positive]

theorem getLsbD_of_bitWidth_le (mask : UInt32) {index : Nat}
    (above : (bitWidth mask).toNat ≤ index) : mask.toBitVec.getLsbD index = false :=
  Nat.testBit_lt_two_pow ((toNat_bitWidth_le_iff mask index).mp above)

theorem split_join (high low mask : UInt32) (small : (bitWidth mask).toNat < 32) :
    split (join high low mask) mask =
      ((high <<< bitWidth mask) >>> bitWidth mask, low &&& mask) := by
  have short : (bitWidth mask).toNat % 32 = (bitWidth mask).toNat := Nat.mod_eq_of_lt small
  unfold split join
  rw [Prod.mk.injEq]
  constructor
  · apply UInt32.eq_of_toBitVec_eq
    apply BitVec.eq_of_getLsbD_eq
    intro index inside
    have gone := getLsbD_of_bitWidth_le mask (Nat.le_add_right _ index)
    simp [short, gone]
  · apply UInt32.eq_of_toBitVec_eq
    apply BitVec.eq_of_getLsbD_eq
    intro index inside
    by_cases below : index < (bitWidth mask).toNat
    · simp [short, below]
    · simp [getLsbD_of_bitWidth_le mask (Nat.le_of_not_lt below)]

end LevelFormat.Bits
