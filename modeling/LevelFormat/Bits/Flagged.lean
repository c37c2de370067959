import LevelFormat.Bits.Word

/-!
A small value and a truth value in one word: the value in the low `width` bits, the flag in
the bit above them.

`Flagged.ofWord_toWord` says that packing loses nothing, and `Flagged.toNat_toWord` gives the
word as a number. Both hold because the value never reaches the flag's bit, which is part of
the type.
-/

namespace LevelFormat.Bits

structure Flagged (width : Nat) where
  value : UInt32
  flag : Bool
  value_lt : value.toNat < 2 ^ width
  deriving DecidableEq

namespace Flagged

variable {width : Nat}

def valueMask (width : Nat) : UInt32 := lowMask (UInt32.ofNat width)

def flagBit (width : Nat) : UInt32 := 1 <<< UInt32.ofNat width

theorem toNat_width (small : width < 32) : (UInt32.ofNat width).toNat = width := by
  rw [UInt32.toNat_ofNat']
  omega

theorem toNat_and_valueMask (word : UInt32) (small : width < 32) :
    (word &&& valueMask width).toNat = word.toNat % 2 ^ width := by
  rw [valueMask, toNat_and_lowMask, toNat_width small, Nat.min_eq_left (by omega)]

def ofValue (value : UInt32) (flag : Bool) (small : width < 32 := by decide) : Flagged width where
  value := value &&& valueMask width
  flag := flag
  value_lt := by
    rw [toNat_and_valueMask value small]
    exact Nat.mod_lt _ (Nat.two_pow_pos width)

def ofWord (word : UInt32) (small : width < 32 := by decide) : Flagged width :=
  ofValue (extract word 0 (UInt32.ofNat width)) (extract word (UInt32.ofNat width) 1 != 0) small

def toWord (flagged : Flagged width) : UInt32 :=
  replace flagged.value (UInt32.ofNat width) 1 flagged.flag.toUInt32

theorem ext {first second : Flagged width} (values : first.value = second.value)
    (flags : first.flag = second.flag) : first = second := by
  cases first
  cases second
  simp_all

theorem toWord_eq_or (flagged : Flagged width) (small : width < 32) :
    flagged.toWord = flagged.value ||| if flagged.flag then flagBit width else 0 := by
  obtain ⟨value, flag, bounded⟩ := flagged
  have one : lowMask 1 = 1 := by decide
  have above : ∀ index, width ≤ index → value.toBitVec.getLsbD index = false := by
    intro index high
    exact Nat.testBit_lt_two_pow
      (Nat.lt_of_lt_of_le bounded (Nat.pow_le_pow_right (by decide) high))
  have wide : width % 4294967296 = width := by omega
  have short : width % 32 = width := by omega
  rw [toWord, replace, one, flagBit]
  apply UInt32.eq_of_toBitVec_eq
  apply BitVec.eq_of_getLsbD_eq
  intro index inside
  by_cases below : index < width
  · cases flag <;> simp [wide, short, below] <;> exact fun _ => inside
  · have clear := above index (by omega)
    cases flag <;> simp [wide, short, below, clear]

theorem toNat_toWord (flagged : Flagged width) (small : width < 32) :
    flagged.toWord.toNat = flagged.value.toNat + if flagged.flag then 2 ^ width else 0 := by
  have bit : (flagBit width).toNat = 2 ^ width := by
    rw [flagBit, UInt32.toNat_shiftLeft, toNat_width small, Nat.mod_eq_of_lt small,
      UInt32.toNat_one, Nat.one_shiftLeft]
    exact Nat.mod_eq_of_lt (Nat.pow_lt_pow_right (by decide) small)
  rw [toWord_eq_or flagged small, UInt32.toNat_or]
  cases flagged.flag with
  | false => simp
  | true =>
      have disjoint := Nat.two_pow_add_eq_or_of_lt flagged.value_lt 1
      simp only [Nat.mul_one] at disjoint
      simp only [↓reduceIte, bit]
      rw [Nat.or_comm, ← disjoint, Nat.add_comm]

theorem toNat_value_ofWord (word : UInt32) (small : width < 32) :
    (ofWord word small : Flagged width).value.toNat = word.toNat % 2 ^ width := by
  rw [ofWord, ofValue, toNat_and_valueMask _ small, toNat_extract _ _ _ (by decide),
    toNat_width small, Nat.min_eq_left (by omega)]
  simp

theorem flag_ofWord (word : UInt32) (small : width < 32) :
    (ofWord word small : Flagged width).flag = (word.toNat / 2 ^ width % 2 != 0) := by
  have inside : UInt32.ofNat width < 32 := by
    rw [UInt32.lt_iff_toNat_lt, toNat_width small]
    exact small
  have bit := toNat_extract word (UInt32.ofNat width) 1 inside
  rw [toNat_width small] at bit
  simp only [UInt32.toNat_one, Nat.reduceLeDiff, Nat.min_eq_left, Nat.pow_one] at bit
  rw [ofWord, ofValue, ← bit, Bool.eq_iff_iff, bne_iff_ne, bne_iff_ne, ne_eq, ne_eq,
    ← UInt32.toNat_inj]
  rfl

theorem ofWord_toWord (flagged : Flagged width) (small : width < 32) :
    ofWord flagged.toWord small = flagged := by
  have bounded := flagged.value_lt
  have power := Nat.two_pow_pos width
  apply ext
  · rw [← UInt32.toNat_inj, toNat_value_ofWord _ small, toNat_toWord _ small]
    cases flagged.flag with
    | false => simpa using Nat.mod_eq_of_lt bounded
    | true => simpa using Nat.mod_eq_of_lt bounded
  · rw [flag_ofWord _ small, toNat_toWord _ small]
    cases flagged.flag with
    | false => simp [Nat.div_eq_of_lt bounded]
    | true => simp [Nat.add_div_right _ power, Nat.div_eq_of_lt bounded]

def ofWord16 (word : UInt16) : Flagged 15 := ofWord word.toUInt32

def toWord16 (flagged : Flagged 15) : UInt16 := flagged.toWord.toUInt16

theorem ofWord16_toWord16 (flagged : Flagged 15) : ofWord16 flagged.toWord16 = flagged := by
  have bounded := flagged.value_lt
  have number := toNat_toWord flagged (by decide)
  have whole : flagged.toWord16.toUInt32 = flagged.toWord := by
    rw [← UInt32.toNat_inj, toWord16, UInt16.toNat_toUInt32, UInt32.toNat_toUInt16, number]
    cases flagged.flag with
    | false => simp; omega
    | true => simp; omega
  rw [ofWord16, whole, ofWord_toWord flagged (by decide)]

theorem toWord16_ofWord16 (word : UInt16) : (ofWord16 word).toWord16 = word := by
  have bounded := word.toNat_lt
  rw [← UInt16.toNat_inj, toWord16, UInt32.toNat_toUInt16, toNat_toWord _ (by decide), ofWord16,
    toNat_value_ofWord _ (by decide), flag_ofWord _ (by decide), UInt16.toNat_toUInt32]
  rcases Nat.mod_two_eq_zero_or_one (word.toNat / 2 ^ 15) with clear | set
  · rw [clear]
    simp only [bne_self_eq_false, Bool.false_eq_true, ↓reduceIte]
    omega
  · rw [set]
    simp only [Nat.reduceBNe, ↓reduceIte]
    omega

end Flagged

end LevelFormat.Bits
