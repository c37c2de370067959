import LevelFormat.Bits.Flagged
import Mathlib.Data.Set.Function

/-!
Words of a value and a flag, at every width that leaves room for the flag.

A value is cut to its width, by the mask or by being cut out of a word, and so never reaches the
flag above it (`value_ofWord`, `toNat_toWord_ofValue`, `toNat_toWord_ofWord`). Main statement:
`packs_without_interference`.
-/

namespace LevelFormat.Bits.Flagged

variable {width : Nat}

def parts (flagged : Flagged width) : UInt32 × Bool := (flagged.value, flagged.flag)

theorem le_valueMask_iff (small : width < 32) (value : UInt32) :
    value ≤ valueMask width ↔ value.toNat < 2 ^ width := by
  have power := Nat.two_pow_pos width
  rw [UInt32.le_iff_toNat_le, valueMask, toNat_lowMask, toNat_width small,
    Nat.min_eq_left (by omega)]
  omega

/-! ### From a value -/

theorem toNat_value_ofValue (value : UInt32) (flag : Bool) (small : width < 32) :
    (ofValue value flag small : Flagged width).value.toNat = value.toNat % 2 ^ width :=
  toNat_and_valueMask value small

theorem value_ofValue_le (value : UInt32) (flag : Bool) (small : width < 32) :
    (ofValue value flag small : Flagged width).value ≤ valueMask width := by
  rw [le_valueMask_iff small, toNat_value_ofValue]
  exact Nat.mod_lt _ (Nat.two_pow_pos width)

theorem parts_ofValue {value : UInt32} (small : width < 32) (fits : value.toNat < 2 ^ width)
    (flag : Bool) : (ofValue value flag small : Flagged width).parts = (value, flag) := by
  have kept : (ofValue value flag small : Flagged width).value = value := by
    rw [← UInt32.toNat_inj, toNat_value_ofValue, Nat.mod_eq_of_lt fits]
  exact Prod.ext kept rfl

theorem ofValue_parts (small : width < 32) (flagged : Flagged width) :
    ofValue flagged.parts.1 flagged.parts.2 small = flagged := by
  have kept := parts_ofValue small flagged.value_lt flagged.flag
  exact ext (congrArg Prod.fst kept) rfl

theorem toNat_toWord_ofValue (value : UInt32) (flag : Bool) (small : width < 32) :
    (ofValue value flag small : Flagged width).toWord.toNat =
      value.toNat % 2 ^ width + if flag then 2 ^ width else 0 := by
  rw [toNat_toWord _ small, toNat_value_ofValue]
  rfl

/-! ### From a word -/

/-- What is cut out of a word has no bits for the mask to take away. -/
theorem value_ofWord (word : UInt32) (small : width < 32) :
    (ofWord word small : Flagged width).value = extract word 0 (UInt32.ofNat width) := by
  have cut := toNat_extract word 0 (UInt32.ofNat width) (by decide)
  rw [toNat_width small, Nat.min_eq_left (Nat.le_of_lt small)] at cut
  rw [← UInt32.toNat_inj, toNat_value_ofWord word small, cut]
  simp

theorem value_ofWord_le (word : UInt32) (small : width < 32) :
    (ofWord word small : Flagged width).value ≤ valueMask width := by
  rw [le_valueMask_iff small, toNat_value_ofWord word small]
  exact Nat.mod_lt _ (Nat.two_pow_pos width)

theorem toNat_toWord_ofWord (word : UInt32) (small : width < 32) :
    (ofWord word small : Flagged width).toWord.toNat = word.toNat % 2 ^ (width + 1) := by
  rw [toNat_toWord _ small, toNat_value_ofWord word small, flag_ofWord word small, Nat.pow_succ,
    Nat.mod_mul]
  rcases Nat.mod_two_eq_zero_or_one (word.toNat / 2 ^ width) with clear | set
  · simp [clear]
  · simp [set]

/-! ### The form of 16 bits -/

theorem parts_ofWord16_lt (word : UInt16) : (ofWord16 word).parts.1.toNat < 2 ^ 15 :=
  (ofWord16 word).value_lt

theorem toWord16_parts (word : UInt16) :
    (ofValue (ofWord16 word).parts.1 (ofWord16 word).parts.2 : Flagged 15).toWord16 = word := by
  rw [ofValue_parts, toWord16_ofWord16]

theorem parts_ofWord16 {value : UInt32} (fits : value.toNat < 2 ^ 15) (flag : Bool) :
    (ofWord16 (ofValue value flag : Flagged 15).toWord16).parts = (value, flag) := by
  rw [ofWord16_toWord16, parts_ofValue _ fits]

theorem invOn_words16 :
    Set.InvOn (fun pair => (ofValue pair.1 pair.2 : Flagged 15).toWord16)
      (fun word => (ofWord16 word).parts) Set.univ {pair | pair.1.toNat < 2 ^ 15} :=
  ⟨fun word _ => toWord16_parts word, fun pair fits => parts_ofWord16 fits pair.2⟩

theorem bijOn_words16 :
    Set.BijOn (fun word => (ofWord16 word).parts) Set.univ {pair | pair.1.toNat < 2 ^ 15} :=
  invOn_words16.bijOn (fun word _ => parts_ofWord16_lt word) (fun _ _ => Set.mem_univ _)

/-! ### All widths -/

/-- At every width below 32 a value stays within its mask, however it came about, and packing and
unpacking lose only what lies outside the value and the flag. Words of 16 bits stand for the values
of 15 bits with a flag, each for one. -/
theorem packs_without_interference :
    (∀ width (small : width < 32),
      (∀ value flag,
        (ofValue value flag small : Flagged width).value ≤ valueMask width ∧
        (ofValue value flag small : Flagged width).toWord.toNat =
          value.toNat % 2 ^ width + if flag then 2 ^ width else 0) ∧
      (∀ word,
        (ofWord word small : Flagged width).value = extract word 0 (UInt32.ofNat width) ∧
        (ofWord word small : Flagged width).value ≤ valueMask width ∧
        (ofWord word small : Flagged width).toWord.toNat = word.toNat % 2 ^ (width + 1)) ∧
      ∀ flagged : Flagged width, ofWord flagged.toWord small = flagged) ∧
    Set.BijOn (fun word => (ofWord16 word).parts) Set.univ {pair | pair.1.toNat < 2 ^ 15} ∧
    Set.InvOn (fun pair => (ofValue pair.1 pair.2 : Flagged 15).toWord16)
      (fun word => (ofWord16 word).parts) Set.univ {pair | pair.1.toNat < 2 ^ 15} := by
  refine ⟨fun width small => ⟨?values, ?words, ?back⟩, bijOn_words16, invOn_words16⟩
  case values =>
    intro value flag
    exact ⟨value_ofValue_le value flag small, toNat_toWord_ofValue value flag small⟩
  case words =>
    intro word
    exact ⟨value_ofWord word small, value_ofWord_le word small, toNat_toWord_ofWord word small⟩
  case back =>
    intro flagged
    exact ofWord_toWord flagged small

/-- A width that leaves no bit above the flag, the width without values, and the form of 16 bits. -/
theorem packs_without_interference_extremes :
    (31 < 32 ∧ (ofValue 0xFFFFFFFE true : Flagged 31).value ≤ valueMask 31 ∧
      (ofValue 0xFFFFFFFE true : Flagged 31).toWord = 0xFFFFFFFE) ∧
    (0 < 32 ∧ (ofWord 0xFFFFFFFF : Flagged 0).toWord = 1 ∧
      ofWord (ofValue 0xFF true : Flagged 0).toWord = (ofValue 0xFF true : Flagged 0)) ∧
    ∃ word : UInt16, (ofWord16 word).parts = (0x1234, true) := by
  obtain ⟨widths, pairs, -⟩ := packs_without_interference
  obtain ⟨values, -, -⟩ := widths 31 (by decide)
  obtain ⟨-, words, back⟩ := widths 0 (by decide)
  obtain ⟨bounded, packed⟩ := values 0xFFFFFFFE true
  obtain ⟨-, -, lowest⟩ := words 0xFFFFFFFF
  have reached : ((0x1234 : UInt32), true) ∈ {pair : UInt32 × Bool | pair.1.toNat < 2 ^ 15} := by
    decide
  obtain ⟨word, -, found⟩ := pairs.surjOn reached
  refine ⟨⟨by decide, bounded, ?_⟩, ⟨by decide, ?_, back _⟩, word, found⟩
  · exact UInt32.toNat_inj.mp packed
  · exact UInt32.toNat_inj.mp lowest

end LevelFormat.Bits.Flagged
