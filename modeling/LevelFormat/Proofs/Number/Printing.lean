import LevelFormat.Number.Shortest

/-!
Numbers that were printed and are read back.

`Binary64.toBinary64_shortest` says that the shortest decimal of a number is read back as the
number, and `Binary64.text_eq_fixedPoint` that the printed text is digits with at most one point,
from which the number can be read.
-/

namespace LevelFormat.Number

theorem roundQuotient_of_exact {denominator : Nat} (quotient : Nat) (positive : 0 < denominator) :
    roundQuotient (quotient * denominator) denominator = quotient := by
  simp [roundQuotient, Nat.mul_div_cancel _ positive, positive]

namespace Binary64

theorem bits_ofRatio_lt (numerator denominator : Nat) :
    (ofRatio numerator denominator).bits.toNat < 2 ^ 63 := by
  have small : infiniteMagnitude < 2 ^ 63 := by decide
  have limited := Nat.min_le_right
    (((numerator * unitsInOne / denominator).log2 - 52) * leadingBit +
      roundQuotient (numerator * unitsInOne)
        (denominator * 2 ^ ((numerator * unitsInOne / denominator).log2 - 52))) infiniteMagnitude
  rw [ofRatio, UInt64.toNat_ofNat']
  exact Nat.lt_of_le_of_lt (Nat.mod_le _ _) (Nat.lt_of_le_of_lt limited small)

theorem bits_toBinary64_lt (decimal : Decimal) : decimal.toBinary64.bits.toNat < 2 ^ 63 := by
  unfold Decimal.toBinary64
  split
  · exact bits_ofRatio_lt _ _
  · exact bits_ofRatio_lt _ _

variable {number : Binary64}

theorem magnitude_of_nonnegative (nonnegative : number.isNegative = false) :
    number.magnitude = number.bits.toNat := by
  have below : number.bits.toNat < 2 ^ 63 := by
    simpa [isNegative] using nonnegative
  exact Nat.mod_eq_of_lt below

theorem toBinary64_of_readBack {decimal : Decimal} (nonnegative : number.isNegative = false)
    (back : number.readBack decimal = true) : decimal.toBinary64 = number := by
  have sizes : decimal.toBinary64.magnitude = number.magnitude := by simpa [readBack] using back
  have unsigned : decimal.toBinary64.magnitude = decimal.toBinary64.bits.toNat :=
    Nat.mod_eq_of_lt (bits_toBinary64_lt decimal)
  rw [unsigned, magnitude_of_nonnegative nonnegative, UInt64.toNat_inj] at sizes
  cases number
  exact congrArg mk sizes

theorem readBack_of_nearestOnGrid? {tie : Tie} {exponent : Int} {decimal : Decimal}
    (found : number.nearestOnGrid? tie exponent = some decimal) :
    number.readBack decimal = true := by
  unfold nearestOnGrid? at found
  dsimp only at found
  split at found
  next => cases found
  next lower _ =>
    cases found
    exact lower
  next _ upper =>
    cases found
    exact upper
  next lower upper =>
    split at found
    next =>
      cases found
      exact lower
    next =>
      split at found
      next =>
        cases found
        exact upper
      next =>
        split at found
        next =>
          cases found
          exact upper
        next =>
          cases found
          split
          next => exact lower
          next => exact upper

theorem readBack_of_firstOnGrids? {tie : Tie} {count : Nat} {exponent : Int} {decimal : Decimal}
    (found : number.firstOnGrids? tie count exponent = some decimal) :
    number.readBack decimal = true := by
  induction count generalizing exponent with
  | zero => cases found
  | succ count ih =>
      rw [firstOnGrids?] at found
      split at found
      next hit =>
        cases found
        exact readBack_of_nearestOnGrid? hit
      next => exact ih found

theorem exists_significand (number : Binary64) :
    ∃ kept, number.units = kept * 2 ^ (number.units.log2 - 52) ∧
      (number.units.log2 - 52) * leadingBit + kept = number.magnitude := by
  have division := Nat.div_add_mod number.magnitude leadingBit
  have lead : leadingBit = 2 ^ 52 := rfl
  have bounded : number.magnitude % leadingBit < leadingBit := Nat.mod_lt _ (by decide)
  by_cases subnormal : number.magnitude / leadingBit = 0
  · have units : number.units = number.magnitude % leadingBit := if_pos subnormal
    have flat : number.units.log2 - 52 = 0 := by
      rw [units]
      by_cases zero : number.magnitude % leadingBit = 0
      · rw [zero, Nat.log2_zero]
      · have small := (Nat.log2_lt zero).mpr bounded
        omega
    rw [subnormal] at division
    exact ⟨number.units, by rw [flat, Nat.pow_zero, Nat.mul_one], by rw [flat, units]; omega⟩
  · have units : number.units = (leadingBit + number.magnitude % leadingBit) *
        2 ^ (number.magnitude / leadingBit - 1) := if_neg subnormal
    have power := Nat.two_pow_pos (number.magnitude / leadingBit - 1)
    have log : number.units.log2 = 52 + (number.magnitude / leadingBit - 1) := by
      rw [units, Nat.log2_eq_iff (Nat.mul_ne_zero (by omega)
        (Nat.ne_of_gt power))]
      constructor
      · rw [Nat.pow_add]
        exact Nat.mul_le_mul_right _ (Nat.le_add_right _ _)
      · rw [Nat.add_right_comm, Nat.pow_add]
        have top : leadingBit + number.magnitude % leadingBit < 2 ^ (52 + 1) := by omega
        exact Nat.mul_lt_mul_of_pos_right top power
    refine ⟨leadingBit + number.magnitude % leadingBit, ?_, ?_⟩
    · rw [log, Nat.add_sub_cancel_left]
      exact units
    · rw [log, Nat.add_sub_cancel_left]
      have shift : (number.magnitude / leadingBit - 1) * leadingBit + leadingBit =
          leadingBit * (number.magnitude / leadingBit) := by
        rw [← Nat.succ_mul, Nat.succ_eq_add_one, Nat.sub_add_cancel (Nat.pos_of_ne_zero subnormal),
          Nat.mul_comm]
      omega

theorem ofRatio_of_units {numerator denominator : Nat} (finite : number.isFinite = true)
    (nonnegative : number.isNegative = false) (positive : 0 < denominator)
    (same : numerator * unitsInOne = number.units * denominator) :
    ofRatio numerator denominator = number := by
  have bounded : number.magnitude < infiniteMagnitude := by simpa [isFinite] using finite
  obtain ⟨kept, units, magnitude⟩ := exists_significand number
  have rounded : roundQuotient (number.units * denominator)
      (denominator * 2 ^ (number.units.log2 - 52)) = kept := by
    have scaled : number.units * denominator =
        kept * (denominator * 2 ^ (number.units.log2 - 52)) := by
      rw [Nat.mul_left_comm, ← units, Nat.mul_comm]
    rw [scaled]
    exact roundQuotient_of_exact kept (Nat.mul_pos positive (Nat.two_pow_pos _))
  rw [ofRatio, same, Nat.mul_div_cancel _ positive, rounded, magnitude,
    Nat.min_eq_left (Nat.le_of_lt bounded), magnitude_of_nonnegative nonnegative,
    UInt64.ofNat_toNat]

theorem toBinary64_of_units {places : Nat} (finite : number.isFinite = true)
    (nonnegative : number.isNegative = false) (positive : 0 < places)
    (scale : unitsInOne = 2 ^ places) :
    (Decimal.mk (number.units * 5 ^ places) (-(places : Int))).toBinary64 = number := by
  unfold Decimal.toBinary64
  dsimp only
  rw [if_neg (by omega), Int.neg_neg, Int.toNat_natCast]
  refine ofRatio_of_units finite nonnegative (Nat.pow_pos (by decide)) ?_
  rw [scale, Nat.mul_assoc, ← Nat.mul_pow]

theorem toBinary64_exact (finite : number.isFinite = true)
    (nonnegative : number.isNegative = false) : number.exact.toBinary64 = number := by
  have scaled := toBinary64_of_units finite nonnegative (by decide : 0 < 1074)
    (by rw [unitsInOne])
  rwa [Int.cast_ofNat_Int] at scaled

theorem eq_zero_of_units (nonnegative : number.isNegative = false) (none : number.units = 0) :
    number = zero := by
  obtain ⟨kept, units, magnitude⟩ := exists_significand number
  rw [none, Nat.log2_zero, Nat.zero_sub] at units magnitude
  rw [magnitude_of_nonnegative nonnegative] at magnitude
  have bits : number.bits = 0 := by
    rw [← UInt64.toNat_inj, UInt64.toNat_zero]
    omega
  cases number
  exact congrArg mk bits

theorem toBinary64_shortest (tie : Tie) (finite : number.isFinite = true)
    (nonnegative : number.isNegative = false) : (number.shortest tie).toBinary64 = number := by
  unfold shortest
  split
  next none =>
    rw [eq_zero_of_units nonnegative none]
    decide +kernel
  next =>
    cases found : number.firstOnGrids? tie 20 number.coarsestGrid with
    | none => exact toBinary64_exact finite nonnegative
    | some decimal => exact toBinary64_of_readBack nonnegative (readBack_of_firstOnGrids? found)

end Binary64

def fixedPoint (front back : List Char) : List Char :=
  front ++ if back = [] then [] else '.' :: back

namespace Decimal

theorem isDigit_of_mem_digits {decimal : Decimal} {char : Char} (member : char ∈ decimal.digits) :
    char.isDigit = true :=
  Nat.isDigit_of_mem_toDigits (by decide) (by decide) member

theorem ofDigitChars_digits (decimal : Decimal) :
    Nat.ofDigitChars 10 decimal.digits 0 = decimal.coefficient :=
  Nat.ofDigitChars_ten_toDigits

theorem isDigit_of_mem_zeros {count : Nat} {char : Char}
    (member : char ∈ List.replicate count '0') : char.isDigit = true := by
  rw [List.eq_of_mem_replicate member]
  rfl

structure Splits (decimal : Decimal) (front back : List Char) : Prop where
  positional : decimal.positional = fixedPoint front back
  some : front ≠ []
  digits : ∀ char ∈ front ++ back, char.isDigit = true
  toBinary64 : (ofDigits front back).toBinary64 = decimal.toBinary64

theorem splits_whole {decimal : Decimal} (whole : 0 ≤ decimal.exponent) :
    decimal.Splits (decimal.digits ++ List.replicate decimal.exponent.toNat '0') [] where
  positional := by simp [Decimal.positional, whole, fixedPoint]
  some := List.append_ne_nil_of_left_ne_nil (naturalText_ne_nil _) _
  digits := by
    intro char member
    rw [List.append_nil, List.mem_append] at member
    rcases member with digit | zero
    · exact isDigit_of_mem_digits digit
    · exact isDigit_of_mem_zeros zero
  toBinary64 := by
    have coefficient : Nat.ofDigitChars 10
        (decimal.digits ++ List.replicate decimal.exponent.toNat '0') 0 =
          decimal.coefficient * 10 ^ decimal.exponent.toNat := by
      rw [Nat.ofDigitChars_append, Nat.ofDigitChars_replicate_zero, ofDigitChars_digits,
        Nat.mul_comm]
    simp [ofDigits, coefficient, Decimal.toBinary64, whole]

def padded (decimal : Decimal) (places : Nat) : List Char :=
  List.replicate (places + 1 - decimal.digits.length) '0' ++ decimal.digits

theorem lt_length_padded (decimal : Decimal) (places : Nat) :
    places < (decimal.padded places).length := by
  rw [padded, List.length_append, List.length_replicate]
  omega

theorem ofDigitChars_padded (decimal : Decimal) (places : Nat) :
    Nat.ofDigitChars 10 (decimal.padded places) 0 = decimal.coefficient := by
  rw [padded, Nat.ofDigitChars_append, Nat.ofDigitChars_replicate_zero, Nat.mul_zero,
    ofDigitChars_digits]

theorem isDigit_of_mem_padded {decimal : Decimal} {places : Nat} {char : Char}
    (member : char ∈ decimal.padded places) : char.isDigit = true := by
  rcases List.mem_append.mp member with zero | digit
  · exact isDigit_of_mem_zeros zero
  · exact isDigit_of_mem_digits digit

theorem splits_fraction {coefficient places : Nat} (positive : 0 < places) {decimal : Decimal}
    (same : decimal = ⟨coefficient, -(places : Int)⟩) :
    decimal.Splits
      ((decimal.padded places).take ((decimal.padded places).length - places))
      ((decimal.padded places).drop ((decimal.padded places).length - places)) := by
  have long := lt_length_padded decimal places
  have negative : ¬ 0 ≤ decimal.exponent := by
    rw [same]
    dsimp only
    omega
  have count : (-decimal.exponent).toNat = places := by
    rw [same, Int.neg_neg, Int.toNat_natCast]
  have behind : ((decimal.padded places).drop
      ((decimal.padded places).length - places)).length = places := by
    rw [List.length_drop]
    omega
  constructor
  case positional =>
    have point : (decimal.padded places).drop ((decimal.padded places).length - places) ≠ [] := by
      rw [← List.length_pos_iff, behind]
      exact positive
    rw [fixedPoint, if_neg point, Decimal.positional, if_neg negative, count]
    rfl
  case some =>
    rw [← List.length_pos_iff, List.length_take]
    omega
  case digits =>
    rw [List.take_append_drop]
    exact fun _ => isDigit_of_mem_padded
  case toBinary64 =>
    rw [ofDigits, List.take_append_drop, ofDigitChars_padded, behind, same]

theorem exists_splits (decimal : Decimal) : ∃ front back, decimal.Splits front back := by
  by_cases whole : 0 ≤ decimal.exponent
  · exact ⟨_, _, splits_whole whole⟩
  · have same : decimal = ⟨decimal.coefficient, -((-decimal.exponent).toNat : Int)⟩ := by
      rw [Int.toNat_of_nonneg (by omega), Int.neg_neg]
    exact ⟨_, _, splits_fraction (by omega) same⟩

end Decimal

namespace Binary64

def one : Binary64 := ⟨0x3FF0000000000000⟩

variable {number : Binary64}

theorem text_eq_positional (finite : number.isFinite = true)
    (nonnegative : number.isNegative = false) :
    number.text = (number.shortest .up).positional := by
  simp [text, finite, nonnegative]

/-- A printed number is digits, with a point and more digits where it has a fraction, and these are
read back as the number. -/
theorem text_eq_fixedPoint (finite : number.isFinite = true)
    (nonnegative : number.isNegative = false) :
    ∃ front back, number.text = fixedPoint front back ∧ front ≠ [] ∧
      (∀ char ∈ front ++ back, char.isDigit = true) ∧
      (Decimal.ofDigits front back).toBinary64 = number := by
  obtain ⟨front, back, splits⟩ := (number.shortest .up).exists_splits
  refine ⟨front, back, ?_, splits.some, splits.digits, ?_⟩
  · rw [text_eq_positional finite nonnegative, splits.positional]
  · rw [splits.toBinary64, toBinary64_shortest .up finite nonnegative]

theorem toBinary64_digit_one : (Decimal.ofDigits ['1'] []).toBinary64 = one := by
  decide +kernel

theorem text_one : one.text = ['1'] := by
  decide +kernel

theorem text_eq_one_iff (finite : number.isFinite = true)
    (nonnegative : number.isNegative = false) : number.text = ['1'] ↔ number = one := by
  constructor
  · intro printed
    obtain ⟨front, back, text, some, -, same⟩ := text_eq_fixedPoint finite nonnegative
    rw [text, fixedPoint] at printed
    by_cases whole : back = []
    · rw [if_pos whole, List.append_nil] at printed
      rw [← same, printed, whole, toBinary64_digit_one]
    · have digits := List.length_pos_iff.mpr some
      have lengths := congrArg List.length printed
      rw [if_neg whole, List.length_append, List.length_cons, List.length_singleton] at lengths
      omega
  · rintro rfl
    exact text_one

end Binary64

end LevelFormat.Number
