/-!
Whole numbers in decimal digits.
-/

namespace LevelFormat.Number

def isNumeral (text : List Char) : Bool := !text.isEmpty && text.all Char.isDigit

def natural? (text : List Char) : Option Nat :=
  if isNumeral text then some (Nat.ofDigitChars 10 text 0) else none

def integer? : List Char → Option Int
  | '+' :: text => (natural? text).map Int.ofNat
  | '-' :: text => (natural? text).map fun number => -(number : Int)
  | text => (natural? text).map Int.ofNat

def naturalText (number : Nat) : List Char := Nat.toDigits 10 number

def integerText (number : Int) : List Char :=
  if number < 0 then '-' :: naturalText number.natAbs else naturalText number.natAbs

theorem naturalText_ne_nil (number : Nat) : naturalText number ≠ [] :=
  Nat.toDigits_ne_nil

theorem isNumeral_naturalText (number : Nat) : isNumeral (naturalText number) = true := by
  simp only [isNumeral, Bool.and_eq_true, Bool.not_eq_true', List.isEmpty_eq_false_iff, ne_eq,
    naturalText_ne_nil, not_false_eq_true, List.all_eq_true, true_and]
  exact fun char member => Nat.isDigit_of_mem_toDigits (by decide) (by decide) member

theorem natural?_naturalText (number : Nat) : natural? (naturalText number) = some number := by
  rw [natural?, if_pos (isNumeral_naturalText number), naturalText, Nat.ofDigitChars_ten_toDigits]

end LevelFormat.Number
