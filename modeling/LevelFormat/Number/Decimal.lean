import LevelFormat.Number.Binary64
import LevelFormat.Number.Numeral

/-!
Decimal numbers: a whole coefficient times a power of ten.
-/

namespace LevelFormat.Number

structure Decimal where
  coefficient : Nat
  exponent : Int
  deriving DecidableEq

namespace Decimal

def toBinary64 (decimal : Decimal) : Binary64 :=
  if 0 ≤ decimal.exponent then
    .ofRatio (decimal.coefficient * 10 ^ decimal.exponent.toNat) 1
  else .ofRatio decimal.coefficient (10 ^ (-decimal.exponent).toNat)

def digits (decimal : Decimal) : List Char := naturalText decimal.coefficient

def positional (decimal : Decimal) : List Char :=
  if 0 ≤ decimal.exponent then
    decimal.digits ++ List.replicate decimal.exponent.toNat '0'
  else
    let places := (-decimal.exponent).toNat
    let digits := List.replicate (places + 1 - decimal.digits.length) '0' ++ decimal.digits
    let whole := digits.length - places
    digits.take whole ++ '.' :: digits.drop whole

def ofDigits (whole fraction : List Char) : Decimal :=
  ⟨Nat.ofDigitChars 10 (whole ++ fraction) 0, -(fraction.length : Int)⟩

end Decimal

end LevelFormat.Number
