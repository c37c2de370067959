import LevelFormat.Json.Fault
import LevelFormat.Json.Lexeme

/-!
The numbers that numerals stand for.

A numeral without point and exponent is an integer where it fits into 64 bits. Any other is a
double-precision number: as many of its digits as fit into 64 bits, scaled by a power of ten.
-/

namespace LevelFormat.Json

open LevelFormat.Number (Binary64 Decimal)

def appendDigits (significand : Nat) : List Char → Nat × Nat
  | [] => (significand, 0)
  | digit :: rest =>
    let longer := 10 * significand + (digit.toNat - '0'.toNat)
    if longer < 2 ^ 64 then appendDigits longer rest else (significand, rest.length + 1)

def maxPower : Nat := 308

def powerOfTen (power : Nat) : Binary64 := Decimal.toBinary64 ⟨1, power⟩

def divideByPower (number : Binary64) (power : Nat) : Binary64 :=
  if power ≤ maxPower then number / powerOfTen power
  else if number.units = 0 then number
  else divideByPower (number / powerOfTen maxPower) (power - maxPower)
termination_by power
decreasing_by
  simp only [maxPower] at *
  omega

def scale? (significand : Nat) (exponent : Int) : Option Binary64 :=
  let number := Decimal.toBinary64 ⟨significand, 0⟩
  if exponent < 0 then some (divideByPower number (-exponent).toNat)
  else if significand = 0 then some number
  else if exponent ≤ maxPower then
    some (number * powerOfTen exponent.toNat) |>.filter (·.isFinite)
  else none

def Numeral.value? (numeral : Numeral) : Option Found :=
  let (whole, omitted) := appendDigits 0 numeral.whole
  let (significand, unread) := appendDigits whole numeral.fraction
  let places : Int := omitted - (numeral.fraction.length - unread : Nat)
  let signed (number : Binary64) : Found :=
    .float (if numeral.negative then number.negate else number)
  let isInteger := numeral.fraction.isEmpty && numeral.exponent.isNone && omitted = 0
  if isInteger && !numeral.negative then some (.integer whole)
  else if isInteger && 0 < whole && whole ≤ 2 ^ 63 then some (.integer (-whole))
  else (scale? significand (places + numeral.exponent.getD 0)).map signed

end LevelFormat.Json
