import LevelFormat.Number.Power

/-!
Double-precision numbers, held as their bits.

Every finite magnitude is a whole number of units of `2 ^ -1074`, the least positive number, so
values are compared and rounded as natural numbers, of two equally near ones to the even one. A
magnitude at or above `infiniteMagnitude` is infinite or no number at all.
-/

namespace LevelFormat.Number

def roundQuotient (numerator denominator : Nat) : Nat :=
  let below := numerator / denominator
  let left := numerator % denominator
  if 2 * left < denominator then below
  else if denominator < 2 * left then below + 1
  else below + below % 2

structure Binary64 where
  bits : UInt64
  deriving DecidableEq

namespace Binary64

def zero : Binary64 := ⟨0⟩

instance : Inhabited Binary64 := ⟨zero⟩

def unitsInOne : Nat := 2 ^ 1074

def leadingBit : Nat := 2 ^ 52

def infiniteMagnitude : Nat := 2047 * leadingBit

def isNegative (number : Binary64) : Bool := 2 ^ 63 ≤ number.bits.toNat

def magnitude (number : Binary64) : Nat := number.bits.toNat % 2 ^ 63

def isFinite (number : Binary64) : Bool := number.magnitude < infiniteMagnitude

def isInfinite (number : Binary64) : Bool := number.magnitude = infiniteMagnitude

def units (number : Binary64) : Nat :=
  let exponent := number.magnitude / leadingBit
  let fraction := number.magnitude % leadingBit
  if exponent = 0 then fraction else (leadingBit + fraction) * 2 ^ (exponent - 1)

def negate (number : Binary64) : Binary64 := ⟨number.bits ^^^ 0x8000000000000000⟩

def ofRatio (numerator denominator : Nat) : Binary64 :=
  let units := numerator * unitsInOne
  let exponent := (units / denominator).log2 - 52
  let significand := roundQuotient units (denominator * 2 ^ exponent)
  ⟨UInt64.ofNat (min (exponent * leadingBit + significand) infiniteMagnitude)⟩

def mul (first second : Binary64) : Binary64 :=
  ofRatio (first.units * second.units) (unitsInOne * unitsInOne)

def div (first second : Binary64) : Binary64 :=
  ofRatio first.units second.units

instance : Mul Binary64 := ⟨mul⟩

instance : Div Binary64 := ⟨div⟩

end Binary64

end LevelFormat.Number
