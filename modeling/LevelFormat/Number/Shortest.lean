import LevelFormat.Number.Decimal

/-!
The decimal with the fewest digits that is read back as a given number.

The powers of ten are tried from coarse to fine. On each of these grids the only candidates are
the two neighbours of the number, and each is tested by reading it back. Seventeen digits tell all
numbers apart, so a search of twenty grids has a hit.
-/

namespace LevelFormat.Number

inductive Tie where
  | up
  | even
  deriving DecidableEq

namespace Binary64

def multiple (number : Binary64) (exponent : Int) : Nat × Nat :=
  if 0 ≤ exponent then (number.units, unitsInOne * 10 ^ exponent.toNat)
  else (number.units * 10 ^ (-exponent).toNat, unitsInOne)

def readBack (number : Binary64) (decimal : Decimal) : Bool :=
  decimal.toBinary64.magnitude = number.magnitude

def nearestOnGrid? (tie : Tie) (number : Binary64) (exponent : Int) : Option Decimal :=
  let (numerator, denominator) := number.multiple exponent
  let left := numerator % denominator
  let below : Decimal := ⟨numerator / denominator, exponent⟩
  let above : Decimal := ⟨numerator / denominator + 1, exponent⟩
  match number.readBack below, number.readBack above with
  | false, false => none
  | true, false => some below
  | false, true => some above
  | true, true =>
    if 2 * left < denominator then some below
    else if denominator < 2 * left then some above
    else
      match tie with
      | .up => some above
      | .even => some (if below.coefficient % 2 = 0 then below else above)

def firstOnGrids? (tie : Tie) (number : Binary64) : Nat → Int → Option Decimal
  | 0, _ => none
  | count + 1, exponent =>
    match number.nearestOnGrid? tie exponent with
    | some decimal => some decimal
    | none => firstOnGrids? tie number count (exponent - 1)

def coarsestGrid (number : Binary64) : Int :=
  ((number.units.log2 : Int) - 1074) * 30103 / 100000 + 1

def exact (number : Binary64) : Decimal := ⟨number.units * 5 ^ 1074, -1074⟩

def shortest (tie : Tie) (number : Binary64) : Decimal :=
  if number.units = 0 then ⟨0, 0⟩
  else (firstOnGrids? tie number 20 number.coarsestGrid).getD number.exact

/-- The number in shortest decimal digits, without an exponent and without a point where no
digits stand behind it. -/
def text (number : Binary64) : List Char :=
  let sign := if number.isNegative then ['-'] else []
  if number.isFinite then sign ++ (number.shortest .up).positional
  else if number.isInfinite then sign ++ ['i', 'n', 'f']
  else ['N', 'a', 'N']

end Binary64

end LevelFormat.Number
