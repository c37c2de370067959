import LevelFormat.Fault
import LevelFormat.Number.Numeral
import LevelFormat.Number.Shortest

/-!
The ways in which a JSON document can fail to be a record, and the message of each.
-/

namespace LevelFormat.Json

open LevelFormat.Number (Binary64)

inductive Found where
  | null
  | boolean (value : Bool)
  | integer (value : Int)
  | float (value : Binary64)
  | string (value : List Char)
  | sequence
  | map
  deriving DecidableEq

inductive Fault where
  | malformed
  | invalidType (found : Found) (expected : String)
  | invalidValue (found : Found) (expected : String)
  | invalidLength (length : Nat) (expected : String)
  | missingField (name : String)
  | duplicateField (name : String)
  | refused (fault : LevelFormat.Fault)
  deriving DecidableEq

def scientific (digits : List Char) (exponent : Int) : List Char :=
  let fraction := digits.drop 1
  digits.take 1 ++ (if fraction.isEmpty then [] else '.' :: fraction) ++
    'e' :: (if 0 ≤ exponent then ['+'] else []) ++ Number.integerText exponent

def floatText (number : Binary64) : List Char :=
  let decimal := number.shortest .even
  let point : Int := decimal.digits.length + decimal.exponent
  (if number.isNegative then ['-'] else []) ++
    if -5 < point && point ≤ 16 then
      decimal.positional ++ (if 0 ≤ decimal.exponent then ['.', '0'] else [])
    else scientific decimal.digits (point - 1)

def Found.text : Found → String
  | null => "null"
  | boolean value => s!"boolean `{value}`"
  | integer value => s!"integer `{value}`"
  | float value => "floating point `" ++ String.ofList (floatText value) ++ "`"
  | string value => "string " ++ Text.quote (String.ofList value)
  | sequence => "sequence"
  | map => "map"

def Fault.message : Fault → String
  | malformed => "malformed document"
  | invalidType found expected => s!"invalid type: {found.text}, expected {expected}"
  | invalidValue found expected => s!"invalid value: {found.text}, expected {expected}"
  | invalidLength length expected => s!"invalid length {length}, expected {expected}"
  | missingField name => s!"missing field `{name}`"
  | duplicateField name => s!"duplicate field `{name}`"
  | refused fault => fault.message

end LevelFormat.Json
