import LevelFormat.Wire.Word

/-!
Strict reading of UTF-16 in either byte order.

An odd number of bytes, and a surrogate without its partner, are refused. A byte order mark is
a character like any other.
-/

namespace LevelFormat.Text.Utf16

open LevelFormat.Wire (Order Word)

def unitsFrom (order : Order) (reversed : List UInt16) : List UInt8 → Option (List UInt16)
  | [] => some reversed.reverse
  | [_] => none
  | first :: second :: rest => unitsFrom order (Word.ofBytes order [first, second] :: reversed) rest

def isHighSurrogate (unit : UInt16) : Bool := 0xD800 ≤ unit && unit ≤ 0xDBFF

def isLowSurrogate (unit : UInt16) : Bool := 0xDC00 ≤ unit && unit ≤ 0xDFFF

def pairChar (high low : UInt16) : Char :=
  Char.ofNat (0x10000 + (high.toNat - 0xD800) * 0x400 + (low.toNat - 0xDC00))

def charsFrom (reversed : List Char) : List UInt16 → Option (List Char)
  | [] => some reversed.reverse
  | high :: low :: rest =>
    if isHighSurrogate high then
      if isLowSurrogate low then charsFrom (pairChar high low :: reversed) rest else none
    else if isLowSurrogate high then none
    else charsFrom (Char.ofNat high.toNat :: reversed) (low :: rest)
  | [unit] =>
    if isHighSurrogate unit || isLowSurrogate unit then none
    else some (Char.ofNat unit.toNat :: reversed).reverse

def decode? (order : Order) (bytes : List UInt8) : Option String := do
  let units ← unitsFrom order [] bytes
  let chars ← charsFrom [] units
  return String.ofList chars

end LevelFormat.Text.Utf16
