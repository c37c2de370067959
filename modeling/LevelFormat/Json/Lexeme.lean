/-!
The words of a JSON document: literals, strings and numerals.

Each function here takes one word off the front of a text and gives back what is left.
-/

namespace LevelFormat.Json

def isBlank (char : Char) : Bool := char = ' ' || char = '\n' || char = '\r' || char = '\t'

def afterLiteral? (literal text : List Char) : Option (List Char) :=
  if literal.isPrefixOf text then some (text.drop literal.length) else none

/-! ### Strings -/

inductive Piece where
  | char (char : Char)
  | unit (value : Nat)

def hexDigit? (char : Char) : Option Nat :=
  if char.isDigit then some (char.toNat - '0'.toNat)
  else if 'a' ≤ char && char ≤ 'f' then some (char.toNat - 'a'.toNat + 10)
  else if 'A' ≤ char && char ≤ 'F' then some (char.toNat - 'A'.toNat + 10)
  else none

def hexNumber? (digits : List Char) : Option Nat :=
  digits.foldlM (fun value digit => (hexDigit? digit).map (16 * value + ·)) 0

def escaped? : Char → Option Char
  | '"' => some '"'
  | '\\' => some '\\'
  | '/' => some '/'
  | 'b' => some '\x08'
  | 'f' => some '\x0C'
  | 'n' => some '\n'
  | 'r' => some '\r'
  | 't' => some '\t'
  | _ => none

def piecesOnto? (reversed : List Piece) : List Char → Option (List Piece × List Char)
  | [] => none
  | '"' :: rest => some (reversed.reverse, rest)
  | '\\' :: 'u' :: first :: second :: third :: fourth :: rest =>
    match hexNumber? [first, second, third, fourth] with
    | some value => piecesOnto? (.unit value :: reversed) rest
    | none => none
  | '\\' :: letter :: rest =>
    match escaped? letter with
    | some char => piecesOnto? (.char char :: reversed) rest
    | none => none
  | char :: rest => if char < ' ' then none else piecesOnto? (.char char :: reversed) rest

def pieces? (text : List Char) : Option (List Piece × List Char) := piecesOnto? [] text

def isHighSurrogate (unit : Nat) : Bool := 0xD800 ≤ unit && unit < 0xDC00

def isLowSurrogate (unit : Nat) : Bool := 0xDC00 ≤ unit && unit < 0xE000

def charsOnto? (reversed : List Char) : List Piece → Option (List Char)
  | [] => some reversed.reverse
  | .char char :: rest => charsOnto? (char :: reversed) rest
  | .unit high :: rest =>
    if isLowSurrogate high then none
    else if isHighSurrogate high then
      match rest with
      | .unit low :: rest =>
        if isLowSurrogate low then
          let point := 0x10000 + (high - 0xD800) * 0x400 + (low - 0xDC00)
          charsOnto? (Char.ofNat point :: reversed) rest
        else none
      | _ => none
    else charsOnto? (Char.ofNat high :: reversed) rest

def chars? (pieces : List Piece) : Option (List Char) := charsOnto? [] pieces

/-! ### Numerals -/

structure Numeral where
  negative : Bool
  whole : List Char
  fraction : List Char
  exponent : Option Int

def digits? (text : List Char) : Option (List Char × List Char) :=
  match text.takeWhile Char.isDigit with
  | [] => none
  | digits => some (digits, text.dropWhile Char.isDigit)

def sign : List Char → Bool × List Char
  | '-' :: rest => (true, rest)
  | text => (false, text)

def whole? (text : List Char) : Option (List Char × List Char) :=
  match digits? text with
  | some ('0' :: _ :: _, _) => none
  | found => found

def fraction? : List Char → Option (List Char × List Char)
  | '.' :: rest => digits? rest
  | text => some ([], text)

def power? (text : List Char) : Option (Int × List Char) :=
  let (negative, text) :=
    match text with
    | '+' :: rest => (false, rest)
    | text => sign text
  (digits? text).map fun (digits, rest) =>
    let size : Int := Nat.ofDigitChars 10 digits 0
    (if negative then -size else size, rest)

def exponent? : List Char → Option (Option Int × List Char)
  | 'e' :: rest => (power? rest).map fun (power, rest) => (some power, rest)
  | 'E' :: rest => (power? rest).map fun (power, rest) => (some power, rest)
  | text => some (none, text)

def numeral? (text : List Char) : Option (Numeral × List Char) := do
  let (negative, rest) := sign text
  let (whole, rest) ← whole? rest
  let (fraction, rest) ← fraction? rest
  let (exponent, rest) ← exponent? rest
  return (⟨negative, whole, fraction, exponent⟩, rest)

end LevelFormat.Json
