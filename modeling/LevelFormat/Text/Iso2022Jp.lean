/-!
ISO-2022-JP: bytes below 128 whose meaning is switched by escape sequences.

An escape sequence names a character set for what follows. Two of them right after each other are
refused, because the first would have no use; at the end of a text one may stand alone. The table of
the characters of two bytes is not here: none of them is read, and texts are written in ASCII alone.
-/

namespace LevelFormat.Text.Iso2022Jp

inductive CharacterSet where
  | ascii
  | roman
  | katakana
  | kanji
  deriving DecidableEq

def escape : UInt8 := 0x1B

def isControl (byte : UInt8) : Bool := byte = escape || byte = 0x0E || byte = 0x0F

def CharacterSet.named? : UInt8 × UInt8 → Option CharacterSet
  | (0x28, 0x42) => some ascii
  | (0x28, 0x4A) => some roman
  | (0x28, 0x49) => some katakana
  | (0x24, 0x40) | (0x24, 0x42) => some kanji
  | _ => none

def asciiChar? (byte : UInt8) : Option Char :=
  if isControl byte || 128 ≤ byte then none else some (Char.ofNat byte.toNat)

def CharacterSet.char? : CharacterSet → UInt8 → Option Char
  | ascii, byte => asciiChar? byte
  | roman, byte =>
    if byte = 0x5C then some '¥' else if byte = 0x7E then some '‾' else asciiChar? byte
  | katakana, byte =>
    if 0x21 ≤ byte && byte ≤ 0x5F then some (Char.ofNat (0xFF61 + (byte.toNat - 0x21))) else none
  | kanji, _ => none

def charsOnto? (set : CharacterSet) (switched : Bool) (reversed : List Char) :
    List UInt8 → Option (List Char)
  | [] => some reversed.reverse
  | byte :: rest =>
    if byte = escape then
      match rest with
      | first :: second :: rest =>
        match CharacterSet.named? (first, second) with
        | some next => if switched then none else charsOnto? next true reversed rest
        | none => none
      | _ => none
    else
      match set.char? byte with
      | some char => charsOnto? set false (char :: reversed) rest
      | none => none

def decode? (bytes : List UInt8) : Option String :=
  (charsOnto? .ascii false [] bytes).map String.ofList

def encode? (text : String) : Option (List UInt8) :=
  text.toList.mapM fun char =>
    let byte := UInt8.ofNat char.toNat
    if 128 ≤ char.toNat || isControl byte then none else some byte

end LevelFormat.Text.Iso2022Jp
