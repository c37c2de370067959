/-!
Strict and forgiving readings of UTF-8.

The strict reading is that of the core library. The forgiving one stands a replacement
character for each longest run of bytes that begins a character and cannot be continued.
-/

namespace LevelFormat.Text.Utf8

def decode? (bytes : List UInt8) : Option String := String.fromUTF8? ⟨bytes.toArray⟩

def encode (text : String) : List UInt8 := text.toUTF8.data.toList

theorem decode?_encode (text : String) : decode? (encode text) = some text := by
  have valid := text.isValidUTF8
  simp [decode?, encode, String.fromUTF8?, String.fromUTF8, valid]

structure Begun where
  value : Nat
  missing : Nat
  lowest : UInt8 := 0x80
  highest : UInt8 := 0xBF

structure Reading where
  reversed : List Char := []
  begun : Option Begun := none

def replacement : Char := '\ufffd'

def Reading.push (reading : Reading) (char : Char) : Reading :=
  ⟨char :: reading.reversed, none⟩

def Reading.begin (reading : Reading) (byte : UInt8) : Reading :=
  let value := byte.toNat
  if byte < 0x80 then reading.push (Char.ofNat value)
  else if byte < 0xC2 then reading.push replacement
  else if byte < 0xE0 then ⟨reading.reversed, some ⟨value - 0xC0, 1, 0x80, 0xBF⟩⟩
  else if byte = 0xE0 then ⟨reading.reversed, some ⟨value - 0xE0, 2, 0xA0, 0xBF⟩⟩
  else if byte = 0xED then ⟨reading.reversed, some ⟨value - 0xE0, 2, 0x80, 0x9F⟩⟩
  else if byte < 0xF0 then ⟨reading.reversed, some ⟨value - 0xE0, 2, 0x80, 0xBF⟩⟩
  else if byte = 0xF0 then ⟨reading.reversed, some ⟨value - 0xF0, 3, 0x90, 0xBF⟩⟩
  else if byte < 0xF4 then ⟨reading.reversed, some ⟨value - 0xF0, 3, 0x80, 0xBF⟩⟩
  else if byte = 0xF4 then ⟨reading.reversed, some ⟨value - 0xF0, 3, 0x80, 0x8F⟩⟩
  else reading.push replacement

/-- One more byte. A byte that does not continue the character under way ends it and begins the
next one. -/
def Reading.step (reading : Reading) (byte : UInt8) : Reading :=
  match reading.begun with
  | none => reading.begin byte
  | some begun =>
    if begun.lowest ≤ byte && byte ≤ begun.highest then
      let value := begun.value * 64 + (byte.toNat - 0x80)
      if begun.missing ≤ 1 then reading.push (Char.ofNat value)
      else ⟨reading.reversed, some ⟨value, begun.missing - 1, 0x80, 0xBF⟩⟩
    else (reading.push replacement).begin byte

def decodeLossy (bytes : List UInt8) : String :=
  let reading := bytes.foldl Reading.step ⟨[], none⟩
  let reading := if reading.begun.isSome then reading.push replacement else reading
  String.ofList reading.reversed.reverse

end LevelFormat.Text.Utf8
