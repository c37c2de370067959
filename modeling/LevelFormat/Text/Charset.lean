import LevelFormat.Fault
import LevelFormat.Text.Blank
import LevelFormat.Text.Utf8

/-!
Character encodings, as a library of them provides them.

What an encoding reads and what it writes is up to the library, and so is which labels it knows. Nothing
here says that an encoding reads what it writes: some encodings are written as others.
-/

namespace LevelFormat.Text

/-- An encoding with its reader, which refuses bytes that mean no text, and its writer, which
refuses texts that have no form in the encoding it writes. -/
structure Charset where
  name : String
  decode? : List UInt8 → Option String
  encode? : String → Option (List UInt8)

namespace Charset

def utf8 : Charset where
  name := "UTF-8"
  decode? := Utf8.decode?
  encode? text := some (Utf8.encode text)

instance : Inhabited Charset := ⟨utf8⟩

def decode (charset : Charset) (bytes : List UInt8) : Except Fault String :=
  match charset.decode? bytes with
  | some text => .ok text
  | none => .error (.malformedText (Utf8.decodeLossy bytes) .undecodable)

def encode (charset : Charset) (text : String) : Except Fault (List UInt8) :=
  match charset.encode? text with
  | some bytes => .ok bytes
  | none => .error (.malformedText text .unrepresentable)

def find (library : String → Option Charset) (label : String) : Except Fault Charset :=
  match library (String.ofList (trim label.toList)) with
  | some charset => .ok charset
  | none => .error (.unknownEncoding label)

end Charset

end LevelFormat.Text
