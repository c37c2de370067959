import LevelFormat.Text.Printable

/-!
The quoted form of a text, used where a message shows a text it could not use.

Quotation marks and backslashes are escaped, the usual blanks have short escapes, and any
other character that does not show is written by its code point.
-/

namespace LevelFormat.Text

def codePointEscape (char : Char) : List Char :=
  '\\' :: 'u' :: '\x7b' :: Nat.toDigits 16 char.toNat ++ ['\x7d']

def quotedChar : Char → List Char
  | '"' => ['\\', '"']
  | '\\' => ['\\', '\\']
  | '\n' => ['\\', 'n']
  | '\r' => ['\\', 'r']
  | '\t' => ['\\', 't']
  | '\x00' => ['\\', '0']
  | char => if isPrintable char then [char] else codePointEscape char

def quote (text : String) : String :=
  String.ofList ('"' :: text.toList.flatMap quotedChar ++ ['"'])

end LevelFormat.Text
