import XmlExtract.Text.Unprintable

/-!
# Quoted text

A text between double quotes that shows what it holds.  Tab, line feed, carriage
return and the zero character have escapes of one letter, a quote and a backslash
are escaped by a backslash, every other character without a shape of its own is
written as its code point in hexadecimal digits, and the rest stands for itself.
-/

namespace XmlExtract.Quoted

/-- The escape of a code point: its hexadecimal digits in braces. -/
def escapeCode (character : Char) : List Char :=
  ['\\', 'u', '\x7b'] ++ Nat.toDigits 16 character.toNat ++ ['\x7d']

/-- What stands for one character. -/
def encodeChar (character : Char) : List Char :=
  match character with
  | '\x00' => ['\\', '0']
  | '\t' => ['\\', 't']
  | '\n' => ['\\', 'n']
  | '\r' => ['\\', 'r']
  | '\"' => ['\\', '\"']
  | '\\' => ['\\', '\\']
  | other => if Unprintable.contains other then escapeCode other else [other]

/-- The quoted form of a text. -/
def encode (text : String) : String :=
  String.ofList ('\"' :: text.toList.flatMap encodeChar ++ ['\"'])

end XmlExtract.Quoted
