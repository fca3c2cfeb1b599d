import XmlExtract.Text.Digits
import XmlExtract.Text.Utf8

/-!
# Percent encoding

A byte as a percent sign and two hexadecimal digits.  Which characters are written
so depends on the part of a locator; control characters and characters outside of
ASCII always are, byte by byte in their UTF-8 form.
-/

namespace XmlExtract.Percent

/-- An upper-case hexadecimal digit. -/
def digit (value : Nat) : Char := (Nat.digitChar value).toUpper

/-- The encoded form of a byte. -/
def encodeByte (byte : UInt8) : List Char :=
  ['%', digit (byte.toNat / 16), digit (byte.toNat % 16)]

/-- Encode the control characters, the characters outside of ASCII, and those listed
in `escaped`. -/
def encode (escaped : String) (text : List Char) : List Char :=
  text.flatMap fun character =>
    if character.toNat < 0x20 || 0x7E < character.toNat ||
        escaped.toList.contains character then
      (String.utf8EncodeChar character).flatMap encodeByte
    else
      [character]

/-- The bytes that a text stands for.  A percent sign without two digits stands for
itself. -/
def decode : List Char → List UInt8
  | [] => []
  | '%' :: high :: low :: rest =>
      match Digits.value? 16 high, Digits.value? 16 low with
      | some high, some low => UInt8.ofNat (16 * high + low) :: decode rest
      | _, _ => 0x25 :: decode (high :: low :: rest)
  | character :: rest => String.utf8EncodeChar character ++ decode rest

end XmlExtract.Percent
