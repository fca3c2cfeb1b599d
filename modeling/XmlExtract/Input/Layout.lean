import XmlExtract.Error
import XmlExtract.Text.Utf16
import XmlExtract.Text.Utf8

/-!
# The byte layout of an input

Markup is found byte by byte, which is right for every encoding that writes ASCII
characters as single bytes.  UTF-16 does not, so an input that looks like UTF-16
is transcoded to UTF-8 as a whole before it is read.
-/

namespace XmlExtract

open Utf16 (ByteOrder)

/-- How an input writes ASCII characters. -/
inductive Layout where
  /-- As single bytes. -/
  | ascii
  | utf16 (order : ByteOrder)
  deriving Repr, DecidableEq

namespace Layout

/-- The layout that the first two bytes tell: a byte order mark, or the opening of
a tag. -/
def detect : List UInt8 → Layout
  | first :: second :: _ =>
      if first == 0xFF && second == 0xFE || first == 0x3C && second == 0x00 then
        utf16 .little
      else if first == 0xFE && second == 0xFF || first == 0x00 && second == 0x3C then
        utf16 .big
      else
        ascii
  | _ => ascii

/-- Whether the layout is that of UTF-16. -/
def needsTranscoding : Layout → Bool
  | ascii => false
  | utf16 _ => true

/-- The UTF-8 form of UTF-16 bytes, which may begin with a byte order mark.  An odd
byte is blamed on the end of the input, an unpaired surrogate on the place it
would have if every character before it took one unit. -/
def utf16ToUtf8 (order : ByteOrder) (input : List UInt8) :
    Except Error (List UInt8) :=
  let markLength := if order.mark.isPrefixOf input then 2 else 0
  match Utf16.units? order (input.drop markLength) with
  | none => .error (.invalid input.length .oddUtf16)
  | some units =>
      match Utf16.decode units with
      | .ok characters => .ok (Utf8.encode characters)
      | .error unpaired =>
          .error (.invalid (markLength + 2 * unpaired.before)
            (.unpairedSurrogate unpaired.unit))

/-- The input in an ASCII-compatible layout. -/
def transcode (layout : Layout) (input : List UInt8) : Except Error (List UInt8) :=
  match layout with
  | ascii => .ok input
  | utf16 order => utf16ToUtf8 order input

end Layout

end XmlExtract
