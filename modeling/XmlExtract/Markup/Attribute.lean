import XmlExtract.Error.Cause
import XmlExtract.Markup.Byte
import XmlExtract.Text.Blank

/-!
# Attributes of a tag

The attribute part of a tag as keys and values, still as bytes.  A key begins at
the first byte that is no blank, whatever that byte is, and ends at an equals sign
or a blank; a value stands between two quotes of one kind.  Blanks may stand
around the equals sign and between attributes, and an attribute may follow a quote
directly.

Attributes are read one after the other, and whoever takes them takes the ones
before the first flaw.
-/

namespace XmlExtract

/-- A key and a value, as bytes. -/
structure RawAttribute where
  key : List UInt8
  value : List UInt8
  deriving Repr, DecidableEq

namespace RawAttribute

/-- Whether a byte after the first belongs to a key. -/
def isKeyByte (byte : UInt8) : Bool := byte != Byte.equals && !isBlankByte byte

/-- The attributes in the rest of a tag whose content has `total` bytes, up to the
first flaw.  Earlier keys come with their positions; they count only if keys must
be `unique`. -/
def readFrom (unique : Bool) (total : Nat) (earlier : List (List UInt8 × Nat))
    (bytes : List UInt8) : List RawAttribute × Option AttributeFlaw :=
  match _atKey : bytes.dropWhile isBlankByte with
  | [] => ([], none)
  | first :: afterFirst =>
      let position := total - (afterFirst.length + 1)
      let key := first :: afterFirst.takeWhile isKeyByte
      match _atEquals : (afterFirst.dropWhile isKeyByte).dropWhile isBlankByte with
      | [] => ([], some (.missingEquals total))
      | equals :: afterEquals =>
          if equals != Byte.equals then
            ([], some (.missingEquals (total - (afterEquals.length + 1))))
          else
            match if unique then earlier.lookup key else none with
            | some previous => ([], some (.duplicate position previous))
            | none =>
                match _atQuote : afterEquals.dropWhile isBlankByte with
                | [] => ([], some (.missingValue total))
                | quote :: afterQuote =>
                    if quote != Byte.quote && quote != Byte.apostrophe then
                      ([], some (.unquotedValue (total - (afterQuote.length + 1))))
                    else
                      match _atClosing : afterQuote.dropWhile (· != quote) with
                      | [] =>
                          ([], some (.missingQuote total (Char.ofNat quote.toNat)))
                      | _ :: rest =>
                          let later := readFrom unique total ((key, position) :: earlier) rest
                          (⟨key, afterQuote.takeWhile (· != quote)⟩ :: later.1, later.2)
termination_by bytes.length
decreasing_by
  have toKey := (List.dropWhile_sublist isBlankByte (l := bytes)).length_le
  have pastKey := (List.dropWhile_sublist isKeyByte (l := afterFirst)).length_le
  have toEquals :=
    (List.dropWhile_sublist isBlankByte (l := afterFirst.dropWhile isKeyByte)).length_le
  have toQuote := (List.dropWhile_sublist isBlankByte (l := afterEquals)).length_le
  have pastValue := (List.dropWhile_sublist (· != quote) (l := afterQuote)).length_le
  simp_all only [List.length_cons]
  omega

/-- The attributes of a tag whose name ends at `offset`, up to the first flaw. -/
def readAll (unique : Bool) (offset : Nat) (content : List UInt8) :
    List RawAttribute × Option AttributeFlaw :=
  readFrom unique content.length [] (content.drop offset)

end RawAttribute

end XmlExtract
