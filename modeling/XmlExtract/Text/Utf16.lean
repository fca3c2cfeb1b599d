/-!
# UTF-16

Characters as sequences of sixteen-bit units, and units as pairs of bytes in
either order.  A code point above `0xFFFF` takes two units, a high and a low
surrogate; a surrogate in any other place is unpaired, and no text has one.
-/

namespace XmlExtract.Utf16

/-- Which byte of a unit comes first. -/
inductive ByteOrder where
  /-- The low byte. -/
  | little
  /-- The high byte. -/
  | big
  deriving Repr, DecidableEq

namespace ByteOrder

/-- The unit that two bytes write. -/
def unit (order : ByteOrder) (first second : UInt8) : Nat :=
  match order with
  | little => second.toNat * 0x100 + first.toNat
  | big => first.toNat * 0x100 + second.toNat

/-- The two bytes that write a unit. -/
def bytes (order : ByteOrder) (unit : Nat) : List UInt8 :=
  match order with
  | little => [UInt8.ofNat (unit % 0x100), UInt8.ofNat (unit / 0x100)]
  | big => [UInt8.ofNat (unit / 0x100), UInt8.ofNat (unit % 0x100)]

/-- The byte order mark: the character `0xFEFF` at the start of a text. -/
def mark (order : ByteOrder) : List UInt8 := order.bytes 0xFEFF

end ByteOrder

/-- The units of a list of bytes, unless a byte is left over. -/
def units? (order : ByteOrder) : List UInt8 → Option (List Nat)
  | [] => some []
  | [_] => none
  | first :: second :: rest =>
      (units? order rest).map (order.unit first second :: ·)

/-- Whether a unit is the first of a pair. -/
def isHighSurrogate (unit : Nat) : Bool := 0xD800 ≤ unit && unit ≤ 0xDBFF

/-- Whether a unit is the second of a pair. -/
def isLowSurrogate (unit : Nat) : Bool := 0xDC00 ≤ unit && unit ≤ 0xDFFF

/-- The character of a pair. -/
def ofPair (high low : Nat) : Char :=
  Char.ofNat (0x10000 + (high - 0xD800) * 0x400 + (low - 0xDC00))

/-- An unpaired surrogate, and how many characters come before it. -/
structure Unpaired where
  unit : Nat
  before : Nat
  deriving Repr, DecidableEq

/-- Decode the units that follow `count` characters, which were `before` in
reverse. -/
def decodeAfter (count : Nat) (before : List Char) :
    List Nat → Except Unpaired (List Char)
  | [] => .ok before.reverse
  | unit :: rest =>
      if isHighSurrogate unit then
        match rest with
        | low :: rest =>
            if isLowSurrogate low then
              decodeAfter (count + 1) (ofPair unit low :: before) rest
            else
              .error ⟨unit, count⟩
        | [] => .error ⟨unit, count⟩
      else if isLowSurrogate unit then
        .error ⟨unit, count⟩
      else
        decodeAfter (count + 1) (Char.ofNat unit :: before) rest

/-- The characters that units write, or the first unpaired surrogate. -/
def decode (units : List Nat) : Except Unpaired (List Char) :=
  decodeAfter 0 [] units

/-- The units of one character. -/
def encodeChar (character : Char) : List Nat :=
  if character.toNat < 0x10000 then
    [character.toNat]
  else
    let offset := character.toNat - 0x10000
    [0xD800 + offset / 0x400, 0xDC00 + offset % 0x400]

/-- The bytes of characters in one byte order, without a byte order mark. -/
def encode (order : ByteOrder) (characters : List Char) : List UInt8 :=
  characters.flatMap fun character => (encodeChar character).flatMap order.bytes

end XmlExtract.Utf16
