import XmlExtract.Text.Digits

/-!
# Addresses of hosts

A host can be named by a number instead of a word: by the 32 bits of an IPv4 address,
in up to four parts between dots, or by the 128 bits of an IPv6 address, in up to
eight pieces between colons.  The URL Standard says which texts are read so; each
address has one written form.
-/

namespace XmlExtract.Address

/-! ### Four parts -/

/-- The number that a part writes: hexadecimal after `0x`, octal after another zero. -/
def readPart? (part : List Char) : Option Nat :=
  match part with
  | [] => none
  | '0' :: 'x' :: digits | '0' :: 'X' :: digits => Digits.read? 16 digits
  | '0' :: digit :: digits => Digits.read? 8 (digit :: digits)
  | digits => Digits.read? 10 digits

/-- The parts between dots, without an empty one at the end. -/
def parts (host : List Char) : List (List Char) :=
  let parts := host.splitOn '.'
  if parts.getLast? = some [] then parts.dropLast else parts

/-- Whether a host must be read as an address: its last part is a number. -/
def endsInNumber (host : List Char) : Bool :=
  match (parts host).getLast? with
  | none => false
  | some last =>
      !last.isEmpty && last.all Char.isDigit || (readPart? last).isSome

/-- How many numbers a count of bytes can write. -/
def byteRange (count : Nat) : Nat := 1 <<< (8 * count)

/-- The value of numbers of which the last one fills all bytes that are left. -/
def joinParts? (numbers : List Nat) : Option Nat :=
  match numbers.reverse with
  | [] => none
  | last :: before =>
      let range := byteRange (4 - before.length)
      if 3 < before.length ∨ before.any (255 < ·) ∨ range ≤ last then
        none
      else
        some (before.reverse.foldl (fun value number => 256 * value + number) 0 * range + last)

/-- The IPv4 address that a host writes. -/
def readFour? (host : List Char) : Option Nat := (parts host).mapM readPart? >>= joinParts?

/-- The written form of an IPv4 address. -/
def renderFour (address : Nat) : List Char :=
  let part (position : Nat) : List Char :=
    (toString (address / byteRange position % 256)).toList
  part 3 ++ '.' :: part 2 ++ '.' :: part 1 ++ '.' :: part 0

/-! ### Eight pieces -/

/-- A decimal part of an IPv4 address within an IPv6 address. -/
def readPlainPart? (part : List Char) : Option Nat :=
  match part with
  | ['0'] => some 0
  | '0' :: _ | [] => none
  | digits => (Digits.read? 10 digits).filter (· ≤ 255)

/-- The piece that up to four hexadecimal digits write. -/
def readPiece? (piece : List Char) : Option Nat :=
  if piece.isEmpty || 4 < piece.length then none else Digits.read? 16 piece

/-- The pieces between colons.  The last one may be an IPv4 address, which counts for
two. -/
def readPieces? : List (List Char) → Option (List Nat)
  | [] => some []
  | [last] =>
      if last.contains '.' then
        match (last.splitOn '.').mapM readPlainPart? with
        | some [first, second, third, fourth] =>
            some [256 * first + second, 256 * third + fourth]
        | _ => none
      else
        (readPiece? last).map fun piece => [piece]
  | piece :: rest => do
      let piece ← readPiece? piece
      let rest ← readPieces? rest
      some (piece :: rest)

/-- The pieces of a text between colons; an empty text has none. -/
def readSide? (side : List Char) : Option (List Nat) :=
  if side.isEmpty then some [] else readPieces? (side.splitOn ':')

/-- Split a text at its first two colons in a row. -/
def splitGap? : List Char → Option (List Char × List Char)
  | ':' :: ':' :: rest => some ([], rest)
  | character :: rest =>
      (splitGap? rest).map fun (before, after) => (character :: before, after)
  | [] => none

/-- The IPv6 address that a text writes; two colons stand for the zeros left out. -/
def readEight? (text : List Char) : Option (List Nat) :=
  match splitGap? text with
  | none => (readSide? text).filter (·.length = 8)
  | some (before, after) => do
      if before.contains '.' then none
      let before ← readSide? before
      let after ← readSide? after
      if 7 < before.length + after.length then none
      else some (before ++ List.replicate (8 - before.length - after.length) 0 ++ after)

/-- How many zeros stand at a position. -/
def zerosAt (pieces : List Nat) (position : Nat) : Nat :=
  ((pieces.drop position).takeWhile (· == 0)).length

/-- The first of the longest runs of two or more zeros. -/
def longestGap? (pieces : List Nat) : Option Nat :=
  let longest := ((List.range pieces.length).map (zerosAt pieces)).foldl max 0
  if longest < 2 then none
  else (List.range pieces.length).find? (zerosAt pieces · = longest)

/-- The written form of pieces. -/
def renderPieces (pieces : List Nat) : List Char :=
  List.intercalate [':'] (pieces.map (Nat.toDigits 16))

/-- The written form of an IPv6 address. -/
def renderEight (pieces : List Nat) : List Char :=
  match longestGap? pieces with
  | none => renderPieces pieces
  | some gap =>
      renderPieces (pieces.take gap) ++ ':' :: ':' ::
        renderPieces (pieces.drop (gap + zerosAt pieces gap))

end XmlExtract.Address
