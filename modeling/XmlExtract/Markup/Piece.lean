import XmlExtract.Input.Delivery
import XmlExtract.Markup.Token

/-!
# Pieces of a document

An input cut into tokens, each with the offsets between which it was read.  The
cutting depends on the bytes and on whether text is trimmed, and on nothing else;
in particular it is the same for every encoding.

The list of pieces ends with the end of the input or with the first failure.
-/

namespace XmlExtract

/-- A token in its place.  Offsets count bytes from the start of the input. -/
structure Piece where
  /-- Where reading began. -/
  start : Nat
  /-- Where reading ended. -/
  stop : Nat
  /-- How many bytes had been asked for by then; the end counts as a byte. -/
  reach : Nat
  /-- The token, or `none` for the end of the input. -/
  content : Except Error (Option Token)
  deriving Repr

namespace Piece

/-- The text that remains of a run of text after trimming its end. -/
def trimEnd (raw : List UInt8) : List UInt8 :=
  (raw.reverse.dropWhile isBlankByte).reverse

/-- A token with its text trimmed at the end. -/
def trimToken : Token → Token
  | .text raw => .text (trimEnd raw)
  | token => token

/-- The piece that a lexeme makes when reading began at `start` and skipped some
blanks.  A lexeme that asks for a byte after the last meets the fault of the input,
if it has one. -/
def ofLexeme (trim : Bool) (fault : Option Error) (start skipped : Nat)
    (lexeme : Lexeme) : Piece :=
  let stop := start + skipped + lexeme.size
  { start := start
    stop := stop
    reach := if lexeme.peeked then stop + 1 else stop
    content :=
      match lexeme.asksBeyond, fault, lexeme.token with
      | true, some error, _ => .error error
      | _, _, .error cause => .error (.malformed start cause)
      | _, _, .ok token => .ok (some (if trim then trimToken token else token)) }

/-- The piece at the end of the input. -/
def atEnd (fault : Option Error) (start skipped : Nat) : Piece where
  start := start
  stop := start + skipped
  reach := start + skipped + 1
  content :=
    match fault with
    | some error => .error error
    | none => .ok none

/-- Cut the bytes from offset `start` on.  With `trim`, blanks before a token are
skipped, and it is read as if it began before them. -/
def cutFrom (trim : Bool) (fault : Option Error) (start : Nat) (bytes : List UInt8) :
    List Piece :=
  let blanks := if trim then bytes.takeWhile isBlankByte else []
  let rest := if trim then bytes.dropWhile isBlankByte else bytes
  if rest.isEmpty then
    [atEnd fault start blanks.length]
  else
    let lexeme := Lexeme.read rest
    let piece := ofLexeme trim fault start blanks.length lexeme
    match piece.content with
    | .ok _ => piece :: cutFrom trim fault piece.stop lexeme.rest
    | .error _ => [piece]
termination_by bytes.length
decreasing_by
  rename_i notEmpty
  have restLe : rest.length ≤ bytes.length := by
    show (if trim then bytes.dropWhile isBlankByte else bytes).length ≤ bytes.length
    split
    · exact (List.dropWhile_sublist isBlankByte).length_le
    · exact Nat.le_refl _
  exact Nat.lt_of_lt_of_le
    (Lexeme.read_rest_length_lt fun empty => notEmpty (List.isEmpty_iff.2 empty)) restLe

/-- Cut an input. -/
def cut (trim : Bool) (input : Input) : List Piece :=
  cutFrom trim input.fault 0 input.bytes

end Piece

end XmlExtract
