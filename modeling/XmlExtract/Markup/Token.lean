import XmlExtract.Error.Cause
import XmlExtract.Markup.Scan
import XmlExtract.Text.Blank
import XmlExtract.Text.Utf8

/-!
# Tokens

The constructs of markup as byte strings: runs of text, references, tags, CDATA
sections, declarations, and what a reader passes over.  Where a token ends does
not depend on the encoding, on the tags before it, or on what its content means.

`Lexeme.read` reads one token from bytes that are not empty.  It consumes at least
one byte (`Lexeme.read_rest_length_lt`).
-/

namespace XmlExtract

/-- A construct of markup, without its delimiters. -/
inductive Token where
  /-- A run of text. -/
  | text (raw : List UInt8)
  /-- The name between an ampersand and a semicolon. -/
  | reference (name : List UInt8)
  /-- The content of a start tag; an empty element has lost its slash. -/
  | startTag (content : List UInt8) (isEmpty : Bool)
  /-- The content of an end tag after its slash. -/
  | endTag (content : List UInt8)
  | cdata (raw : List UInt8)
  /-- The content of an XML declaration, which begins with `xml`. -/
  | declaration (content : List UInt8)
  /-- A comment, a processing instruction or a document type declaration. -/
  | passedOver
  deriving Repr, DecidableEq

/-- What reading one token comes to. -/
structure Lexeme where
  token : Except Malformation Token
  /-- How many bytes were consumed. -/
  size : Nat
  /-- The bytes that were not consumed. -/
  rest : List UInt8
  /-- Whether the byte after the consumed ones, or the end, was looked at. -/
  peeked : Bool
  deriving Repr

namespace Lexeme

/-- A token that was read up to its last byte. -/
def closed (token : Token) (size : Nat) (rest : List UInt8) : Lexeme :=
  ⟨.ok token, size, rest, false⟩

/-- A construct that was read up to its last byte and is wrong. -/
def wrong (cause : Malformation) (size : Nat) (rest : List UInt8) : Lexeme :=
  ⟨.error cause, size, rest, false⟩

/-- A construct that the end of the bytes cut short. -/
def cutShort (cause : Malformation) (size : Nat) : Lexeme :=
  ⟨.error cause, size, [], true⟩

/-- Whether reading asked for a byte after the last. -/
def asksBeyond (lexeme : Lexeme) : Bool := lexeme.rest.isEmpty && lexeme.peeked

/-! ### Kinds of tokens -/

/-- Whether a byte belongs to a run of text. -/
def isTextByte (byte : UInt8) : Bool := byte != Byte.less && byte != Byte.ampersand

/-- Whether a byte belongs to the name of a reference. -/
def isReferenceByte (byte : UInt8) : Bool :=
  byte != Byte.semicolon && byte != Byte.ampersand && byte != Byte.less

/-- Read a run of text. -/
def readText (bytes : List UInt8) : Lexeme :=
  let raw := bytes.takeWhile isTextByte
  ⟨.ok (.text raw), raw.length, bytes.dropWhile isTextByte, true⟩

/-- Read what follows an ampersand. -/
def readReference (bytes : List UInt8) : Lexeme :=
  let name := bytes.takeWhile isReferenceByte
  match bytes.dropWhile isReferenceByte with
  | [] => cutShort .unclosedReference (name.length + 1)
  | byte :: rest =>
      if byte == Byte.semicolon then closed (.reference name) (name.length + 2) rest
      else ⟨.error .unclosedReference, name.length + 1, byte :: rest, true⟩

/-- The token of a start tag with this content. -/
def ofStartTag (content : List UInt8) : Token :=
  if content.getLast? = some Byte.slash then .startTag content.dropLast true
  else .startTag content false

/-- Read what follows the opening of a tag. -/
def readTag (bytes : List UInt8) : Lexeme :=
  match scan Scanner.tag none bytes with
  | none => cutShort .unclosedTag (bytes.length + 1)
  | some (content, rest) =>
      match content with
      | byte :: name =>
          if byte == Byte.slash then closed (.endTag name) (content.length + 2) rest
          else closed (ofStartTag content) (content.length + 2) rest
      | [] => closed (ofStartTag []) 2 rest

/-- The bytes of `xml`. -/
def xmlName : List UInt8 := Utf8.encodeString "xml"

/-- The token of an instruction with this content. -/
def ofInstruction (content : List UInt8) : Token :=
  if content.take 3 = xmlName && (content.drop 3).head?.all isBlankByte then
    .declaration content
  else
    .passedOver

/-- Read what follows the opening of an instruction.  The closing question mark must
be another than the opening one. -/
def readInstruction (bytes : List UInt8) : Lexeme :=
  match scan Scanner.instruction true bytes with
  | none => cutShort .unclosedInstruction (bytes.length + 2)
  | some ([], rest) => wrong .unclosedInstruction 3 rest
  | some (content, rest) =>
      closed (ofInstruction content.dropLast) (content.length + 3) rest

/-- Read a comment after the exclamation mark. -/
def readComment (bytes : List UInt8) : Lexeme :=
  match scan Scanner.comment (1, 0) bytes with
  | none => cutShort .unclosedComment (bytes.length + 2)
  | some (content, rest) =>
      if content.take 2 = [Byte.hyphen, Byte.hyphen] then
        closed .passedOver (content.length + 3) rest
      else
        wrong .unclosedComment (content.length + 3) rest

/-- The bytes that open a CDATA section after the exclamation mark. -/
def cdataOpening : List UInt8 := Utf8.encodeString "[CDATA["

/-- Read a CDATA section after the exclamation mark. -/
def readCData (bytes : List UInt8) : Lexeme :=
  match scan Scanner.cdata 0 bytes with
  | none => cutShort .unclosedCData (bytes.length + 2)
  | some (content, rest) =>
      if content.take 7 = cdataOpening then
        closed (.cdata ((content.drop 7).dropLast.dropLast)) (content.length + 3) rest
      else
        wrong .unclosedCData (content.length + 3) rest

/-- The upper-case form of an ASCII letter; other bytes stay. -/
def upperByte (byte : UInt8) : UInt8 :=
  if 0x61 ≤ byte && byte ≤ 0x7A then byte - 0x20 else byte

/-- The bytes of `DOCTYPE`. -/
def doctypeName : List UInt8 := Utf8.encodeString "DOCTYPE"

/-- Read a document type declaration after the exclamation mark.  It must name a
type. -/
def readDoctype (bytes : List UInt8) : Lexeme :=
  match scan Scanner.doctype 0 bytes with
  | none => cutShort .unclosedDoctype (bytes.length + 2)
  | some (content, rest) =>
      if (content.take 7).map upperByte ≠ doctypeName then
        wrong .unclosedDoctype (content.length + 3) rest
      else if (content.drop 7).all isBlankByte then
        wrong .unnamedDoctype (content.length + 3) rest
      else
        closed .passedOver (content.length + 3) rest

/-- Read what follows `<!`.  The next byte decides what it is. -/
def readExclamation (bytes : List UInt8) : Lexeme :=
  match bytes.head? with
  | none => cutShort .unknownMarkup 2
  | some byte =>
      if byte == Byte.openBracket then readCData bytes
      else if byte == Byte.hyphen then readComment bytes
      else if upperByte byte == 0x44 then readDoctype bytes
      else ⟨.error .unknownMarkup, 2, bytes, true⟩

/-- Read what follows `<`. -/
def readMarkup (bytes : List UInt8) : Lexeme :=
  match bytes with
  | [] => cutShort .unclosedTag 1
  | byte :: rest =>
      if byte == Byte.exclamation then readExclamation rest
      else if byte == Byte.question then readInstruction rest
      else readTag bytes

/-- Read one token. -/
def read (bytes : List UInt8) : Lexeme :=
  match bytes with
  | [] => readText []
  | byte :: rest =>
      if byte == Byte.less then readMarkup rest
      else if byte == Byte.ampersand then readReference rest
      else readText bytes

/-! ### Progress -/

theorem readText_rest_length_lt {byte : UInt8} {bytes : List UInt8}
    (isText : isTextByte byte) :
    (readText (byte :: bytes)).rest.length < (byte :: bytes).length := by
  have shorter := (List.dropWhile_sublist isTextByte (l := bytes)).length_le
  simp only [readText, List.dropWhile_cons, isText, if_true, List.length_cons]
  omega

theorem readReference_rest_length_le (bytes : List UInt8) :
    (readReference bytes).rest.length ≤ bytes.length := by
  have shorter := (List.dropWhile_sublist isReferenceByte (l := bytes)).length_le
  unfold readReference
  split
  · simp [cutShort]
  · rename_i equal
    rw [equal, List.length_cons] at shorter
    split <;> simp only [closed, List.length_cons] <;> omega

theorem readTag_rest_length_le (bytes : List UInt8) :
    (readTag bytes).rest.length ≤ bytes.length := by
  unfold readTag
  split
  · simp [cutShort]
  · rename_i found
    have shorter := scan_rest_length_lt found
    split
    · split <;> simp only [closed] <;> omega
    · simp only [closed]; omega

theorem readInstruction_rest_length_le (bytes : List UInt8) :
    (readInstruction bytes).rest.length ≤ bytes.length := by
  unfold readInstruction
  split
  · simp [cutShort]
  · rename_i found
    have shorter := scan_rest_length_lt found
    simp only [wrong]; omega
  · rename_i found
    have shorter := scan_rest_length_lt found
    simp only [closed]; omega

theorem readExclamation_rest_length_le (bytes : List UInt8) :
    (readExclamation bytes).rest.length ≤ bytes.length := by
  unfold readExclamation
  split
  · simp [cutShort]
  · split
    · unfold readCData
      split
      · simp [cutShort]
      · rename_i found
        have shorter := scan_rest_length_lt found
        split <;> simp only [closed, wrong] <;> omega
    · split
      · unfold readComment
        split
        · simp [cutShort]
        · rename_i found
          have shorter := scan_rest_length_lt found
          split <;> simp only [closed, wrong] <;> omega
      · split
        · unfold readDoctype
          split
          · simp [cutShort]
          · rename_i found
            have shorter := scan_rest_length_lt found
            split
            · simp only [wrong]; omega
            · split <;> simp only [closed, wrong] <;> omega
        · exact Nat.le_refl _

/-- Reading a token consumes at least one byte. -/
theorem read_rest_length_lt {bytes : List UInt8} (notEmpty : bytes ≠ []) :
    (read bytes).rest.length < bytes.length := by
  match bytes with
  | byte :: rest =>
      simp only [read]
      split
      · unfold readMarkup
        split
        · simp [cutShort]
        · split
          · have shorter := readExclamation_rest_length_le
            simp only [List.length_cons]
            exact Nat.lt_succ_of_le (Nat.le_succ_of_le (shorter _))
          · split
            · have shorter := readInstruction_rest_length_le
              simp only [List.length_cons]
              exact Nat.lt_succ_of_le (Nat.le_succ_of_le (shorter _))
            · exact Nat.lt_succ_of_le (readTag_rest_length_le _)
      · split
        · exact Nat.lt_succ_of_le (readReference_rest_length_le rest)
        · rename_i notLess notAmpersand
          apply readText_rest_length_lt
          simp_all [isTextByte]

end Lexeme

end XmlExtract
