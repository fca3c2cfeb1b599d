import XmlExtract.Markup.Attribute
import XmlExtract.Markup.Piece
import XmlExtract.Markup.Reference
import XmlExtract.Reply
import XmlExtract.Settings
import XmlExtract.Text.Charset

/-!
# Reading a document

The events of an input.  An input is cut into pieces, and the pieces are read in
order.  What earlier pieces settle for later ones is small: the encoding, and the
names of the open elements.

The encoding is UTF-8 unless the first bytes or a declaration say otherwise, and
the first declaration that names a known encoding is the last that counts.  Names,
text and values are decoded one by one, and after that the references in values are
resolved.  An empty element makes two events.  Pieces without content make none.
-/

namespace XmlExtract

/-- What a reader is told about a document. -/
structure ReadingRules where
  /-- An end tag must have the name of the innermost open element. -/
  checksEndNames : Bool
  /-- The bytes are UTF-8, whatever the document declares. -/
  knownUtf8 : Bool
  /-- What the bytes mean in a multi-byte encoding. -/
  decoders : Decoders
  deriving Repr

/-- What a reader with these settings is told. -/
def ReadingRules.ofSettings (settings : Settings) (knownUtf8 : Bool) : ReadingRules :=
  ⟨settings.checksEndNames, knownUtf8, settings.decoders⟩

/-- What the pieces so far have settled. -/
structure Reading where
  charset : Charset
  /-- Whether a declaration has named a known encoding. -/
  declared : Bool
  /-- The names of the open elements, innermost first. -/
  opened : List (List UInt8)
  deriving Repr, DecidableEq

namespace Reading

/-! ### The first bytes -/

/-- The encoding that the first buffer tells, and the length of the byte order mark
in front of the document. -/
def detect (buffer : List UInt8) : Charset × Nat :=
  if [0xFE, 0xFF].isPrefixOf buffer then (.utf16 .big, 2)
  else if [0xFF, 0xFE].isPrefixOf buffer then (.utf16 .little, 2)
  else if [0xEF, 0xBB, 0xBF].isPrefixOf buffer then (.utf8, 3)
  else if [0x00, 0x3C, 0x00, 0x3F].isPrefixOf buffer then (.utf16 .big, 0)
  else if [0x3C, 0x00, 0x3F, 0x00].isPrefixOf buffer then (.utf16 .little, 0)
  else (.utf8, 0)

/-- The reading of a document before its first piece. -/
def start (charset : Charset) : Reading := ⟨charset, false, []⟩

/-! ### Decoding -/

/-- The text that bytes write. -/
def decode (rules : ReadingRules) (reading : Reading) (bytes : List UInt8) :
    Except Invalidity String :=
  if rules.knownUtf8 then
    match Utf8.decode bytes with
    | .ok characters => .ok (String.ofList characters)
    | .error fault => .error (.notUtf8 fault)
  else
    match reading.charset.decode? rules.decoders bytes with
    | some characters => .ok (String.ofList characters)
    | none => .error (.undecodable reading.charset.name)

/-- A name as messages show it: in the encoding of the document, and as nothing if
it cannot be decoded. -/
def shownName (decoders : Decoders) (reading : Reading) (name : List UInt8) : String :=
  String.ofList ((reading.charset.decode? decoders name).getD [])

/-! ### Tags -/

/-- Decode one attribute: its key, its value, and the references in the value. -/
def readAttribute (rules : ReadingRules) (reading : Reading) (raw : RawAttribute) :
    Except Invalidity (String × String) := do
  let key ← reading.decode rules raw.key
  let value ← reading.decode rules raw.value
  match Reference.resolveAll value.toList with
  | .ok resolved => .ok (key, String.ofList resolved)
  | .error flaw => .error (.badReference flaw)

/-- The name in a start tag: what comes before the first blank. -/
def startName (content : List UInt8) : List UInt8 :=
  content.takeWhile (!isBlankByte ·)

/-- The start event of a tag.  Its name is decoded first, and then each attribute
before the next one is looked at. -/
def readStart (rules : ReadingRules) (reading : Reading) (content : List UInt8) :
    Except Invalidity Event := do
  let name ← reading.decode rules (startName content)
  let (raws, flaw) := RawAttribute.readAll true (startName content).length content
  let attributes ← raws.mapM (reading.readAttribute rules)
  match flaw with
  | some flaw => .error (.badAttribute flaw)
  | none => .ok (.elementStart name attributes)

/-- The end event of the element with this name. -/
def readEnd (rules : ReadingRules) (reading : Reading) (name : List UInt8) :
    Except Invalidity Event := do
  let decodedName ← reading.decode rules name
  .ok (.elementEnd decodedName)

/-- The name in an end tag, without blanks at the end.  A tag of blanks keeps
them. -/
def endName (content : List UInt8) : List UInt8 :=
  if content.all isBlankByte then content else Piece.trimEnd content

/-- Close the innermost open element by an end tag with this name. -/
def close (rules : ReadingRules) (reading : Reading) (name : List UInt8) :
    Except Malformation Reading :=
  match reading.opened with
  | [] => .error (.unmatchedEndTag (reading.shownName rules.decoders name))
  | expected :: outer =>
      if rules.checksEndNames && expected != name then
        .error (.mismatchedEndTag (reading.shownName rules.decoders expected)
          (reading.shownName rules.decoders name))
      else
        .ok { reading with opened := outer }

/-! ### Declarations -/

/-- The bytes of `encoding`. -/
def encodingKey : List UInt8 := Utf8.encodeString "encoding"

/-- The encoding that a declaration names, if it is known. -/
def declaredCharset? (content : List UInt8) : Option Charset :=
  ((RawAttribute.readAll false 3 content).1.find? (·.key == encodingKey)).bind
    fun raw => Charset.ofLabel? raw.value

/-- Take notice of a declaration, unless an earlier one has settled the encoding. -/
def declare (reading : Reading) (content : List UInt8) : Reading :=
  if reading.declared then reading
  else
    match declaredCharset? content with
    | some charset => { reading with charset := charset, declared := true }
    | none => reading

/-! ### Pieces -/

/-- The event of a chunk of text; an empty chunk makes none. -/
def textEvent (position : Nat) (text : String) : List (Nat × Event) :=
  if text.isEmpty then [] else [(position, .text text)]

/-- The invalidity, blamed on a position. -/
def blame {α : Type} (position : Nat) : Except Invalidity α → Except Error α
  | .ok value => .ok value
  | .error cause => .error (.invalid position cause)

/-- Read one token.  Answers its events with their positions, and what is settled
then. -/
def take (rules : ReadingRules) (reading : Reading) (piece : Piece) (token : Token) :
    Except Error (List (Nat × Event) × Reading) :=
  match token with
  | .text raw | .cdata raw => do
      let text ← blame piece.start (reading.decode rules raw)
      .ok (textEvent piece.start text, reading)
  | .reference name => do
      let name ← blame piece.start (reading.decode rules name)
      match Reference.resolve 1 name.toList with
      | .ok character =>
          .ok ([(piece.start, .text (String.singleton character))], reading)
      | .error flaw => .error (.invalid piece.start (.badReference flaw))
  | .startTag content isEmpty => do
      let event ← blame piece.start (reading.readStart rules content)
      if isEmpty then
        let ending ← blame piece.stop (reading.readEnd rules (startName content))
        .ok ([(piece.start, event), (piece.stop, ending)], reading)
      else
        .ok ([(piece.start, event)],
          { reading with opened := startName content :: reading.opened })
  | .endTag content =>
      match reading.close rules (endName content) with
      | .error cause => .error (.malformed piece.start cause)
      | .ok closed => do
          let event ← blame piece.start (closed.readEnd rules (endName content))
          .ok ([(piece.start, event)], closed)
  | .declaration content => .ok ([], reading.declare content)
  | .passedOver => .ok ([], reading)

/-- The replies for pieces, up to the end of the input or the first failure. -/
def replies (rules : ReadingRules) (input : Input) (reading : Reading) :
    List Piece → List Reply
  | [] => []
  | piece :: later =>
      let raised := input.stopRaisedBy piece.reach
      match piece.content with
      | .error error => [⟨piece.start, .error error, raised⟩]
      | .ok none => [⟨piece.start, .ok .documentEnd, raised⟩]
      | .ok (some token) =>
          match reading.take rules piece token with
          | .error error => [⟨piece.start, .error error, raised⟩]
          | .ok (events, reading) =>
              events.map (fun event => ⟨event.1, .ok event.2, raised⟩) ++
                replies rules input reading later

end Reading

/-- The replies of a reader for an input: the start of the document, and then what
its pieces make.  A byte order mark in the first buffer is dropped and counts in no
position. -/
def Input.replies (input : Input) (settings : Settings) (knownUtf8 : Bool) : List Reply :=
  let buffer := match input.firstBuffer with
    | .ok buffer => buffer
    | .error _ => []
  let (charset, markLength) := Reading.detect buffer
  let body := input.drop markLength
  ⟨0, .ok .documentStart, false⟩ ::
    Reading.replies (.ofSettings settings knownUtf8) body (Reading.start charset)
      (Piece.cut settings.trimsText body)

end XmlExtract
