import XmlExtract.Proofs.TextSlices
import XmlExtract.Proofs.UnreadRest
import XmlExtract.Proofs.Utf16RoundTrip

/-!
# Reading what was transcoded

A document in UTF-16 is transcoded, and its reader is told that the bytes are UTF-8.  A
reader of the UTF-8 form is not told, and decodes as the document says.  As long as no
declaration names another known encoding, the two decode alike, because they decode texts
only (`Reading.replies_rules`).  So a text has the same outcome in UTF-16 as in UTF-8, be it a
sound document or not (`Query.outcome_utf16`).
-/

namespace XmlExtract

open Utf8 (IsText)
open Utf16 (ByteOrder)

/-! ### Pieces of a text -/

namespace Piece

theorem isText_trimToken {token : Token} (text : token.IsText) : (trimToken token).IsText := by
  cases token with
  | text raw => exact isText_trimEnd text
  | reference raw | startTag raw isEmpty | endTag raw | cdata raw | declaration raw
  | passedOver => exact text

/-- Whatever a piece has to be decoded is a text. -/
def HasText (piece : Piece) : Prop :=
  ∀ token, piece.content = .ok (some token) → token.IsText

theorem hasText_ofLexeme {trim : Bool} {start skipped : Nat} {lexeme : Lexeme}
    (text : ∀ token, lexeme.token = .ok token → token.IsText) :
    (ofLexeme trim none start skipped lexeme).HasText := by
  intro token content
  rw [content_ofLexeme] at content
  cases read : lexeme.token with
  | error cause => simp [read] at content
  | ok found =>
      simp only [read, Except.ok.injEq, Option.some.injEq] at content
      rw [← content]
      split
      · exact isText_trimToken (text found read)
      · exact text found read

theorem hasText_cutFrom (trim : Bool) (start : Nat) {bytes : List UInt8} (text : IsText bytes) :
    ∀ piece ∈ cutFrom trim none start bytes, piece.HasText := by
  fun_induction cutFrom trim none start bytes with
  | case1 start bytes blanks rest atEnd =>
      intro piece member token content
      rw [List.mem_singleton.mp member] at content
      simp [Piece.atEnd] at content
  | case2 start bytes blanks rest nonempty lexeme first found content ih =>
      have restText : IsText rest := by
        show IsText (if trim then bytes.dropWhile isBlankByte else bytes)
        split
        · exact isText_dropWhile_isBlankByte text
        · exact text
      obtain ⟨token, read, lexed, -⟩ := exists_token content
      have reads := Lexeme.readsText_read restText
      rw [List.forall_mem_cons]
      exact ⟨hasText_ofLexeme fun token lexed => (reads token lexed).1,
        ih (reads token lexed).2⟩
  | case3 start bytes blanks rest nonempty lexeme first error content =>
      intro piece member token found
      rw [List.mem_singleton.mp member, content] at found
      contradiction

/-- The known encoding that a piece declares. -/
def declaredCharset? (piece : Piece) : Option Charset :=
  match piece.content with
  | .ok (some (.declaration content)) => Reading.declaredCharset? content
  | _ => none

end Piece

/-! ### Two readers -/

namespace Reading

section Rules

variable (rules other : ReadingRules) {reading : Reading} (utf8 : reading.charset = .utf8)
include utf8

theorem decode_rules {bytes : List UInt8} (text : IsText bytes) :
    reading.decode rules bytes = reading.decode other bytes := by
  obtain ⟨characters, rfl⟩ := text
  rw [decode_encode utf8, decode_encode utf8]

theorem shownName_rules (name : List UInt8) :
    reading.shownName rules.decoders name = reading.shownName other.decoders name := by
  rw [shownName, shownName, utf8]
  rfl

theorem readAttribute_rules {raw : RawAttribute} (key : IsText raw.key)
    (value : IsText raw.value) :
    reading.readAttribute rules raw = reading.readAttribute other raw := by
  unfold readAttribute
  rw [decode_rules rules other utf8 key, decode_rules rules other utf8 value]

theorem mapM_readAttribute_rules {raws : List RawAttribute}
    (texts : ∀ raw ∈ raws, IsText raw.key ∧ IsText raw.value) :
    raws.mapM (reading.readAttribute rules) = raws.mapM (reading.readAttribute other) := by
  induction raws with
  | nil => rfl
  | cons raw later ih =>
      rw [List.forall_mem_cons] at texts
      rw [List.mapM_cons, List.mapM_cons, readAttribute_rules rules other utf8 texts.1.1 texts.1.2,
        ih texts.2]

theorem readStart_rules {content : List UInt8} (text : IsText content) :
    reading.readStart rules content = reading.readStart other content := by
  unfold readStart
  simp only [decode_rules rules other utf8 (isText_startName text),
    mapM_readAttribute_rules rules other utf8 (isText_readAll text)]

theorem readEnd_rules {name : List UInt8} (text : IsText name) :
    reading.readEnd rules name = reading.readEnd other name := by
  unfold readEnd
  rw [decode_rules rules other utf8 text]

end Rules

variable {rules other : ReadingRules} {reading after : Reading} {piece : Piece} {token : Token}
  {events : List (Nat × Event)}

theorem charset_close {name : List UInt8} (closed : reading.close rules name = .ok after) :
    after.charset = reading.charset := by
  unfold close at closed
  split at closed
  · contradiction
  · split at closed
    · contradiction
    · rw [← Except.ok.inj closed]

/-- A reader that is told the encoding takes a token of texts like one that has found it. -/
theorem take_rules (same : rules.checksEndNames = other.checksEndNames)
    (utf8 : reading.charset = .utf8) (text : token.IsText) :
    reading.take rules piece token = reading.take other piece token := by
  cases token with
  | text raw | cdata raw | reference name =>
      simp only [take, decode_rules rules other utf8 text]
  | startTag content isEmpty =>
      simp only [take, readStart_rules rules other utf8 text,
        readEnd_rules rules other utf8 (isText_startName text)]
  | endTag content =>
      have closeAlike : reading.close rules (endName content) =
          reading.close other (endName content) := by
        unfold close
        simp only [same, shownName_rules rules other utf8]
      simp only [take, closeAlike]
      cases closed : reading.close other (endName content) with
      | error cause => rfl
      | ok outer =>
          have stillUtf8 : outer.charset = .utf8 := (charset_close closed).trans utf8
          simp only [readEnd_rules rules other stillUtf8 (isText_endName text)]
  | declaration content | passedOver => rfl

/-- Only a declaration changes the encoding. -/
theorem charset_take (taken : reading.take rules piece token = .ok (events, after)) :
    after.charset = reading.charset ∨
      ∃ content, token = .declaration content ∧
        declaredCharset? content = some after.charset := by
  cases takes_of_take taken with
  | text | cdata | reference | opening | emptyElement | passedOver => exact Or.inl rfl
  | closing content closed ending closes => exact Or.inl (charset_close closes)
  | declaration content =>
      unfold declare
      split
      · exact Or.inl rfl
      · split
        · rename_i charset known
          exact Or.inr ⟨content, rfl, known⟩
        · exact Or.inl rfl

theorem charset_take_of_declared {later : List Piece} (utf8 : reading.charset = .utf8)
    (declared : ∀ charset ∈ (piece :: later).filterMap Piece.declaredCharset?, charset = .utf8)
    (content : piece.content = .ok (some token))
    (taken : reading.take rules piece token = .ok (events, after)) : after.charset = .utf8 := by
  rcases charset_take taken with kept | ⟨declaration, rfl, names⟩
  · exact kept.trans utf8
  · apply declared
    apply List.mem_filterMap.mpr
    refine ⟨piece, List.mem_cons_self, ?_⟩
    rw [Piece.declaredCharset?, content]
    exact names

/-- Over pieces of text that declare nothing but UTF-8, a reader that is told the encoding
replies like one that is not. -/
theorem replies_rules (same : rules.checksEndNames = other.checksEndNames) (input : Input)
    (utf8 : reading.charset = .utf8) {pieces : List Piece}
    (texts : ∀ piece ∈ pieces, piece.HasText)
    (declared : ∀ charset ∈ pieces.filterMap Piece.declaredCharset?, charset = .utf8) :
    replies rules input reading pieces = replies other input reading pieces := by
  induction pieces generalizing reading with
  | nil => rfl
  | cons piece later ih =>
      rw [List.forall_mem_cons] at texts
      have declaredLater : ∀ charset ∈ later.filterMap Piece.declaredCharset?, charset = .utf8 :=
        fun charset member =>
          declared charset (((List.sublist_cons_self piece later).filterMap _).subset member)
      unfold replies
      cases content : piece.content with
      | error error => rfl
      | ok found =>
          cases found with
          | none => rfl
          | some token =>
              simp only [take_rules same utf8 (texts.1 token content)]
              cases taken : reading.take other piece token with
              | error error => rfl
              | ok answer =>
                  have stillUtf8 := charset_take_of_declared utf8 declared content taken
                  simp only [ih stillUtf8 texts.2 declaredLater]

end Reading

/-! ### The byte order mark -/

namespace Utf8

/-- A first byte from this range is that of a character of three bytes. -/
theorem length_of_encodeChar {character : Char} {lead : UInt8} {more : List UInt8}
    (written : String.utf8EncodeChar character = lead :: more) (least : 0xE0 ≤ lead.toNat)
    (most : lead.toNat < 0xF0) : more.length = 2 := by
  unfold String.utf8EncodeChar at written
  simp only at written
  split at written
  · obtain ⟨rfl, -⟩ := List.cons.inj written
    rw [UInt8.toNat_ofNat'] at least
    omega
  · split at written
    · obtain ⟨rfl, -⟩ := List.cons.inj written
      rw [toNat_ofNat_add _ (by decide) (by decide)] at least
      omega
    · split at written
      · obtain ⟨-, rfl⟩ := List.cons.inj written
        rfl
      · obtain ⟨rfl, -⟩ := List.cons.inj written
        rw [toNat_ofNat_add _ (by decide) (by decide)] at most
        omega

/-- The byte order mark is a whole character. -/
theorem isText_of_mark_append {rest : List UInt8} (text : IsText (Reading.utf8Mark ++ rest)) :
    IsText rest := by
  obtain ⟨characters, written⟩ := text
  cases characters with
  | nil => contradiction
  | cons character later =>
      rw [encode_cons] at written
      cases first : String.utf8EncodeChar character with
      | nil => exact absurd ((encode_singleton character).trans first) (encode_ne_nil (by simp))
      | cons lead more =>
          rw [first, Reading.utf8Mark, List.cons_append, List.cons_append] at written
          obtain ⟨rfl, others⟩ := List.cons.inj written
          have three := length_of_encodeChar first (by decide) (by decide)
          rw [← (List.append_inj others three).2]
          exact isText_encode later

end Utf8

/-! ### Queries over transcoded documents -/

namespace Query

/-- The known encodings that the declarations in some bytes name. -/
def declaredCharsets (settings : Settings) (bytes : List UInt8) : List Charset :=
  (Piece.cutFrom settings.trimsText none 0
    (bytes.drop (Reading.detect bytes).2)).filterMap Piece.declaredCharset?

theorem detect_of_ascii {bytes : List UInt8} (text : IsText bytes)
    (ascii : Layout.detect bytes = .ascii) :
    (Reading.detect bytes).1 = .utf8 ∧ IsText (bytes.drop (Reading.detect bytes).2) := by
  by_cases marked : Reading.utf8Mark <+: bytes
  · rw [Reading.detect_of_marked marked]
    obtain ⟨rest, rfl⟩ := marked
    exact ⟨rfl, Utf8.isText_of_mark_append text⟩
  · rw [Reading.detect_of_unmarked ascii marked]
    exact ⟨rfl, text⟩

/-- A reader that is told that a text is UTF-8 replies like one that is not. -/
theorem replies_knownUtf8 {settings : Settings} {bytes : List UInt8} (text : IsText bytes)
    (ascii : Layout.detect bytes = .ascii)
    (declared : ∀ charset ∈ declaredCharsets settings bytes, charset = .utf8) :
    (Input.ofBytes bytes).replies settings true = (Input.ofBytes bytes).replies settings false := by
  obtain ⟨utf8, body⟩ := detect_of_ascii text ascii
  unfold Input.replies
  simp only [Input.ofBytes, Input.firstBuffer_of_sound, List.take_length]
  congr 1
  refine Reading.replies_rules ?_ _ utf8 ?_ declared
  · rfl
  · exact Piece.hasText_cutFrom _ _ body

variable {world : World} {pattern : Pattern} {settings : Settings} {stop : StopRequest}

theorem run_transcoded {order : ByteOrder} {bytes : List UInt8} {characters : List Char}
    (layout : Layout.detect bytes = .utf16 order)
    (transcoded : Layout.utf16ToUtf8 order bytes = .ok (Utf8.encode characters)) :
    run world ⟨.bytes bytes, pattern, settings⟩ stop =
      (Extraction.start pattern settings).run stop
        ((Input.ofBytes (Utf8.encode characters)).replies settings true) := by
  rw [run_bytes, Document.ofBytes, layout, Layout.transcode, transcoded]
  rfl

/-- A text has the same outcome in UTF-16 as in UTF-8, whether it is a sound document or not.
It may have a byte order mark in front, and need not if it begins with a tag. -/
theorem outcome_utf16 (world : World) (pattern : Pattern) (settings : Settings)
    (order : ByteOrder) (text : String)
    (ascii : Layout.detect (Utf8.encodeString text) = .ascii)
    (declared : ∀ charset ∈ declaredCharsets settings (Utf8.encodeString text),
      charset = .utf8) :
    outcome world ⟨.bytes (order.mark ++ Utf16.encode order text.toList), pattern, settings⟩ =
        outcome world ⟨.bytes (Utf8.encodeString text), pattern, settings⟩ ∧
      (text.toList.head? = some '<' →
        outcome world ⟨.bytes (Utf16.encode order text.toList), pattern, settings⟩ =
          outcome world ⟨.bytes (Utf8.encodeString text), pattern, settings⟩) := by
  have told : ∀ bytes, Layout.detect bytes = .utf16 order →
      Layout.utf16ToUtf8 order bytes = .ok (Utf8.encodeString text) →
      outcome world ⟨.bytes bytes, pattern, settings⟩ =
        outcome world ⟨.bytes (Utf8.encodeString text), pattern, settings⟩ := by
    intro bytes layout transcoded
    have alike := replies_knownUtf8 (Utf8.isText_encode text.toList) ascii declared
    rw [outcome, outcome, run_transcoded layout transcoded, run_of_ascii ascii, alike]
    rfl
  constructor
  · exact told _ (Layout.detect_marked order _) (Layout.utf16ToUtf8_marked order _)
  · intro begins
    obtain ⟨later, spelled⟩ := List.head?_eq_some_iff.mp begins
    apply told
    · rw [spelled]
      exact Layout.detect_less order later
    · rw [Utf8.encodeString, spelled]
      exact Layout.utf16ToUtf8_less order later

/-- `<?xml version="1.0" encoding="utf-8"?><é a="😀">x</b>`, which is no sound document. -/
theorem outcome_utf16_mismatched :
    let text := "<?xml version=\"1.0\" encoding=\"utf-8\"?><é a=\"😀\">x</b>"
    outcome World.bare ⟨.bytes (Utf16.encode .big text.toList), .root, .standard⟩ =
      .error (.malformed 52 (.mismatchedEndTag "é" "b")) := by
  intro text
  have same := (outcome_utf16 World.bare .root .standard .big text (by decide +kernel)
    (by decide +kernel)).2 (by decide +kernel)
  rw [same]
  decide +kernel

end Query

end XmlExtract
