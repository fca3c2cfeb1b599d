import XmlExtract.Proofs.RespelledReading
import XmlExtract.Proofs.TranscodedReading
import XmlExtract.Proofs.TrimmedText

/-!
# Reading trimmed text

What trimming takes away is taken away before bytes are decoded.  In UTF-8 a blank byte is a
blank character wherever it stands, so blanks around some bytes never decide whether these
have a meaning, and stand around it if they do (`Reading.decode_around`).  A reader that takes
the bytes of a document for UTF-8 therefore tells the same of the document and of its trimmed
text, but for blanks at the ends of texts and for texts that are blank
(`Reading.trimmed_replies`).  Neither way it tells an empty text
(`Input.ne_empty_of_mem_replies`).
-/

namespace XmlExtract

/-! ### Blanks in UTF-8 -/

/-- The characters of a text that are no whitespace of markup. -/
def ink (text : String) : List Char := text.toList.filter (!isBlank ·)

theorem ink_append (text more : String) : ink (text ++ more) = ink text ++ ink more := by
  rw [ink, String.toList_append, List.filter_append]
  rfl

theorem ink_eq_nil_iff {text : String} : ink text = [] ↔ text.toList.all isBlank = true := by
  rw [ink, List.filter_eq_nil_iff, List.all_eq_true]
  simp

namespace Utf8

theorem encodeString_append (text more : String) :
    encodeString (text ++ more) = encodeString text ++ encodeString more := by
  rw [encodeString, String.toList_append, encode_append]
  rfl

/-- Blanks are read as a text without ink. -/
theorem exists_blank_text {raw : List UInt8} (blank : ∀ byte ∈ raw, isBlankByte byte = true) :
    ∃ text, encodeString text = raw ∧ ink text = [] := by
  induction raw with
  | nil => exact ⟨"", rfl, rfl⟩
  | cons byte later ih =>
      rw [List.forall_mem_cons] at blank
      obtain ⟨text, rfl, noInk⟩ := ih blank.2
      refine ⟨String.singleton (Char.ofNat byte.toNat) ++ text, ?_, ?_⟩
      · rw [encodeString_append, encodeString, String.toList_singleton,
          encode_ofNat_of_ascii (lt_of_isBlankByte blank.1), List.singleton_append]
      · rw [ink_append, noInk, List.append_nil, ink_eq_nil_iff, String.toList_singleton]
        have bytes := blank.1
        simp only [isBlankByte, Bool.or_eq_true, beq_iff_eq] at bytes
        rcases bytes with ((rfl | rfl) | rfl) | rfl <;> rfl

end Utf8

namespace Reading

variable {rules : ReadingRules} {reading : Reading}

/-- The reader takes the bytes for UTF-8. -/
def ReadsUtf8 (rules : ReadingRules) (reading : Reading) : Prop :=
  rules.knownUtf8 = true ∨ reading.charset = .utf8

theorem decode_eq_ok_iff (utf8 : ReadsUtf8 rules reading) {bytes : List UInt8} {text : String} :
    reading.decode rules bytes = .ok text ↔ Utf8.encodeString text = bytes := by
  have decodes : reading.decode rules bytes = .ok text ↔
      Utf8.decode bytes = .ok text.toList := by
    unfold decode
    split
    · cases Utf8.decode bytes with
      | ok characters => simp [String.ext_iff]
      | error fault => simp
    · rename_i unknown
      rw [utf8.resolve_left unknown]
      simp only [Charset.decode?]
      cases Utf8.decode bytes with
      | ok characters => simp [Except.toOption, String.ext_iff]
      | error fault => simp [Except.toOption]
  rw [decodes, Utf8.decode_eq_ok_iff]
  rfl

/-- Blanks around some bytes stand around their text, and never decide whether they have one. -/
theorem decode_around (utf8 : ReadsUtf8 rules reading) {front raw back : List UInt8}
    (blankFront : ∀ byte ∈ front, isBlankByte byte = true)
    (blankBack : ∀ byte ∈ back, isBlankByte byte = true) :
    (∃ before text after, ink before = [] ∧ ink after = [] ∧
      reading.decode rules (front ++ raw ++ back) = .ok (before ++ text ++ after) ∧
      reading.decode rules raw = .ok text) ∨
    ∃ cause causeRaw, reading.decode rules (front ++ raw ++ back) = .error cause ∧
      reading.decode rules raw = .error causeRaw := by
  cases decoded : reading.decode rules raw with
  | ok text =>
      obtain ⟨before, writtenBefore, noInkBefore⟩ := Utf8.exists_blank_text blankFront
      obtain ⟨after, writtenAfter, noInkAfter⟩ := Utf8.exists_blank_text blankBack
      refine .inl ⟨before, text, after, noInkBefore, noInkAfter, ?_, rfl⟩
      rw [decode_eq_ok_iff utf8] at decoded ⊢
      rw [Utf8.encodeString_append, Utf8.encodeString_append, writtenBefore, decoded, writtenAfter]
  | error cause =>
      right
      cases around : reading.decode rules (front ++ raw ++ back) with
      | error causeAround => exact ⟨causeAround, cause, rfl, rfl⟩
      | ok text =>
          rw [decode_eq_ok_iff utf8] at around
          have whole : Utf8.IsText (front ++ raw ++ back) := ⟨text.toList, around⟩
          have ascii {blanks : List UInt8} (blank : ∀ byte ∈ blanks, isBlankByte byte = true) :
              ∀ byte ∈ blanks, byte < 0x80 :=
            fun byte member => lt_of_isBlankByte (blank byte member)
          obtain ⟨characters, written⟩ := (Utf8.isText_ascii_append_iff (ascii blankFront)).mp
            (Utf8.isText_of_append_ascii (ascii blankBack) whole)
          have read : reading.decode rules raw = .ok (String.ofList characters) := by
            rw [decode_eq_ok_iff utf8, Utf8.encodeString, String.toList_ofList, written]
          rw [decoded] at read
          contradiction

/-! ### What a token comes to elsewhere -/

/-- What comes of a token in two places: the same events at other positions, or errors of one
kind. -/
inductive SameButPlace : Except Error (List (Nat × Event) × Reading) →
    Except Error (List (Nat × Event) × Reading) → Prop
  | events {events others : List (Nat × Event)} {reading : Reading}
      (same : events.map Prod.snd = others.map Prod.snd) :
      SameButPlace (.ok (events, reading)) (.ok (others, reading))
  | failure {error other : Error} (sameKind : error.kind = other.kind) :
      SameButPlace (.error error) (.error other)

theorem map_snd_textEvent (position other : Nat) (text : String) :
    (textEvent position text).map Prod.snd = (textEvent other text).map Prod.snd := by
  unfold textEvent
  split <;> rfl

/-- A token comes to the same wherever it stands, but for positions. -/
theorem sameButPlace_take (rules : ReadingRules) (reading : Reading) (piece other : Piece)
    (token : Token) :
    SameButPlace (reading.take rules piece token) (reading.take rules other token) := by
  cases token with
  | text raw | cdata raw =>
      simp only [take]
      cases reading.decode rules raw with
      | error cause => exact .failure rfl
      | ok text => exact .events (map_snd_textEvent piece.start other.start text)
  | reference name =>
      simp only [take]
      cases reading.decode rules name with
      | error cause => exact .failure rfl
      | ok text =>
          simp only [blame, bind, Except.bind]
          cases Reference.resolve 1 text.toList with
          | error flaw => exact .failure rfl
          | ok character => exact .events rfl
  | startTag content isEmpty =>
      simp only [take]
      cases reading.readStart rules content with
      | error cause => exact .failure rfl
      | ok event =>
          cases isEmpty with
          | false => exact .events rfl
          | true =>
              cases reading.readEnd rules (startName content) with
              | error cause => exact .failure rfl
              | ok ending => exact .events rfl
  | endTag content =>
      simp only [take]
      cases reading.close rules (endName content) with
      | error cause => exact .failure rfl
      | ok closed =>
          dsimp only
          cases closed.readEnd rules (endName content) with
          | error cause => exact .failure rfl
          | ok ending => exact .events rfl
  | declaration content | passedOver => exact .events rfl

end Reading

/-- The replies for a document, and those for the document of which text is trimmed. -/
inductive Reply.Trimmed : List Reply → List Reply → Prop
  | nil : Trimmed [] []
  | same {reply trimmed : Reply} {later laterTrimmed : List Reply}
      (told : reply.told = trimmed.told) (others : Trimmed later laterTrimmed) :
      Trimmed (reply :: later) (trimmed :: laterTrimmed)
  | text {reply trimmed : Reply} {later laterTrimmed : List Reply} (content raw : String)
      (answer : reply.answer = .ok (.text content))
      (answerTrimmed : trimmed.answer = .ok (.text raw)) (sameInk : ink content = ink raw)
      (others : Trimmed later laterTrimmed) :
      Trimmed (reply :: later) (trimmed :: laterTrimmed)
  | blank {reply : Reply} {later trimmed : List Reply} (content : String)
      (answer : reply.answer = .ok (.text content)) (noInk : ink content = [])
      (others : Trimmed later trimmed) : Trimmed (reply :: later) trimmed

theorem Event.ne_text_of_tags {event : Event} {tag : Tag} (tagged : event.tags = [tag])
    (content : String) : event ≠ .text content := by
  rintro rfl
  contradiction

namespace Reply

theorem Trimmed.append_of_told {front frontTrimmed replies trimmed : List Reply}
    (told : front.map Reply.told = frontTrimmed.map Reply.told)
    (others : Trimmed replies trimmed) :
    Trimmed (front ++ replies) (frontTrimmed ++ trimmed) := by
  induction front generalizing frontTrimmed with
  | nil =>
      rw [List.map_nil, eq_comm, List.map_eq_nil_iff] at told
      subst told
      exact others
  | cons reply later ih =>
      rw [List.map_cons, eq_comm, List.map_eq_cons_iff] at told
      obtain ⟨first, more, rfl, toldFirst, toldMore⟩ := told
      exact .same toldFirst.symm (ih toldMore.symm)

end Reply

namespace Reading

variable {rules : ReadingRules} {reading : Reading}

section Events

variable {later laterTrimmed : List Reply} (others : Reply.Trimmed later laterTrimmed)
include others

theorem trimmed_blankEvent {text : String} (noInk : ink text = []) (position : Nat)
    (raised : Bool) :
    Reply.Trimmed (((textEvent position text).map fun event =>
      ⟨event.1, .ok event.2, raised⟩) ++ later) laterTrimmed := by
  unfold textEvent
  split
  · exact others
  · exact .blank text rfl noInk others

/-- The replies for a text with blanks around it and for the text. -/
theorem trimmed_textEvent {before text after : String} (noInkBefore : ink before = [])
    (noInkAfter : ink after = []) (position positionTrimmed : Nat)
    (raised raisedTrimmed : Bool) :
    Reply.Trimmed
      (((textEvent position (before ++ text ++ after)).map fun event =>
        ⟨event.1, .ok event.2, raised⟩) ++ later)
      (((textEvent positionTrimmed text).map fun event =>
        ⟨event.1, .ok event.2, raisedTrimmed⟩) ++ laterTrimmed) := by
  have sameInk : ink (before ++ text ++ after) = ink text := by
    rw [ink_append, ink_append, noInkBefore, noInkAfter, List.nil_append, List.append_nil]
  by_cases empty : text = ""
  · subst empty
    exact trimmed_blankEvent others sameInk position raised
  · have nonempty : before ++ text ++ after ≠ "" := by simp [empty]
    rw [textEvent, textEvent, if_neg (mt String.isEmpty_iff.mp nonempty),
      if_neg (mt String.isEmpty_iff.mp empty)]
    exact .text _ _ rfl rfl sameInk others

end Events

/-- The reader takes bytes for UTF-8 as long as it reads these pieces. -/
def StaysUtf8 (rules : ReadingRules) (reading : Reading) (pieces : List Piece) : Prop :=
  rules.knownUtf8 = true ∨
    reading.charset = .utf8 ∧
      ∀ charset ∈ pieces.filterMap Piece.declaredCharset?, charset = .utf8

theorem StaysUtf8.readsUtf8 {pieces : List Piece} (stays : StaysUtf8 rules reading pieces) :
    ReadsUtf8 rules reading := stays.imp_right And.left

theorem StaysUtf8.later {piece : Piece} {pieces : List Piece}
    (stays : StaysUtf8 rules reading (piece :: pieces)) : StaysUtf8 rules reading pieces :=
  stays.imp_right fun utf8 => ⟨utf8.1, fun charset member =>
    utf8.2 charset (((List.sublist_cons_self piece pieces).filterMap _).subset member)⟩

theorem StaysUtf8.take {piece : Piece} {pieces : List Piece} {token : Token}
    {events : List (Nat × Event)} {after : Reading}
    (stays : StaysUtf8 rules reading (piece :: pieces))
    (content : piece.content = .ok (some token))
    (taken : reading.take rules piece token = .ok (events, after)) :
    StaysUtf8 rules after pieces := by
  rcases stays with known | ⟨utf8, declared⟩
  · exact .inl known
  · have stillUtf8 := charset_take_of_declared utf8 declared content taken
    exact StaysUtf8.later (.inr ⟨stillUtf8, declared⟩)

/-- The replies for the pieces of a document, and for those of which text is trimmed. -/
theorem trimmed_replies (input : Input) {pieces trimmed : List Piece}
    (cut : Piece.Trimmed pieces trimmed) (stays : StaysUtf8 rules reading pieces) :
    Reply.Trimmed (replies rules input reading pieces) (replies rules input reading trimmed) := by
  induction cut generalizing reading with
  | nil => exact .nil
  | @trims piece pieceTrimmed pieces trimmed one others ih =>
      simp only [replies]
      cases one with
      | token token content contentTrimmed =>
          rw [content, contentTrimmed]
          have same := sameButPlace_take rules reading piece pieceTrimmed token
          dsimp only
          generalize taken : reading.take rules piece token = answer at same ⊢
          generalize reading.take rules pieceTrimmed token = answerTrimmed at same ⊢
          cases same with
          | failure sameKind => exact .same (congrArg Except.error sameKind) .nil
          | events same =>
              refine .append_of_told ?_ (ih (stays.take content taken))
              rw [told_events, told_events, same]
      | text front raw back blankFront blankBack content contentTrimmed =>
          rw [content, contentTrimmed]
          simp only [take]
          rcases decode_around stays.readsUtf8 blankFront blankBack with
            ⟨before, text, after, noInkBefore, noInkAfter, decoded, decodedRaw⟩ |
            ⟨cause, causeRaw, failed, failedRaw⟩
          · rw [decoded, decodedRaw]
            exact trimmed_textEvent (ih stays.later) noInkBefore noInkAfter _ _ _ _
          · rw [failed, failedRaw]
            exact .same rfl .nil
      | atEnd content contentTrimmed =>
          rw [content, contentTrimmed]
          exact .same rfl .nil
      | malformed cause content contentTrimmed =>
          rw [content, contentTrimmed]
          exact .same rfl .nil
  | @blank piece pieces trimmed raw blank content others ih =>
      obtain ⟨text, written, noInk⟩ := Utf8.exists_blank_text blank
      have decoded : reading.decode rules raw = .ok text :=
        (decode_eq_ok_iff stays.readsUtf8).mpr written
      simp only [replies, content, take, decoded]
      exact trimmed_blankEvent (ih stays.later) noInk _ _

/-! ### No text is empty -/

variable {after : Reading} {piece : Piece} {token : Token} {events : List (Nat × Event)}

theorem ne_empty_of_mem_textEvent (position : Nat) (text : String) :
    ∀ event ∈ textEvent position text, event.2 ≠ .text "" := by
  unfold textEvent
  split
  · exact List.forall_mem_nil _
  · rename_i nonempty
    rw [List.forall_mem_singleton]
    rintro ⟨⟩
    exact nonempty rfl

/-- A reader tells no empty text of a token. -/
theorem ne_empty_of_mem_take (taken : reading.take rules piece token = .ok (events, after)) :
    ∀ event ∈ events, event.2 ≠ .text "" := by
  cases takes_of_take taken with
  | text raw text | cdata raw text => exact ne_empty_of_mem_textEvent piece.start text
  | reference => simp
  | opening content event starts =>
      simp [Event.ne_text_of_tags (tags_readStart starts)]
  | emptyElement content event ending starts ends =>
      simp [Event.ne_text_of_tags (tags_readStart starts),
        Event.ne_text_of_tags (tags_readEnd ends)]
  | closing content closed ending closes ends =>
      simp [Event.ne_text_of_tags (tags_readEnd ends)]
  | declaration | passedOver => exact List.forall_mem_nil _

theorem ne_empty_of_mem_replies (rules : ReadingRules) (input : Input) (reading : Reading)
    (pieces : List Piece) :
    ∀ reply ∈ replies rules input reading pieces, reply.answer ≠ .ok (.text "") := by
  induction pieces generalizing reading with
  | nil => exact List.forall_mem_nil _
  | cons piece later ih =>
      unfold replies
      cases content : piece.content with
      | error error => simp
      | ok found =>
          cases found with
          | none => simp
          | some token =>
              dsimp only
              cases taken : reading.take rules piece token with
              | error error => simp
              | ok answer =>
                  have nonempty := ne_empty_of_mem_take taken
                  rw [List.forall_mem_append, List.forall_mem_map]
                  exact ⟨fun event member same =>
                    nonempty event member (Except.ok.inj same), ih answer.2⟩

end Reading

/-! ### Inputs -/

namespace Piece

/-- Trimming leaves all declarations. -/
theorem Trimmed.declared {pieces trimmed : List Piece} (cut : Trimmed pieces trimmed) :
    pieces.filterMap declaredCharset? = trimmed.filterMap declaredCharset? := by
  induction cut with
  | nil => rfl
  | @trims piece pieceTrimmed later laterTrimmed one others ih =>
      have same : piece.declaredCharset? = pieceTrimmed.declaredCharset? := by
        cases one <;> simp_all [declaredCharset?]
      rw [List.filterMap_cons, List.filterMap_cons, same, ih]
  | @blank piece later trimmed raw blank content others ih =>
      have none : piece.declaredCharset? = none := by
        rw [declaredCharset?, content]
      rw [List.filterMap_cons, none, ih]

end Piece

/-- The replies for bytes that lie in memory, and those if text is trimmed. -/
theorem Input.trimmed_replies {bytes : List UInt8} {knownUtf8 : Bool} (settings : Settings)
    (utf8 : knownUtf8 = true ∨ (Reading.detect bytes).1 = .utf8 ∧
      ∀ charset ∈ Query.declaredCharsets settings bytes, charset = .utf8) :
    Reply.Trimmed
      ((Input.ofBytes bytes).replies { settings with trimsText := false } knownUtf8)
      ((Input.ofBytes bytes).replies { settings with trimsText := true } knownUtf8) := by
  have cut := Piece.trimmed_cutFrom 0 0 (bytes.drop (Reading.detect bytes).2)
  unfold Input.replies
  simp only [Input.ofBytes, Input.firstBuffer_of_sound, List.take_length]
  refine .same rfl (Reading.trimmed_replies _ cut (utf8.imp_right fun declared => ?_))
  refine ⟨declared.1, fun charset member => declared.2 charset ?_⟩
  unfold Query.declaredCharsets
  cases settings.trimsText with
  | false => exact member
  | true => exact cut.declared ▸ member

theorem Input.ne_empty_of_mem_replies (input : Input) (settings : Settings) (knownUtf8 : Bool) :
    ∀ reply ∈ input.replies settings knownUtf8, reply.answer ≠ .ok (.text "") := by
  unfold Input.replies
  rw [List.forall_mem_cons]
  exact ⟨by simp, Reading.ne_empty_of_mem_replies _ _ _ _⟩

end XmlExtract
