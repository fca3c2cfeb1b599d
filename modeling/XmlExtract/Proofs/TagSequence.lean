import XmlExtract.Proofs.Deliveries
import XmlExtract.Proofs.LocalReading
import XmlExtract.Proofs.Nesting
import XmlExtract.Proofs.SpelledTag

/-!
# The tags of a document

Where an element stands is a matter of the tags before it.  The tags of some bytes can be
found token by token (`Lexeme.tags`), and neither the trimming of text nor what the tags mean
plays a part.  A reader tells of no other tags (`Reading.tags_replies`), the beginning of
some bytes has the tags with which the whole begins (`Lexeme.tags_prefix`), and a spelling of
content has the tags of the content (`Spelling.tags_spelled`).
-/

namespace XmlExtract

/-- A tag of an element.  The only tag of an empty element counts as two. -/
inductive Tag where
  | opening
  | closing
  deriving DecidableEq

def Event.tags : Event → List Tag
  | .elementStart _ _ => [.opening]
  | .elementEnd _ => [.closing]
  | .documentStart | .text _ | .documentEnd => []

namespace Event

theorem starts_eq_count (events : List Event) :
    starts events = (events.flatMap tags).count .opening := by
  induction events with
  | nil => rfl
  | cons event later ih =>
      rw [List.flatMap_cons, List.count_append, ← ih]
      cases event <;> simp [starts, isStart, tags, List.countP_cons, Nat.add_comm]

theorem ends_eq_count (events : List Event) :
    ends events = (events.flatMap tags).count .closing := by
  induction events with
  | nil => rfl
  | cons event later ih =>
      rw [List.flatMap_cons, List.count_append, ← ih]
      cases event <;> simp [ends, isEnd, tags, List.countP_cons, Nat.add_comm]

end Event

def Reply.tagsOf (reply : Reply) : List Tag :=
  match reply.answer with
  | .ok event => event.tags
  | .error _ => []

def Reply.tags (replies : List Reply) : List Tag := replies.flatMap tagsOf

def Token.tags : Token → List Tag
  | .startTag _ true => [.opening, .closing]
  | .startTag _ false => [.opening]
  | .endTag _ => [.closing]
  | .text _ | .reference _ | .cdata _ | .declaration _ | .passedOver => []

def Content.tags (content : Content) : List Tag := content.events.flatMap Event.tags

namespace Lexeme

/-- The tags in some bytes, up to the end or to something that cannot be read. -/
def tags (bytes : List UInt8) : List Tag :=
  if _empty : bytes = [] then []
  else
    match (read bytes).token with
    | .error _ => []
    | .ok token => token.tags ++ tags (read bytes).rest
termination_by bytes.length
decreasing_by exact read_rest_length_lt _empty

theorem tags_nil : tags [] = [] := by
  rw [tags]
  rfl

theorem tags_of_token {bytes : List UInt8} (nonempty : bytes ≠ []) {token : Token}
    (found : (read bytes).token = .ok token) :
    tags bytes = token.tags ++ tags (read bytes).rest := by
  rw [tags, dif_neg nonempty, found]

theorem tags_of_failure {bytes : List UInt8} {cause : Malformation}
    (failed : (read bytes).token = .error cause) : tags bytes = [] := by
  rw [tags, failed]
  split <;> rfl

/-- Bytes that are read to the last one and beyond are text or cannot be read. -/
theorem tags_of_asksBeyond {bytes : List UInt8} (beyond : (read bytes).asksBeyond = true) :
    tags bytes = [] := by
  by_cases empty : bytes = []
  · rw [empty, tags_nil]
  cases found : (read bytes).token with
  | error cause => exact tags_of_failure found
  | ok token =>
      obtain ⟨raw, rfl⟩ := (local_read bytes).text beyond token found
      have nothing : (read bytes).rest = [] := by
        rw [asksBeyond, Bool.and_eq_true, List.isEmpty_iff] at beyond
        exact beyond.1
      rw [tags_of_token empty found, nothing, tags_nil]
      rfl

/-- The beginning of some bytes has no tags but those with which the whole begins. -/
theorem tags_prefix (bytes more : List UInt8) : tags bytes <+: tags (bytes ++ more) := by
  -- On the length of the bytes, of which every token takes some.
  induction length : bytes.length using Nat.strong_induction_on generalizing bytes with
  | _ count ih =>
      cases beyond : (read bytes).asksBeyond with
      | true =>
          rw [tags_of_asksBeyond beyond]
          exact List.nil_prefix
      | false =>
          have nonempty : bytes ≠ [] := by
            rintro rfl
            contradiction
          cases found : (read bytes).token with
          | error cause =>
              rw [tags_of_failure found]
              exact List.nil_prefix
          | ok token =>
              have extended := (local_read bytes).extend beyond more
              have foundAgain : (read (bytes ++ more)).token = .ok token := by
                rw [extended, extend, found]
              have shorter := read_rest_length_lt nonempty
              rw [tags_of_token nonempty found, tags_of_token (by simp [nonempty]) foundAgain,
                extended]
              exact (List.prefix_append_right_inj _).mpr (ih _ (length ▸ shorter) _ rfl)

/-! ### Text around the tags -/

theorem tags_dropWhile_text (bytes : List UInt8) :
    tags (bytes.dropWhile isTextByte) = tags bytes := by
  cases bytes with
  | nil => rfl
  | cons byte later =>
      cases isText : isTextByte byte with
      | false => rw [List.dropWhile_cons_of_neg (by simp [isText])]
      | true =>
          have read := Spelling.read_eq_readText isText later
          have found : (Lexeme.read (byte :: later)).token =
              .ok (.text ((byte :: later).takeWhile isTextByte)) := by
            rw [read]
            rfl
          rw [tags_of_token (List.cons_ne_nil _ _) found, read]
          rfl

theorem tags_text_cons {byte : UInt8} (isText : isTextByte byte = true) (bytes : List UInt8) :
    tags (byte :: bytes) = tags bytes := by
  rw [← tags_dropWhile_text (byte :: bytes), List.dropWhile_cons_of_pos isText,
    tags_dropWhile_text]

theorem tags_text_append {text : List UInt8} (isText : ∀ byte ∈ text, isTextByte byte = true)
    (bytes : List UInt8) : tags (text ++ bytes) = tags bytes := by
  induction text with
  | nil => rfl
  | cons byte later ih =>
      rw [List.forall_mem_cons] at isText
      rw [List.cons_append, tags_text_cons isText.1, ih isText.2]

theorem isTextByte_of_isBlankByte {byte : UInt8} (blank : isBlankByte byte = true) :
    isTextByte byte = true := by
  simp only [isBlankByte, Bool.or_eq_true, beq_iff_eq] at blank
  rcases blank with ((rfl | rfl) | rfl) | rfl <;> rfl

theorem tags_dropWhile_blank (bytes : List UInt8) :
    tags (bytes.dropWhile isBlankByte) = tags bytes := by
  induction bytes with
  | nil => rfl
  | cons byte later ih =>
      cases blank : isBlankByte byte with
      | false => rw [List.dropWhile_cons_of_neg (by simp [blank])]
      | true =>
          rw [List.dropWhile_cons_of_pos blank, ih,
            tags_text_cons (isTextByte_of_isBlankByte blank)]

/-- Skipping blanks before a token skips no tag. -/
theorem tags_skip (trim : Bool) (bytes : List UInt8) :
    tags (if trim then bytes.dropWhile isBlankByte else bytes) = tags bytes := by
  cases trim with
  | false => rfl
  | true => exact tags_dropWhile_blank bytes

end Lexeme

/-! ### What a reader tells of the tags -/

theorem Reply.tagsOf_ok {reply : Reply} {event : Event} (answer : reply.answer = .ok event) :
    reply.tagsOf = event.tags := by
  rw [tagsOf, answer]

theorem Reply.tags_cons (reply : Reply) (later : List Reply) :
    tags (reply :: later) = reply.tagsOf ++ tags later := List.flatMap_cons

theorem Reply.tags_append (front later : List Reply) :
    tags (front ++ later) = tags front ++ tags later := List.flatMap_append

theorem exists_of_bind_eq_ok {α β ε : Type} {first : Except ε α} {next : α → Except ε β}
    {result : β} (done : first >>= next = .ok result) :
    ∃ value, first = .ok value ∧ next value = .ok result := by
  cases first with
  | error error => simp [bind, Except.bind] at done
  | ok value => exact ⟨value, rfl, done⟩

/-- A piece that can be read is a token, of which at most text was trimmed. -/
theorem Piece.exists_token {trim : Bool} {start skipped : Nat} {lexeme : Lexeme}
    {found : Option Token}
    (content : (ofLexeme trim none start skipped lexeme).content = .ok found) :
    ∃ token read, lexeme.token = .ok token ∧ found = some read ∧ read.tags = token.tags := by
  rw [content_ofLexeme] at content
  cases lexed : lexeme.token with
  | error cause => simp [lexed] at content
  | ok token =>
      simp only [lexed, Except.ok.injEq] at content
      refine ⟨token, _, rfl, content.symm, ?_⟩
      cases trim with
      | false => rfl
      | true => cases token <;> rfl

namespace Reading

variable {rules : ReadingRules} {reading after : Reading} {piece : Piece} {token : Token}
  {events : List (Nat × Event)}

theorem of_blame_eq_ok {α : Type} {position : Nat} {result : Except Invalidity α} {value : α}
    (blamed : blame position result = .ok value) : result = .ok value := by
  cases result with
  | ok found => rw [Except.ok.inj blamed]
  | error cause => simp [blame] at blamed

/-- Everything that a token can come to without a failure: the events that it makes, and what is
settled then. -/
inductive Takes (rules : ReadingRules) (reading : Reading) (piece : Piece) :
    Token → List (Nat × Event) → Reading → Prop
  | text (raw : List UInt8) (text : String) (decoded : reading.decode rules raw = .ok text) :
      Takes rules reading piece (.text raw) (textEvent piece.start text) reading
  | cdata (raw : List UInt8) (text : String) (decoded : reading.decode rules raw = .ok text) :
      Takes rules reading piece (.cdata raw) (textEvent piece.start text) reading
  | reference (name : List UInt8) (text : String) (character : Char)
      (decoded : reading.decode rules name = .ok text)
      (resolved : Reference.resolve 1 text.toList = .ok character) :
      Takes rules reading piece (.reference name)
        [(piece.start, .text (String.singleton character))] reading
  | opening (content : List UInt8) (event : Event)
      (starts : reading.readStart rules content = .ok event) :
      Takes rules reading piece (.startTag content false) [(piece.start, event)]
        { reading with opened := startName content :: reading.opened }
  | emptyElement (content : List UInt8) (event ending : Event)
      (starts : reading.readStart rules content = .ok event)
      (ends : reading.readEnd rules (startName content) = .ok ending) :
      Takes rules reading piece (.startTag content true)
        [(piece.start, event), (piece.stop, ending)] reading
  | closing (content : List UInt8) (closed : Reading) (ending : Event)
      (closes : reading.close rules (endName content) = .ok closed)
      (ends : closed.readEnd rules (endName content) = .ok ending) :
      Takes rules reading piece (.endTag content) [(piece.start, ending)] closed
  | declaration (content : List UInt8) :
      Takes rules reading piece (.declaration content) [] (reading.declare content)
  | passedOver : Takes rules reading piece .passedOver [] reading

theorem takes_of_take (taken : reading.take rules piece token = .ok (events, after)) :
    Takes rules reading piece token events after := by
  cases token with
  | text raw =>
      obtain ⟨text, decoded, made⟩ := exists_of_bind_eq_ok taken
      obtain ⟨rfl, rfl⟩ := Prod.mk.inj (Except.ok.inj made)
      exact .text raw text (of_blame_eq_ok decoded)
  | cdata raw =>
      obtain ⟨text, decoded, made⟩ := exists_of_bind_eq_ok taken
      obtain ⟨rfl, rfl⟩ := Prod.mk.inj (Except.ok.inj made)
      exact .cdata raw text (of_blame_eq_ok decoded)
  | reference name =>
      obtain ⟨text, decoded, made⟩ := exists_of_bind_eq_ok taken
      split at made
      · rename_i character resolved
        obtain ⟨rfl, rfl⟩ := Prod.mk.inj (Except.ok.inj made)
        exact .reference name text character (of_blame_eq_ok decoded) resolved
      · contradiction
  | startTag content isEmpty =>
      obtain ⟨event, starts, made⟩ := exists_of_bind_eq_ok taken
      cases isEmpty with
      | true =>
          obtain ⟨ending, ends, made⟩ := exists_of_bind_eq_ok made
          obtain ⟨rfl, rfl⟩ := Prod.mk.inj (Except.ok.inj made)
          exact .emptyElement content event ending (of_blame_eq_ok starts) (of_blame_eq_ok ends)
      | false =>
          obtain ⟨rfl, rfl⟩ := Prod.mk.inj (Except.ok.inj made)
          exact .opening content event (of_blame_eq_ok starts)
  | endTag content =>
      simp only [take] at taken
      split at taken
      · contradiction
      · rename_i closed closes
        obtain ⟨ending, ends, made⟩ := exists_of_bind_eq_ok taken
        obtain ⟨rfl, rfl⟩ := Prod.mk.inj (Except.ok.inj made)
        exact .closing content closed ending closes (of_blame_eq_ok ends)
  | declaration content =>
      obtain ⟨rfl, rfl⟩ := Prod.mk.inj (Except.ok.inj taken)
      exact .declaration content
  | passedOver =>
      obtain ⟨rfl, rfl⟩ := Prod.mk.inj (Except.ok.inj taken)
      exact .passedOver

theorem tags_readStart {content : List UInt8} {event : Event}
    (read : reading.readStart rules content = .ok event) : event.tags = [.opening] := by
  obtain ⟨name, -, named⟩ := exists_of_bind_eq_ok read
  obtain ⟨attributes, -, ended⟩ := exists_of_bind_eq_ok named
  split at ended
  · simp at ended
  · rw [← Except.ok.inj ended]
    rfl

theorem tags_readEnd {name : List UInt8} {event : Event}
    (read : reading.readEnd rules name = .ok event) : event.tags = [.closing] := by
  obtain ⟨decoded, -, ended⟩ := exists_of_bind_eq_ok read
  rw [← Except.ok.inj ended]
  rfl

theorem tags_textEvent (position : Nat) (text : String) :
    (textEvent position text).flatMap (·.2.tags) = [] := by
  unfold textEvent
  split <;> rfl

theorem tags_take (taken : reading.take rules piece token = .ok (events, after)) :
    events.flatMap (·.2.tags) = token.tags := by
  cases takes_of_take taken with
  | text raw text | cdata raw text => exact tags_textEvent piece.start text
  | reference | declaration | passedOver => rfl
  | opening content event starts => simp [tags_readStart starts, Token.tags]
  | emptyElement content event ending starts ends =>
      simp [tags_readStart starts, tags_readEnd ends, Token.tags]
  | closing content closed ending closes ends => simp [tags_readEnd ends, Token.tags]

theorem tags_events (events : List (Nat × Event)) (raised : Bool) :
    Reply.tags (events.map fun event => ⟨event.1, .ok event.2, raised⟩) =
      events.flatMap (·.2.tags) := by
  simp [Reply.tags, Reply.tagsOf, List.flatMap_map]

/-- A reader tells of the tags of the bytes, as far as it gets. -/
theorem tags_replies (rules : ReadingRules) (input : Input) (reading : Reading) (trim : Bool)
    (start : Nat) (bytes : List UInt8) :
    Reply.tags (replies rules input reading (Piece.cutFrom trim none start bytes)) <+:
      Lexeme.tags bytes := by
  fun_induction Piece.cutFrom trim none start bytes generalizing reading with
  | case1 start bytes blanks rest atEnd => exact List.nil_prefix
  | case2 start bytes blanks rest more lexeme piece found content ih =>
      obtain ⟨token, read, lexed, rfl, sameTags⟩ := Piece.exists_token content
      have nonempty : rest ≠ [] := by simpa using more
      have skipped : Lexeme.tags rest = Lexeme.tags bytes := Lexeme.tags_skip trim bytes
      rw [← skipped, Lexeme.tags_of_token nonempty lexed]
      simp only [replies, content]
      cases taken : reading.take rules piece read with
      | error error => exact List.nil_prefix
      | ok answer =>
          rw [Reply.tags_append, tags_events, tags_take taken, sameTags]
          exact (List.prefix_append_right_inj _).mpr (ih answer.2)
  | case3 start bytes blanks rest more lexeme piece error content =>
      simp only [replies, content]
      exact List.nil_prefix

end Reading

/-! ### The tags of a spelling -/

namespace Spelling

variable {bytes : List UInt8}

/-- A construct other than text adds its tags to what follows. -/
theorem Lexes.tags {characters : List Char} {token : Token} (lexes : Lexes characters token [])
    (nonempty : characters ≠ []) (isMarkup : ∀ raw, token ≠ .text raw) (bytes : List UInt8) :
    Lexeme.tags (Utf8.encode characters ++ bytes) = token.tags ++ Lexeme.tags bytes := by
  obtain ⟨size, peeked, read⟩ := lexes
  have reading := Lexeme.local_read (Utf8.encode characters)
  have complete : (Lexeme.read (Utf8.encode characters)).asksBeyond = false := by
    by_contra beyond
    rw [Bool.not_eq_false] at beyond
    obtain ⟨raw, isText⟩ := reading.text beyond token (by rw [read])
    exact isMarkup raw isText
  have extended := reading.extend complete bytes
  have found : (Lexeme.read (Utf8.encode characters ++ bytes)).token = .ok token := by
    rw [extended, Lexeme.extend, read]
  rw [Lexeme.tags_of_token (by simp [Utf8.encode_ne_nil nonempty]) found, extended,
    Lexeme.extend, read]
  rfl

theorem tags_characters {piece written : List Char} (spelled : Characters [] piece written)
    (bytes : List UInt8) : Lexeme.tags (Utf8.encode written ++ bytes) = Lexeme.tags bytes := by
  induction spelled with
  | done => rfl
  | @plain character text spelling notLess notAmpersand allowed rest ih =>
      have isText : isTextCharacter character = true := by
        simp [isTextCharacter, notLess, notAmpersand]
      rw [Utf8.encode_cons, List.append_assoc,
        Lexeme.tags_text_append (isTextByte_of_mem isText), ih]
  | @reference character name text spelling refers rest ih =>
      have whole : '&' :: (name ++ ';' :: spelling) = ('&' :: (name ++ [';'])) ++ spelling := by
        simp
      rw [whole, Utf8.encode_append, List.append_assoc,
        (lexes_reference refers []).tags (List.cons_ne_nil _ _) (by simp), ih]
      rfl

theorem tags_passedOver {markup : List Char} (passed : PassedOver markup)
    (bytes : List UInt8) : Lexeme.tags (Utf8.encode markup ++ bytes) = Lexeme.tags bytes := by
  have lexes := lexes_passedOver passed []
  rw [List.append_nil] at lexes
  rw [lexes.tags passed.ne_nil (by simp)]
  rfl

/-- A spelling of content adds the tags of the content to what follows. -/
theorem tags_spelled {content : Content} {spelling : List Char}
    (spells : Spells content spelling) (bytes : List UInt8) :
    Lexeme.tags (Utf8.encode spelling ++ bytes) = content.tags ++ Lexeme.tags bytes := by
  induction spells generalizing bytes with
  | nothing => rfl
  | @passedOver content markup spelling passed rest ih =>
      rw [Utf8.encode_append, List.append_assoc, tags_passedOver passed, ih]
  | @characters piece written spelling chunk content spelled rest ih =>
      rw [Utf8.encode_append, List.append_assoc, tags_characters spelled, ih]
      rfl
  | @cdata piece spelling chunk content unclosed rest ih =>
      have lexes := lexes_cdata unclosed []
      rw [List.append_nil] at lexes
      rw [Utf8.encode_append, List.append_assoc, lexes.tags (by simp) (by simp), ih]
      rfl
  | textEnd rest ih => exact ih bytes
  | @element name attributes inner content tag innerSpelling blanks spelling start inside blank
      rest ihInner ih =>
      have opening := (lexes_startTag start []).tags (by simp) (by simp)
      have closing := (lexes_endTag start.isName blank []).tags (by simp) (by simp)
      have whole : '<' :: (tag ++ '>' :: (innerSpelling ++ ("</".toList ++ (name.toList ++
          (blanks ++ '>' :: spelling))))) =
          ('<' :: (tag ++ ['>'])) ++ (innerSpelling ++
            (("</".toList ++ (name.toList ++ (blanks ++ ['>']))) ++ spelling)) := by
        simp
      rw [whole, Utf8.encode_append, List.append_assoc, opening, Utf8.encode_append,
        List.append_assoc, ihInner, Utf8.encode_append, List.append_assoc, closing, ih]
      simp [Content.tags, Content.events, Token.tags, Event.tags]
  | @emptyElement name attributes content tag spelling start rest ih =>
      have whole : '<' :: (tag ++ '/' :: '>' :: spelling) =
          ('<' :: (tag ++ ['/', '>'])) ++ spelling := by
        simp
      rw [whole, Utf8.encode_append, List.append_assoc,
        (lexes_emptyTag start []).tags (by simp) (by simp), ih]
      rfl

/-- What begins neither like a declaration nor like an instruction is a tag. -/
theorem read_eq_readTag {content : List Char}
    (begins : ∀ first ∈ content.head?, first ≠ '!' ∧ first ≠ '?') (nonempty : content ≠ []) :
    Lexeme.read (Utf8.encode ('<' :: content)) = Lexeme.readTag (Utf8.encode content) := by
  obtain ⟨first, later, rfl⟩ := List.exists_cons_of_ne_nil nonempty
  obtain ⟨notExclamation, notQuestion⟩ := begins first rfl
  have marks := Scanner.marks_not_mem (by decide) (by decide) notExclamation notQuestion
  rw [Utf8.encode_singleton] at marks
  cases bytes : String.utf8EncodeChar first with
  | nil => exact absurd bytes String.utf8EncodeChar_ne_nil
  | cons byte others =>
      rw [bytes, List.forall_mem_cons] at marks
      have whole : Utf8.encode ('<' :: first :: later) =
          Byte.less :: byte :: (others ++ Utf8.encode later) := by
        rw [Utf8.encode_cons, Utf8.encode_cons, bytes]
        rfl
      have front : Utf8.encode (first :: later) = byte :: (others ++ Utf8.encode later) := by
        rw [Utf8.encode_cons, bytes, List.cons_append]
      rw [whole, front]
      simp only [Lexeme.read, Lexeme.readMarkup]
      rw [if_pos (by decide), if_neg (by simpa using marks.1.1),
        if_neg (by simpa using marks.1.2)]

theorem tags_open {content : List Char} {last : Option UInt8} (nonempty : content ≠ [])
    (begins : ∀ first ∈ content.head?, first ≠ '!' ∧ first ≠ '?')
    (run : (Utf8.encode content).foldlM Scanner.tag none = some last) :
    Lexeme.tags (Utf8.encode ('<' :: content)) = [] := by
  have unclosed : scan Scanner.tag none (Utf8.encode content ++ []) = none :=
    scanAfter_append [] run
  rw [List.append_nil] at unclosed
  have unread : (Lexeme.read (Utf8.encode ('<' :: content))).token = .error .unclosedTag := by
    rw [read_eq_readTag begins nonempty, Lexeme.readTag, unclosed]
    rfl
  exact Lexeme.tags_of_failure unread

end Spelling

/-! ### Sequences of tags that are not over -/

namespace Content

theorem tags_element (name : String) (attributes : List (String × String))
    (inner rest : Content) :
    (element name attributes inner rest).tags =
      .opening :: (inner.tags ++ .closing :: rest.tags) := by
  simp [tags, events, Event.tags]

theorem count_tags (content : Content) :
    content.tags.count .closing = content.tags.count .opening := by
  induction content with
  | nothing => rfl
  | text chunk rest ih => exact ih
  | element name attributes inner rest ihInner ih =>
      rw [tags_element]
      simp only [List.count_cons, List.count_append, ihInner, ih]
      simp only [beq_self_eq_true, if_true, reduceCtorEq, beq_iff_eq, if_false]
      omega

/-- No tag of some content closes more than the content has opened. -/
theorem nested_tags (content : Content) {before : List Tag} (begins : before <+: content.tags) :
    before.count .closing ≤ before.count .opening := by
  induction content generalizing before with
  | nothing =>
      rw [List.prefix_nil.mp begins]
      rfl
  | text chunk rest ih => exact ih begins
  | element name attributes inner rest ihInner ih =>
      rw [tags_element] at begins
      cases before with
      | nil => rfl
      | cons first before =>
          obtain ⟨rfl, after, joined⟩ := List.cons_prefix_cons.mp begins
          have balanced := inner.count_tags
          rcases List.append_eq_append_iff.mp joined with
            ⟨missing, whole, -⟩ | ⟨middle, rfl, whole⟩
          · have inside := ihInner ⟨missing, whole.symm⟩
            simp
            omega
          · cases middle with
            | nil =>
                simp
                omega
            | cons second middle =>
                obtain ⟨rfl, remaining⟩ := List.cons.inj whole
                have behind := ih ⟨after, remaining.symm⟩
                simp
                omega

end Content

/-- No element has been opened, or one is open. -/
def Tag.Unfinished (tags : List Tag) : Prop :=
  tags.count .opening = 0 ∨ tags.count .closing < tags.count .opening

theorem Tag.unfinished_of_prefix {content : Content} {before : List Tag}
    (begins : before <+: .opening :: content.tags) : Unfinished before := by
  cases before with
  | nil => exact .inl rfl
  | cons first before =>
      obtain ⟨rfl, inside⟩ := List.cons_prefix_cons.mp begins
      have nested := content.nested_tags inside
      right
      simp
      omega

end XmlExtract
