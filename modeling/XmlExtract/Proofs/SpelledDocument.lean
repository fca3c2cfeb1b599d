import XmlExtract.Proofs.SpelledAttribute

/-!
# Reading undoes spelling

Whatever spelling of a tree a reader is given, it answers the events of the tree, once
adjacent texts are joined (`replies_spelled`).  The proof goes through a spelling from its
end: what is read of the rest is known (`Reads`), and one more construct in front of the
rest adds its events.
-/

namespace XmlExtract

namespace Event

/-- Put a text in front of events whose texts have been joined. -/
def prepend (chunk : String) : List Event → List Event
  | .text next :: later => .text (chunk ++ next) :: later
  | events => if chunk = "" then events else .text chunk :: events

/-- Join adjacent texts, and leave out what is empty then. -/
def joined : List Event → List Event
  | [] => []
  | .text chunk :: later => prepend chunk (joined later)
  | event :: later => event :: joined later

theorem prepend_empty (events : List Event) : prepend "" events = events := by
  unfold prepend
  split
  · rw [String.empty_append]
  · rfl

theorem prepend_append (first second : String) (events : List Event) :
    prepend (first ++ second) events = prepend first (prepend second events) := by
  unfold prepend
  split
  · simp [String.append_assoc]
  · by_cases empty : second = ""
    · simp [empty]
    · simp [empty]

theorem joined_append_of_joined_eq {later other : List Event} (same : joined later = joined other)
    (events : List Event) : joined (events ++ later) = joined (events ++ other) := by
  induction events with
  | nil => exact same
  | cons event events ih => cases event <;> simp only [List.cons_append, joined, ih]

theorem joined_text_append (first second : String) (events : List Event) :
    joined (.text first :: .text second :: events) =
      joined (.text (first ++ second) :: events) := by
  rw [joined, joined, joined, prepend_append]

end Event

namespace Spelling

variable {rules : ReadingRules} {input : Input} {reading after : Reading}
  {characters rest : List Char} {events later : List Event}

/-! ### Reading what remains -/

/-- The answers of a reader that reads characters from an offset on. -/
def answers (rules : ReadingRules) (input : Input) (reading : Reading) (offset : Nat)
    (characters : List Char) : List (Except Error Event) :=
  (Reading.replies rules input reading
    (Piece.cutFrom false none offset (Utf8.encode characters))).map (·.answer)

/-- From whatever offset on, a reader reads characters to the end and answers these
events. -/
def Reads (rules : ReadingRules) (input : Input) (reading : Reading) (characters : List Char)
    (events : List Event) : Prop :=
  ∀ offset, answers rules input reading offset characters = events.map .ok

/-- A token makes these events, wherever it stands, and leaves a reading. -/
def Makes (rules : ReadingRules) (reading : Reading) (token : Token) (events : List Event)
    (after : Reading) : Prop :=
  ∀ piece, ∃ placed, reading.take rules piece token = .ok (placed, after) ∧
    placed.map Prod.snd = events

theorem answers_read {token : Token} {size : Nat} {peeked : Bool}
    (nonempty : characters ≠ [])
    (read : Lexeme.read (Utf8.encode characters) =
      ⟨.ok token, size, Utf8.encode rest, peeked⟩)
    (makes : Makes rules reading token events after) (offset : Nat) :
    answers rules input reading offset characters =
      events.map .ok ++ answers rules input after (offset + size) rest := by
  have bytes := Utf8.encode_ne_nil nonempty
  let piece : Piece :=
    { start := offset
      stop := offset + size
      reach := if peeked then offset + size + 1 else offset + size
      content := .ok (some token) }
  have cut : Piece.cutFrom false none offset (Utf8.encode characters) =
      piece :: Piece.cutFrom false none (offset + size) (Utf8.encode rest) := by
    rw [Piece.cutFrom]
    simp [bytes, read, Piece.ofLexeme, piece]
  obtain ⟨placed, taken, rfl⟩ := makes piece
  rw [answers, cut, Reading.replies]
  simp only [piece, taken, List.map_append, List.map_map]
  rfl

theorem reads_nil : Reads rules input reading [] [.documentEnd] := by
  intro offset
  have cut : Piece.cutFrom false none offset [] = [Piece.atEnd none offset 0] := by
    rw [Piece.cutFrom]
    simp
  show (Reading.replies rules input reading (Piece.cutFrom false none offset [])).map _ = _
  rw [cut]
  rfl

theorem Lexes.reads {token : Token} (nonempty : characters ≠ [])
    (lexes : Lexes characters token rest) (makes : Makes rules reading token events after)
    (reads : Reads rules input after rest later) :
    Reads rules input reading characters (events ++ later) := by
  intro offset
  obtain ⟨size, peeked, read⟩ := lexes
  rw [answers_read nonempty read makes, reads, List.map_append]

/-! ### What tokens make -/

variable {opened : List (List UInt8)}

/-- A reading of UTF-8 inside of these open elements. -/
def within (opened : List (List UInt8)) : Reading := ⟨.utf8, false, opened⟩

theorem decode_within (text : List Char) :
    (within opened).decode rules (Utf8.encode text) = .ok (String.ofList text) :=
  Reading.decode_encode rfl rules text

def textEvents (text : String) : List Event := if text = "" then [] else [.text text]

theorem makes_text {token : Token} {text : List Char}
    (isText : token = .text (Utf8.encode text) ∨ token = .cdata (Utf8.encode text)) :
    Makes rules (within opened) token (textEvents (String.ofList text)) (within opened) := by
  intro piece
  refine ⟨Reading.textEvent piece.start (String.ofList text), ?_, ?_⟩
  · rcases isText with rfl | rfl <;>
      simp only [Reading.take, decode_within, Reading.blame, bind, Except.bind]
  · rw [Reading.textEvent, textEvents]
    by_cases empty : text = []
    · simp [empty]
    · simp [empty]

theorem makes_reference {character : Char} {name : List Char}
    (refers : Refers character name) :
    Makes rules (within opened) (.reference (Utf8.encode name))
      (textEvents (String.singleton character)) (within opened) := by
  intro piece
  refine ⟨[(piece.start, .text (String.singleton character))], ?_, by simp [textEvents]⟩
  simp only [Reading.take, decode_within, Reading.blame, bind, Except.bind,
    String.toList_ofList, refers.resolve_eq]

theorem makes_nothing :
    Makes rules (within opened) .passedOver [] (within opened) :=
  fun _ => ⟨[], rfl, rfl⟩

variable {name : String} {attributes : List (String × String)} {content : List Char}

theorem makes_start (start : StartTag name attributes content) :
    Makes rules (within opened) (.startTag (Utf8.encode content) false)
      [.elementStart name attributes] (within (Utf8.encodeString name :: opened)) := by
  intro piece
  refine ⟨[(piece.start, .elementStart name attributes)], ?_, rfl⟩
  have event : (within opened).readStart rules (Utf8.encode content) =
      .ok (.elementStart name attributes) :=
    start.readStart_eq rfl rules
  simp only [Reading.take, event, Reading.blame, bind, Except.bind, start.startName_eq]
  rfl

theorem readEnd_eq (name : String) :
    (within opened).readEnd rules (Utf8.encodeString name) = .ok (.elementEnd name) := by
  simp only [Reading.readEnd, Utf8.encodeString, decode_within, bind, Except.bind,
    String.ofList_toList]

theorem makes_empty (start : StartTag name attributes content) :
    Makes rules (within opened) (.startTag (Utf8.encode content) true)
      [.elementStart name attributes, .elementEnd name] (within opened) := by
  intro piece
  refine ⟨[(piece.start, .elementStart name attributes), (piece.stop, .elementEnd name)], ?_,
    rfl⟩
  have event : (within opened).readStart rules (Utf8.encode content) =
      .ok (.elementStart name attributes) :=
    start.readStart_eq rfl rules
  simp only [Reading.take, event, Reading.blame, bind, Except.bind, start.startName_eq,
    readEnd_eq, if_true]

/-- Blanks at the end of an end tag do not belong to its name. -/
theorem endName_eq (isName : IsName name.toList) {blanks : List Char} (blank : Blanks blanks) :
    Reading.endName (Utf8.encode (name.toList ++ blanks)) = Utf8.encodeString name := by
  have notBlank := isBlankByte_of_mem isName
  obtain ⟨front, last, bytes⟩ :=
    List.eq_nil_or_concat (Utf8.encode name.toList) |>.resolve_left
      (Utf8.encode_ne_nil isName.ne_nil)
  rw [bytes] at notBlank
  have lastNotBlank : isBlankByte last = false := notBlank last (by simp)
  have blanksReversed : ∀ byte ∈ (Utf8.encode blanks).reverse, isBlankByte byte = true :=
    fun byte member => blank.bytes byte (List.mem_reverse.mp member)
  have notAll : ¬ (Utf8.encode (name.toList ++ blanks)).all isBlankByte = true := by
    rw [Utf8.encode_append, bytes]
    simp [lastNotBlank]
  rw [Reading.endName, if_neg notAll, Piece.trimEnd, Utf8.encode_append, List.reverse_append,
    List.dropWhile_append_of_pos blanksReversed, bytes, List.concat_eq_append,
    List.reverse_append, List.reverse_singleton, List.singleton_append,
    List.dropWhile_cons_of_neg (by simp [lastNotBlank]), List.reverse_cons,
    List.reverse_reverse, ← List.concat_eq_append, ← bytes]
  rfl

theorem makes_end (isName : IsName name.toList) {blanks : List Char} (blank : Blanks blanks) :
    Makes rules (within (Utf8.encodeString name :: opened))
      (.endTag (Utf8.encode (name.toList ++ blanks))) [.elementEnd name] (within opened) := by
  intro piece
  refine ⟨[(piece.start, .elementEnd name)], ?_, rfl⟩
  have closed : (within (Utf8.encodeString name :: opened)).close rules
      (Utf8.encodeString name) = .ok (within opened) := by
    simp [Reading.close, within]
  simp only [Reading.take, endName_eq isName blank, closed, readEnd_eq, Reading.blame, bind,
    Except.bind]

/-! ### Reading a spelling from its end -/

/-- What has been read of a spelling: events without empty texts that are the expected
ones once adjacent texts are joined. -/
def ReadsJoined (rules : ReadingRules) (input : Input) (opened : List (List UInt8))
    (characters : List Char) (expected : List Event) : Prop :=
  ∃ events, Reads rules input (within opened) characters events ∧
    Event.text "" ∉ events ∧ Event.joined events = Event.joined expected

variable {expected : List Event}

theorem ReadsJoined.of_joined_eq {other : List Event}
    (reads : ReadsJoined rules input opened characters expected)
    (same : Event.joined expected = Event.joined other) :
    ReadsJoined rules input opened characters other := by
  obtain ⟨events, read, nonempty, joined⟩ := reads
  exact ⟨events, read, nonempty, joined.trans same⟩

/-- A token that makes no text adds its events. -/
theorem ReadsJoined.markup {token : Token} {outer : List (List UInt8)} {events : List Event}
    (reads : ReadsJoined rules input opened rest expected) (nonempty : characters ≠ [])
    (lexes : Lexes characters token rest)
    (makes : Makes rules (within outer) token events (within opened))
    (noText : ∀ chunk, Event.text chunk ∉ events) :
    ReadsJoined rules input outer characters (events ++ expected) := by
  obtain ⟨later, read, noEmpty, joined⟩ := reads
  refine ⟨events ++ later, lexes.reads nonempty makes read, ?_, ?_⟩
  · rw [List.mem_append, not_or]
    exact ⟨noText "", noEmpty⟩
  · exact Event.joined_append_of_joined_eq joined events

/-- A token that makes a chunk of text adds it, even where no event is made. -/
theorem ReadsJoined.text {token : Token} {chunk : String}
    (reads : ReadsJoined rules input opened rest expected) (nonempty : characters ≠ [])
    (lexes : Lexes characters token rest)
    (makes : Makes rules (within opened) token (textEvents chunk) (within opened)) :
    ReadsJoined rules input opened characters (.text chunk :: expected) := by
  obtain ⟨later, read, noEmpty, joined⟩ := reads
  refine ⟨textEvents chunk ++ later, lexes.reads nonempty makes read, ?_, ?_⟩
  · rw [List.mem_append, not_or]
    refine ⟨?_, noEmpty⟩
    by_cases empty : chunk = ""
    · simp [textEvents, empty]
    · simp [textEvents, empty]
  · by_cases empty : chunk = ""
    · simp [textEvents, empty, Event.joined, Event.prepend_empty, joined]
    · simp [textEvents, empty, Event.joined, joined]

/-! ### Runs of characters -/

theorem ofList_cons (character : Char) (text : List Char) :
    String.ofList (character :: text) = String.singleton character ++ String.ofList text := by
  rw [String.singleton_eq_ofList, ← String.ofList_append]
  rfl

theorem answers_text {character : Char} (isText : isTextCharacter character = true)
    (rest : List Char) (offset : Nat) :
    answers rules input (within opened) offset (character :: rest) =
      .ok (.text (String.ofList (character :: rest.takeWhile isTextCharacter))) ::
        answers rules input (within opened)
          (offset + (Utf8.encode (character :: rest.takeWhile isTextCharacter)).length)
          (rest.dropWhile isTextCharacter) := by
  rw [answers_read (List.cons_ne_nil _ _) (read_text isText rest) (makes_text (.inl rfl)) offset]
  simp [textEvents]

theorem ReadsJoined.single {character : Char} (isText : isTextCharacter character = true)
    (ends : rest.takeWhile isTextCharacter = [])
    (reads : ReadsJoined rules input opened rest expected) :
    ReadsJoined rules input opened (character :: rest)
      (.text (String.singleton character) :: expected) := by
  have left : rest.dropWhile isTextCharacter = rest := by
    have split := List.takeWhile_append_dropWhile (p := isTextCharacter) (l := rest)
    rwa [ends, List.nil_append] at split
  have lexes := read_text isText rest
  rw [ends, left] at lexes
  have made : Makes rules (within opened) (.text (Utf8.encode [character]))
      (textEvents (String.ofList [character])) (within opened) := makes_text (.inl rfl)
  rw [← String.singleton_eq_ofList] at made
  exact reads.text (List.cons_ne_nil _ _) ⟨_, _, lexes⟩ made

/-- A character in front of a run of text makes that run longer. -/
theorem ReadsJoined.longer {character next : Char} (isText : isTextCharacter character = true)
    (nextIsText : isTextCharacter next = true)
    (reads : ReadsJoined rules input opened (next :: rest) expected) :
    ReadsJoined rules input opened (character :: next :: rest)
      (.text (String.singleton character) :: expected) := by
  -- The rest is not read from its beginning any more: its first event, which was the
  -- run, is replaced, and what is read after the run stays.
  obtain ⟨events, read, noEmpty, joined⟩ := reads
  let run := next :: rest.takeWhile isTextCharacter
  cases events with
  | nil =>
      have none := read 0
      rw [answers_text nextIsText] at none
      exact absurd none (List.cons_ne_nil _ _)
  | cons first later =>
      have begins : first = .text (String.ofList run) := by
        have all := read 0
        rw [answers_text nextIsText] at all
        exact (Except.ok.inj (List.cons.inj all).1).symm
      refine ⟨.text (String.ofList (character :: run)) :: later, ?_, ?_, ?_⟩
      · intro offset
        have all := read (offset + (Utf8.encode [character]).length)
        rw [answers_text nextIsText] at all
        have size : (Utf8.encode (character :: run)).length =
            (Utf8.encode [character]).length + (Utf8.encode run).length := by
          rw [← List.length_append, ← Utf8.encode_append]
          rfl
        rw [answers_text isText, List.takeWhile_cons_of_pos nextIsText,
          List.dropWhile_cons_of_pos nextIsText, size, ← Nat.add_assoc, (List.cons.inj all).2]
        rfl
      · rw [List.mem_cons, not_or]
        refine ⟨?_, fun member => noEmpty (List.mem_cons_of_mem _ member)⟩
        simp
      · rw [Event.joined, ofList_cons, Event.prepend_append]
        rw [begins, Event.joined] at joined
        rw [joined]
        rfl

/-- One more character in front of the rest, whatever the rest begins with. -/
theorem ReadsJoined.plain {character : Char} (isText : isTextCharacter character = true)
    (reads : ReadsJoined rules input opened rest expected) :
    ReadsJoined rules input opened (character :: rest)
      (.text (String.singleton character) :: expected) := by
  cases rest with
  | nil => exact reads.single isText rfl
  | cons next rest =>
      by_cases nextIsText : isTextCharacter next = true
      · exact reads.longer isText nextIsText
      · exact reads.single isText (List.takeWhile_cons_of_neg nextIsText)

theorem ReadsJoined.spelled {piece written : List Char} (spelled : Characters [] piece written)
    (reads : ReadsJoined rules input opened rest expected) :
    ReadsJoined rules input opened (written ++ rest)
      (.text (String.ofList piece) :: expected) := by
  induction spelled with
  | done =>
      refine reads.of_joined_eq ?_
      rw [Event.joined, String.ofList_nil, Event.prepend_empty]
  | @plain character text spelling notLess notAmpersand allowed later ih =>
      have isText : isTextCharacter character = true := by
        simp [isTextCharacter, notLess, notAmpersand]
      rw [ofList_cons]
      exact (ih.plain isText).of_joined_eq (Event.joined_text_append _ _ _)
  | @reference character name text spelling refers later ih =>
      have made : Makes rules (within opened) _ _ (within opened) := makes_reference refers
      rw [ofList_cons, List.cons_append, List.append_assoc, List.cons_append]
      have reads := ih.text (List.cons_ne_nil _ _) (lexes_reference refers _) made
      exact reads.of_joined_eq (Event.joined_text_append _ _ _)

/-! ### Content -/

/-- A spelling of content in front of the rest adds the events of the content. -/
theorem ReadsJoined.inFront {inside : Content} {spelling : List Char}
    (spells : Spells inside spelling) (reads : ReadsJoined rules input opened rest expected) :
    ReadsJoined rules input opened (spelling ++ rest) (inside.events ++ expected) := by
  -- The rest is read first: a spelling is known from its end.
  induction spells generalizing opened rest expected with
  | nothing => exact reads
  | @passedOver content markup spelling passed later ih =>
      rw [List.append_assoc]
      exact (ih reads).markup (by simp [passed.ne_nil]) (lexes_passedOver passed _) makes_nothing
        (fun _ => List.not_mem_nil)
  | @characters piece written spelling chunk content spelled later ih =>
      rw [List.append_assoc]
      exact ((ih reads).spelled spelled).of_joined_eq (Event.joined_text_append _ _ _)
  | @cdata piece spelling chunk content unclosed later ih =>
      rw [List.append_assoc]
      have made := (ih reads).text (by simp) (lexes_cdata unclosed _) (makes_text (.inr rfl))
      exact made.of_joined_eq (Event.joined_text_append _ _ _)
  | @textEnd content spelling later ih =>
      refine (ih reads).of_joined_eq ?_
      show _ = Event.joined (.text "" :: (content.events ++ expected))
      rw [Event.joined, Event.prepend_empty]
  | @element name attributes inner content tag innerSpelling blanks spelling start inside blank
      later ihInner ihLater =>
      have closing := (ihLater reads).markup (by simp) (lexes_endTag start.isName blank _)
        (makes_end start.isName blank) (by simp)
      have whole := (ihInner closing).markup (by simp) (lexes_startTag start _)
        (makes_start start) (by simp)
      simpa [Content.events] using whole
  | @emptyElement name attributes content tag spelling start later ih =>
      have whole := (ih reads).markup (by simp) (lexes_emptyTag start _) (makes_empty start)
        (by simp)
      simpa [Content.events] using whole

/-! ### Documents -/

theorem StartTag.begins {tag : List Char} (start : StartTag name attributes tag) :
    ∃ second others, tag = second :: others ∧ second ≠ '\x00' := by
  obtain ⟨second, others, rfl⟩ := List.exists_cons_of_ne_nil start.ne_nil
  exact ⟨second, others, rfl, start.head?_ne '\x00' (by decide) second rfl⟩

/-- A document begins with markup and is in no encoding of UTF-16. -/
theorem Spells.begins {inner later : Content}
    (spells : Spells (.element name attributes inner later) characters) :
    ∃ second others, characters = '<' :: second :: others ∧ second ≠ '\x00' := by
  cases spells with
  | passedOver passed _ =>
      cases passed with
      | comment => exact ⟨'!', _, rfl, by decide⟩
      | instruction => exact ⟨'?', _, rfl, by decide⟩
  | element start _ _ _ =>
      obtain ⟨second, others, rfl, nonzero⟩ := start.begins
      exact ⟨second, _, rfl, nonzero⟩
  | emptyElement start _ =>
      obtain ⟨second, others, rfl, nonzero⟩ := start.begins
      exact ⟨second, _, rfl, nonzero⟩

/-- The first bytes of a document tell nothing but UTF-8, however many are looked at. -/
theorem detect_eq {second : Char} (nonzero : second ≠ '\x00') (others : List Char)
    (count : Nat) :
    Reading.detect ((Utf8.encode ('<' :: second :: others)).take count) = (.utf8, 0) := by
  have absent : (0 : UInt8) ∉ Utf8.encode [second] :=
    Utf8.not_mem_encode '\x00' (by decide) (by simpa using Ne.symm nonzero)
  rw [Utf8.encode_singleton] at absent
  cases bytes : String.utf8EncodeChar second with
  | nil => exact absurd bytes String.utf8EncodeChar_ne_nil
  | cons byte further =>
      have notZero : 0 ≠ byte := by
        rintro rfl
        exact absent (bytes ▸ List.mem_cons_self)
      have whole : Utf8.encode ('<' :: second :: others) =
          Byte.less :: byte :: (further ++ Utf8.encode others) := by
        rw [Utf8.encode_cons, Utf8.encode_cons, bytes]
        rfl
      rw [whole]
      match count with
      | 0 => rfl
      | 1 => rfl
      | count + 2 =>
          rw [List.take_succ_cons, List.take_succ_cons]
          simp [Reading.detect, List.isPrefixOf, notZero, Byte.less]

/-- Reading undoes spelling.  Whatever spelling of a tree the bytes of an input are, the
answers are the events of a document with this tree, but for the places where a text is
cut in two, and no text is empty. -/
theorem replies_spelled {inner : Content} {settings : Settings}
    (spells : Spells (.element name attributes inner .nothing) characters)
    (bytes : input.bytes = Utf8.encode characters) (sound : input.fault = none)
    (untrimmed : settings.trimsText = false) (knownUtf8 : Bool) :
    ∃ events, (input.replies settings knownUtf8).map (·.answer) = events.map .ok ∧
      .text "" ∉ events ∧
      Event.joined events = Event.joined
        (.documentStart ::
          ((Content.element name attributes inner .nothing).events ++ [.documentEnd])) := by
  obtain ⟨second, others, rfl, nonzero⟩ := spells.begins
  have buffer : input.firstBuffer =
      .ok ((Utf8.encode ('<' :: second :: others)).take input.window) := by
    rw [Input.firstBuffer, sound, bytes]
    split
    · contradiction
    · rfl
  have body : input.drop 0 = input := by
    rw [Input.drop]
    cases input
    simp
  have atEnd : ReadsJoined (.ofSettings settings knownUtf8) input [] [] [.documentEnd] :=
    ⟨[.documentEnd], reads_nil, by simp, rfl⟩
  obtain ⟨events, read, noEmpty, joined⟩ := atEnd.inFront spells
  refine ⟨.documentStart :: events, ?_, ?_, ?_⟩
  · have answered := read 0
    rw [List.append_nil] at answered
    rw [Input.replies, buffer]
    simp only [detect_eq nonzero, body]
    rw [List.map_cons, List.map_cons, ← answered, answers, ← bytes, ← sound, ← untrimmed]
    rfl
  · rw [List.mem_cons, not_or]
    exact ⟨by simp, noEmpty⟩
  · exact Event.joined_append_of_joined_eq joined [.documentStart]

/-- A closing bracket and a reference in a value, a comment in the middle of a text that
ends in a CDATA section, and an element with one tag. -/
theorem spells_small :
    Spells
      (.element "r" [("a", "1A>")] (.text "x<" (.element "e" [] .nothing .nothing)) .nothing)
      "<r a='1&#65;>'>x<!--y--><![CDATA[<]]><e/></r >".toList := by
  have none : Blanks [] := by decide
  have one : Blanks [' '] := by decide
  have letter : Refers 'A' ['#', '6', '5'] := .decimal (by decide) (by decide) (by decide)
  have greater : Characters ['\''] ['>'] ['>'] :=
    .plain (by decide) (by decide) (by decide) .done
  have value : Characters ['\''] "1A>".toList "1&#65;>".toList :=
    .plain (by decide) (by decide) (by decide) (.reference letter greater)
  have key : IsName "a".toList := by decide
  have start : StartTag "r" [("a", "1A>")] "r a='1&#65;>'".toList :=
    { isName := by decide
      distinct := by decide
      spelled := ⟨" a='1&#65;>'".toList,
        .more (List.cons_ne_nil _ _) one key none none (.inr rfl) value (.done none), rfl⟩ }
  have emptyStart : StartTag "e" [] "e".toList :=
    { isName := by decide
      distinct := by decide
      spelled := ⟨[], .done none, rfl⟩ }
  have unclosed : ¬ [']', ']', '>'] <:+: ['<'] := by decide
  have ending : Spells (.text "<" (.element "e" [] .nothing .nothing))
      "<![CDATA[<]]><e/>".toList :=
    .cdata unclosed (.textEnd (.emptyElement emptyStart .nothing))
  have remark : PassedOver "<!--y-->".toList := by
    have noHyphens : ¬ ['-', '-'] <:+: ['y'] := by decide
    exact .comment noHyphens (by decide)
  have word : Characters [] ['x'] ['x'] := .plain (by decide) (by decide) (by decide) .done
  exact .element start (.characters word (.passedOver remark ending)) one .nothing

theorem replies_small :
    ∃ events, ((Input.ofBytes (Utf8.encode
        "<r a='1&#65;>'>x<!--y--><![CDATA[<]]><e/></r >".toList)).replies
          .standard false).map (·.answer) = events.map .ok ∧
      .text "" ∉ events ∧
      Event.joined events =
        [.documentStart, .elementStart "r" [("a", "1A>")], .text "x<", .elementStart "e" [],
          .elementEnd "e", .elementEnd "r", .documentEnd] :=
  replies_spelled spells_small rfl rfl rfl false

end Spelling

end XmlExtract
