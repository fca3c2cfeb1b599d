import XmlExtract.Proofs.TranscodedReading

/-!
# The declared encoding of a transcoded document

The bytes of a transcoded document are UTF-8, whatever the document declares, and its reader
is told so.  The reader takes notice of the declaration all the same, and asks for the
declared encoding in one place: to show the names in an error at an end tag.  So of two
documents that differ in their declarations only, either both have the same outcome, or both
have the same fault at the same end tag, and show its names in two encodings
(`Query.outcome_relabelled`).
-/

namespace XmlExtract

open Utf16 (ByteOrder)

/-- A fault at an end tag, with the names as bytes. -/
structure EndTagFault where
  /-- The name of the innermost open element, if any is open. -/
  expected? : Option (List UInt8)
  name : List UInt8

/-- The fault as it is told in a document that is taken to be in this encoding. -/
def EndTagFault.cause (decoders : Decoders) (fault : EndTagFault) (charset : Charset) :
    Malformation :=
  let shown := (Reading.start charset).shownName decoders
  match fault.expected? with
  | none => .unmatchedEndTag (shown fault.name)
  | some expected => .mismatchedEndTag (shown expected) (shown fault.name)

/-! ### Readings that differ in the encoding -/

namespace Reading

variable {rules : ReadingRules} {reading : Reading}

/-- The reading, if the document has begun by declaring this known encoding, or none. -/
def under (reading : Reading) : Option Charset → Reading
  | none => reading
  | some charset => { reading with charset := charset, declared := true }

theorem opened_under (reading : Reading) (label : Option Charset) :
    (reading.under label).opened = reading.opened := by
  cases label <;> rfl

theorem charset_under (reading : Reading) (label : Option Charset) :
    (reading.under label).charset = label.getD reading.charset := by
  cases label <;> rfl

/-- What an outer declaration says cannot be changed by a later one. -/
theorem declare_under (reading : Reading) (label : Option Charset) (content : List UInt8) :
    (reading.under label).declare content = (reading.declare content).under label := by
  cases label with
  | none => rfl
  | some charset =>
      unfold declare
      simp only [under, if_true]
      split
      · rfl
      · split <;> rfl

theorem declare_start (charset : Charset) (content : List UInt8) :
    (start charset).declare content = (start charset).under (declaredCharset? content) := by
  unfold declare
  cases declaredCharset? content <;> rfl

/-- An end tag is at fault whatever encoding was declared, but the fault is told in it. -/
theorem close_under (rules : ReadingRules) (reading : Reading) (name : List UInt8) :
    (∃ fault : EndTagFault, ∀ label, (reading.under label).close rules name =
        .error (fault.cause rules.decoders (label.getD reading.charset))) ∨
      ∃ closed : Reading, ∀ label,
        (reading.under label).close rules name = .ok (closed.under label) := by
  unfold close
  simp only [opened_under]
  cases reading.opened with
  | nil =>
      refine Or.inl ⟨⟨none, name⟩, fun label => ?_⟩
      rw [← charset_under]
      rfl
  | cons expected outer =>
      simp only
      split
      · refine Or.inl ⟨⟨some expected, name⟩, fun label => ?_⟩
        rw [← charset_under]
        rfl
      · refine Or.inr ⟨{ reading with opened := outer }, fun label => ?_⟩
        cases label <;> rfl

/-- A reader that is told the encoding decodes alike whatever was declared. -/
theorem decode_under (told : rules.knownUtf8 = true) (reading : Reading)
    (label : Option Charset) (bytes : List UInt8) :
    (reading.under label).decode rules bytes = reading.decode rules bytes := by
  simp only [decode, told, if_true]

theorem readStart_under (told : rules.knownUtf8 = true) (reading : Reading)
    (label : Option Charset) (content : List UInt8) :
    (reading.under label).readStart rules content = reading.readStart rules content := by
  have attributes : (reading.under label).readAttribute rules = reading.readAttribute rules := by
    funext raw
    simp only [readAttribute, decode_under told]
  simp only [readStart, decode_under told, attributes]

theorem readEnd_under (told : rules.knownUtf8 = true) (reading : Reading)
    (label : Option Charset) (name : List UInt8) :
    (reading.under label).readEnd rules name = reading.readEnd rules name := by
  simp only [readEnd, decode_under told]

/-- A reader that is told the encoding takes a token alike whatever was declared, unless it is
an end tag at fault. -/
theorem take_under (told : rules.knownUtf8 = true) (reading : Reading) (piece : Piece)
    (token : Token) :
    (∃ fault : EndTagFault, ∀ label,
        (reading.under label).take rules piece token =
          .error (.malformed piece.start
            (fault.cause rules.decoders (label.getD reading.charset)))) ∨
      ∀ label, (reading.under label).take rules piece token =
        (reading.take rules piece token).map fun answer =>
          (answer.1, answer.2.under label) := by
  cases token with
  | text raw | cdata raw =>
      right
      intro label
      simp only [take, decode_under told]
      cases reading.decode rules raw <;> rfl
  | reference name =>
      right
      intro label
      simp only [take, decode_under told]
      cases reading.decode rules name with
      | error cause => rfl
      | ok decoded =>
          simp only [blame, bind, Except.bind]
          cases Reference.resolve 1 decoded.toList <;> rfl
  | startTag content isEmpty =>
      right
      intro label
      simp only [take, readStart_under told, readEnd_under told, opened_under]
      cases reading.readStart rules content with
      | error cause => rfl
      | ok event =>
          cases isEmpty with
          | false => cases label <;> rfl
          | true =>
              cases reading.readEnd rules (startName content) <;> rfl
  | endTag content =>
      simp only [take]
      rcases close_under rules reading (endName content) with
        ⟨fault, faulty⟩ | ⟨closed, closes⟩
      · left
        refine ⟨fault, fun label => ?_⟩
        rw [faulty]
      · right
        intro label
        have closesHere : reading.close rules (endName content) = .ok closed :=
          closes none
        simp only [closes label, closesHere, readEnd_under told]
        cases closed.readEnd rules (endName content) <;> rfl
  | declaration content =>
      right
      intro label
      simp only [take, declare_under]
      rfl
  | passedOver =>
      right
      intro label
      rfl

/-- Replies that do not depend on the declared encoding, or in nothing but the names of a
last fault at an end tag. -/
inductive Unmoved (decoders : Decoders) (answers : Option Charset → List Reply) : Prop where
  | same (replies : List Reply) (constant : ∀ label, answers label = replies)
  | fault (front : List Reply) (position : Nat) (raised : Bool) (fault : EndTagFault)
      (later : Charset) (ends : ∀ label, answers label =
        front ++ [⟨position,
          .error (.malformed position (fault.cause decoders (label.getD later))), raised⟩])

theorem Unmoved.append {decoders : Decoders} {answers : Option Charset → List Reply}
    (unmoved : Unmoved decoders answers) (front : List Reply) :
    Unmoved decoders fun label => front ++ answers label := by
  cases unmoved with
  | same replies constant => exact .same (front ++ replies) fun label => by rw [constant]
  | fault before position raised fault later ends =>
      refine .fault (front ++ before) position raised fault later fun label => ?_
      rw [ends, List.append_assoc]

theorem unmoved_replies (told : rules.knownUtf8 = true) (input : Input) (reading : Reading)
    (pieces : List Piece) :
    Unmoved rules.decoders fun label => replies rules input (reading.under label) pieces := by
  induction pieces generalizing reading with
  | nil => exact .same [] fun _ => rfl
  | cons piece later ih =>
      simp only [replies]
      cases content : piece.content with
      | error error => exact .same _ fun _ => rfl
      | ok found =>
          cases found with
          | none => exact .same _ fun _ => rfl
          | some token =>
              rcases take_under told reading piece token with ⟨fault, faulty⟩ | alike
              · simp only [faulty]
                exact .fault [] piece.start _ fault reading.charset fun _ => rfl
              · simp only [alike]
                cases reading.take rules piece token with
                | error error => exact .same _ fun _ => rfl
                | ok answer => exact (ih answer.2).append _

end Reading

/-! ### Runs that meet a last error -/

namespace Extraction

/-- A run over replies of which the last is an error ends with that error, or the error does
not matter to it. -/
theorem outcome_append_error (extraction : Extraction) (stop : StopRequest) (position : Nat)
    (front : List Reply) (last : Nat) (raised : Bool) :
    (∃ outcome, ∀ error,
        (extraction.runFrom stop position (front ++ [⟨last, .error error, raised⟩])).outcome =
          outcome) ∨
      ∀ error,
        (extraction.runFrom stop position (front ++ [⟨last, .error error, raised⟩])).outcome =
          .error error := by
  cases stopped : stop.stops with
  | true => exact Or.inl ⟨_, fun error => by rw [runFrom_of_stops stopped]⟩
  | false =>
      induction front generalizing extraction stop position with
      | nil =>
          cases stopsNow : (stop.raiseIf raised).stops with
          | true =>
              left
              refine ⟨.error .cancelled, fun error => ?_⟩
              rw [List.nil_append, runFrom_cons stopped, react_of_stops stopsNow]
          | false =>
              right
              intro error
              rw [List.nil_append, runFrom_cons stopped]
              simp [react, hear, stopsNow]
      | cons reply later ih =>
          simp only [List.cons_append, runFrom_cons stopped]
          cases reaction : extraction.react stop reply with
          | inl outcome => exact Or.inl ⟨outcome, fun _ => rfl⟩
          | inr next => exact ih next _ _ (of_react_inr reaction).1

/-- A run over replies that are moved by nothing but the declared encoding has the same
outcome under all of them, or ends with a fault at an end tag that is told in it. -/
theorem outcome_unmoved {decoders : Decoders} {answers : Option Charset → List Reply}
    (unmoved : Reading.Unmoved decoders answers) (extraction : Extraction) (stop : StopRequest) :
    (∃ outcome, ∀ label, (extraction.run stop (answers label)).outcome = outcome) ∨
      ∃ position fault later, ∀ label, (extraction.run stop (answers label)).outcome =
        .error (.malformed position (EndTagFault.cause decoders fault (label.getD later))) := by
  cases unmoved with
  | same replies constant =>
      exact Or.inl ⟨_, fun label => by rw [constant]⟩
  | fault front position raised fault later ends =>
      simp only [ends, run]
      rcases outcome_append_error extraction stop 0 front position raised with
        ⟨outcome, constant⟩ | reported
      · exact Or.inl ⟨outcome, fun _ => constant _⟩
      · exact Or.inr ⟨position, fault, later, fun _ => reported _⟩

end Extraction

/-! ### Documents that begin with a declaration -/

/-- A declaration, by what stands between `<?xml` and `?>`. -/
structure Declaration where
  inside : List Char
  separated : inside.head?.all isBlank = true
  unclosed : ¬ ['?', '>'] <:+: inside

namespace Declaration

/-- The bytes of a declaration without its delimiters. -/
def content (declaration : Declaration) : List UInt8 :=
  Utf8.encode ("xml".toList ++ declaration.inside)

/-- The known encoding that a declaration names. -/
def charset? (declaration : Declaration) : Option Charset :=
  Reading.declaredCharset? declaration.content

/-- A text that begins with a declaration. -/
def before (declaration : Declaration) (rest : List Char) : List Char :=
  "<?".toList ++ "xml".toList ++ declaration.inside ++ "?>".toList ++ rest

variable (declaration : Declaration)

theorem ofInstruction_content :
    Lexeme.ofInstruction declaration.content = .declaration declaration.content := by
  have begins : declaration.content = Lexeme.xmlName ++ Utf8.encode declaration.inside :=
    Utf8.encode_append _ _
  have length : Lexeme.xmlName.length = 3 := by decide
  have blank : (Utf8.encode declaration.inside).head?.all isBlankByte = true := by
    cases inside : declaration.inside with
    | nil => rfl
    | cons first later =>
        have separated := declaration.separated
        rw [inside] at separated
        obtain ⟨byte, written, blank⟩ := Spelling.encode_blank separated
        rw [Utf8.encode_cons, written]
        exact blank
  rw [Lexeme.ofInstruction, if_pos]
  rw [begins, Bool.and_eq_true, decide_eq_true_eq, List.drop_left' length]
  exact ⟨List.take_left' length, blank⟩

/-- The bytes of a declaration. -/
def written (declaration : Declaration) : List UInt8 := Utf8.encode (declaration.before [])

theorem encode_before (rest : List Char) :
    Utf8.encode (declaration.before rest) = declaration.written ++ Utf8.encode rest := by
  rw [written, ← Utf8.encode_append, before, before, List.append_nil]

theorem exists_written : ∃ more,
    declaration.written = Byte.less :: Byte.question :: more := by
  refine ⟨Utf8.encode ("xml".toList ++ (declaration.inside ++ ("?>".toList ++ []))), ?_⟩
  rw [written, before, List.append_assoc, List.append_assoc, List.append_assoc,
    Utf8.encode_append]
  rfl

theorem read_written : Lexeme.read declaration.written =
    Lexeme.closed (.declaration declaration.content) (declaration.content.length + 4) [] := by
  rw [written, before, Spelling.read_instruction (by decide) declaration.unclosed]
  rw [← content, ofInstruction_content]
  rfl

/-- A document that begins with a declaration is the declaration and then what follows. -/
theorem cutFrom_written (trim : Bool) (bytes : List UInt8) : ∃ piece : Piece,
    piece.content = .ok (some (.declaration declaration.content)) ∧
      Piece.cutFrom trim none 0 (declaration.written ++ bytes) =
        piece :: Piece.cutFrom trim none (declaration.content.length + 4) bytes := by
  obtain ⟨more, begins⟩ := declaration.exists_written
  have noBlank : isBlankByte Byte.less = false := by decide
  have blanks : (if trim then declaration.written.takeWhile isBlankByte else []) = [] := by
    rw [begins, List.takeWhile_cons, noBlank]
    cases trim <;> rfl
  have whole : (if trim then declaration.written.dropWhile isBlankByte
      else declaration.written) = declaration.written := by
    rw [begins, List.dropWhile_cons, noBlank]
    cases trim <;> rfl
  have cut := Piece.cutFrom_append trim 0 declaration.written bytes
  simp only [blanks, whole, declaration.read_written] at cut
  have content : (Piece.ofLexeme trim none 0 0 (Lexeme.closed (.declaration declaration.content)
      (declaration.content.length + 4) [])).content =
        .ok (some (.declaration declaration.content)) := by
    rw [Piece.content_ofLexeme]
    cases trim <;> rfl
  refine ⟨_, content, ?_⟩
  rw [cut (by simp [begins]) rfl _ content]
  simp [Piece.ofLexeme, Lexeme.closed]

/-- What a reader that is told the encoding replies for a document that begins with a
declaration.  Of the declaration it matters how long it is, and what it names. -/
def answers (settings : Settings) (length : Nat) (rest : List Char) (label : Option Charset) :
    List Reply :=
  ⟨0, .ok .documentStart, false⟩ ::
    Reading.replies (.ofSettings settings true) (Input.ofBytes [])
      ((Reading.start .utf8).under label)
      (Piece.cutFrom settings.trimsText none (length + 4) (Utf8.encode rest))

theorem replies_before (settings : Settings) (rest : List Char) :
    (Input.ofBytes (Utf8.encode (declaration.before rest))).replies settings true =
      answers settings declaration.content.length rest declaration.charset? := by
  obtain ⟨more, begins⟩ := declaration.exists_written
  obtain ⟨piece, content, cut⟩ :=
    declaration.cutFrom_written settings.trimsText (Utf8.encode rest)
  have detected : Reading.detect (declaration.written ++ Utf8.encode rest) = (.utf8, 0) := by
    rw [begins]
    rfl
  unfold Input.replies Input.ofBytes answers
  simp only [encode_before, Input.firstBuffer_of_sound, List.take_length, detected, Piece.cut,
    Input.drop, List.drop_zero, cut, Reading.replies, content, Reading.take,
    Reading.declare_start]
  congr 1
  apply Reading.replies_congr
  rfl

end Declaration

/-! ### Queries over documents that differ in their declarations -/

namespace Query

/-- The outcome of a query over a document in UTF-16, with its byte order mark, that begins
with a declaration. -/
def outcomeBehind (world : World) (pattern : Pattern) (settings : Settings)
    (order : ByteOrder) (rest : List Char) (declaration : Declaration) : Except Error Capture :=
  outcome world ⟨.bytes (order.mark ++ Utf16.encode order (declaration.before rest)), pattern,
    settings⟩

theorem outcomeBehind_eq (world : World) (pattern : Pattern) (settings : Settings)
    (order : ByteOrder) (rest : List Char) (declaration : Declaration) :
    outcomeBehind world pattern settings order rest declaration =
      ((Extraction.start pattern settings).run .ignored
        (Declaration.answers settings declaration.content.length rest
          declaration.charset?)).outcome := by
  rw [outcomeBehind, outcome, run_transcoded (Layout.detect_marked order _)
    (Layout.utf16ToUtf8_marked order _), Declaration.replies_before]

/-- Two documents in UTF-16 that differ in their declarations only, of which one is as long as
the other, have the same outcome, or both have the same fault at the same end tag.  Its names
are shown in the encoding that the declaration names, if it is known, and otherwise in the
one that the document has come to by then. -/
theorem outcome_relabelled (world : World) (pattern : Pattern) (settings : Settings)
    (order : ByteOrder) (rest : List Char) (first second : Declaration)
    (sameLength : first.content.length = second.content.length) :
    outcomeBehind world pattern settings order rest first =
        outcomeBehind world pattern settings order rest second ∨
      ∃ position later, ∃ fault : EndTagFault,
        outcomeBehind world pattern settings order rest first =
            .error (.malformed position
              (fault.cause settings.decoders (first.charset?.getD later))) ∧
          outcomeBehind world pattern settings order rest second =
            .error (.malformed position
              (fault.cause settings.decoders (second.charset?.getD later))) := by
  have told : (ReadingRules.ofSettings settings true).knownUtf8 = true := rfl
  have unmoved : Reading.Unmoved settings.decoders
      (Declaration.answers settings first.content.length rest) :=
    (Reading.unmoved_replies told (Input.ofBytes []) (Reading.start .utf8)
      (Piece.cutFrom settings.trimsText none (first.content.length + 4)
        (Utf8.encode rest))).append [_]
  rw [outcomeBehind_eq, outcomeBehind_eq, ← sameLength]
  rcases Extraction.outcome_unmoved unmoved (Extraction.start pattern settings) .ignored with
    ⟨outcome, constant⟩ | ⟨position, fault, later, ends⟩
  · left
    rw [constant, constant]
  · right
    exact ⟨position, later, fault, ends _, ends _⟩

/-- A declaration with the usual label of UTF-16. -/
def declaresUtf16 : Declaration :=
  ⟨" version=\"1.0\" encoding=\"utf-16\"".toList, by decide, by decide⟩

/-- A declaration with a label of the same length that is not known. -/
def declaresUnknown : Declaration :=
  ⟨" version=\"1.0\" encoding=\"foobar\"".toList, by decide, by decide⟩

/-- `<é>x</é>` is read alike behind both declarations. -/
theorem outcome_relabelled_sound :
    declaresUtf16.content.length = declaresUnknown.content.length ∧
      outcomeBehind World.bare .root .standard .little "<é>x</é>".toList declaresUtf16 =
        outcomeBehind World.bare .root .standard .little "<é>x</é>".toList
          declaresUnknown := by
  have sameLength : declaresUtf16.content.length = declaresUnknown.content.length := by
    decide +kernel
  have sound : (outcomeBehind World.bare .root .standard .little "<é>x</é>".toList
      declaresUtf16).toOption.isSome = true := by
    decide +kernel
  refine ⟨sameLength, ?_⟩
  rcases outcome_relabelled World.bare .root .standard .little "<é>x</é>".toList
    declaresUtf16 declaresUnknown sameLength with same | ⟨position, later, fault, failed, -⟩
  · exact same
  · rw [failed] at sound
    contradiction

/-- `<ab></cd>` has the same fault behind both declarations, but it is not told alike: behind
the label of UTF-16 each name of two letters is shown as one character. -/
theorem outcome_relabelled_mismatched :
    let outcomeOf := outcomeBehind World.bare .root .standard .little "<ab></cd>".toList
    declaresUtf16.content.length = declaresUnknown.content.length ∧
      outcomeOf declaresUtf16 = .error (.malformed 43 (.mismatchedEndTag "扡" "摣")) ∧
      outcomeOf declaresUnknown = .error (.malformed 43 (.mismatchedEndTag "ab" "cd")) ∧
      outcomeOf declaresUtf16 ≠ outcomeOf declaresUnknown := by
  decide +kernel

end Query

end XmlExtract
