import XmlExtract.Proofs.SpelledToken

/-!
# Tags of a spelling

A tag ends at the first closing bracket outside of its values, since no other part of a
tag has quotes or closing brackets (`AttributeList.tag_open`).  That makes one token of a
start tag (`lexes_startTag`), of an element with one tag (`lexes_emptyTag`) and of an end
tag (`lexes_endTag`).
-/

namespace XmlExtract

namespace Spelling

/-! ### The end of a tag -/

/-- A tag ends at the first closing bracket outside of its values, and its first byte
says whether it is an end tag. -/
theorem read_tag {content : List Char} (nonempty : content ≠ [])
    (begins : ∀ first ∈ content.head?, first ≠ '!' ∧ first ≠ '?')
    (run : (Utf8.encode content).foldlM Scanner.tag none = some none) (rest : List Char) :
    ∃ byte others, Utf8.encode content = byte :: others ∧
      Lexeme.read (Utf8.encode ('<' :: (content ++ '>' :: rest))) =
        if byte == Byte.slash then
          Lexeme.closed (.endTag others) ((Utf8.encode content).length + 2) (Utf8.encode rest)
        else
          Lexeme.closed (Lexeme.ofStartTag (Utf8.encode content))
            ((Utf8.encode content).length + 2) (Utf8.encode rest) := by
  have scanned : scan Scanner.tag none (Utf8.encode content ++ Byte.greater :: Utf8.encode rest) =
      some (Utf8.encode content, Utf8.encode rest) :=
    scan_closing run (by decide)
  have whole : Utf8.encode ('<' :: (content ++ '>' :: rest)) =
      Byte.less :: (Utf8.encode content ++ Byte.greater :: Utf8.encode rest) := by
    rw [Utf8.encode_cons, Utf8.encode_append]
    rfl
  obtain ⟨first, later, rfl⟩ := List.exists_cons_of_ne_nil nonempty
  obtain ⟨notExclamation, notQuestion⟩ := begins first rfl
  have marks := Scanner.marks_not_mem (by decide) (by decide) notExclamation notQuestion
  rw [Utf8.encode_singleton] at marks
  cases bytes : String.utf8EncodeChar first with
  | nil => exact absurd bytes String.utf8EncodeChar_ne_nil
  | cons byte others =>
      rw [bytes, List.forall_mem_cons] at marks
      obtain ⟨⟨notExclamationByte, notQuestionByte⟩, -⟩ := marks
      have content : Utf8.encode (first :: later) = byte :: (others ++ Utf8.encode later) := by
        rw [Utf8.encode_cons, bytes, List.cons_append]
      refine ⟨byte, others ++ Utf8.encode later, content, ?_⟩
      rw [content] at scanned
      rw [whole, content]
      have markup : Lexeme.read (Byte.less ::
          (byte :: (others ++ Utf8.encode later) ++ Byte.greater :: Utf8.encode rest)) =
          Lexeme.readTag
            (byte :: (others ++ Utf8.encode later) ++ Byte.greater :: Utf8.encode rest) := by
        simp only [Lexeme.read, Lexeme.readMarkup, List.cons_append]
        rw [if_pos (by decide), if_neg (by simpa using notExclamationByte),
          if_neg (by simpa using notQuestionByte)]
      rw [markup, Lexeme.readTag, scanned]

theorem tag_plain {characters : List Char}
    (plain : ∀ character ∈ characters,
      character ≠ '>' ∧ character ≠ '\"' ∧ character ≠ '\'') :
    (Utf8.encode characters).foldlM Scanner.tag none = some none := by
  apply Scanner.tag_outside
  intro byte member
  refine ⟨?_, ?_, ?_⟩
  · exact Utf8.ne_of_mem_encode member '>' (by decide) fun inside => (plain _ inside).1 rfl
  · exact Utf8.ne_of_mem_encode member '\"' (by decide) fun inside => (plain _ inside).2.1 rfl
  · exact Utf8.ne_of_mem_encode member '\'' (by decide) fun inside => (plain _ inside).2.2 rfl

theorem Blanks.plain {blanks : List Char} (blank : Blanks blanks) :
    ∀ character ∈ blanks, character ≠ '>' ∧ character ≠ '\"' ∧ character ≠ '\'' := by
  intro character member
  refine ⟨?_, ?_, ?_⟩ <;>
    · rintro rfl
      exact absurd (blank _ member) (by decide)

theorem IsName.plain {name : List Char} (isName : IsName name) :
    ∀ character ∈ name, character ≠ '>' ∧ character ≠ '\"' ∧ character ≠ '\'' := by
  intro character member
  refine ⟨?_, ?_, ?_⟩ <;>
    · rintro rfl
      exact absurd member (isName.not_mem _ (by decide))

/-- The quote around a value stands in no spelling of it. -/
theorem Characters.quote_not_mem {quote : Char} {text spelling : List Char}
    (quoted : quote = '\"' ∨ quote = '\'') (spelled : Characters [quote] text spelling) :
    quote ∉ spelling := by
  have isMark : quote ∈ [';', '&', '<', '\"', '\''] := by
    rcases quoted with rfl | rfl <;> decide
  have other : quote ≠ '&' ∧ quote ≠ ';' := by
    rcases quoted with rfl | rfl <;> decide
  induction spelled with
  | done => exact List.not_mem_nil
  | plain notLess notAmpersand allowed rest ih =>
      rw [List.mem_cons, not_or]
      exact ⟨fun same => allowed (List.mem_singleton.mpr same.symm), ih⟩
  | reference refers rest ih =>
      simp only [List.mem_cons, List.mem_append, not_or]
      exact ⟨other.1, refers.not_mem _ isMark, other.2, ih⟩

/-- A quote is one byte, which stands in a text only where the quote does. -/
theorem exists_quote_byte {quote : Char} (quoted : quote = '\"' ∨ quote = '\'') :
    ∃ byte, (byte = Byte.quote ∨ byte = Byte.apostrophe) ∧
      (∀ characters, Utf8.encode (quote :: characters) = byte :: Utf8.encode characters) ∧
      ∀ characters, quote ∉ characters → byte ∉ Utf8.encode characters := by
  rcases quoted with rfl | rfl
  · exact ⟨Byte.quote, Or.inl rfl, fun _ => rfl,
      fun _ absent => Utf8.not_mem_encode '\"' (by decide) absent⟩
  · exact ⟨Byte.apostrophe, Or.inr rfl, fun _ => rfl,
      fun _ absent => Utf8.not_mem_encode '\'' (by decide) absent⟩

theorem AttributeList.tag_open {attributes : List (String × String)} {spelling : List Char}
    (spelled : AttributeList attributes spelling) :
    (Utf8.encode spelling).foldlM Scanner.tag none = some none := by
  induction spelled with
  | done blank => exact tag_plain blank.plain
  | more separated blank isName blankBefore blankAfter quoted value rest ih =>
      rename_i key text before beforeEquals afterEquals written spelling quote attributes
      obtain ⟨byte, isQuote, encoded, absent⟩ := exists_quote_byte quoted
      let outside := before ++ (key.toList ++ (beforeEquals ++ '=' :: afterEquals))
      have plain : ∀ character ∈ outside,
          character ≠ '>' ∧ character ≠ '\"' ∧ character ≠ '\'' := by
        simp only [outside, List.forall_mem_append, List.forall_mem_cons]
        exact ⟨blank.plain, isName.plain, blankBefore.plain, by decide, blankAfter.plain⟩
      have inside := Scanner.tag_quoted isQuote (absent _ (value.quote_not_mem quoted))
      have whole : Utf8.encode (before ++ (key.toList ++ (beforeEquals ++ '=' ::
          (afterEquals ++ quote :: (written ++ quote :: spelling))))) =
          Utf8.encode outside ++
            (byte :: (Utf8.encode written ++ [byte]) ++ Utf8.encode spelling) := by
        simp [outside, Utf8.encode_append, Utf8.encode_cons '=', encoded]
      rw [whole, List.foldlM_append, tag_plain plain]
      show ((byte :: (Utf8.encode written ++ [byte]) ++ _).foldlM Scanner.tag none) = _
      rw [List.foldlM_append, inside]
      exact ih

theorem AttributeList.getLast?_ne {attributes : List (String × String)} {spelling : List Char}
    (spelled : AttributeList attributes spelling) : spelling.getLast? ≠ some '/' := by
  induction spelled with
  | done blank =>
      intro last
      exact absurd (blank '/' (List.mem_of_getLast? last)) (by decide)
  | more separated blank isName blankBefore blankAfter quoted value rest ih =>
      rename_i key text before beforeEquals afterEquals written spelling quote attributes
      have notSlash : quote ≠ '/' := by
        rcases quoted with rfl | rfl <;> decide
      let front := before ++ (key.toList ++ (beforeEquals ++ '=' ::
        (afterEquals ++ quote :: written)))
      have whole : before ++ (key.toList ++ (beforeEquals ++ '=' ::
          (afterEquals ++ quote :: (written ++ quote :: spelling)))) =
          front ++ quote :: spelling := by
        simp [front]
      rw [whole, List.getLast?_append, List.getLast?_cons]
      cases last : spelling.getLast? with
      | none => simpa using notSlash
      | some character => simpa [last] using ih

/-! ### Tokens of tags -/

theorem IsName.head?_ne {name rest : List Char} (isName : IsName name) (mark : Char)
    (foreign : inRanges nameStartRanges mark = false) :
    ∀ first ∈ (name ++ rest).head?, first ≠ mark := by
  rintro first found rfl
  obtain ⟨start, begins, inside⟩ := isName.begins
  have same : (name ++ rest).head? = some start := by
    rw [List.head?_append, begins]
    rfl
  rw [same] at found
  have equal := Option.some.inj found
  subst equal
  rw [foreign] at inside
  exact Bool.false_ne_true inside

theorem getLast?_encode_ne {characters : List Char} (last : characters.getLast? ≠ some '/') :
    (Utf8.encode characters).getLast? ≠ some Byte.slash := by
  induction characters using List.reverseRecOn with
  | nil => simp [Utf8.encode]
  | append_singleton before character ih =>
      intro found
      have notSlash : character ≠ '/' := by
        rintro rfl
        exact last List.getLast?_concat
      rw [Utf8.encode_append, List.getLast?_append_of_ne_nil _ (Utf8.encode_ne_nil (by simp))]
        at found
      have absent : Byte.slash ∉ Utf8.encode [character] :=
        Utf8.not_mem_encode '/' (by decide) (by simpa using Ne.symm notSlash)
      exact absent (List.mem_of_getLast? found)

theorem head?_encode_ne {characters : List Char} (first : characters.head? ≠ some '/') :
    (Utf8.encode characters).head? ≠ some Byte.slash := by
  cases characters with
  | nil => simp [Utf8.encode]
  | cons character later =>
      intro found
      have notSlash : character ≠ '/' := by simpa using first
      rw [Utf8.encode_cons, List.head?_append_of_ne_nil _ String.utf8EncodeChar_ne_nil,
        ← Utf8.encode_singleton] at found
      have absent : Byte.slash ∉ Utf8.encode [character] :=
        Utf8.not_mem_encode '/' (by decide) (by simpa using Ne.symm notSlash)
      exact absent (List.mem_of_head? found)

namespace StartTag

variable {name : String} {attributes : List (String × String)} {content : List Char}

theorem head?_ne (start : StartTag name attributes content) (mark : Char)
    (foreign : inRanges nameStartRanges mark = false) :
    ∀ first ∈ content.head?, first ≠ mark := by
  obtain ⟨spelling, -, rfl⟩ := start.spelled
  exact start.isName.head?_ne mark foreign

theorem ne_nil (start : StartTag name attributes content) : content ≠ [] := by
  obtain ⟨spelling, -, rfl⟩ := start.spelled
  intro empty
  exact start.isName.ne_nil (List.append_eq_nil_iff.mp empty).1

theorem getLast?_ne (start : StartTag name attributes content) :
    content.getLast? ≠ some '/' := by
  obtain ⟨spelling, list, rfl⟩ := start.spelled
  have spellingLast := list.getLast?_ne
  rw [List.getLast?_append]
  cases last : spelling.getLast? with
  | none =>
      intro found
      have inside : '/' ∈ name.toList := List.mem_of_getLast? (by simpa using found)
      exact start.isName.not_mem '/' (by decide) inside
  | some character => simpa [last] using spellingLast

theorem tag_open (start : StartTag name attributes content) :
    (Utf8.encode content).foldlM Scanner.tag none = some none := by
  obtain ⟨spelling, list, rfl⟩ := start.spelled
  rw [Utf8.encode_append, List.foldlM_append, tag_plain start.isName.plain]
  exact list.tag_open

end StartTag

variable {name : String} {attributes : List (String × String)} {content : List Char}

/-- What follows the opening bracket of a start tag does not begin with a slash. -/
theorem StartTag.byte_ne (start : StartTag name attributes content) {after : List Char}
    {byte : UInt8} {others : List UInt8}
    (bytes : Utf8.encode (content ++ after) = byte :: others) : byte ≠ Byte.slash := by
  rintro rfl
  have first : (content ++ after).head? ≠ some '/' := by
    rw [List.head?_append_of_ne_nil _ start.ne_nil]
    exact fun found => start.head?_ne '/' (by decide) '/' found rfl
  apply head?_encode_ne first
  rw [bytes]
  rfl

theorem lexes_startTag (start : StartTag name attributes content) (rest : List Char) :
    Lexes ('<' :: (content ++ '>' :: rest)) (.startTag (Utf8.encode content) false) rest := by
  have begins : ∀ first ∈ content.head?, first ≠ '!' ∧ first ≠ '?' := fun first found =>
    ⟨start.head?_ne '!' (by decide) first found, start.head?_ne '?' (by decide) first found⟩
  obtain ⟨byte, others, bytes, read⟩ := read_tag start.ne_nil begins start.tag_open rest
  have notSlash : byte ≠ Byte.slash :=
    start.byte_ne (by rw [List.append_nil]; exact bytes)
  refine ⟨(Utf8.encode content).length + 2, false, ?_⟩
  rw [read, if_neg (by simpa using notSlash), Lexeme.ofStartTag,
    if_neg (getLast?_encode_ne start.getLast?_ne)]
  rfl

theorem lexes_emptyTag (start : StartTag name attributes content) (rest : List Char) :
    Lexes ('<' :: (content ++ '/' :: '>' :: rest)) (.startTag (Utf8.encode content) true)
      rest := by
  have begins : ∀ first ∈ (content ++ ['/']).head?, first ≠ '!' ∧ first ≠ '?' := by
    intro first found
    rw [List.head?_append_of_ne_nil _ start.ne_nil] at found
    exact ⟨start.head?_ne '!' (by decide) first found, start.head?_ne '?' (by decide) first found⟩
  have encoded : Utf8.encode (content ++ ['/']) = Utf8.encode content ++ [Byte.slash] :=
    Utf8.encode_append content ['/']
  have run : (Utf8.encode (content ++ ['/'])).foldlM Scanner.tag none = some none := by
    rw [encoded, List.foldlM_append, start.tag_open]
    rfl
  obtain ⟨byte, others, bytes, read⟩ := read_tag (by simp) begins run rest
  have notSlash := start.byte_ne bytes
  refine ⟨(Utf8.encode (content ++ ['/'])).length + 2, false, ?_⟩
  have whole : '<' :: (content ++ '/' :: '>' :: rest) =
      '<' :: ((content ++ ['/']) ++ '>' :: rest) := by
    simp
  rw [whole, read, if_neg (by simpa using notSlash), Lexeme.ofStartTag, encoded,
    if_pos List.getLast?_concat, List.dropLast_concat]
  rfl

theorem lexes_endTag (isName : IsName name.toList) {blanks : List Char} (blank : Blanks blanks)
    (rest : List Char) :
    Lexes ("</".toList ++ (name.toList ++ (blanks ++ '>' :: rest)))
      (.endTag (Utf8.encode (name.toList ++ blanks))) rest := by
  have run : (Utf8.encode ('/' :: (name.toList ++ blanks))).foldlM Scanner.tag none =
      some none := by
    apply tag_plain
    rw [List.forall_mem_cons, List.forall_mem_append]
    exact ⟨by decide, isName.plain, blank.plain⟩
  obtain ⟨byte, others, bytes, read⟩ := read_tag (by simp) (by simp) run rest
  obtain ⟨rfl, rfl⟩ := List.cons.inj bytes
  refine ⟨(Utf8.encode ('/' :: (name.toList ++ blanks))).length + 2, false, ?_⟩
  have whole : "</".toList ++ (name.toList ++ (blanks ++ '>' :: rest)) =
      '<' :: (('/' :: (name.toList ++ blanks)) ++ '>' :: rest) := by
    simp
  rw [whole, read]
  rfl

end Spelling

end XmlExtract
