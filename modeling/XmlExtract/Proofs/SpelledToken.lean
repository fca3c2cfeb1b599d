import XmlExtract.Markup.Reading
import XmlExtract.Proofs.SpelledReference
import XmlExtract.Proofs.SpelledScan

/-!
# Tokens of a spelling

`Lexes` says that the reading of some characters begins with a certain token.  There is
one lemma for each construct of a spelling.
-/

namespace XmlExtract

namespace Spelling

/-- Reading the bytes of some characters begins with a token and leaves the bytes of
the rest. -/
def Lexes (characters : List Char) (token : Token) (rest : List Char) : Prop :=
  ∃ size peeked,
    Lexeme.read (Utf8.encode characters) = ⟨.ok token, size, Utf8.encode rest, peeked⟩

/-! ### Text -/

def isTextCharacter (character : Char) : Bool := character != '<' && character != '&'

theorem isTextByte_of_mem {character : Char} (isText : isTextCharacter character = true) :
    ∀ byte ∈ String.utf8EncodeChar character, Lexeme.isTextByte byte = true := by
  rw [isTextCharacter, Bool.and_eq_true, bne_iff_ne, bne_iff_ne] at isText
  have marks := Scanner.marks_not_mem (by decide) (by decide) isText.1 isText.2
  rw [Utf8.encode_singleton] at marks
  intro byte member
  rw [Lexeme.isTextByte, Bool.and_eq_true, bne_iff_ne, bne_iff_ne]
  exact marks byte member

theorem span_isTextByte (characters : List Char) :
    (Utf8.encode characters).takeWhile Lexeme.isTextByte =
        Utf8.encode (characters.takeWhile isTextCharacter) ∧
      (Utf8.encode characters).dropWhile Lexeme.isTextByte =
        Utf8.encode (characters.dropWhile isTextCharacter) := by
  induction characters with
  | nil => exact ⟨rfl, rfl⟩
  | cons character later ih =>
      cases isText : isTextCharacter character with
      | true =>
          have bytes := isTextByte_of_mem isText
          rw [Utf8.encode_cons, List.takeWhile_append_of_pos bytes,
            List.dropWhile_append_of_pos bytes, List.takeWhile_cons_of_pos isText,
            List.dropWhile_cons_of_pos isText, Utf8.encode_cons, ih.1, ih.2]
          exact ⟨rfl, rfl⟩
      | false =>
          have mark : character = '<' ∨ character = '&' := by
            simpa [isTextCharacter, Classical.or_iff_not_imp_left] using isText
          rcases mark with rfl | rfl <;> exact ⟨rfl, rfl⟩

theorem read_eq_readText {byte : UInt8} (isText : Lexeme.isTextByte byte = true)
    (rest : List UInt8) : Lexeme.read (byte :: rest) = Lexeme.readText (byte :: rest) := by
  rw [Lexeme.isTextByte, Bool.and_eq_true, bne_iff_ne, bne_iff_ne] at isText
  simp [Lexeme.read, isText.1, isText.2]

/-- A run of text ends where markup or a reference begins. -/
theorem read_text {character : Char} (isText : isTextCharacter character = true)
    (later : List Char) :
    Lexeme.read (Utf8.encode (character :: later)) =
      ⟨.ok (.text (Utf8.encode (character :: later.takeWhile isTextCharacter))),
        (Utf8.encode (character :: later.takeWhile isTextCharacter)).length,
        Utf8.encode (later.dropWhile isTextCharacter), true⟩ := by
  obtain ⟨taken, left⟩ := span_isTextByte (character :: later)
  rw [List.takeWhile_cons_of_pos isText] at taken
  rw [List.dropWhile_cons_of_pos isText] at left
  have bytesText := isTextByte_of_mem isText
  cases bytes : String.utf8EncodeChar character with
  | nil => exact absurd bytes String.utf8EncodeChar_ne_nil
  | cons byte others =>
      rw [bytes, List.forall_mem_cons] at bytesText
      have whole : Utf8.encode (character :: later) = byte :: (others ++ Utf8.encode later) := by
        rw [Utf8.encode_cons, bytes, List.cons_append]
      rw [← taken, ← left, whole, read_eq_readText bytesText.1]
      rfl

/-! ### References -/

/-- A reference ends at the first semicolon. -/
theorem lexes_reference {character : Char} {name : List Char}
    (refers : Refers character name) (rest : List Char) :
    Lexes ('&' :: (name ++ ';' :: rest)) (.reference (Utf8.encode name)) rest := by
  have marks := refers.not_mem
  have inside : ∀ byte ∈ Utf8.encode name, Lexeme.isReferenceByte byte = true := by
    intro byte member
    have notSemicolon : byte ≠ Byte.semicolon :=
      Utf8.ne_of_mem_encode member ';' (by decide) (marks ';' (by decide))
    have notAmpersand : byte ≠ Byte.ampersand :=
      Utf8.ne_of_mem_encode member '&' (by decide) (marks '&' (by decide))
    have notLess : byte ≠ Byte.less :=
      Utf8.ne_of_mem_encode member '<' (by decide) (marks '<' (by decide))
    simp [Lexeme.isReferenceByte, notSemicolon, notAmpersand, notLess]
  have whole : Utf8.encode (name ++ ';' :: rest) =
      Utf8.encode name ++ Byte.semicolon :: Utf8.encode rest :=
    Utf8.encode_append name (';' :: rest)
  refine ⟨(Utf8.encode name).length + 2, false, ?_⟩
  show Lexeme.readReference (Utf8.encode (name ++ ';' :: rest)) = _
  rw [whole, Lexeme.readReference, List.dropWhile_append_of_pos inside,
    List.takeWhile_append_of_pos inside]
  simp [Lexeme.isReferenceByte, Lexeme.closed]

/-! ### CDATA sections and what is passed over -/

theorem encode_around (opening content closing rest : List Char) :
    Utf8.encode (opening ++ content ++ closing ++ rest) =
      Utf8.encode opening ++
        (Utf8.encode content ++ (Utf8.encode closing ++ Utf8.encode rest)) := by
  rw [List.append_assoc, List.append_assoc, Utf8.encode_append, Utf8.encode_append,
    Utf8.encode_append]

/-- A CDATA section ends at the first closing mark. -/
theorem lexes_cdata {piece : List Char} (unclosed : ¬ [']', ']', '>'] <:+: piece)
    (rest : List Char) :
    Lexes ("<![CDATA[".toList ++ piece ++ "]]>".toList ++ rest) (.cdata (Utf8.encode piece))
      rest := by
  obtain ⟨brackets, front, taken, -⟩ := Scanner.cdata_open unclosed
  let content := Lexeme.cdataOpening ++ (Utf8.encode piece ++
    [Byte.closeBracket, Byte.closeBracket])
  have run : content.foldlM Scanner.cdata 0 = some (brackets + 2) := by
    have opening : Lexeme.cdataOpening.foldlM Scanner.cdata 0 = some 0 := by decide
    rw [List.foldlM_append, opening]
    show ((Utf8.encode piece ++ _).foldlM Scanner.cdata 0) = _
    rw [List.foldlM_append, taken]
    rfl
  have closes : Scanner.cdata (brackets + 2) Byte.greater = none := by
    simp [Scanner.cdata]
  have scanned : scan Scanner.cdata 0 (content ++ Byte.greater :: Utf8.encode rest) =
      some (content, Utf8.encode rest) :=
    scan_closing run closes
  have whole : Utf8.encode ("<![CDATA[".toList ++ piece ++ "]]>".toList ++ rest) =
      Byte.less :: Byte.exclamation :: (content ++ Byte.greater :: Utf8.encode rest) := by
    rw [encode_around, List.append_assoc, List.append_assoc]
    rfl
  refine ⟨content.length + 3, false, ?_⟩
  rw [whole]
  show Lexeme.readCData (content ++ Byte.greater :: Utf8.encode rest) = _
  have opening : content.take 7 = Lexeme.cdataOpening := List.take_left' (by decide)
  have inside : ((content.drop 7).dropLast.dropLast) = Utf8.encode piece := by
    have tail : content.drop 7 = Utf8.encode piece ++ [Byte.closeBracket, Byte.closeBracket] :=
      List.drop_left' (by decide)
    rw [tail]
    simp
  rw [Lexeme.readCData, scanned]
  simp only [opening, if_true, inside]
  rfl

theorem lexes_comment {content : List Char} (noHyphens : ¬ ['-', '-'] <:+: content)
    (rest : List Char) :
    Lexes ("<!--".toList ++ content ++ "-->".toList ++ rest) .passedOver rest := by
  obtain ⟨count, hyphens, taken, least, -, -⟩ := Scanner.comment_open noHyphens
  let inside := [Byte.hyphen, Byte.hyphen] ++ (Utf8.encode content ++
    [Byte.hyphen, Byte.hyphen])
  have run : inside.foldlM Scanner.comment (1, 0) = some (count + 2, hyphens + 2) := by
    have opening : [Byte.hyphen, Byte.hyphen].foldlM Scanner.comment (1, 0) = some (3, 2) := by
      decide
    rw [List.foldlM_append, opening]
    show ((Utf8.encode content ++ _).foldlM Scanner.comment (3, 2)) = _
    rw [List.foldlM_append, taken]
    rfl
  have closes : Scanner.comment (count + 2, hyphens + 2) Byte.greater = none := by
    have enough : 5 ≤ count + 2 := by omega
    simp [Scanner.comment, enough]
  have scanned : scan Scanner.comment (1, 0) (inside ++ Byte.greater :: Utf8.encode rest) =
      some (inside, Utf8.encode rest) :=
    scan_closing run closes
  have whole : Utf8.encode ("<!--".toList ++ content ++ "-->".toList ++ rest) =
      Byte.less :: Byte.exclamation :: (inside ++ Byte.greater :: Utf8.encode rest) := by
    rw [encode_around, List.append_assoc, List.append_assoc]
    rfl
  refine ⟨inside.length + 3, false, ?_⟩
  rw [whole]
  show Lexeme.readComment (inside ++ Byte.greater :: Utf8.encode rest) = _
  have opening : inside.take 2 = [Byte.hyphen, Byte.hyphen] := rfl
  rw [Lexeme.readComment, scanned]
  simp only [opening, if_true]
  rfl

/-! ### Names -/

theorem isBlankByte_of_mem {name : List Char} (isName : IsName name) :
    ∀ byte ∈ Utf8.encode name, isBlankByte byte = false := by
  intro byte member
  have notSpace : byte ≠ 0x20 :=
    Utf8.ne_of_mem_encode member ' ' (by decide) (isName.not_mem ' ' (by decide))
  have notTab : byte ≠ 0x09 :=
    Utf8.ne_of_mem_encode member '\t' (by decide) (isName.not_mem '\t' (by decide))
  have notLineFeed : byte ≠ 0x0A :=
    Utf8.ne_of_mem_encode member '\n' (by decide) (isName.not_mem '\n' (by decide))
  have notReturn : byte ≠ 0x0D :=
    Utf8.ne_of_mem_encode member '\r' (by decide) (isName.not_mem '\r' (by decide))
  simp [isBlankByte, notSpace, notTab, notLineFeed, notReturn]

theorem encode_blank {character : Char} (blank : isBlank character = true) :
    ∃ byte, String.utf8EncodeChar character = [byte] ∧ isBlankByte byte = true := by
  simp only [isBlank, Bool.or_eq_true, beq_iff_eq] at blank
  rcases blank with ((rfl | rfl) | rfl) | rfl
  · exact ⟨0x20, rfl, rfl⟩
  · exact ⟨0x09, rfl, rfl⟩
  · exact ⟨0x0A, rfl, rfl⟩
  · exact ⟨0x0D, rfl, rfl⟩

/-- The name of a tag or an instruction ends before the first blank. -/
theorem takeWhile_name {name rest : List Char} (isName : IsName name)
    (separated : ∀ first ∈ rest.head?, isBlank first = true) :
    (Utf8.encode (name ++ rest)).takeWhile (!isBlankByte ·) = Utf8.encode name := by
  have inside : ∀ byte ∈ Utf8.encode name, (!isBlankByte byte) = true := by
    intro byte member
    rw [isBlankByte_of_mem isName byte member]
    rfl
  rw [Utf8.encode_append, List.takeWhile_append_of_pos inside]
  cases rest with
  | nil => exact List.append_nil _
  | cons first others =>
      obtain ⟨byte, written, blank⟩ := encode_blank (separated first rfl)
      rw [Utf8.encode_cons, written]
      simp [blank]

/-! ### Instructions -/

/-- An instruction whose target is another name than that of declarations is no
declaration. -/
theorem ofInstruction_eq {target content : List Char} (isName : IsName target)
    (other : target ≠ "xml".toList) (separated : ∀ first ∈ content.head?, isBlank first = true) :
    Lexeme.ofInstruction (Utf8.encode (target ++ content)) = .passedOver := by
  have targetBytes := takeWhile_name isName separated
  have whole : Lexeme.xmlName.all (!isBlankByte ·) = true := by decide
  rw [Lexeme.ofInstruction, if_neg]
  rw [Bool.and_eq_true, decide_eq_true_eq]
  rintro ⟨begins, ends⟩
  apply other
  apply Utf8.encode_injective
  rw [← targetBytes, ← List.take_append_drop 3 (Utf8.encode (target ++ content)), begins,
    List.takeWhile_append_of_pos (List.all_eq_true.mp whole)]
  cases left : (Utf8.encode (target ++ content)).drop 3 with
  | nil => rfl
  | cons byte further =>
      have blank : isBlankByte byte = true := by simpa [left] using ends
      simp [blank, Lexeme.xmlName, Utf8.encodeString]

/-- An instruction is read up to its first `?>`.  Its target tells what it is. -/
theorem read_instruction {target content : List Char} (isName : IsName target)
    (unclosed : ¬ ['?', '>'] <:+: content) (rest : List Char) :
    Lexeme.read (Utf8.encode ("<?".toList ++ target ++ content ++ "?>".toList ++ rest)) =
      Lexeme.closed (Lexeme.ofInstruction (Utf8.encode (target ++ content)))
        ((Utf8.encode (target ++ content)).length + 4) (Utf8.encode rest) := by
  obtain ⟨afterQuestion, taken, -⟩ := Scanner.instruction_open unclosed
  let inside := Utf8.encode (target ++ content) ++ [Byte.question]
  have run : inside.foldlM Scanner.instruction true = some true := by
    have plain : ∀ byte ∈ Utf8.encode target, byte ≠ Byte.greater ∧ byte ≠ Byte.question := by
      intro byte member
      constructor
      · exact Utf8.ne_of_mem_encode member '>' (by decide) (isName.not_mem '>' (by decide))
      · exact Utf8.ne_of_mem_encode member '?' (by decide) (isName.not_mem '?' (by decide))
    have targetRun := Scanner.instruction_other (Utf8.encode_ne_nil isName.ne_nil) plain true
    have step : Scanner.instruction afterQuestion Byte.question = some true := by
      cases afterQuestion <;> decide
    rw [List.foldlM_append, Utf8.encode_append, List.foldlM_append, targetRun]
    show ((Utf8.encode content).foldlM Scanner.instruction false).bind _ = _
    rw [taken]
    show (Scanner.instruction afterQuestion Byte.question).bind some = _
    rw [step]
    rfl
  have scanned : scan Scanner.instruction true (inside ++ Byte.greater :: Utf8.encode rest) =
      some (inside, Utf8.encode rest) :=
    scan_closing run (by decide)
  have whole : Utf8.encode ("<?".toList ++ target ++ content ++ "?>".toList ++ rest) =
      Byte.less :: Byte.question :: (inside ++ Byte.greater :: Utf8.encode rest) := by
    rw [List.append_assoc "<?".toList, encode_around, List.append_assoc]
    rfl
  rw [whole]
  show Lexeme.readInstruction (inside ++ Byte.greater :: Utf8.encode rest) = _
  have kept : inside.dropLast = Utf8.encode (target ++ content) := List.dropLast_concat
  have size : inside.length = (Utf8.encode (target ++ content)).length + 1 :=
    List.length_append
  unfold Lexeme.readInstruction
  rw [scanned]
  split
  · contradiction
  · rename_i empty
    simp [inside] at empty
  · rename_i found
    obtain ⟨rfl, rfl⟩ := Prod.mk.inj (Option.some.inj found)
    rw [kept, size]

theorem lexes_instruction {target content : List Char} (isName : IsName target)
    (other : target ≠ "xml".toList) (separated : ∀ first ∈ content.head?, isBlank first = true)
    (unclosed : ¬ ['?', '>'] <:+: content) (rest : List Char) :
    Lexes ("<?".toList ++ target ++ content ++ "?>".toList ++ rest) .passedOver rest := by
  refine ⟨(Utf8.encode (target ++ content)).length + 4, false, ?_⟩
  rw [read_instruction isName unclosed, ofInstruction_eq isName other separated]
  rfl

theorem lexes_passedOver {markup : List Char} (passed : PassedOver markup) (rest : List Char) :
    Lexes (markup ++ rest) .passedOver rest := by
  cases passed with
  | comment noHyphens ends => exact lexes_comment noHyphens rest
  | instruction isName other separated unclosed =>
      exact lexes_instruction isName other separated unclosed rest

end Spelling

end XmlExtract
