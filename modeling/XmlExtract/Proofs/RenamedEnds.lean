import XmlExtract.Proofs.TagSequence
import XmlExtract.Proofs.TokenExtent

/-!
# Other names in end tags

Two documents differ only in the names in their end tags if they consist of the same
constructs, but for the names behind the slashes, and if paired names are equally long
(`RenamedEnds`).  What is an end tag is a matter of reading: inside of a comment there is none.
A token of the one document is read where a token of the other one is, and it is the same unless
it is an end tag (`Lexeme.renamed_read`).  So the documents are cut into the same pieces, but for
the contents of end tags (`Piece.renamed_cutFrom`).
-/

namespace XmlExtract

open Lexeme (isTextByte)
open Spelling (IsName)

/-- An end tag with this name, and with what stands behind the name. -/
def endTagBytes (name : List Char) (back : List UInt8) : List UInt8 :=
  Byte.less :: Byte.slash :: (Utf8.encode name ++ back)

/-- Two documents that differ in nothing but the names in their end tags.  Constructs other than
text are taken as they are read. -/
inductive RenamedEnds : List UInt8 → List UInt8 → Prop
  | same (bytes : List UInt8) : RenamedEnds bytes bytes
  | text {byte : UInt8} {bytes other : List UInt8} (isText : isTextByte byte = true)
      (later : RenamedEnds bytes other) : RenamedEnds (byte :: bytes) (byte :: other)
  | markup {first : UInt8} {front bytes other : List UInt8} (isMarkup : isTextByte first = false)
      (whole : (Lexeme.read (first :: (front ++ bytes))).rest = bytes)
      (later : RenamedEnds bytes other) :
      RenamedEnds (first :: (front ++ bytes)) (first :: (front ++ other))
  | endTag {name otherName : List Char} {back bytes other : List UInt8} (isName : IsName name)
      (isOtherName : IsName otherName)
      (length : (Utf8.encode otherName).length = (Utf8.encode name).length)
      (whole : (Lexeme.read (endTagBytes name back ++ bytes)).rest = bytes)
      (later : RenamedEnds bytes other) :
      RenamedEnds (endTagBytes name back ++ bytes) (endTagBytes otherName back ++ other)

/-! ### What the documents share -/

namespace RenamedEnds

variable {bytes other : List UInt8}

theorem head?_eq (renamed : RenamedEnds bytes other) : other.head? = bytes.head? := by
  cases renamed <;> rfl

/-- Renamed documents are the same up to the opening of the first end tag that is renamed. -/
theorem exists_shared (renamed : RenamedEnds bytes other) :
    bytes = other ∨ ∃ front rest otherRest,
      bytes = (front ++ [Byte.less, Byte.slash]) ++ rest ∧
        other = (front ++ [Byte.less, Byte.slash]) ++ otherRest := by
  induction renamed with
  | same bytes => exact .inl rfl
  | text isText later ih =>
      rcases ih with rfl | ⟨front, rest, otherRest, rfl, rfl⟩
      · exact .inl rfl
      · exact .inr ⟨_ :: front, rest, otherRest, rfl, rfl⟩
  | @markup first inside bytes other isMarkup whole later ih =>
      rcases ih with rfl | ⟨front, rest, otherRest, rfl, rfl⟩
      · exact .inl rfl
      · exact .inr ⟨first :: (inside ++ front), rest, otherRest, by simp, by simp⟩
  | endTag => exact .inr ⟨[], _, _, rfl, rfl⟩

/-- Bytes of text are taken from both documents alike. -/
theorem span {accepts : UInt8 → Bool}
    (texts : ∀ byte, accepts byte = true → isTextByte byte = true)
    (renamed : RenamedEnds bytes other) :
    other.takeWhile accepts = bytes.takeWhile accepts ∧
      RenamedEnds (bytes.dropWhile accepts) (other.dropWhile accepts) := by
  have refuses {first : UInt8} (isMarkup : isTextByte first = false) : ¬ accepts first = true := by
    intro accepted
    rw [texts first accepted] at isMarkup
    contradiction
  induction renamed with
  | same bytes => exact ⟨rfl, .same _⟩
  | @text byte bytes other isText later ih =>
      by_cases accepted : accepts byte = true
      · rw [List.takeWhile_cons_of_pos accepted, List.takeWhile_cons_of_pos accepted,
          List.dropWhile_cons_of_pos accepted, List.dropWhile_cons_of_pos accepted, ih.1]
        exact ⟨rfl, ih.2⟩
      · rw [List.takeWhile_cons_of_neg accepted, List.takeWhile_cons_of_neg accepted,
          List.dropWhile_cons_of_neg accepted, List.dropWhile_cons_of_neg accepted]
        exact ⟨rfl, .text isText later⟩
  | markup isMarkup whole later ih =>
      have refused := refuses isMarkup
      rw [List.takeWhile_cons_of_neg refused, List.takeWhile_cons_of_neg refused,
        List.dropWhile_cons_of_neg refused, List.dropWhile_cons_of_neg refused]
      exact ⟨rfl, .markup isMarkup whole later⟩
  | endTag isName isOtherName length whole later ih =>
      have refused : ¬ accepts Byte.less = true := refuses rfl
      simp only [endTagBytes, List.cons_append]
      rw [List.takeWhile_cons_of_neg refused, List.takeWhile_cons_of_neg refused,
        List.dropWhile_cons_of_neg refused, List.dropWhile_cons_of_neg refused]
      exact ⟨rfl, .endTag isName isOtherName length whole later⟩

/-- Text in front of the one document stands in front of the other. -/
theorem drop {count : Nat} (renamed : RenamedEnds bytes other)
    (texts : ∀ byte ∈ bytes.take count, isTextByte byte = true) :
    RenamedEnds (bytes.drop count) (other.drop count) := by
  induction count generalizing bytes other with
  | zero => exact renamed
  | succ count ih =>
      cases renamed with
      | same => exact .same _
      | text isText later =>
          rw [List.take_succ_cons, List.forall_mem_cons] at texts
          exact ih later texts.2
      | markup isMarkup whole later =>
          have isText := texts _ List.mem_cons_self
          rw [isMarkup] at isText
          contradiction
      | endTag isName isOtherName length whole later =>
          have isText : isTextByte Byte.less = true := texts _ List.mem_cons_self
          contradiction

end RenamedEnds

/-! ### Tokens -/

/-- Two end tags that have the same content behind their names. -/
inductive Token.Renamed : Token → Token → Prop
  | endTag {name otherName : List Char} (isName : IsName name) (isOtherName : IsName otherName)
      (length : (Utf8.encode otherName).length = (Utf8.encode name).length)
      (back : List UInt8) :
      Renamed (.endTag (Utf8.encode name ++ back)) (.endTag (Utf8.encode otherName ++ back))

namespace Lexeme

/-- What is read at the same place of two renamed documents. -/
structure Renamed (lexeme other : Lexeme) : Prop where
  size : other.size = lexeme.size
  rest : RenamedEnds lexeme.rest other.rest
  token : other.token = lexeme.token ∨ ∃ token otherToken,
    lexeme.token = .ok token ∧ other.token = .ok otherToken ∧ token.Renamed otherToken

theorem exists_foldlM_of_scanAfter {σ : Type} {step : σ → UInt8 → Option σ} {state : σ}
    {before bytes : List UInt8} (unclosed : scanAfter step state before bytes = none) :
    ∃ last, bytes.foldlM step state = some last := by
  induction bytes generalizing state before with
  | nil => exact ⟨state, rfl⟩
  | cons byte later ih =>
      rw [scanAfter] at unclosed
      cases next : step state byte with
      | none => simp [next] at unclosed
      | some following =>
          simp only [next] at unclosed
          obtain ⟨last, runs⟩ := ih unclosed
          refine ⟨last, ?_⟩
          rw [List.foldlM_cons, next]
          exact runs

/-- An end tag is read as if its name were not there, but for the content and the length. -/
theorem read_endTagBytes {name : List Char} (isName : IsName name) (back : List UInt8) :
    read (endTagBytes name back) =
      match scan Scanner.tag none back with
      | none => cutShort .unclosedTag ((Utf8.encode name).length + back.length + 2)
      | some (content, rest) =>
          closed (.endTag (Utf8.encode name ++ content))
            ((Utf8.encode name).length + content.length + 3) rest := by
  have outside : (Byte.slash :: Utf8.encode name).foldlM Scanner.tag none = some none := by
    have plain : ∀ character ∈ '/' :: name,
        character ≠ '>' ∧ character ≠ '\"' ∧ character ≠ '\'' :=
      List.forall_mem_cons.mpr ⟨by decide, isName.plain⟩
    have slashed : (Utf8.encode ('/' :: name)).foldlM Scanner.tag none = some none :=
      Spelling.tag_plain plain
    exact slashed
  have markup : read (endTagBytes name back) =
      readTag (Byte.slash :: (Utf8.encode name ++ back)) := rfl
  rw [markup, readTag_eq, enclosed]
  cases found : scan Scanner.tag none back with
  | none =>
      obtain ⟨last, runs⟩ := exists_foldlM_of_scanAfter found
      have unclosed : scan Scanner.tag none (Byte.slash :: (Utf8.encode name ++ back)) = none := by
        have whole : ((Byte.slash :: Utf8.encode name) ++ back).foldlM Scanner.tag none =
            some last := by
          rw [List.foldlM_append, outside]
          exact runs
        have scanned : scan Scanner.tag none
            ((Byte.slash :: (Utf8.encode name ++ back)) ++ []) = none :=
          scanAfter_append [] whole
        rwa [List.append_nil] at scanned
      rw [unclosed]
      simp only [List.length_cons, List.length_append]
  | some parts =>
      obtain ⟨content, rest⟩ := parts
      obtain ⟨last, closing, rfl, runs, closes⟩ := scan_closes found
      have whole : ((Byte.slash :: Utf8.encode name) ++ content).foldlM Scanner.tag none =
          some last := by
        rw [List.foldlM_append, outside]
        exact runs
      have scanned : scan Scanner.tag none
          (Byte.slash :: (Utf8.encode name ++ (content ++ closing :: rest))) =
            some (Byte.slash :: (Utf8.encode name ++ content), rest) := by
        rw [← List.append_assoc]
        exact scan_closing whole closes
      rw [scanned]
      simp only [tagMeaning, closed, beq_self_eq_true, if_true, List.length_cons,
        List.length_append]

/-- What is read of renamed documents. -/
theorem renamed_read {bytes other : List UInt8} (renamed : RenamedEnds bytes other) :
    Renamed (read bytes) (read other) := by
  cases renamed with
  | same => exact ⟨rfl, .same _, .inl rfl⟩
  | @text byte bytes other isText later =>
      obtain ⟨taken, left⟩ := RenamedEnds.span (fun byte accepted => accepted)
        (RenamedEnds.text isText later)
      rw [Spelling.read_eq_readText isText, Spelling.read_eq_readText isText]
      refine ⟨?_, left, .inl ?_⟩
      · simp only [readText, taken]
      · simp only [readText, taken]
  | @markup first front bytes other isMarkup whole later =>
      obtain ⟨taken, takes⟩ := exists_taken_read (first :: (front ++ bytes))
      obtain rfl : first :: front = taken := by
        have joined := takes.joined
        rw [whole, ← List.cons_append] at joined
        exact List.append_cancel_right joined
      have again : read (first :: (front ++ other)) = _ :=
        takes.replaced other (by rw [whole, later.head?_eq])
      rw [again]
      refine ⟨rfl, ?_, .inl rfl⟩
      rw [whole]
      exact later
  | @endTag name otherName back bytes other isName isOtherName length whole later =>
      have regroup (name : List Char) (rest : List UInt8) :
          endTagBytes name back ++ rest = endTagBytes name (back ++ rest) := by
        simp [endTagBytes]
      rw [regroup] at whole ⊢
      rw [regroup, read_endTagBytes isName, read_endTagBytes isOtherName]
      rw [read_endTagBytes isName] at whole
      cases found : scan Scanner.tag none (back ++ bytes) with
      | none =>
          -- Nothing is left of either document.
          rw [found] at whole
          obtain rfl : [] = bytes := whole
          obtain rfl : other = [] := List.head?_eq_none_iff.mp later.head?_eq
          rw [found, length]
          exact ⟨rfl, .same _, .inl rfl⟩
      | some parts =>
          obtain ⟨content, rest⟩ := parts
          rw [found] at whole
          obtain rfl : rest = bytes := whole
          obtain ⟨last, closing, joined, runs, closes⟩ := scan_closes found
          obtain rfl : back = content ++ [closing] := by
            have both : back ++ rest = (content ++ [closing]) ++ rest := by simp [joined]
            exact List.append_cancel_right both
          have foundOther : scan Scanner.tag none (content ++ [closing] ++ other) =
              some (content, other) := by
            rw [List.append_assoc]
            exact scan_closing runs closes
          rw [foundOther]
          have tokens := Token.Renamed.endTag isName isOtherName length content
          refine ⟨?_, later, .inr ⟨_, _, rfl, rfl, tokens⟩⟩
          simp only [closed, length]

end Lexeme

/-! ### Pieces -/

namespace Piece

/-- Pieces at the same place of two renamed documents. -/
structure Renamed (piece other : Piece) : Prop where
  start : other.start = piece.start
  stop : other.stop = piece.stop
  content : other.content = piece.content ∨ ∃ token otherToken,
    piece.content = .ok (some token) ∧ other.content = .ok (some otherToken) ∧
      token.Renamed otherToken

theorem Renamed.content_eq {piece other : Piece} (renamed : piece.Renamed other)
    (tokenless : ∀ token, piece.content ≠ .ok (some token)) : other.content = piece.content := by
  rcases renamed.content with same | ⟨token, otherToken, found, -, -⟩
  · exact same
  · exact absurd found (tokenless token)

theorem renamed_ofLexeme (trim : Bool) (start skipped : Nat) {lexeme other : Lexeme}
    (renamed : lexeme.Renamed other) :
    Renamed (ofLexeme trim none start skipped lexeme)
      (ofLexeme trim none start skipped other) where
  start := rfl
  stop := by
    simp only [ofLexeme, renamed.size]
  content := by
    rw [content_ofLexeme, content_ofLexeme]
    rcases renamed.token with same | ⟨token, otherToken, read, otherRead, tokens⟩
    · exact .inl (by rw [same])
    · rw [read, otherRead]
      cases tokens with
      | endTag isName isOtherName length back =>
          refine .inr ⟨_, _, rfl, rfl, ?_⟩
          split <;> exact .endTag isName isOtherName length back

/-- What is cut off the one of two renamed documents, with the blanks that the other skips. -/
theorem exists_cutFrom {trim : Bool} {bytes other blanks rest : List UInt8}
    (renamed : RenamedEnds bytes other) (start : Nat)
    (skips : (if trim then bytes.takeWhile isBlankByte else []) = blanks)
    (leaves : (if trim then bytes.dropWhile isBlankByte else bytes) = rest) :
    ∃ lexeme piece, (Lexeme.read rest).Renamed lexeme ∧
      Renamed (ofLexeme trim none start blanks.length (Lexeme.read rest)) piece ∧
      cutFrom trim none start other =
        if rest.isEmpty then [Piece.atEnd none start blanks.length]
        else
          match piece.content with
          | .ok _ => piece :: cutFrom trim none piece.stop lexeme.rest
          | .error _ => [piece] := by
  have texts : ∀ byte, isBlankByte byte = true → isTextByte byte = true :=
    fun _ blank => Lexeme.isTextByte_of_isBlankByte blank
  obtain ⟨taken, left⟩ := renamed.span texts
  have skipsOther : (if trim then other.takeWhile isBlankByte else []) = blanks := by
    rw [← skips, taken]
  have leavesOther : RenamedEnds rest (if trim then other.dropWhile isBlankByte else other) := by
    rw [← leaves]
    cases trim with
    | false => exact renamed
    | true => exact left
  have emptied : (if trim then other.dropWhile isBlankByte else other).isEmpty = rest.isEmpty := by
    rw [Bool.eq_iff_iff, List.isEmpty_iff, List.isEmpty_iff, ← List.head?_eq_none_iff,
      ← List.head?_eq_none_iff, leavesOther.head?_eq]
  have read := Lexeme.renamed_read leavesOther
  refine ⟨_, _, read, renamed_ofLexeme trim start blanks.length read, ?_⟩
  have step := cutFrom.eq_def trim none start other
  simp only [emptied, skipsOther] at step
  exact step

/-- Renamed documents are cut alike. -/
theorem renamed_cutFrom (trim : Bool) (start : Nat) (bytes : List UInt8) :
    ∀ other, RenamedEnds bytes other →
      List.Forall₂ Renamed (cutFrom trim none start bytes) (cutFrom trim none start other) := by
  fun_induction cutFrom trim none start bytes with
  | case1 start bytes blanks rest atEnd =>
      intro other renamed
      obtain ⟨lexemeOther, pieceOther, -, -, cut⟩ :=
        exists_cutFrom renamed start (show _ = blanks from rfl) (show _ = rest from rfl)
      rw [cut, if_pos atEnd]
      exact .cons ⟨rfl, rfl, .inl rfl⟩ .nil
  | case2 start bytes blanks rest nonempty lexeme piece found content ih =>
      intro other renamed
      obtain ⟨lexemeOther, pieceOther, lexemes, pieces, cut⟩ :=
        exists_cutFrom renamed start (show _ = blanks from rfl) (show _ = rest from rfl)
      obtain ⟨foundOther, contentOther⟩ : ∃ found, pieceOther.content = .ok found := by
        rcases pieces.content with same | ⟨token, tokenOther, -, contentOther, -⟩
        · exact ⟨found, same.trans content⟩
        · exact ⟨_, contentOther⟩
      rw [cut, if_neg nonempty, contentOther]
      refine .cons pieces ?_
      rw [pieces.stop]
      exact ih _ lexemes.rest
  | case3 start bytes blanks rest nonempty lexeme piece error content =>
      intro other renamed
      obtain ⟨lexemeOther, pieceOther, -, pieces, cut⟩ :=
        exists_cutFrom renamed start (show _ = blanks from rfl) (show _ = rest from rfl)
      have tokenless : ∀ token, piece.content ≠ .ok (some token) := by simp [content]
      have contentOther : pieceOther.content = .error error :=
        (pieces.content_eq tokenless).trans content
      rw [cut, if_neg nonempty, contentOther]
      exact .cons pieces .nil

end Piece

end XmlExtract
