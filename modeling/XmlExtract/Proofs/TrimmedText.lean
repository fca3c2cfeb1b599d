import Mathlib.Data.List.TakeWhile
import XmlExtract.Proofs.Deliveries
import XmlExtract.Proofs.TagSequence

/-!
# Cutting a document with trimmed text

Trimming takes blanks away where a token begins and at the end of a run of text, before
anything is decoded.  So it makes a piece of text shorter, or takes it away when there are
only blanks between two constructs of markup, and leaves all other pieces as they are
(`Piece.trimmed_cutFrom`).
-/

namespace XmlExtract

namespace Piece

/-- A piece of a document, and what is left of it when text is trimmed. -/
inductive Trims (piece trimmed : Piece) : Prop where
  | token (token : Token) (content : piece.content = .ok (some token))
      (contentTrimmed : trimmed.content = .ok (some token))
  | text (front raw back : List UInt8) (blankFront : ∀ byte ∈ front, isBlankByte byte = true)
      (blankBack : ∀ byte ∈ back, isBlankByte byte = true)
      (content : piece.content = .ok (some (.text (front ++ raw ++ back))))
      (contentTrimmed : trimmed.content = .ok (some (.text raw)))
  | atEnd (content : piece.content = .ok none) (contentTrimmed : trimmed.content = .ok none)
  | malformed (cause : Malformation)
      (content : piece.content = .error (.malformed piece.start cause))
      (contentTrimmed : trimmed.content = .error (.malformed trimmed.start cause))

/-- The pieces of a document, and those that are left of them when text is trimmed.  Text that
consists of blanks is left out. -/
inductive Trimmed : List Piece → List Piece → Prop
  | nil : Trimmed [] []
  | trims {piece trimmed : Piece} {later laterTrimmed : List Piece}
      (one : Trims piece trimmed) (others : Trimmed later laterTrimmed) :
      Trimmed (piece :: later) (trimmed :: laterTrimmed)
  | blank {piece : Piece} {later trimmed : List Piece} (raw : List UInt8)
      (blank : ∀ byte ∈ raw, isBlankByte byte = true)
      (content : piece.content = .ok (some (.text raw))) (others : Trimmed later trimmed) :
      Trimmed (piece :: later) trimmed

theorem trimEnd_append (raw : List UInt8) :
    ∃ back, (∀ byte ∈ back, isBlankByte byte = true) ∧ raw = trimEnd raw ++ back := by
  refine ⟨(raw.reverse.takeWhile isBlankByte).reverse, ?_, ?_⟩
  · intro byte member
    exact List.mem_takeWhile_imp (List.mem_reverse.mp member)
  · rw [trimEnd, ← List.reverse_append, List.takeWhile_append_dropWhile, List.reverse_reverse]

theorem trims_text {piece trimmed : Piece} {front raw : List UInt8}
    (blank : ∀ byte ∈ front, isBlankByte byte = true)
    (content : piece.content = .ok (some (.text (front ++ raw))))
    (contentTrimmed : trimmed.content = .ok (some (.text (trimEnd raw)))) :
    Trims piece trimmed := by
  obtain ⟨back, blankBack, parts⟩ := trimEnd_append raw
  refine .text front (trimEnd raw) back blank blankBack ?_ contentTrimmed
  rw [List.append_assoc, ← parts]
  exact content

/-- A lexeme makes the same piece, but for blanks, wherever it is read. -/
theorem trims_ofLexeme (start startTrimmed skipped skippedTrimmed : Nat) (lexeme : Lexeme) :
    Trims (ofLexeme false none start skipped lexeme)
      (ofLexeme true none startTrimmed skippedTrimmed lexeme) := by
  have content := content_ofLexeme false start skipped lexeme
  have contentTrimmed := content_ofLexeme true startTrimmed skippedTrimmed lexeme
  cases read : lexeme.token with
  | error cause =>
      rw [read] at content contentTrimmed
      exact .malformed cause content contentTrimmed
  | ok token =>
      rw [read] at content contentTrimmed
      cases token with
      | text raw => exact trims_text (List.forall_mem_nil _) content contentTrimmed
      | reference | startTag | endTag | cdata | declaration | passedOver =>
          exact .token _ content contentTrimmed

/-- What is cut off bytes of which nothing is trimmed. -/
theorem cutFrom_plain (start : Nat) {bytes : List UInt8} (nonempty : bytes ≠ []) :
    let piece := ofLexeme false none start 0 (Lexeme.read bytes)
    cutFrom false none start bytes =
      match piece.content with
      | .ok _ => piece :: cutFrom false none piece.stop (Lexeme.read bytes).rest
      | .error _ => [piece] := by
  intro piece
  rw [cutFrom]
  simp only [Bool.false_eq_true, if_false]
  rw [if_neg (by simpa using nonempty)]
  rfl

/-- A document that begins with text, of which some bytes are known. -/
theorem read_text_append {front rest : List UInt8}
    (isText : ∀ byte ∈ front, Lexeme.isTextByte byte = true)
    (begins : (front ++ rest).head?.any Lexeme.isTextByte = true) :
    (Lexeme.read (front ++ rest)).token =
        .ok (.text (front ++ rest.takeWhile Lexeme.isTextByte)) ∧
      (Lexeme.read (front ++ rest)).rest = rest.dropWhile Lexeme.isTextByte := by
  have read : Lexeme.read (front ++ rest) = Lexeme.readText (front ++ rest) := by
    cases whole : front ++ rest with
    | nil => simp [whole] at begins
    | cons byte more =>
        rw [whole] at begins
        exact Spelling.read_eq_readText begins more
  rw [read]
  simp only [Lexeme.readText, List.takeWhile_append_of_pos isText,
    List.dropWhile_append_of_pos isText, and_self]

theorem isTextByte_of_blank {blanks : List UInt8}
    (blank : ∀ byte ∈ blanks, isBlankByte byte = true) :
    ∀ byte ∈ blanks, Lexeme.isTextByte byte = true :=
  fun byte member => Lexeme.isTextByte_of_isBlankByte (blank byte member)

/-- Text is read with the blanks in front of it, which trimming takes away. -/
theorem trims_read_blanks (start startTrimmed skipped skippedTrimmed : Nat)
    {blanks rest : List UInt8} (blank : ∀ byte ∈ blanks, isBlankByte byte = true)
    (begins : rest.head?.any Lexeme.isTextByte = true) :
    (Lexeme.read (blanks ++ rest)).rest = (Lexeme.read rest).rest ∧
      Trims (ofLexeme false none start skipped (Lexeme.read (blanks ++ rest)))
        (ofLexeme true none startTrimmed skippedTrimmed (Lexeme.read rest)) := by
  have isText := isTextByte_of_blank blank
  have beginsBlank : (blanks ++ rest).head?.any Lexeme.isTextByte = true := by
    cases blanks with
    | nil => exact begins
    | cons byte more => exact isText byte List.mem_cons_self
  obtain ⟨token, left⟩ := read_text_append isText beginsBlank
  obtain ⟨tokenTrimmed, leftTrimmed⟩ := read_text_append (List.forall_mem_nil _) begins
  have content := content_ofLexeme false start skipped (Lexeme.read (blanks ++ rest))
  have contentTrimmed := content_ofLexeme true startTrimmed skippedTrimmed (Lexeme.read rest)
  rw [token] at content
  rw [List.nil_append] at tokenTrimmed leftTrimmed
  rw [tokenTrimmed] at contentTrimmed
  exact ⟨left.trans leftTrimmed.symm, trims_text blank content contentTrimmed⟩

/-- Blanks in front of markup are a piece of their own if text is not trimmed. -/
theorem trimmed_of_blanks {blanks rest : List UInt8} {trimmed : List Piece}
    (blank : ∀ byte ∈ blanks, isBlankByte byte = true)
    (stops : rest.head?.any Lexeme.isTextByte = false)
    (others : ∀ start, Trimmed (cutFrom false none start rest) trimmed) (start : Nat) :
    Trimmed (cutFrom false none start (blanks ++ rest)) trimmed := by
  have taken : rest.takeWhile Lexeme.isTextByte = [] ∧
      rest.dropWhile Lexeme.isTextByte = rest := by
    cases rest with
    | nil => exact ⟨rfl, rfl⟩
    | cons first later =>
        have notText : ¬ Lexeme.isTextByte first = true := Bool.not_eq_true _ ▸ stops
        exact ⟨List.takeWhile_cons_of_neg notText, List.dropWhile_cons_of_neg notText⟩
  have isText := isTextByte_of_blank blank
  cases blanks with
  | nil => exact others start
  | cons first more =>
      have begins : (first :: more ++ rest).head?.any Lexeme.isTextByte = true :=
        isText first List.mem_cons_self
      obtain ⟨token, left⟩ := read_text_append isText begins
      rw [taken.1, List.append_nil] at token
      have content := content_ofLexeme false start 0 (Lexeme.read (first :: more ++ rest))
      rw [token] at content
      have nonempty : first :: more ++ rest ≠ [] := List.cons_ne_nil first (more ++ rest)
      rw [cutFrom_plain start nonempty, content, left, taken.2]
      exact .blank _ blank content (others _)

theorem Trims.trimmed {piece trimmed : Piece} (one : Trims piece trimmed)
    {rest restTrimmed : List Piece} (others : Trimmed rest restTrimmed) :
    Trimmed (match piece.content with
      | .ok _ => piece :: rest
      | .error _ => [piece])
      (match trimmed.content with
      | .ok _ => trimmed :: restTrimmed
      | .error _ => [trimmed]) := by
  have pair := Trimmed.trims one others
  cases one with
  | token token content contentTrimmed => rwa [content, contentTrimmed]
  | text front raw back blankFront blankBack content contentTrimmed =>
      rwa [content, contentTrimmed]
  | atEnd content contentTrimmed => rwa [content, contentTrimmed]
  | malformed cause content contentTrimmed =>
      rw [content, contentTrimmed]
      exact .trims (.malformed cause content contentTrimmed) .nil

/-- What is cut off a document of which text is trimmed: blanks, and then a piece. -/
theorem cutFrom_trim (start : Nat) (bytes : List UInt8) :
    ∃ blanks rest, bytes = blanks ++ rest ∧ (∀ byte ∈ blanks, isBlankByte byte = true) ∧
      cutFrom true none start bytes =
        let piece := ofLexeme true none start blanks.length (Lexeme.read rest)
        if rest.isEmpty then [Piece.atEnd none start blanks.length]
        else
          match piece.content with
          | .ok _ => piece :: cutFrom true none piece.stop (Lexeme.read rest).rest
          | .error _ => [piece] := by
  refine ⟨bytes.takeWhile isBlankByte, bytes.dropWhile isBlankByte,
    List.takeWhile_append_dropWhile.symm, fun byte member => List.mem_takeWhile_imp member, ?_⟩
  exact cutFrom.eq_def true none start bytes

/-- The pieces of a document are those of which text is trimmed, with the blanks that trimming
takes away. -/
theorem trimmed_cutFrom (start startTrimmed : Nat) (bytes : List UInt8) :
    Trimmed (cutFrom false none start bytes) (cutFrom true none startTrimmed bytes) := by
  -- Where there are blanks in front of markup, the plain cut makes two pieces and the other one
  -- makes one, so that neither recursion gives the induction.
  induction size : bytes.length using Nat.strong_induction_on generalizing
    start startTrimmed bytes with
  | _ size ih =>
  obtain ⟨blanks, rest, rfl, blank, cut⟩ := cutFrom_trim startTrimmed bytes
  rw [cut]
  cases rest with
  | nil =>
      apply trimmed_of_blanks blank rfl
      intro start
      rw [cutFrom]
      exact .trims (.atEnd rfl rfl) .nil
  | cons byte later =>
      have more (start startTrimmed : Nat) :
          Trimmed (cutFrom false none start (Lexeme.read (byte :: later)).rest)
            (cutFrom true none startTrimmed (Lexeme.read (byte :: later)).rest) := by
        have shorter := Lexeme.read_rest_length_lt (List.cons_ne_nil byte later)
        rw [List.length_append] at size
        exact ih _ (by omega) _ _ _ rfl
      rw [List.isEmpty_cons, if_neg Bool.false_ne_true]
      cases begins : (byte :: later).head?.any Lexeme.isTextByte with
      | false =>
          apply trimmed_of_blanks blank begins
          intro start
          rw [cutFrom_plain start (List.cons_ne_nil byte later)]
          exact (trims_ofLexeme start startTrimmed 0 blanks.length _).trimmed (more _ _)
      | true =>
          obtain ⟨sameRest, one⟩ :=
            trims_read_blanks start startTrimmed 0 blanks.length blank begins
          rw [cutFrom_plain start (by simp), sameRest]
          exact one.trimmed (more _ _)

end Piece

end XmlExtract
