import Mathlib.Data.List.Forall2
import XmlExtract.Proofs.RespelledAttribute
import XmlExtract.Proofs.RespelledToken
import XmlExtract.Proofs.Truncation

/-!
# Reading respelled documents

A document in one encoding and its respelling in another are cut into pieces that are
respellings of each other (`Piece.respells_cutFrom`).  If each reader knows the encoding of
its document, and bytes mean to one what their respelling means to the other, the readers
tell the same events, and errors of the same kind (`Reading.told_respelled`).

Errors may differ in what counts bytes: their positions, and those in the wording of a flaw
of a tag.
-/

namespace XmlExtract

/-! ### What is told -/

/-- The kinds of errors. -/
inductive ErrorKind where
  | unavailable
  | malformed
  | invalid
  | io
  | badExpression
  | cancelled
  | brokenDown
  deriving Repr, DecidableEq

namespace Error

def kind : Error → ErrorKind
  | unavailable _ => .unavailable
  | malformed _ _ => .malformed
  | invalid _ _ => .invalid
  | io _ => .io
  | badExpression _ _ => .badExpression
  | cancelled => .cancelled
  | brokenDown _ => .brokenDown

end Error

/-- What a reply tells apart from its position: an event, or an error of some kind. -/
def Reply.told (reply : Reply) : Except ErrorKind Event := reply.answer.mapError Error.kind

/-- Replies tell the same if they tell one event, or errors of one kind. -/
theorem Reply.of_told_eq {reply other : Reply} (told : reply.told = other.told) :
    (∃ event, reply.answer = .ok event ∧ other.answer = .ok event) ∨
      ∃ error errorOther, reply.answer = .error error ∧ other.answer = .error errorOther ∧
        error.kind = errorOther.kind := by
  unfold Reply.told at told
  cases answer : reply.answer with
  | error error =>
      cases answerOther : other.answer with
      | error errorOther =>
          rw [answer, answerOther] at told
          exact .inr ⟨error, errorOther, rfl, rfl, Except.error.inj told⟩
      | ok event => simp [answer, answerOther, Except.mapError] at told
  | ok event =>
      cases answerOther : other.answer with
      | error error => simp [answer, answerOther, Except.mapError] at told
      | ok eventOther =>
          rw [answer, answerOther] at told
          exact .inl ⟨event, rfl, congrArg Except.ok (Except.ok.inj told).symm⟩

/-! ### Pieces -/

namespace Piece

variable (spelling : Respelling)

/-- Pieces of a document and of its respelling: the token is respelled, or they are malformed
for the same cause where they begin. -/
inductive Respells (piece other : Piece) : Prop where
  | token (token : Token) (content : piece.content = .ok (some token))
      (contentOther : other.content = .ok (some (token.respell spelling)))
  | atEnd (content : piece.content = .ok none) (contentOther : other.content = .ok none)
  | malformed (cause : Malformation)
      (content : piece.content = .error (.malformed piece.start cause))
      (contentOther : other.content = .error (.malformed other.start cause))

theorem trimToken_respell (token : Token) :
    trimToken (token.respell spelling) = (trimToken token).respell spelling := by
  cases token with
  | text raw => exact congrArg Token.text (spelling.trimEnd_apply raw)
  | reference | startTag | endTag | cdata | declaration | passedOver => rfl

theorem respells_ofLexeme (trim : Bool) (start startOther skipped skippedOther : Nat)
    {lexeme other : Lexeme} (respells : lexeme.Respells spelling other) :
    Respells spelling (ofLexeme trim none start skipped lexeme)
      (ofLexeme trim none startOther skippedOther other) := by
  have content := content_ofLexeme trim start skipped lexeme
  have contentOther := content_ofLexeme trim startOther skippedOther other
  rw [respells.token] at contentOther
  cases read : lexeme.token with
  | error cause =>
      rw [read] at content contentOther
      exact .malformed cause content contentOther
  | ok token =>
      rw [read] at content contentOther
      refine .token _ content (contentOther.trans ?_)
      dsimp only [Except.map]
      split
      · rw [trimToken_respell]
      · rfl

/-- What is cut off a respelled document of which `rest` is left without its first blanks. -/
theorem cutFrom_apply (trim : Bool) (start : Nat) (bytes rest : List UInt8)
    (skips : (if trim then bytes.dropWhile isBlankByte else bytes) = rest) :
    ∃ skipped piece,
      piece = ofLexeme trim none start skipped (Lexeme.read (spelling.apply rest)) ∧
      cutFrom trim none start (spelling.apply bytes) =
        if rest.isEmpty then [Piece.atEnd none start skipped]
        else
          match piece.content with
          | .ok _ =>
              piece :: cutFrom trim none piece.stop (Lexeme.read (spelling.apply rest)).rest
          | .error _ => [piece] := by
  refine ⟨(if trim then (spelling.apply bytes).takeWhile isBlankByte else []).length, _, rfl, ?_⟩
  have skipsOther : (if trim then (spelling.apply bytes).dropWhile isBlankByte
      else spelling.apply bytes) = spelling.apply rest := by
    rw [← skips]
    split
    · exact spelling.dropWhile_apply Respelling.isBlankByte_above bytes
    · rfl
  have empty : (spelling.apply rest).isEmpty = rest.isEmpty := by
    rw [Bool.eq_iff_iff, List.isEmpty_iff, List.isEmpty_iff, Respelling.apply_eq_nil_iff]
  have step := cutFrom.eq_def trim none start (spelling.apply bytes)
  simp only [skipsOther, empty] at step
  exact step

/-- The pieces of a respelled document are those of the document, respelled. -/
theorem respells_cutFrom (trim : Bool) (start startOther : Nat) (bytes : List UInt8) :
    List.Forall₂ (Respells spelling) (cutFrom trim none start bytes)
      (cutFrom trim none startOther (spelling.apply bytes)) := by
  fun_induction cutFrom trim none start bytes generalizing startOther with
  | case1 start bytes blanks rest atEnd =>
      obtain ⟨skipped, other, -, cut⟩ := cutFrom_apply spelling trim startOther bytes rest rfl
      rw [cut, if_pos atEnd]
      exact .cons (.atEnd rfl rfl) .nil
  | case2 start bytes blanks rest nonempty lexeme piece found content ih =>
      obtain ⟨skipped, other, made, cut⟩ :=
        cutFrom_apply spelling trim startOther bytes rest rfl
      have read := Lexeme.respells_read spelling rest
      have respells : Respells spelling piece other :=
        made ▸ respells_ofLexeme spelling trim start startOther blanks.length skipped read
      rw [cut, if_neg nonempty, read.rest]
      cases respells with
      | token token contentPiece contentOther =>
          rw [contentOther]
          exact .cons (.token token contentPiece contentOther) (ih _)
      | atEnd contentPiece contentOther =>
          rw [contentOther]
          exact .cons (.atEnd contentPiece contentOther) (ih _)
      | malformed cause contentPiece contentOther =>
          exact absurd (content.symm.trans contentPiece) (by simp)
  | case3 start bytes blanks rest nonempty lexeme piece error content =>
      obtain ⟨skipped, other, made, cut⟩ :=
        cutFrom_apply spelling trim startOther bytes rest rfl
      have respells : Respells spelling piece other :=
        made ▸ respells_ofLexeme spelling trim start startOther blanks.length skipped
          (Lexeme.respells_read spelling rest)
      rw [cut, if_neg nonempty]
      cases respells with
      | token token contentPiece contentOther =>
          exact absurd (content.symm.trans contentPiece) (by simp)
      | atEnd contentPiece contentOther =>
          exact absurd (content.symm.trans contentPiece) (by simp)
      | malformed cause contentPiece contentOther =>
          rw [contentOther]
          exact .cons (.malformed cause contentPiece contentOther) .nil

end Piece

/-! ### Decoding -/

namespace Reading

/-- Readings of a document and of its respelling, of which the encodings are settled.  What
bytes mean in the one, their respelling means in the other. -/
structure Respells (rules : ReadingRules) (spelling : Respelling) (reading other : Reading) :
    Prop where
  untold : rules.knownUtf8 = false
  declared : reading.declared = true
  declaredOther : other.declared = true
  opened : other.opened = reading.opened.map spelling.apply
  decodes : ∀ bytes, ∃ characters,
    reading.charset.decode? rules.decoders bytes = some characters ∧
      other.charset.decode? rules.decoders (spelling.apply bytes) = some characters

variable {rules : ReadingRules} {spelling : Respelling} {reading other : Reading}

theorem Respells.shownName (respells : Respells rules spelling reading other) (name : List UInt8) :
    other.shownName rules.decoders (spelling.apply name) =
      reading.shownName rules.decoders name := by
  obtain ⟨characters, decoded, decodedOther⟩ := respells.decodes name
  rw [Reading.shownName, Reading.shownName, decoded, decodedOther]

theorem Respells.decode (respells : Respells rules spelling reading other) (bytes : List UInt8) :
    ∃ text, reading.decode rules bytes = .ok text ∧
      other.decode rules (spelling.apply bytes) = .ok text := by
  obtain ⟨characters, decoded, decodedOther⟩ := respells.decodes bytes
  exact ⟨String.ofList characters, by simp [Reading.decode, respells.untold, decoded],
    by simp [Reading.decode, respells.untold, decodedOther]⟩

theorem Respells.readAttribute (respells : Respells rules spelling reading other)
    (raw : RawAttribute) :
    other.readAttribute rules (raw.respell spelling) = reading.readAttribute rules raw := by
  obtain ⟨key, decodedKey, decodedKeyOther⟩ := respells.decode raw.key
  obtain ⟨value, decodedValue, decodedValueOther⟩ := respells.decode raw.value
  simp only [Reading.readAttribute, RawAttribute.respell, decodedKey, decodedKeyOther,
    decodedValue, decodedValueOther]

/-- Two start tags have the same event, or none has one. -/
theorem Respells.readStart (respells : Respells rules spelling reading other)
    (content : List UInt8) :
    (∃ event, reading.readStart rules content = .ok event ∧
      other.readStart rules (spelling.apply content) = .ok event) ∨
    ∃ cause causeOther, reading.readStart rules content = .error cause ∧
      other.readStart rules (spelling.apply content) = .error causeOther := by
  obtain ⟨name, decoded, decodedOther⟩ := respells.decode (startName content)
  have read := respells_readAll spelling content
  unfold Reading.readStart
  rw [← startName_apply] at decodedOther
  rw [decoded, decodedOther]
  generalize RawAttribute.readAll true (startName content).length content = found at read ⊢
  generalize RawAttribute.readAll true (startName (spelling.apply content)).length
    (spelling.apply content) = foundOther at read ⊢
  obtain ⟨raws, flaw⟩ := found
  obtain ⟨rawsOther, flawOther⟩ := foundOther
  obtain ⟨rfl, flawed⟩ := read
  have attributes : (raws.map (RawAttribute.respell spelling)).mapM (other.readAttribute rules) =
      raws.mapM (reading.readAttribute rules) := by
    rw [List.mapM_map]
    congr 1
    funext raw
    exact respells.readAttribute raw
  simp only [bind, Except.bind, attributes]
  cases raws.mapM (reading.readAttribute rules) with
  | error cause => exact Or.inr ⟨_, _, rfl, rfl⟩
  | ok attributes =>
      cases flaw with
      | none =>
          rw [Option.isSome_none, Option.isSome_eq_false_iff, Option.isNone_iff_eq_none] at flawed
          subst flawed
          exact Or.inl ⟨_, rfl, rfl⟩
      | some flaw =>
          obtain ⟨other, rfl⟩ := Option.isSome_iff_exists.mp flawed
          exact Or.inr ⟨_, _, rfl, rfl⟩

theorem Respells.readEnd (respells : Respells rules spelling reading other) (name : List UInt8) :
    ∃ event, reading.readEnd rules name = .ok event ∧
      other.readEnd rules (spelling.apply name) = .ok event := by
  obtain ⟨text, decoded, decodedOther⟩ := respells.decode name
  exact ⟨.elementEnd text, by rw [Reading.readEnd, decoded]; rfl,
    by rw [Reading.readEnd, decodedOther]; rfl⟩

/-- An end tag closes the innermost element in both documents, or in none of them. -/
theorem Respells.close (respells : Respells rules spelling reading other) (name : List UInt8) :
    (∃ cause, reading.close rules name = .error cause ∧
      other.close rules (spelling.apply name) = .error cause) ∨
    ∃ closed closedOther, reading.close rules name = .ok closed ∧
      other.close rules (spelling.apply name) = .ok closedOther ∧
      Respells rules spelling closed closedOther := by
  have shown := respells.shownName
  unfold Reading.close
  rw [respells.opened]
  cases opened : reading.opened with
  | nil => exact Or.inl ⟨_, rfl, by rw [List.map_nil, shown]⟩
  | cons expected outer =>
      -- Different names have different respellings.
      have sameNames : (spelling.apply expected != spelling.apply name) =
          (expected != name) := by
        rw [Bool.eq_iff_iff, bne_iff_ne, bne_iff_ne, spelling.apply_injective.ne_iff]
      rw [List.map_cons]
      dsimp only
      rw [sameNames, shown, shown]
      split
      · exact Or.inl ⟨_, rfl, rfl⟩
      · exact Or.inr ⟨_, _, rfl, rfl, respells.untold, respells.declared,
          respells.declaredOther, rfl, respells.decodes⟩

/-- Nothing that a document says of its encoding counts any more. -/
theorem declare_of_declared (declared : reading.declared = true) (content : List UInt8) :
    reading.declare content = reading := by
  rw [declare, if_pos declared]

/-! ### Reading the pieces -/

/-- What comes of a token and of its respelling: the same events and readings that go on alike,
or errors of one kind. -/
inductive TakesAlike (rules : ReadingRules) (spelling : Respelling) :
    Except Error (List (Nat × Event) × Reading) →
      Except Error (List (Nat × Event) × Reading) → Prop
  | events {events others : List (Nat × Event)} {reading other : Reading}
      (same : others.map Prod.snd = events.map Prod.snd)
      (respells : Respells rules spelling reading other) :
      TakesAlike rules spelling (.ok (events, reading)) (.ok (others, other))
  | failure {error errorOther : Error} (sameKind : errorOther.kind = error.kind) :
      TakesAlike rules spelling (.error error) (.error errorOther)

theorem takesAlike_text (respells : Respells rules spelling reading other) (raw : List UInt8)
    (position positionOther : Nat) :
    TakesAlike rules spelling
      (blame position (reading.decode rules raw) >>= fun text =>
        .ok (textEvent position text, reading))
      (blame positionOther (other.decode rules (spelling.apply raw)) >>= fun text =>
        .ok (textEvent positionOther text, other)) := by
  obtain ⟨text, decoded, decodedOther⟩ := respells.decode raw
  rw [decoded, decodedOther]
  refine .events ?_ respells
  unfold textEvent
  split <;> rfl

/-- The readers take a token and its respelling alike, wherever they stand. -/
theorem Respells.take (respells : Respells rules spelling reading other) (piece pieceOther : Piece)
    (token : Token) :
    TakesAlike rules spelling (reading.take rules piece token)
      (other.take rules pieceOther (token.respell spelling)) := by
  cases token with
  | text raw | cdata raw =>
      exact takesAlike_text respells raw piece.start pieceOther.start
  | reference name =>
      obtain ⟨text, decoded, decodedOther⟩ := respells.decode name
      simp only [Reading.take, Token.respell, decoded, decodedOther, blame, bind, Except.bind]
      cases Reference.resolve 1 text.toList with
      | ok character => exact .events rfl respells
      | error flaw => exact .failure rfl
  | startTag content isEmpty =>
      simp only [Reading.take, Token.respell, startName_apply]
      rcases respells.readStart content with
        ⟨event, read, readOther⟩ | ⟨cause, causeOther, read, readOther⟩
      · rw [read, readOther]
        cases isEmpty with
        | false =>
            refine .events rfl
              ⟨respells.untold, respells.declared, respells.declaredOther, ?_,
                respells.decodes⟩
            exact congrArg _ respells.opened
        | true =>
            obtain ⟨ending, ends, endsOther⟩ :=
              respells.readEnd (startName content)
            rw [ends, endsOther]
            exact .events rfl respells
      · rw [read, readOther]
        exact .failure rfl
  | endTag content =>
      simp only [Reading.take, Token.respell, endName_apply]
      rcases respells.close (endName content) with
        ⟨cause, closes, closesOther⟩ | ⟨closed, closedOther, closes, closesOther, respellsClosed⟩
      · rw [closes, closesOther]
        exact .failure rfl
      · obtain ⟨ending, ends, endsOther⟩ :=
          respellsClosed.readEnd (endName content)
        rw [closes, closesOther]
        dsimp only
        rw [ends, endsOther]
        exact .events rfl respellsClosed
  | declaration content =>
      simp only [Reading.take, Token.respell, declare_of_declared respells.declared,
        declare_of_declared respells.declaredOther]
      exact .events rfl respells
  | passedOver => exact .events rfl respells

theorem told_events (events : List (Nat × Event)) (raised : Bool) :
    (events.map fun event => (⟨event.1, .ok event.2, raised⟩ : Reply)).map Reply.told =
      (events.map Prod.snd).map .ok := by
  rw [List.map_map, List.map_map]
  rfl

/-- The readers of a document and of its respelling tell the same. -/
theorem told_respelled (respells : Respells rules spelling reading other) (input inputOther : Input)
    {pieces piecesOther : List Piece}
    (cut : List.Forall₂ (Piece.Respells spelling) pieces piecesOther) :
    (replies rules inputOther other piecesOther).map Reply.told =
      (replies rules input reading pieces).map Reply.told := by
  induction cut generalizing reading other with
  | nil => rfl
  | @cons piece pieceOther pieces piecesOther pair later ih =>
      simp only [replies]
      cases pair with
      | atEnd content contentOther =>
          rw [content, contentOther]
          rfl
      | malformed cause content contentOther =>
          rw [content, contentOther]
          rfl
      | token token content contentOther =>
          rw [content, contentOther]
          dsimp only
          have taken := respells.take piece pieceOther token
          generalize reading.take _ piece token = answer at taken ⊢
          generalize other.take _ pieceOther (token.respell spelling) = answerOther at taken ⊢
          cases taken with
          | failure sameKind =>
              rw [List.map_singleton, List.map_singleton]
              exact congrArg (fun kind => [Except.error kind]) sameKind
          | events same respellsLater =>
              dsimp only
              rw [List.map_append, List.map_append, told_events, told_events, same,
                ih respellsLater]

end Reading

end XmlExtract
