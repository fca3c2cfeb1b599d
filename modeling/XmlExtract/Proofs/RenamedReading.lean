import XmlExtract.Proofs.RenamedEnds
import XmlExtract.Proofs.SideBySide
import XmlExtract.Proofs.TrimmedReading

/-!
# Reading documents with other names in end tags

A reader that does not check the names of end tags closes the innermost element whatever the name
is.  So it goes through two documents that differ in nothing but these names in one and the same
state, and tells the same of both, but for the names themselves.  They show in the events of end
tags, and in the error for an end tag while no element is open (`Input.renamed_replies`).

A name decides nothing because it is sound UTF-8 for itself: what stands behind it is read, or
fails to be read, at the same place (`Utf8.failsAlike_decode`).
-/

namespace XmlExtract

open Spelling (IsName isBlankByte_of_mem)

/-! ### Results in pairs -/

/-- Two results are there, or they are missing for one cause. -/
inductive FailsAlike {ε α : Type} : Except ε α → Except ε α → Prop
  | done (value other : α) : FailsAlike (.ok value) (.ok other)
  | failed (error : ε) : FailsAlike (.error error) (.error error)

/-- A malformation of which the wording quotes the name of an end tag. -/
def Malformation.quotesEndTag : Malformation → Bool
  | unmatchedEndTag _ | mismatchedEndTag _ _ | endWithoutStart _ => true
  | _ => false

/-- Two answers that belong together, or the same failure, or two failures at one position that
quote end tags. -/
inductive SameButQuotes {α : Type} (paired : α → α → Prop) :
    Except Error α → Except Error α → Prop
  | done {value other : α} (values : paired value other) :
      SameButQuotes paired (.ok value) (.ok other)
  | failed (error : Error) : SameButQuotes paired (.error error) (.error error)
  | quoted (position : Nat) {cause otherCause : Malformation}
      (quotes : cause.quotesEndTag = true) (otherQuotes : otherCause.quotesEndTag = true) :
      SameButQuotes paired (.error (.malformed position cause))
        (.error (.malformed position otherCause))

theorem sameButQuotes_refl {α : Type} {paired : α → α → Prop} (refl : ∀ value, paired value value)
    (answer : Except Error α) : SameButQuotes paired answer answer := by
  cases answer with
  | ok value => exact .done (refl value)
  | error error => exact .failed error

theorem SameButQuotes.eq_ok {α : Type} {answer other : Except Error α} {value : α}
    (alike : SameButQuotes Eq answer other) (ended : answer = .ok value) : other = .ok value := by
  cases alike with
  | done same => rw [← same, ended]
  | failed error => contradiction
  | quoted position quotes otherQuotes => contradiction

/-! ### Names -/

namespace Utf8

/-- Where bytes cease to be UTF-8 does not depend on the characters before. -/
theorem failsAlike_decodeAfter (valid : Nat) (before : List Char) (bytes : List UInt8) :
    ∀ other, FailsAlike (decodeAfter valid before bytes) (decodeAfter valid other bytes) := by
  -- The first decoder sets the steps, and the second one follows with other characters.
  fun_induction decodeAfter valid before bytes with
  | case1 valid before =>
      intro other
      exact .done _ _
  | case2 | case6 | case9 | case12 =>
      rename_i ih
      intro other
      conv => rhs; unfold decodeAfter
      simp only [*]
      exact ih _
  | case3 | case4 | case5 | case7 | case8 | case10 | case11 =>
      intro other
      conv => rhs; unfold decodeAfter
      simp only [*]
      exact .failed _

/-- Behind names that are equally long the same bytes are read alike. -/
theorem failsAlike_decode {name otherName : List Char}
    (length : (encode otherName).length = (encode name).length) (back : List UInt8) :
    FailsAlike (decode (encode name ++ back)) (decode (encode otherName ++ back)) := by
  rw [decode, decode, decodeAfter_encode_append, decodeAfter_encode_append, length]
  exact failsAlike_decodeAfter _ _ back _

end Utf8

namespace Reading

variable {rules : ReadingRules} {reading : Reading} {name otherName : List Char}

/-- Blanks are taken off the end of what stands behind a name. -/
theorem endName_append (isName : IsName name) (back : List UInt8) :
    endName (Utf8.encode name ++ back) = Utf8.encode name ++ Piece.trimEnd back := by
  obtain ⟨front, last, bytes⟩ :=
    List.eq_nil_or_concat (Utf8.encode name) |>.resolve_left (Utf8.encode_ne_nil isName.ne_nil)
  have notBlank : ¬ isBlankByte last = true := by
    rw [isBlankByte_of_mem isName last (by simp [bytes])]
    exact Bool.false_ne_true
  have notAll : ¬ (Utf8.encode name ++ back).all isBlankByte = true := by
    simp [bytes, notBlank]
  have kept : (Utf8.encode name).reverse.dropWhile isBlankByte = (Utf8.encode name).reverse := by
    rw [bytes, List.concat_eq_append, List.reverse_append, List.reverse_singleton,
      List.singleton_append, List.dropWhile_cons_of_neg notBlank]
  rw [endName, if_neg notAll, Piece.trimEnd, Piece.trimEnd, List.reverse_append,
    List.dropWhile_append, kept]
  split
  · rename_i nothing
    rw [List.isEmpty_iff.mp nothing, List.reverse_reverse, List.reverse_nil, List.append_nil]
  · rw [List.reverse_append, List.reverse_reverse]

theorem failsAlike_decode (utf8 : ReadsUtf8 rules reading)
    (length : (Utf8.encode otherName).length = (Utf8.encode name).length) (back : List UInt8) :
    FailsAlike (reading.decode rules (Utf8.encode name ++ back))
      (reading.decode rules (Utf8.encode otherName ++ back)) := by
  have alike := Utf8.failsAlike_decode length back
  unfold decode
  generalize read : Utf8.decode (Utf8.encode name ++ back) = result at alike ⊢
  generalize readOther : Utf8.decode (Utf8.encode otherName ++ back) = otherResult at alike ⊢
  split
  · cases alike with
    | done value other => exact .done _ _
    | failed fault => exact .failed _
  · rename_i unknown
    rw [utf8.resolve_left unknown]
    simp only [Charset.decode?, read, readOther]
    cases alike with
    | done value other => exact .done _ _
    | failed fault => exact .failed _

/-! ### Tokens -/

/-- What comes of tokens at one place of two renamed documents: events that differ in the names of
end tags, and one state. -/
structure TakesRenamed (answer other : List (Nat × Event) × Reading) : Prop where
  events : List.Forall₂ (fun event otherEvent : Nat × Event =>
    otherEvent.1 = event.1 ∧ event.2.SameButEnds otherEvent.2) answer.1 other.1
  reading : other.2 = answer.2

theorem takesRenamed_refl (answer : List (Nat × Event) × Reading) : TakesRenamed answer answer where
  events := List.forall₂_same.mpr fun event _ => ⟨rfl, .same event.2⟩
  reading := rfl

/-- A piece counts for nothing but its place. -/
theorem take_congr {piece other : Piece} (start : other.start = piece.start)
    (stop : other.stop = piece.stop) (token : Token) :
    reading.take rules other token = reading.take rules piece token := by
  cases token <;> simp only [take, start, stop]

/-- An end tag closes the innermost element whatever its name is, unless none is open. -/
theorem take_endTag_renamed (unchecked : rules.checksEndNames = false)
    (utf8 : ReadsUtf8 rules reading) (piece : Piece) {token otherToken : Token}
    (tokens : token.Renamed otherToken) :
    SameButQuotes TakesRenamed (reading.take rules piece token)
      (reading.take rules piece otherToken) := by
  cases tokens with
  | @endTag name otherName isName isOtherName length back =>
      simp only [take, close, endName_append isName, endName_append isOtherName, unchecked,
        Bool.false_and, Bool.false_eq_true, if_false]
      cases reading.opened with
      | nil => exact .quoted piece.start rfl rfl
      | cons expected outer =>
          -- The element is closed; what is left is to decode the name for the event.
          have closedUtf8 : ReadsUtf8 rules { reading with opened := outer } := utf8
          have alike := failsAlike_decode closedUtf8 length (Piece.trimEnd back)
          simp only [readEnd]
          generalize decode rules _ (Utf8.encode name ++ Piece.trimEnd back) = result
            at alike ⊢
          generalize decode rules _ (Utf8.encode otherName ++ Piece.trimEnd back) = otherResult
            at alike ⊢
          cases alike with
          | failed cause => exact .failed _
          | done text otherText =>
              exact .done ⟨.cons ⟨rfl, .elementEnd text otherText⟩ .nil, rfl⟩

end Reading

/-- The tokens at one place of two renamed documents come to the same, but for names of end
tags. -/
theorem Piece.Renamed.take {rules : ReadingRules} {reading : Reading} {piece other : Piece}
    {token : Token} (renamed : piece.Renamed other) (content : piece.content = .ok (some token))
    (unchecked : rules.checksEndNames = false) (utf8 : Reading.ReadsUtf8 rules reading) :
    ∃ otherToken, other.content = .ok (some otherToken) ∧
      SameButQuotes Reading.TakesRenamed (reading.take rules piece token)
        (reading.take rules other otherToken) := by
  have anywhere (otherToken : Token) :
      reading.take rules other otherToken = reading.take rules piece otherToken :=
    Reading.take_congr renamed.start renamed.stop otherToken
  rcases renamed.content with same | ⟨found, otherToken, contentFound, contentOther, tokens⟩
  · refine ⟨token, same.trans content, ?_⟩
    rw [anywhere]
    exact sameButQuotes_refl Reading.takesRenamed_refl _
  · obtain rfl : token = found :=
      Option.some.inj (Except.ok.inj (content.symm.trans contentFound))
    refine ⟨otherToken, contentOther, ?_⟩
    rw [anywhere]
    exact Reading.take_endTag_renamed unchecked utf8 piece tokens

/-! ### Replies -/

/-- What is replied at one place of two renamed documents. -/
structure Reply.Renamed (reply other : Reply) : Prop where
  position : other.position = reply.position
  answers : SameButQuotes Event.SameButEnds reply.answer other.answer

namespace Reading

variable {rules : ReadingRules} {reading : Reading}

theorem renamed_events {events otherEvents : List (Nat × Event)}
    (same : List.Forall₂ (fun event otherEvent : Nat × Event =>
      otherEvent.1 = event.1 ∧ event.2.SameButEnds otherEvent.2) events otherEvents)
    (raised otherRaised : Bool) :
    List.Forall₂ Reply.Renamed
      (events.map fun event => ⟨event.1, .ok event.2, raised⟩)
      (otherEvents.map fun event => ⟨event.1, .ok event.2, otherRaised⟩) := by
  rw [List.forall₂_map_left_iff, List.forall₂_map_right_iff]
  exact same.imp fun _ _ pair => ⟨pair.1, .done pair.2⟩

/-- A reader that does not check names tells the same of renamed documents. -/
theorem renamed_replies (unchecked : rules.checksEndNames = false) (input otherInput : Input)
    {pieces others : List Piece} (cut : List.Forall₂ Piece.Renamed pieces others)
    (stays : StaysUtf8 rules reading pieces) :
    List.Forall₂ Reply.Renamed (replies rules input reading pieces)
      (replies rules otherInput reading others) := by
  induction cut generalizing reading with
  | nil => exact .nil
  | @cons piece other pieces others pair later ih =>
      have alone (answer : Except Error Event) (raised otherRaised : Bool) :
          List.Forall₂ Reply.Renamed [⟨piece.start, answer, raised⟩]
            [⟨other.start, answer, otherRaised⟩] :=
        .cons ⟨pair.start, sameButQuotes_refl .same answer⟩ .nil
      simp only [replies]
      cases content : piece.content with
      | error error =>
          rw [pair.content_eq (by simp [content]), content]
          exact alone _ _ _
      | ok found =>
          cases found with
          | none =>
              rw [pair.content_eq (by simp [content]), content]
              exact alone _ _ _
          | some token =>
              obtain ⟨otherToken, contentOther, taken⟩ :=
                pair.take content unchecked stays.readsUtf8
              rw [contentOther]
              dsimp only
              generalize takes : reading.take rules piece token = answer at taken ⊢
              generalize reading.take rules other otherToken = otherAnswer at taken ⊢
              cases taken with
              | failed error => exact alone _ _ _
              | quoted position quotes otherQuotes =>
                  exact .cons ⟨pair.start, .quoted position quotes otherQuotes⟩ .nil
              | @done answer otherAnswer same =>
                  dsimp only
                  rw [same.reading]
                  exact List.rel_append (renamed_events same.events _ _)
                    (ih (stays.take content takes))

/-! ### Whole documents -/

/-- The opening of an end tag is no part of what tells the encoding. -/
theorem isPrefixOf_append_endTag (mark : List UInt8)
    (apart : ¬ [Byte.less, Byte.slash] <:+: mark) (front rest : List UInt8) :
    mark.isPrefixOf ((front ++ [Byte.less, Byte.slash]) ++ rest) =
      mark.isPrefixOf (front ++ [Byte.less, Byte.slash]) := by
  rw [Bool.eq_iff_iff, List.isPrefixOf_iff_prefix, List.isPrefixOf_iff_prefix]
  constructor
  · intro begins
    refine (List.prefix_or_prefix_of_prefix begins (List.prefix_append _ rest)).resolve_right ?_
    intro inside
    exact apart ((List.suffix_append front _).isInfix.trans inside.isInfix)
  · intro begins
    exact begins.trans (List.prefix_append _ rest)

theorem detect_append_endTag (front rest : List UInt8) :
    detect ((front ++ [Byte.less, Byte.slash]) ++ rest) =
      detect (front ++ [Byte.less, Byte.slash]) := by
  unfold detect
  simp only [isPrefixOf_append_endTag [0xFE, 0xFF] (by decide),
    isPrefixOf_append_endTag [0xFF, 0xFE] (by decide),
    isPrefixOf_append_endTag [0xEF, 0xBB, 0xBF] (by decide),
    isPrefixOf_append_endTag [0x00, 0x3C, 0x00, 0x3F] (by decide),
    isPrefixOf_append_endTag [0x3C, 0x00, 0x3F, 0x00] (by decide)]

/-- A byte order mark is text. -/
theorem isTextByte_of_mem_mark (bytes : List UInt8) :
    ∀ byte ∈ bytes.take (detect bytes).2, Lexeme.isTextByte byte = true := by
  have marked (mark : List UInt8) (isText : mark.all Lexeme.isTextByte = true)
      (begins : mark.isPrefixOf bytes = true) :
      ∀ byte ∈ bytes.take mark.length, Lexeme.isTextByte byte = true := by
    obtain ⟨rest, rfl⟩ := List.isPrefixOf_iff_prefix.mp begins
    rw [List.take_left]
    exact List.all_eq_true.mp isText
  unfold detect
  split_ifs with big little utf8 bigTag littleTag
  · exact marked [0xFE, 0xFF] (by decide) big
  · exact marked [0xFF, 0xFE] (by decide) little
  · exact marked [0xEF, 0xBB, 0xBF] (by decide) utf8
  · exact List.forall_mem_nil _
  · exact List.forall_mem_nil _
  · exact List.forall_mem_nil _

end Reading

namespace RenamedEnds

variable {bytes other : List UInt8}

theorem detect_eq (renamed : RenamedEnds bytes other) :
    Reading.detect other = Reading.detect bytes := by
  rcases renamed.exists_shared with rfl | ⟨front, rest, otherRest, rfl, rfl⟩
  · rfl
  · rw [Reading.detect_append_endTag, Reading.detect_append_endTag]

theorem layout_eq (renamed : RenamedEnds bytes other) :
    Layout.detect other = Layout.detect bytes := by
  rcases renamed.exists_shared with rfl | ⟨front, rest, otherRest, rfl, rfl⟩
  · rfl
  · have long : 2 ≤ (front ++ [Byte.less, Byte.slash]).length := by simp
    rw [Layout.detect_append long, Layout.detect_append long]

end RenamedEnds

/-- The replies for renamed documents that lie in memory. -/
theorem Input.renamed_replies {bytes other : List UInt8} {settings : Settings} {knownUtf8 : Bool}
    (renamed : RenamedEnds bytes other) (unchecked : settings.checksEndNames = false)
    (utf8 : knownUtf8 = true ∨ (Reading.detect bytes).1 = .utf8 ∧
      ∀ charset ∈ Query.declaredCharsets settings bytes, charset = .utf8) :
    List.Forall₂ Reply.Renamed ((Input.ofBytes bytes).replies settings knownUtf8)
      ((Input.ofBytes other).replies settings knownUtf8) := by
  have bodies : RenamedEnds (bytes.drop (Reading.detect bytes).2)
      (other.drop (Reading.detect bytes).2) :=
    renamed.drop (Reading.isTextByte_of_mem_mark bytes)
  have cut := Piece.renamed_cutFrom settings.trimsText 0 _ _ bodies
  unfold Input.replies
  simp only [Input.ofBytes, Input.firstBuffer_of_sound, List.take_length, renamed.detect_eq]
  refine .cons ⟨rfl, .done (.same _)⟩ ?_
  exact Reading.renamed_replies unchecked _ _ cut utf8

end XmlExtract
