import XmlExtract.Proofs.BufferedReading
import XmlExtract.Proofs.SpelledDocument
import XmlExtract.Proofs.TagSequence

/-!
# Documents that are cut short

A document that ends with its root is cut anywhere before its last byte.  What is left is
never taken for a document with another answer (`outcome_cutShort`): either the query fails
by the fault of the document, or it has stopped early, with the capture that it has for the
whole document.

Both come from what the replies for the beginning and for the whole have in common: all of
them, but for those behind the last tag of the beginning (`Reading.exists_front`).  A run
that stops early does so at a tag.  A run that goes on comes to the end of the document after
tags that leave the root open, or before there has been a root.
-/

namespace XmlExtract

/-! ### Replies for the beginning and for the whole -/

namespace Piece

theorem ofLexeme_extend (trim : Bool) (start skipped : Nat) (lexeme : Lexeme)
    (more : List UInt8) :
    ofLexeme trim none start skipped (lexeme.extend more) =
      ofLexeme trim none start skipped lexeme := by
  have content := content_ofLexeme trim start skipped lexeme
  have same := (content_ofLexeme trim start skipped (lexeme.extend more)).trans content.symm
  unfold ofLexeme at same ⊢
  rw [Piece.mk.injEq]
  exact ⟨rfl, rfl, rfl, same⟩

theorem cutFrom_cons (trim : Bool) (start : Nat) (bytes : List UInt8) :
    let blanks := if trim then bytes.takeWhile isBlankByte else []
    let rest := if trim then bytes.dropWhile isBlankByte else bytes
    let lexeme := Lexeme.read rest
    let piece := ofLexeme trim none start blanks.length lexeme
    rest ≠ [] → ∀ found, piece.content = .ok found →
      cutFrom trim none start bytes = piece :: cutFrom trim none piece.stop lexeme.rest := by
  intro blanks rest lexeme piece nonempty found content
  rw [cutFrom]
  simp only
  rw [if_neg (by simpa using nonempty), content]

/-- The first piece stays what it is when more bytes follow, if it does not ask for them. -/
theorem cutFrom_append (trim : Bool) (start : Nat) (bytes more : List UInt8) :
    let blanks := if trim then bytes.takeWhile isBlankByte else []
    let rest := if trim then bytes.dropWhile isBlankByte else bytes
    let lexeme := Lexeme.read rest
    let piece := ofLexeme trim none start blanks.length lexeme
    rest ≠ [] → lexeme.asksBeyond = false → ∀ found, piece.content = .ok found →
      cutFrom trim none start (bytes ++ more) =
        piece :: cutFrom trim none piece.stop (lexeme.rest ++ more) := by
  intro blanks rest lexeme piece nonempty complete found content
  have blanksAgain : (if trim then (bytes ++ more).takeWhile isBlankByte else []) = blanks := by
    cases trim with
    | false => rfl
    | true => exact (span_append nonempty more).1
  have restAgain : (if trim then (bytes ++ more).dropWhile isBlankByte else bytes ++ more) =
      rest ++ more := by
    cases trim with
    | false => rfl
    | true => exact (span_append nonempty more).2
  have readAgain : Lexeme.read (rest ++ more) = lexeme.extend more :=
    (Lexeme.local_read rest).extend complete more
  have longer := cutFrom_cons trim start (bytes ++ more)
  simp only [blanksAgain, restAgain, readAgain, ofLexeme_extend] at longer
  exact longer (by simp [nonempty]) found content

end Piece

namespace Reading

/-- The replies for some bytes and for the same bytes with more behind have a common front.
What comes of the first behind it has no tags. -/
theorem exists_front (rules : ReadingRules) (input : Input) (reading : Reading) (trim : Bool)
    (start : Nat) (bytes more : List UInt8) :
    ∃ front tail rest,
      replies rules input reading (Piece.cutFrom trim none start bytes) = front ++ tail ∧
        replies rules input reading (Piece.cutFrom trim none start (bytes ++ more)) =
          front ++ rest ∧
        Reply.tags tail = [] := by
  fun_induction Piece.cutFrom trim none start bytes generalizing reading with
  | case1 start bytes blanks rest atEnd => exact ⟨[], _, _, rfl, rfl, rfl⟩
  | case2 start bytes blanks rest nonempty lexeme piece found content ih =>
      obtain ⟨token, read, lexed, rfl, -⟩ := Piece.exists_token content
      have some : rest ≠ [] := by simpa using nonempty
      have skipped : Lexeme.tags rest = Lexeme.tags bytes := Lexeme.tags_skip trim bytes
      cases beyond : lexeme.asksBeyond with
      | true =>
          -- The token may be another one when more bytes follow, but it is no tag.
          have whole : Piece.cutFrom trim none start bytes =
              piece :: Piece.cutFrom trim none piece.stop lexeme.rest :=
            Piece.cutFrom_cons trim start bytes some _ content
          have told := tags_replies rules input reading trim start bytes
          rw [← skipped, Lexeme.tags_of_asksBeyond beyond, List.prefix_nil, whole] at told
          exact ⟨[], _, _, rfl, rfl, told⟩
      | false =>
          have longer : Piece.cutFrom trim none start (bytes ++ more) =
              piece :: Piece.cutFrom trim none piece.stop (lexeme.rest ++ more) :=
            Piece.cutFrom_append trim start bytes more some beyond _ content
          rw [longer]
          simp only [replies, content]
          cases taken : reading.take rules piece read with
          | error error =>
              exact ⟨_, [], [], (List.append_nil _).symm, (List.append_nil _).symm, rfl⟩
          | ok answer =>
              obtain ⟨events, after⟩ := answer
              obtain ⟨front, tail, rest, whole, extended, noTags⟩ := ih after
              let told : List Reply := events.map fun event =>
                ⟨event.1, .ok event.2, input.stopRaisedBy piece.reach⟩
              refine ⟨told ++ front, tail, rest, ?_, ?_, noTags⟩
              · rw [List.append_assoc, ← whole]
              · rw [List.append_assoc, ← extended]
  | case3 start bytes blanks rest nonempty lexeme piece error content =>
      refine ⟨[], _, _, rfl, rfl, ?_⟩
      simp only [content]
      rfl

end Reading

/-! ### Runs that come to the end too soon -/

namespace Extraction

variable {extraction : Extraction} {taken : List Event} {stop : StopRequest}
  {reply : Reply}

/-- The document does not end after tags that leave an element open. -/
theorem HasTaken.refuses_documentEnd (known : extraction.HasTaken taken)
    (unfinished : Tag.Unfinished (taken.flatMap Event.tags)) :
    extraction.refusal? .documentEnd ≠ none := by
  rw [ne_eq, known.refusal?_eq_none_iff, not_not]
  unfold Tag.Unfinished at unfinished
  rw [← Event.starts_eq_count, ← Event.ends_eq_count] at unfinished
  rcases unfinished with startless | inside
  · exact .rootless startless
  · exact .unclosed inside

/-- Behind the last tag a run that has not finished fails. -/
theorem fails_of_unfinished (known : extraction.HasTaken taken)
    (unfinished : Tag.Unfinished (taken.flatMap Event.tags)) (unheeded : stop.heeded = false)
    {replies : List Reply} (noTags : Reply.tags replies = []) (position : Nat) :
    ∃ error, (extraction.runFrom stop position replies).outcome = .error error := by
  have refused := known.refuses_documentEnd unfinished
  induction replies generalizing extraction taken stop position with
  | nil =>
      cases ended : (extraction.runFrom stop position []).outcome with
      | error error => exact ⟨error, rfl⟩
      | ok capture =>
          have reaction := react_documentEnd extraction stop position
          rw [ended] at reaction
          obtain ⟨event, answer, accepted, -⟩ := of_react_ok reaction
          rw [← Except.ok.inj answer] at accepted
          exact absurd accepted refused
  | cons reply later ih =>
      rw [Reply.tags_cons, List.append_eq_nil_iff] at noTags
      obtain ⟨noTagHere, noTagsLater⟩ := noTags
      rw [runFrom_cons (not_stops_of_unheeded unheeded)]
      cases reaction : extraction.react stop reply with
      | inl outcome =>
          cases outcome with
          | error error => exact ⟨error, rfl⟩
          | ok capture =>
              obtain ⟨event, answer, accepted, rfl | ⟨-, name, attributes, rfl⟩⟩ :=
                of_react_ok reaction
              · exact absurd accepted refused
              · rw [Reply.tagsOf_ok answer] at noTagHere
                contradiction
      | inr next =>
          obtain ⟨-, event, answer, -, accepted, rfl⟩ := of_react_inr reaction
          rw [Reply.tagsOf_ok answer] at noTagHere
          have unfinishedStill : Tag.Unfinished ((taken ++ [event]).flatMap Event.tags) := by
            simpa [noTagHere] using unfinished
          have knownAfter := known.advance accepted
          have unheededLater : (stop.raiseIf reply.stopRaised).heeded = false := unheeded
          exact ih knownAfter unfinishedStill unheededLater noTagsLater reply.position
            (knownAfter.refuses_documentEnd unfinishedStill)

/-- A run that ends well before the document is whole has stopped early, at a reply that it
shares with every run over the same front. -/
theorem stopsEarly_of_unfinished (known : extraction.HasTaken taken)
    (unheeded : stop.heeded = false) {front tail : List Reply}
    (noTags : Reply.tags tail = [])
    (unfinished : ∀ before, before <+: Reply.tags front →
      Tag.Unfinished (taken.flatMap Event.tags ++ before))
    {position : Nat} {capture : Capture}
    (ended : (extraction.runFrom stop position (front ++ tail)).outcome = .ok capture) :
    extraction.stopsEarly = true ∧
      ∀ rest, (extraction.runFrom stop position (front ++ rest)).outcome = .ok capture := by
  -- Along the front the tags taken so far stay unfinished, so that no reply ends the run well
  -- but by stopping early; behind it there is no tag at which to stop.
  induction front generalizing extraction taken stop position with
  | nil =>
      have unfinishedHere := unfinished [] List.nil_prefix
      rw [List.append_nil] at unfinishedHere
      obtain ⟨error, failed⟩ := fails_of_unfinished known unfinishedHere unheeded noTags position
      exact absurd (ended.symm.trans failed) (by simp)
  | cons reply later ih =>
      have unfinishedHere := unfinished [] List.nil_prefix
      rw [List.append_nil] at unfinishedHere
      simp only [List.cons_append, runFrom_cons (not_stops_of_unheeded unheeded)] at ended ⊢
      cases reaction : extraction.react stop reply with
      | inl outcome =>
          simp only [reaction] at ended
          subst ended
          obtain ⟨event, -, accepted, rfl | ⟨early, -⟩⟩ := of_react_ok reaction
          · exact absurd accepted (known.refuses_documentEnd unfinishedHere)
          · exact ⟨early, fun _ => rfl⟩
      | inr next =>
          simp only [reaction, Run.afterPull] at ended
          obtain ⟨-, event, answer, -, accepted, rfl⟩ := of_react_inr reaction
          have unfinishedLater : ∀ before, before <+: Reply.tags later →
              Tag.Unfinished ((taken ++ [event]).flatMap Event.tags ++ before) := by
            intro before begins
            have longer : event.tags ++ before <+: Reply.tags (reply :: later) := by
              rw [Reply.tags_cons, Reply.tagsOf_ok answer]
              exact (List.prefix_append_right_inj _).mpr begins
            simpa using unfinished _ longer
          have unheededLater : (stop.raiseIf reply.stopRaised).heeded = false := unheeded
          exact ih (known.advance accepted) unheededLater unfinishedLater ended

end Extraction

/-! ### Documents that end with their root -/

namespace Spelling

/-- A document up to the last bracket of its root.  Blanks, comments and instructions may
stand before the root. -/
inductive SpellsDocument (name : String) (attributes : List (String × String)) :
    Content → List Char → Prop
  | blank {inner : Content} {character : Char} {spelling : List Char}
      (blank : isBlank character = true)
      (rest : SpellsDocument name attributes inner spelling) :
      SpellsDocument name attributes inner (character :: spelling)
  | passedOver {inner : Content} {markup spelling : List Char} (passed : PassedOver markup)
      (rest : SpellsDocument name attributes inner spelling) :
      SpellsDocument name attributes inner (markup ++ spelling)
  | element {inner : Content} {tag innerSpelling blanks : List Char}
      (start : StartTag name attributes tag) (inside : Spells inner innerSpelling)
      (blank : Blanks blanks) :
      SpellsDocument name attributes inner
        ('<' :: (tag ++ '>' :: (innerSpelling ++ ("</".toList ++ (name.toList ++ (blanks ++
          ['>']))))))
  | emptyElement {tag : List Char} (start : StartTag name attributes tag) :
      SpellsDocument name attributes .nothing ('<' :: (tag ++ ['/', '>']))

namespace SpellsDocument

variable {name : String} {attributes : List (String × String)} {inner : Content}
  {characters : List Char}

/-- Without its last bracket, a document has no more tags than the opening one of the root
and those inside of it. -/
theorem exists_unclosed (spells : SpellsDocument name attributes inner characters) :
    ∃ front, characters = front ++ ['>'] ∧
      Lexeme.tags (Utf8.encode front) <+: .opening :: inner.tags := by
  induction spells with
  | @blank inner character spelling blank rest ih =>
      obtain ⟨front, rfl, begins⟩ := ih
      obtain ⟨byte, written, blankByte⟩ := encode_blank blank
      refine ⟨character :: front, rfl, ?_⟩
      rw [Utf8.encode_cons, written, List.singleton_append,
        Lexeme.tags_text_cons (Lexeme.isTextByte_of_isBlankByte blankByte)]
      exact begins
  | @passedOver inner markup spelling passed rest ih =>
      obtain ⟨front, rfl, begins⟩ := ih
      refine ⟨markup ++ front, (List.append_assoc _ _ _).symm, ?_⟩
      rw [Utf8.encode_append, tags_passedOver passed]
      exact begins
  | @element inner tag innerSpelling blanks start inside blank =>
      have opening := (lexes_startTag start []).tags (by simp) (by simp)
      have ending : Lexeme.tags (Utf8.encode ('<' :: '/' :: (name.toList ++ blanks))) = [] := by
        have run : (Utf8.encode ('/' :: (name.toList ++ blanks))).foldlM Scanner.tag none =
            some none := by
          apply tag_plain
          rw [List.forall_mem_cons, List.forall_mem_append]
          exact ⟨by decide, start.isName.plain, blank.plain⟩
        exact tags_open (by simp) (by simp) run
      refine ⟨('<' :: (tag ++ ['>'])) ++ (innerSpelling ++ ('<' :: '/' :: (name.toList ++ blanks))),
        by simp, ?_⟩
      rw [Utf8.encode_append, opening, Utf8.encode_append, tags_spelled inside, ending,
        List.append_nil]
      exact List.prefix_rfl
  | @emptyElement tag start =>
      have begins : ∀ first ∈ (tag ++ ['/']).head?, first ≠ '!' ∧ first ≠ '?' := by
        intro first found
        rw [List.head?_append_of_ne_nil _ start.ne_nil] at found
        exact ⟨start.head?_ne '!' (by decide) first found,
          start.head?_ne '?' (by decide) first found⟩
      have run : (Utf8.encode (tag ++ ['/'])).foldlM Scanner.tag none = some none := by
        rw [Utf8.encode_append, List.foldlM_append, start.tag_open]
        rfl
      refine ⟨'<' :: (tag ++ ['/']), by simp, ?_⟩
      rw [tags_open (by simp) begins run]
      exact List.nil_prefix

theorem begins (spells : SpellsDocument name attributes inner characters) :
    (∃ first others, characters = first :: others ∧ isBlank first = true) ∨
      ∃ second others, characters = '<' :: second :: others ∧ second ≠ '\x00' := by
  cases spells with
  | blank blank rest => exact .inl ⟨_, _, rfl, blank⟩
  | passedOver passed rest =>
      right
      cases passed with
      | comment => exact ⟨'!', _, rfl, by decide⟩
      | instruction => exact ⟨'?', _, rfl, by decide⟩
  | element start inside blank =>
      obtain ⟨second, others, rfl, nonzero⟩ := start.begins
      exact .inr ⟨second, _, rfl, nonzero⟩
  | emptyElement start =>
      obtain ⟨second, others, rfl, nonzero⟩ := start.begins
      exact .inr ⟨second, _, rfl, nonzero⟩

/-- The bytes of a document are neither UTF-16 nor behind a byte order mark. -/
theorem layout (spells : SpellsDocument name attributes inner characters) :
    Layout.detect (Utf8.encode characters) = .ascii ∧
      ¬ [0xEF, 0xBB, 0xBF] <+: Utf8.encode characters := by
  rcases spells.begins with ⟨first, others, rfl, blank⟩ | ⟨second, others, rfl, nonzero⟩
  · obtain ⟨byte, written, blankByte⟩ := encode_blank blank
    rw [Utf8.encode_cons, written, List.singleton_append]
    simp only [isBlankByte, Bool.or_eq_true, beq_iff_eq] at blankByte
    constructor
    · cases Utf8.encode others with
      | nil => rfl
      | cons next later => rcases blankByte with ((rfl | rfl) | rfl) | rfl <;> rfl
    · rintro ⟨later, joined⟩
      have same := (List.cons.inj joined).1
      rw [← same] at blankByte
      revert blankByte
      decide
  · have absent : (0 : UInt8) ∉ Utf8.encode [second] :=
      Utf8.not_mem_encode '\x00' (by decide) (by simpa using Ne.symm nonzero)
    rw [Utf8.encode_singleton] at absent
    cases bytes : String.utf8EncodeChar second with
    | nil => exact absurd bytes String.utf8EncodeChar_ne_nil
    | cons byte further =>
        rw [bytes, List.mem_cons, not_or] at absent
        have whole : Utf8.encode ('<' :: second :: others) =
            Byte.less :: byte :: (further ++ Utf8.encode others) := by
          rw [Utf8.encode_cons, Utf8.encode_cons, bytes]
          rfl
        rw [whole]
        constructor
        · simp [Layout.detect, Byte.less, Ne.symm absent.1]
        · simp [Byte.less]

theorem tags_cutShort (spells : SpellsDocument name attributes inner characters)
    {bytes missing : List UInt8} (cut : bytes ++ missing = Utf8.encode characters)
    (proper : missing ≠ []) : Lexeme.tags bytes <+: .opening :: inner.tags := by
  obtain ⟨front, rfl, begins⟩ := spells.exists_unclosed
  have within : bytes ++ missing.dropLast = Utf8.encode front := by
    rw [← List.dropLast_append_of_ne_nil proper, cut, Utf8.encode_append]
    exact List.dropLast_concat
  have told := Lexeme.tags_prefix bytes missing.dropLast
  rw [within] at told
  exact told.trans begins

end SpellsDocument

end Spelling

namespace Query

variable {bytes : List UInt8}

/-- The replies for bytes in memory that are UTF-8 without a byte order mark. -/
def plainReplies (settings : Settings) (bytes : List UInt8) : List Reply :=
  ⟨0, .ok .documentStart, false⟩ ::
    Reading.replies (.ofSettings settings false) (Input.ofBytes []) (Reading.start .utf8)
      (Piece.cutFrom settings.trimsText none 0 bytes)

theorem outcome_of_ascii (ascii : Layout.detect bytes = .ascii)
    (unmarked : ¬ [0xEF, 0xBB, 0xBF] <+: bytes) (world : World) (pattern : Pattern)
    (settings : Settings) :
    outcome world ⟨.bytes bytes, pattern, settings⟩ =
      ((Extraction.start pattern settings).run .ignored
        (plainReplies settings bytes)).outcome := by
  have plain : (Input.ofBytes bytes).replies settings false = plainReplies settings bytes := by
    have unseen := Reading.detect_take_of_ascii ascii unmarked bytes.length
    unfold Input.replies Input.ofBytes plainReplies
    simp only [Input.firstBuffer_of_sound, unseen]
    congr 1
    apply Reading.replies_congr
    rfl
  rw [outcome, run_bytes, Document.ofBytes, ascii, ← plain]
  rfl

variable {name : String} {attributes : List (String × String)} {inner : Content}
  {characters : List Char} {missing : List UInt8}

/-- A document that is cut short is never accepted with another answer.  The query fails by
the fault of the document, or it may stop early and has the capture of the whole document. -/
theorem outcome_cutShort
    (spells : Spelling.SpellsDocument name attributes inner characters)
    (cut : bytes ++ missing = Utf8.encode characters) (proper : missing ≠ [])
    (world : World) (pattern : Pattern) (settings : Settings) :
    let short := outcome world ⟨.bytes bytes, pattern, settings⟩
    let whole := outcome world ⟨.bytes (Utf8.encode characters), pattern, settings⟩
    (∃ error, short = .error error ∧ error.blamesDocument = true) ∨
      settings.stopsEarly = true ∧ ∃ capture, short = .ok capture ∧ whole = .ok capture := by
  intro short whole
  obtain ⟨ascii, unmarked⟩ := spells.layout
  have beginning : bytes = (Utf8.encode characters).take bytes.length := by
    rw [← cut, List.take_left]
  have shortOutcome : short = ((Extraction.start pattern settings).run .ignored
      (plainReplies settings bytes)).outcome := by
    apply outcome_of_ascii
    · rw [beginning]
      exact Layout.detect_take_of_ascii ascii bytes.length
    · exact fun marked => unmarked (marked.trans ⟨missing, cut⟩)
  have wholeOutcome : whole = ((Extraction.start pattern settings).run .ignored
      (plainReplies settings (Utf8.encode characters))).outcome :=
    outcome_of_ascii ascii unmarked world pattern settings
  cases ended : short with
  | error error => exact .inl ⟨error, rfl, blamesDocument_of_bytes ended⟩
  | ok capture =>
      -- The run ends well in the front, which the whole document shares.
      right
      obtain ⟨front, tail, rest, shortReplies, wholeReplies, noTags⟩ :=
        Reading.exists_front (.ofSettings settings false) (Input.ofBytes [])
          (Reading.start .utf8) settings.trimsText 0 bytes missing
      have told : Reply.tags front <+: .opening :: inner.tags := by
        calc Reply.tags front
          _ = Reply.tags (front ++ tail) := by
              rw [Reply.tags_append, noTags, List.append_nil]
          _ <+: Lexeme.tags bytes := by
              rw [← shortReplies]
              exact Reading.tags_replies _ _ _ _ _ _
          _ <+: .opening :: inner.tags := spells.tags_cutShort cut proper
      have unfinished : ∀ before, before <+: Reply.tags (⟨0, .ok .documentStart, false⟩ :: front) →
          Tag.Unfinished (([] : List Event).flatMap Event.tags ++ before) :=
        fun before begins => Tag.unfinished_of_prefix (begins.trans told)
      have known := Extraction.hasTaken_start pattern settings
      rw [shortOutcome, plainReplies, shortReplies, ← List.cons_append] at ended
      obtain ⟨early, shared⟩ :=
        Extraction.stopsEarly_of_unfinished known rfl noTags unfinished ended
      refine ⟨early, capture, rfl, ?_⟩
      rw [wholeOutcome, plainReplies, ← cut, wholeReplies]
      exact shared rest

/-- `<a>x</a>`, cut inside of the end tag. -/
theorem outcome_cutInsideTag :
    let settings : Settings := { Settings.standard with stopsEarly := false }
    ∃ error, outcome World.bare ⟨.bytes (Utf8.encodeString "<a>x</"), .root, settings⟩ =
      .error error ∧ error.blamesDocument = true := by
  intro settings
  have start : Spelling.StartTag "a" [] ['a'] :=
    { isName := by decide
      distinct := by decide
      spelled := ⟨[], .done (by decide), rfl⟩ }
  have letter : Spelling.Characters [] ['x'] ['x'] :=
    .plain (by decide) (by decide) (by decide) .done
  have inside : Spelling.Spells (.text "x" .nothing) ['x'] :=
    .characters letter (.textEnd .nothing)
  have none : Spelling.Blanks [] := by decide
  have spells : Spelling.SpellsDocument "a" [] (.text "x" .nothing) "<a>x</a>".toList :=
    .element start inside none
  have cut : Utf8.encodeString "<a>x</" ++ Utf8.encodeString "a>" =
      Utf8.encode "<a>x</a>".toList := by decide
  have proper : Utf8.encodeString "a>" ≠ [] := by decide
  rcases outcome_cutShort spells cut proper World.bare .root settings with
    failed | ⟨early, -⟩
  · exact failed
  · contradiction

end Query

end XmlExtract
