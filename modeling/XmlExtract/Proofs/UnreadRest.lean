import XmlExtract.Proofs.Truncation

/-!
# What an early end leaves unread

A run that stops early stops at a tag, and whatever stands behind that tag has not been
looked at.  A run does not depend on replies that it has not pulled (`runFrom_append`),
and the replies for the beginning of some bytes are those for all of them, up to the last tag
of the beginning (`Reading.exists_front`).  So a query that has ended early goes on to have
the same capture, whatever the bytes are followed by (`Query.outcome_append_of_endsEarly`).

Two readers look at the first bytes before there is a tag, one for UTF-16 and one for a byte
order mark.  Bytes with a tag are long enough for both (`Layout.detect_append`,
`Reading.detect_append`).
-/

namespace XmlExtract

namespace Reply

/-- Whether a reply tells of the start of an element. -/
def tellsStart (reply : Reply) : Bool := reply.answer.toOption.any Event.isStart

theorem events_cons_ok {reply : Reply} {event : Event} (answer : reply.answer = .ok event)
    (unfinished : event ≠ .documentEnd) (later : List Reply) :
    events (reply :: later) = event :: events later := by
  rw [events, answer]
  cases event with
  | documentEnd => contradiction
  | documentStart | elementStart name attributes | elementEnd name | text content => rfl

theorem tellsStart_of_ok {reply : Reply} {event : Event} (answer : reply.answer = .ok event) :
    reply.tellsStart = event.isStart := by
  simp [tellsStart, answer, Except.toOption]

/-- Replies without tags tell of no start. -/
theorem not_tellsStart {replies : List Reply} (noTags : tags replies = []) :
    ∀ reply ∈ replies, reply.tellsStart = false := by
  intro reply member
  have noTag : reply.tagsOf = [] := List.flatMap_eq_nil_iff.mp noTags reply member
  cases answer : reply.answer with
  | error error => simp [tellsStart, answer, Except.toOption]
  | ok event =>
      rw [tagsOf_ok answer] at noTag
      rw [tellsStart_of_ok answer]
      cases event with
      | elementStart name attributes => contradiction
      | documentStart | elementEnd name | text content | documentEnd => rfl

end Reply

namespace Run

variable {run : Run} {replies front tail : List Reply}

/-- Whether the last reply that a run has pulled tells of the start of an element. -/
def endsAtStart (run : Run) (replies : List Reply) : Bool :=
  (replies[run.pulls - 1]?).any Reply.tellsStart

theorem tags_ne_nil_of_endsAtStart (ends : run.endsAtStart replies = true) :
    Reply.tags replies ≠ [] := by
  intro noTags
  obtain ⟨reply, found, starts⟩ := (Option.any_eq_true _ _).mp ends
  rw [Reply.not_tellsStart noTags reply (List.mem_of_getElem? found)] at starts
  contradiction

/-- A run that ends at a start, of which there is none behind some replies, ends among
these. -/
theorem pulls_le_of_endsAtStart (ends : run.endsAtStart (front ++ tail) = true)
    (noTags : Reply.tags tail = []) : run.pulls ≤ front.length := by
  obtain ⟨reply, found, starts⟩ := (Option.any_eq_true _ _).mp ends
  by_contra beyond
  rw [List.getElem?_append_right (by omega)] at found
  rw [Reply.not_tellsStart noTags reply (List.mem_of_getElem? found)] at starts
  contradiction

end Run

/-! ### Replies that are not pulled -/

namespace Extraction

variable {extraction : Extraction} {stop : StopRequest} {position : Nat}

theorem pulls_pos (extraction : Extraction) (running : stop.stops = false) (position : Nat)
    (replies : List Reply) : 0 < (extraction.runFrom stop position replies).pulls := by
  cases replies with
  | nil =>
      unfold runFrom
      rw [running]
      cases extraction.endOfDocument position <;> exact Nat.one_pos
  | cons reply later =>
      rw [runFrom_cons running]
      cases extraction.react stop reply with
      | inl outcome => exact Nat.one_pos
      | inr next => exact Nat.succ_pos _

/-- A run that has pulled no more than the replies in front does not depend on those
behind. -/
theorem runFrom_append {front tail : List Reply}
    (within : (extraction.runFrom stop position (front ++ tail)).pulls ≤ front.length)
    (rest : List Reply) :
    extraction.runFrom stop position (front ++ rest) =
      extraction.runFrom stop position (front ++ tail) := by
  cases stopped : stop.stops with
  | true => rw [runFrom_of_stops stopped, runFrom_of_stops stopped]
  | false =>
      induction front generalizing extraction stop position with
      | nil =>
          have pulled := pulls_pos extraction stopped position tail
          exact absurd within (Nat.not_le.mpr pulled)
      | cons reply later ih =>
          simp only [List.cons_append, runFrom_cons stopped] at within ⊢
          cases reaction : extraction.react stop reply with
          | inl outcome => rfl
          | inr next =>
              simp only [reaction, Run.afterPull, List.length_cons] at within
              have running := (of_react_inr reaction).1
              simp only
              rw [ih (Nat.le_of_succ_le_succ within) running]

/-- A run that ends well at the start of an element has been told to stop early, and the
element is past the pattern. -/
theorem past_of_endsAtStart (running : stop.stops = false) {replies : List Reply}
    {capture : Capture}
    (ended : (extraction.runFrom stop position replies).outcome = .ok capture)
    (atStart : (extraction.runFrom stop position replies).endsAtStart replies = true) :
    extraction.stopsEarly = true ∧ ∃ taken name attributes,
      taken ++ [.elementStart name attributes] <+: Reply.events replies ∧
        ((taken.foldl Trail.follow extraction.trail).enter name).position.past
          extraction.pattern = true := by
  induction replies generalizing extraction stop position with
  | nil => simp [Run.endsAtStart] at atStart
  | cons reply later ih =>
      rw [runFrom_cons running] at ended atStart
      cases reaction : extraction.react stop reply with
      | inl outcome =>
          simp only [reaction] at ended atStart
          subst ended
          obtain ⟨event, answer, -, finished⟩ := finish_of_react_ok reaction
          have starts : event.isStart = true := by
            rw [← Reply.tellsStart_of_ok answer]
            simpa [Run.endsAtStart] using atStart
          cases event with
          | elementStart name attributes =>
              obtain ⟨early, past⟩ : extraction.stopsEarly = true ∧
                  (extraction.trail.enter name).position.past extraction.pattern = true := by
                simpa [progressAfter] using finished
              refine ⟨early, [], name, attributes, ?_, past⟩
              rw [Reply.events_cons_ok answer (by simp)]
              exact (List.prefix_cons_inj _).mpr List.nil_prefix
          | documentStart | elementEnd name | text content | documentEnd => contradiction
      | inr next =>
          simp only [reaction, Run.afterPull] at ended atStart
          obtain ⟨stillRunning, event, answer, unfinished, -, rfl⟩ := of_react_inr reaction
          have pulled := pulls_pos (extraction.advance event) stillRunning reply.position later
          have atStartLater : ((extraction.advance event).runFrom
              (stop.raiseIf reply.stopRaised) reply.position later).endsAtStart later = true := by
            unfold Run.endsAtStart at atStart ⊢
            rwa [Nat.add_sub_cancel, ← Nat.sub_add_cancel pulled, List.getElem?_cons_succ]
              at atStart
          obtain ⟨early, taken, name, attributes, begins, past⟩ :=
            ih stillRunning ended atStartLater
          refine ⟨early, event :: taken, name, attributes, ?_, past⟩
          rw [Reply.events_cons_ok answer unfinished, List.cons_append]
          exact (List.prefix_cons_inj event).mpr begins

end Extraction

/-! ### The first bytes -/

/-- A tag takes at least two bytes. -/
theorem Lexeme.two_le_length_of_tags {bytes : List UInt8} (tagged : tags bytes ≠ []) :
    2 ≤ bytes.length := by
  by_contra short
  apply tagged
  match bytes with
  | [] => exact tags_nil
  | [byte] =>
      cases isText : isTextByte byte with
      | true => rw [tags_text_cons isText, tags_nil]
      | false =>
          have mark : byte = Byte.less ∨ byte = Byte.ampersand := by
            simpa [isTextByte, or_iff_not_imp_left] using isText
          apply tags_of_asksBeyond
          rcases mark with rfl | rfl <;> rfl
  | first :: second :: later => simp at short

theorem Layout.detect_append {bytes : List UInt8} (long : 2 ≤ bytes.length)
    (more : List UInt8) : detect (bytes ++ more) = detect bytes := by
  rw [← detect_take long (bytes ++ more), List.take_left]

namespace Reading

/-- The bytes of the byte order mark in UTF-8. -/
def utf8Mark : List UInt8 := [0xEF, 0xBB, 0xBF]

theorem detect_of_marked {bytes : List UInt8} (marked : utf8Mark <+: bytes) :
    detect bytes = (.utf8, 3) := by
  obtain ⟨rest, rfl⟩ := marked
  simp [detect, utf8Mark]

theorem detect_of_unmarked {bytes : List UInt8} (ascii : Layout.detect bytes = .ascii)
    (unmarked : ¬ utf8Mark <+: bytes) : detect bytes = (.utf8, 0) := by
  have whole := detect_take_of_ascii ascii unmarked bytes.length
  rwa [List.take_length] at whole

theorem isTextByte_utf8Mark : ∀ byte ∈ utf8Mark, Lexeme.isTextByte byte = true :=
  List.all_eq_true.mp (by decide)

/-- Bytes with a tag show a byte order mark, or none, whatever follows. -/
theorem detect_append {bytes : List UInt8} (ascii : Layout.detect bytes = .ascii)
    (tagged : Lexeme.tags bytes ≠ []) (more : List UInt8) :
    detect (bytes ++ more) = detect bytes := by
  by_cases marked : utf8Mark <+: bytes
  · rw [detect_of_marked marked, detect_of_marked (marked.trans (List.prefix_append _ _))]
  · have unmarked : ¬ utf8Mark <+: bytes ++ more := by
      intro begins
      rcases List.prefix_or_prefix_of_prefix begins (List.prefix_append bytes more) with
        whole | ⟨missing, joined⟩
      · exact marked whole
      · -- A part of the mark is text, in which there is no tag.
        apply tagged
        have isText : ∀ byte ∈ bytes, Lexeme.isTextByte byte = true := by
          intro byte member
          apply isTextByte_utf8Mark
          rw [← joined]
          exact List.mem_append_left _ member
        rw [← List.append_nil bytes, Lexeme.tags_text_append isText, Lexeme.tags_nil]
    have long := Lexeme.two_le_length_of_tags tagged
    rw [detect_of_unmarked ascii marked,
      detect_of_unmarked ((Layout.detect_append long more).trans ascii) unmarked]

/-- The byte order mark hides no tag. -/
theorem tags_drop_mark {bytes : List UInt8} (ascii : Layout.detect bytes = .ascii) :
    Lexeme.tags (bytes.drop (detect bytes).2) = Lexeme.tags bytes := by
  by_cases marked : utf8Mark <+: bytes
  · rw [detect_of_marked marked]
    obtain ⟨rest, rfl⟩ := marked
    rw [Lexeme.tags_text_append isTextByte_utf8Mark]
    rfl
  · rw [detect_of_unmarked ascii marked]
    rfl

end Reading

/-! ### Queries that end early -/

namespace Query

/-- The replies that a query pulls from bytes in memory that are not UTF-16. -/
def memoryReplies (settings : Settings) (bytes : List UInt8) : List Reply :=
  (Input.ofBytes bytes).replies settings false

theorem memoryReplies_eq (settings : Settings) (bytes : List UInt8) :
    memoryReplies settings bytes =
      ⟨0, .ok .documentStart, false⟩ ::
        Reading.replies (.ofSettings settings false) (Input.ofBytes [])
          (Reading.start (Reading.detect bytes).1)
          (Piece.cutFrom settings.trimsText none 0 (bytes.drop (Reading.detect bytes).2)) := by
  unfold memoryReplies Input.replies Input.ofBytes
  simp only [Input.firstBuffer_of_sound, List.take_length]
  congr 1
  apply Reading.replies_congr
  rfl

theorem run_of_ascii {bytes : List UInt8} (ascii : Layout.detect bytes = .ascii)
    (world : World) (pattern : Pattern) (settings : Settings) (stop : StopRequest) :
    run world ⟨.bytes bytes, pattern, settings⟩ stop =
      (Extraction.start pattern settings).run stop (memoryReplies settings bytes) := by
  rw [run_bytes, Document.ofBytes, ascii]
  rfl

variable {bytes : List UInt8} {world : World} {pattern : Pattern} {settings : Settings}
  {stop : StopRequest}

/-- A run over some bytes that ends at the start of an element is the run over these bytes
and any others behind them. -/
theorem run_append_of_endsAtStart (ascii : Layout.detect bytes = .ascii)
    (atStart : (run world ⟨.bytes bytes, pattern, settings⟩ stop).endsAtStart
      (memoryReplies settings bytes) = true) (more : List UInt8) :
    run world ⟨.bytes (bytes ++ more), pattern, settings⟩ stop =
      run world ⟨.bytes bytes, pattern, settings⟩ stop := by
  obtain ⟨front, tail, rest, short, long, noTags⟩ :=
    Reading.exists_front (.ofSettings settings false) (Input.ofBytes [])
      (Reading.start (Reading.detect bytes).1) settings.trimsText 0
      (bytes.drop (Reading.detect bytes).2) more
  have told : memoryReplies settings bytes =
      (⟨0, .ok .documentStart, false⟩ :: front) ++ tail := by
    rw [memoryReplies_eq, short, List.cons_append]
  have tagged : Lexeme.tags bytes ≠ [] := by
    intro tagless
    apply Run.tags_ne_nil_of_endsAtStart atStart
    have within := Reading.tags_replies (.ofSettings settings false) (Input.ofBytes [])
      (Reading.start (Reading.detect bytes).1) settings.trimsText 0
      (bytes.drop (Reading.detect bytes).2)
    rw [Reading.tags_drop_mark ascii, tagless, List.prefix_nil] at within
    rw [memoryReplies_eq]
    exact within
  have toldMore : memoryReplies settings (bytes ++ more) =
      (⟨0, .ok .documentStart, false⟩ :: front) ++ rest := by
    have marked := Reading.detect_snd_le bytes
    rw [memoryReplies_eq, Reading.detect_append ascii tagged,
      List.drop_append_of_le_length marked, long, List.cons_append]
  have asciiMore : Layout.detect (bytes ++ more) = .ascii := by
    rw [Layout.detect_append (Lexeme.two_le_length_of_tags tagged), ascii]
  rw [told] at atStart
  have within := Run.pulls_le_of_endsAtStart atStart noTags
  rw [run_of_ascii ascii, told] at within ⊢
  rw [run_of_ascii asciiMore, toldMore]
  exact Extraction.runFrom_append within rest

/-- What stands behind the tag at which a query has ended early is irrelevant.  Let a query
over some bytes end well, and at the start of an element rather than at the end of the
document.  Then that element is past the pattern, and the query over these bytes and any
others behind them has the same capture. -/
theorem outcome_append_of_endsEarly (ascii : Layout.detect bytes = .ascii)
    {capture : Capture} (ended : outcome world ⟨.bytes bytes, pattern, settings⟩ = .ok capture)
    (atStart : (run world ⟨.bytes bytes, pattern, settings⟩ .ignored).endsAtStart
      (memoryReplies settings bytes) = true) :
    (settings.stopsEarly = true ∧ ∃ taken name attributes,
      taken ++ [.elementStart name attributes] <+:
          Reply.events (memoryReplies settings bytes) ∧
        ((taken.foldl Trail.follow Trail.fresh).enter name).position.past pattern = true) ∧
      ∀ more, outcome world ⟨.bytes (bytes ++ more), pattern, settings⟩ = .ok capture := by
  constructor
  · rw [outcome, run_of_ascii ascii] at ended
    rw [run_of_ascii ascii] at atStart
    exact Extraction.past_of_endsAtStart rfl ended atStart
  · intro more
    rw [outcome, run_append_of_endsAtStart ascii atStart]
    exact ended

/-- `<a><b>x</b><b>`, when only the first `b` is asked for.  What follows is no document. -/
theorem outcome_append_secondSibling :
    let pattern : Pattern := ⟨[.every "a", .only "b" 1]⟩
    ∃ capture, outcome World.bare
        ⟨.bytes (Utf8.encodeString "<a><b>x</b><b>" ++ Utf8.encodeString "</a></&<"), pattern,
          .standard⟩ = .ok capture ∧
      capture.texts = ["x"] := by
  intro pattern
  have ended : outcome World.bare
      ⟨.bytes (Utf8.encodeString "<a><b>x</b><b>"), pattern, .standard⟩ =
        .ok ⟨#[⟨"/a[1]/b[1]", "x"⟩],
          Keyed.ofList [("/a[1]", Keyed.ofList []), ("/a[1]/b[1]", Keyed.ofList [])]⟩ := by
    decide +kernel
  have atStart : (run World.bare
      ⟨.bytes (Utf8.encodeString "<a><b>x</b><b>"), pattern, .standard⟩ .ignored).endsAtStart
        (memoryReplies .standard (Utf8.encodeString "<a><b>x</b><b>")) = true := by
    decide +kernel
  exact ⟨_, (outcome_append_of_endsEarly (by decide) ended atStart).2 _, rfl⟩

end Query

end XmlExtract
