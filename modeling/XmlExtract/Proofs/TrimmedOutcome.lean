import XmlExtract.Proofs.BlankChunks
import XmlExtract.Proofs.TrimmedReading

/-!
# Trimming text takes away nothing but whitespace

A query with trimmed text succeeds for the documents for which it succeeds otherwise.  It has
the same attributes then, and its chunks have the same characters at the same positions in the
same order, but for spaces, tabs, carriage returns and line feeds (`Query.outcome_trimmed`).

The two runs go side by side.  A text that is there in one of them only, or is longer there,
adds no ink, and it changes nothing else in an extraction (`Extraction.trimmed_runFrom`).
-/

namespace XmlExtract

namespace Capture

/-- The characters of the chunks other than spaces, tabs, carriage returns and line feeds, in
order, each with the position of its chunk. -/
def ink (capture : Capture) : List (String × Char) :=
  (capture.chunks.toList.flatMap fun chunk => chunk.text.toList.map (chunk.position, ·)).filter
    fun place => decide (place.2 ∉ [' ', '\t', '\r', '\n'])

theorem ink_addText (capture : Capture) (position text : String) :
    (capture.addText position text).ink =
      capture.ink ++ (XmlExtract.ink text).map (position, ·) := by
  simp only [ink, addText, Array.toList_push, List.flatMap_append, List.filter_append,
    List.flatMap_singleton, XmlExtract.ink, List.filter_map]
  congr 3
  funext character
  rw [Function.comp_apply, Bool.eq_iff_iff, decide_eq_true_eq, ← isBlank_iff, Bool.not_eq_true,
    Bool.not_eq_true']

/-- Captures with the same attributes, and with the same chunks but for blanks and for where a
chunk ends. -/
structure SameInk (capture trimmed : Capture) : Prop where
  attributes : capture.attributes = trimmed.attributes
  ink : capture.ink = trimmed.ink

theorem SameInk.addAttributes {capture trimmed : Capture} (same : capture.SameInk trimmed)
    (position : String) (pairs : List (String × String)) :
    (capture.addAttributes position pairs).SameInk (trimmed.addAttributes position pairs) where
  attributes := congrArg (·.insertIfNew position (Keyed.ofList pairs)) same.attributes
  ink := same.ink

end Capture

/-- The outcome for a document, and the outcome if text is trimmed. -/
inductive Outcome.Trimmed : Except Error Capture → Except Error Capture → Prop
  | capture {capture trimmed : Capture} (same : capture.SameInk trimmed) :
      Trimmed (.ok capture) (.ok trimmed)
  | failure {error other : Error} (sameKind : error.kind = other.kind) :
      Trimmed (.error error) (.error other)

namespace Extraction

/-- The extraction with another capture. -/
def withCapture (extraction : Extraction) (capture : Capture) : Extraction :=
  { extraction with capture := capture }

variable {extraction : Extraction} {capture : Capture}

theorem refusal?_withCapture (event : Event) :
    (extraction.withCapture capture).refusal? event = extraction.refusal? event := by
  cases event <;> rfl

theorem progressAfter_withCapture (event : Event) :
    (extraction.withCapture capture).progressAfter event = extraction.progressAfter event := by
  cases event <;> rfl

/-- A text changes nothing but what has been captured. -/
theorem advance_text (content : String) :
    extraction.advance (.text content) =
      extraction.withCapture (extraction.captureAfter (.text content)) := by
  simp [advance, Trail.follow, Event.isStart, withCapture]

/-- The ink that a text adds, which does not depend on whether blank chunks are skipped. -/
theorem ink_captureAfter_text (content : String) :
    (extraction.captureAfter (.text content)).ink =
      extraction.capture.ink ++
        if extraction.trail.depth != 0 &&
            (extraction.trail.judge extraction.pattern).textWanted then
          (ink content).map (extraction.trail.position.render, ·)
        else [] := by
  by_cases left : (extraction.skipsBlanks && content.toList.all isBlank) = true
  · have noInk := ink_eq_nil_iff.mpr (Bool.and_eq_true_iff.mp left).2
    simp [captureAfter, wants, left, noInk]
  · simp only [captureAfter, wants, left, Bool.not_false, Bool.and_true]
    split
    · exact Capture.ink_addText _ _ _
    · exact (List.append_nil _).symm

theorem attributes_captureAfter_text (content : String) :
    (extraction.captureAfter (.text content)).attributes = extraction.capture.attributes := by
  simp only [captureAfter]
  split <;> rfl

section SameInk

variable (same : extraction.capture.SameInk capture)
include same

theorem sameInk_captureAfter_text {content raw : String} (sameInk : ink content = ink raw) :
    (extraction.captureAfter (.text content)).SameInk
      ((extraction.withCapture capture).captureAfter (.text raw)) where
  attributes := by
    rw [attributes_captureAfter_text, attributes_captureAfter_text]
    exact same.attributes
  ink := by
    rw [ink_captureAfter_text, ink_captureAfter_text, sameInk, same.ink]
    rfl

theorem sameInk_captureAfter_blank {content : String} (noInk : ink content = []) :
    (extraction.captureAfter (.text content)).SameInk capture where
  attributes := (attributes_captureAfter_text content).trans same.attributes
  ink := by
    rw [ink_captureAfter_text, noInk, List.map_nil, ite_self, List.append_nil, same.ink]

theorem sameInk_captureAfter (event : Event) :
    (extraction.captureAfter event).SameInk
      ((extraction.withCapture capture).captureAfter event) := by
  cases event with
  | elementStart name attributes =>
      have recorded (wanted : Bool) (position : String) :
          (if wanted then extraction.capture.addAttributes position attributes
            else extraction.capture).SameInk
            (if wanted then capture.addAttributes position attributes else capture) := by
        cases wanted with
        | true => exact same.addAttributes position attributes
        | false => exact same
      exact recorded _ _
  | text content => exact sameInk_captureAfter_text same rfl
  | documentStart | elementEnd name | documentEnd => exact same

end SameInk

theorem hear_of_unheeded {stop : StopRequest} (unheeded : stop.heeded = false) (reply : Reply) :
    extraction.hear stop reply =
      match reply.answer with
      | .error error => .error error
      | .ok event =>
          match extraction.refusal? event with
          | some cause => .error (.malformed reply.position cause)
          | none => .ok event := by
  have running := not_stops_raiseIf unheeded reply.stopRaised
  unfold hear
  cases reply.answer with
  | error error => simp [running]
  | ok event => cases refused : extraction.refusal? event <;> simp [running, refused]

/-- Runs over the replies for a document and over those for trimmed text end alike. -/
theorem trimmed_runFrom {replies trimmed : List Reply} (told : Reply.Trimmed replies trimmed)
    (same : extraction.capture.SameInk capture) {stop stopTrimmed : StopRequest}
    (unheeded : stop.heeded = false) (unheededTrimmed : stopTrimmed.heeded = false)
    (position positionTrimmed : Nat) :
    Outcome.Trimmed (extraction.runFrom stop position replies).outcome
      ((extraction.withCapture capture).runFrom stopTrimmed positionTrimmed trimmed).outcome := by
  have quiet {stop : StopRequest} (unheeded : stop.heeded = false) (now : Bool) :
      (stop.raiseIf now).heeded = false := unheeded
  induction told generalizing extraction capture stop stopTrimmed position positionTrimmed with
  | nil =>
      rw [outcome_runFrom_nil, outcome_runFrom_nil, hear_of_unheeded unheeded,
        hear_of_unheeded unheededTrimmed]
      simp only [refusal?_withCapture]
      cases extraction.refusal? .documentEnd with
      | some cause => exact .failure rfl
      | none => exact .capture same
  | @same reply replyTrimmed later laterTrimmed told others ih =>
      rw [outcome_runFrom_cons, outcome_runFrom_cons, hear_of_unheeded unheeded,
        hear_of_unheeded unheededTrimmed]
      rcases Reply.of_told_eq told with
        ⟨event, answer, answerTrimmed⟩ | ⟨error, errorTrimmed, answer, answerTrimmed, sameKind⟩
      · rw [answer, answerTrimmed]
        simp only [refusal?_withCapture]
        cases extraction.refusal? event with
        | some cause => exact .failure rfl
        | none =>
            simp only [progressAfter_withCapture]
            have captured := sameInk_captureAfter same event
            cases extraction.progressAfter event with
            | finish => exact .capture captured
            | proceed =>
                have next : (extraction.advance event).capture.SameInk _ := captured
                exact ih next (quiet unheeded _) (quiet unheededTrimmed _) _ _
      · rw [answer, answerTrimmed]
        exact .failure sameKind
  | @text reply replyTrimmed later laterTrimmed content raw answer answerTrimmed sameInk others
      ih =>
      rw [outcome_runFrom_cons, outcome_runFrom_cons, hear_of_unheeded unheeded,
        hear_of_unheeded unheededTrimmed, answer, answerTrimmed]
      have next : (extraction.withCapture (extraction.captureAfter (.text content))).capture.SameInk
          _ := sameInk_captureAfter_text same sameInk
      simp only [refusal?, progressAfter, advance_text]
      exact ih next (quiet unheeded _) (quiet unheededTrimmed _) _ _
  | @blank reply later trimmed content answer noInk others ih =>
      -- Only the run over the untrimmed document takes a step.
      rw [outcome_runFrom_cons, hear_of_unheeded unheeded, answer]
      have next : (extraction.withCapture (extraction.captureAfter (.text content))).capture.SameInk
          capture := sameInk_captureAfter_blank same noInk
      simp only [refusal?, progressAfter, advance_text]
      exact ih next (quiet unheeded _) unheededTrimmed _ _

theorem mem_chunks_captureAfter {event : Event} {chunk : Chunk}
    (member : chunk ∈ (extraction.captureAfter event).chunks) :
    chunk ∈ extraction.capture.chunks ∨ event = .text chunk.text := by
  cases event with
  | elementStart name attributes =>
      simp only [captureAfter, apply_ite Capture.chunks] at member
      exact .inl (by simpa [Capture.addAttributes] using member)
  | text content =>
      simp only [captureAfter] at member
      split at member
      · rw [Capture.addText, Array.mem_push] at member
        rcases member with before | rfl
        · exact .inl before
        · exact .inr rfl
      · exact .inl member
  | documentStart | elementEnd name | documentEnd => exact .inl member

/-- A chunk that a run captures is a text that a reply has told. -/
theorem told_of_mem_chunks {stop : StopRequest} {position : Nat} {replies : List Reply}
    {captured : Capture}
    (ended : (extraction.runFrom stop position replies).outcome = .ok captured) {chunk : Chunk}
    (member : chunk ∈ captured.chunks) :
    chunk ∈ extraction.capture.chunks ∨
      ∃ reply ∈ replies, reply.answer = .ok (.text chunk.text) := by
  induction replies generalizing extraction stop position with
  | nil =>
      rw [outcome_runFrom_nil] at ended
      cases heard : extraction.hear stop ⟨position, .ok .documentEnd, false⟩ with
      | error error => simp [heard] at ended
      | ok event =>
          rw [heard] at ended
          exact .inl (Except.ok.inj ended ▸ member)
  | cons reply later ih =>
      rw [outcome_runFrom_cons] at ended
      cases heard : extraction.hear stop reply with
      | error error => simp [heard] at ended
      | ok event =>
          obtain ⟨-, answer, -⟩ := hear_eq_ok_iff.mp heard
          have here (inside : chunk ∈ (extraction.captureAfter event).chunks) :
              chunk ∈ extraction.capture.chunks ∨
                ∃ teller ∈ reply :: later, teller.answer = .ok (.text chunk.text) := by
            refine (mem_chunks_captureAfter inside).imp_right ?_
            rintro rfl
            exact ⟨reply, List.mem_cons_self, answer⟩
          simp only [heard] at ended
          cases progress : extraction.progressAfter event with
          | finish =>
              simp only [progress] at ended
              exact here (Except.ok.inj ended ▸ member)
          | proceed =>
              simp only [progress] at ended
              rcases ih ended with before | ⟨teller, inside, tells⟩
              · exact here before
              · exact .inr ⟨teller, List.mem_cons_of_mem _ inside, tells⟩

end Extraction

namespace Query

theorem detect_fst_of_ascii {bytes : List UInt8} (ascii : Layout.detect bytes = .ascii) :
    (Reading.detect bytes).1 = .utf8 := by
  by_cases marked : Reading.utf8Mark <+: bytes
  · rw [Reading.detect_of_marked marked]
  · rw [Reading.detect_of_unmarked ascii marked]

theorem nonempty_of_mem_chunks {world : World} {bytes : List UInt8} {pattern : Pattern}
    {settings : Settings} {capture : Capture}
    (ended : outcome world ⟨.bytes bytes, pattern, settings⟩ = .ok capture) :
    ∀ chunk ∈ capture.chunks, chunk.text ≠ "" := by
  intro chunk member empty
  rw [outcome, run_bytes, Document.ofBytes] at ended
  cases transcoded : (Layout.detect bytes).transcode bytes with
  | error error => simp [transcoded, Except.map] at ended
  | ok utf8 =>
      rw [transcoded] at ended
      rcases Extraction.told_of_mem_chunks ended member with inside | ⟨reply, inside, tells⟩
      · simp [Extraction.start, Capture.empty] at inside
      · rw [empty] at tells
        exact Input.ne_empty_of_mem_replies _ _ _ reply inside tells

/-- Trimming takes away nothing but whitespace.  Let a document be UTF-16, or declare no known
encoding other than UTF-8.  The query with trimmed text and the one without fail with errors of
one kind, or both succeed, with the same attributes, the same ink and no empty chunk. -/
theorem outcome_trimmed (world : World) (bytes : List UInt8) (pattern : Pattern)
    (settings : Settings)
    (declared : Layout.detect bytes = .ascii →
      ∀ charset ∈ declaredCharsets settings bytes, charset = .utf8) :
    match outcome world ⟨.bytes bytes, pattern, { settings with trimsText := true }⟩,
      outcome world ⟨.bytes bytes, pattern, { settings with trimsText := false }⟩ with
    | .ok trimmed, .ok plain =>
        trimmed.attributes = plain.attributes ∧ trimmed.ink = plain.ink ∧
          (∀ chunk ∈ trimmed.chunks, chunk.text ≠ "") ∧ ∀ chunk ∈ plain.chunks, chunk.text ≠ ""
    | .error error, .error other => error.kind = other.kind
    | _, _ => False := by
  have alike : Outcome.Trimmed
      (outcome world ⟨.bytes bytes, pattern, { settings with trimsText := false }⟩)
      (outcome world ⟨.bytes bytes, pattern, { settings with trimsText := true }⟩) := by
    rw [outcome, outcome, run_bytes, run_bytes, Document.ofBytes]
    cases transcoded : (Layout.detect bytes).transcode bytes with
    | error error => exact .failure rfl
    | ok utf8 =>
        have told : Reply.Trimmed
            ((Input.ofBytes utf8).replies { settings with trimsText := false }
              (Layout.detect bytes).needsTranscoding)
            ((Input.ofBytes utf8).replies { settings with trimsText := true }
              (Layout.detect bytes).needsTranscoding) := by
          apply Input.trimmed_replies
          cases layout : Layout.detect bytes with
          | utf16 order => exact .inl rfl
          | ascii =>
              rw [layout] at transcoded
              obtain rfl := Except.ok.inj transcoded
              exact .inr ⟨detect_fst_of_ascii layout, declared layout⟩
        exact Extraction.trimmed_runFrom told ⟨rfl, rfl⟩ rfl rfl 0 0
  generalize plainEnd : outcome world ⟨_, pattern, { settings with trimsText := false }⟩ = outcome
    at alike ⊢
  generalize trimmedEnd : Query.outcome world ⟨_, pattern, { settings with trimsText := true }⟩ =
    outcomeTrimmed at alike ⊢
  cases alike with
  | capture same =>
      exact ⟨same.attributes.symm, same.ink.symm, nonempty_of_mem_chunks trimmedEnd,
        nonempty_of_mem_chunks plainEnd⟩
  | failure sameKind => exact sameKind.symm

/-- A document that declares UTF-8, with `<a> x &amp; <b/>`, a line feed and `</a>`.  Trimming
leaves two chunks out of four. -/
theorem outcome_trimmed_reference :
    let bytes := Utf8.encodeString
      "<?xml version=\"1.0\" encoding=\"utf-8\"?>\n<a> x &amp; <b/>\n</a>"
    let pattern : Pattern := ⟨[.every "a"]⟩
    declaredCharsets .standard bytes = [.utf8] ∧ ∃ trimmed plain,
      outcome World.bare
          ⟨.bytes bytes, pattern, { Settings.standard with trimsText := true }⟩ = .ok trimmed ∧
        outcome World.bare
            ⟨.bytes bytes, pattern, { Settings.standard with trimsText := false }⟩ = .ok plain ∧
          trimmed.texts = ["x", "&"] ∧ plain.texts = [" x ", "&", " ", "\n"] ∧
            trimmed.ink = plain.ink := by
  intro bytes pattern
  have declared : declaredCharsets .standard bytes = [.utf8] := by decide +kernel
  have alike := outcome_trimmed World.bare bytes pattern .standard
    fun _ charset member => List.mem_singleton.mp (declared ▸ member)
  have trimmedEnd : outcome World.bare
      ⟨.bytes bytes, pattern, { Settings.standard with trimsText := true }⟩ =
        .ok ⟨#[⟨"/a[1]", "x"⟩, ⟨"/a[1]", "&"⟩],
          Keyed.ofList [("/a[1]", Keyed.ofList []), ("/a[1]/b[1]", Keyed.ofList [])]⟩ := by
    decide +kernel
  have plainEnd : outcome World.bare
      ⟨.bytes bytes, pattern, { Settings.standard with trimsText := false }⟩ =
        .ok ⟨#[⟨"/a[1]", " x "⟩, ⟨"/a[1]", "&"⟩, ⟨"/a[1]", " "⟩, ⟨"/a[1]", "\n"⟩],
          Keyed.ofList [("/a[1]", Keyed.ofList []), ("/a[1]/b[1]", Keyed.ofList [])]⟩ := by
    decide +kernel
  rw [trimmedEnd, plainEnd] at alike
  exact ⟨declared, _, _, trimmedEnd, plainEnd, rfl, rfl, alike.2.1⟩

end Query

end XmlExtract
