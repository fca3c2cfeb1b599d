import XmlExtract.Proofs.Reaction

/-!
# Leaving out blank chunks

Whether an extraction leaves out blank chunks has no influence on what it refuses, on where
it stops, or on the attributes that it captures.  The extraction that leaves them out is at
every point of its run the one that keeps them, with these chunks taken out of its capture
(`react_skipping`).  So the two runs are the same but for these chunks, whatever the replies
are and whenever a request to stop is made (`run_skipsBlanks`).
-/

namespace XmlExtract

theorem isBlank_iff {character : Char} :
    isBlank character = true ↔ character ∈ [' ', '\t', '\r', '\n'] := by
  simp only [isBlank, Bool.or_eq_true, beq_iff_eq, List.mem_cons, List.not_mem_nil, or_false]
  grind

namespace Chunk

/-- A chunk of spaces, tabs, carriage returns and line feeds only.  The empty chunk is one. -/
def IsBlank (chunk : Chunk) : Prop :=
  ∀ character ∈ chunk.text.toList, character ∈ [' ', '\t', '\r', '\n']

instance : DecidablePred IsBlank := fun chunk =>
  inferInstanceAs (Decidable (∀ character ∈ chunk.text.toList, _))

theorem isBlank_iff (chunk : Chunk) :
    chunk.IsBlank ↔ chunk.text.toList.all XmlExtract.isBlank = true := by
  simp only [IsBlank, List.all_eq_true, XmlExtract.isBlank_iff]

end Chunk

/-- The capture without its blank chunks. -/
def Capture.withoutBlanks (capture : Capture) : Capture :=
  { capture with chunks := capture.chunks.filter fun chunk => decide (¬ chunk.IsBlank) }

/-- The run with the capture, if there is one, without its blank chunks. -/
def Run.withoutBlanks (run : Run) : Run :=
  { run with outcome := run.outcome.map Capture.withoutBlanks }

namespace Capture

theorem withoutBlanks_addText (capture : Capture) (position text : String) :
    (capture.addText position text).withoutBlanks =
      if text.toList.all isBlank then capture.withoutBlanks
      else capture.withoutBlanks.addText position text := by
  have blank := (Chunk.mk position text).isBlank_iff
  unfold withoutBlanks addText
  rw [Array.filter_push]
  cases content : text.toList.all isBlank <;> simp_all

end Capture

namespace Extraction

/-- The extraction that leaves out blank chunks, at the point that this one has come to. -/
def skipping (extraction : Extraction) : Extraction :=
  { extraction with skipsBlanks := true, capture := extraction.capture.withoutBlanks }

variable {extraction : Extraction} (keeps : extraction.skipsBlanks = false)

theorem refusal?_skipping (extraction : Extraction) (event : Event) :
    extraction.skipping.refusal? event = extraction.refusal? event := by
  cases event <;> rfl

theorem progressAfter_skipping (extraction : Extraction) (event : Event) :
    extraction.skipping.progressAfter event = extraction.progressAfter event := by
  cases event <;> rfl

theorem hear_skipping (extraction : Extraction) (stop : StopRequest) (reply : Reply) :
    extraction.skipping.hear stop reply = extraction.hear stop reply := by
  simp only [hear, refusal?_skipping]

include keeps

theorem wants_skipping (content : String) :
    extraction.skipping.wants content =
      (extraction.wants content && !content.toList.all isBlank) := by
  simp only [wants, skipping, keeps, Bool.true_and, Bool.false_and, Bool.not_false,
    Bool.and_true]
  rw [Bool.and_right_comm]

/-- What is captured of an event is the same, but for a blank chunk. -/
theorem captureAfter_skipping (event : Event) :
    extraction.skipping.captureAfter event =
      (extraction.captureAfter event).withoutBlanks := by
  cases event with
  | elementStart name attributes =>
      simp only [captureAfter, apply_ite Capture.withoutBlanks]
      rfl
  | text content =>
      simp only [captureAfter, wants_skipping keeps]
      cases extraction.wants content with
      | false => rfl
      | true =>
          simp only [Bool.true_and, if_true, Capture.withoutBlanks_addText]
          cases content.toList.all isBlank <;> rfl
  | documentStart | elementEnd name | documentEnd => rfl

theorem advance_skipping (event : Event) :
    extraction.skipping.advance event = (extraction.advance event).skipping := by
  have captures := captureAfter_skipping keeps event
  unfold advance
  rw [captures]
  rfl

/-- What comes of a reply is the same, but for blank chunks in what has been captured. -/
theorem react_skipping (stop : StopRequest) (reply : Reply) :
    extraction.skipping.react stop reply =
      (extraction.react stop reply).map (Except.map Capture.withoutBlanks) skipping := by
  unfold react
  rw [hear_skipping]
  cases extraction.hear stop reply with
  | error error => rfl
  | ok event =>
      simp only [progressAfter_skipping, captureAfter_skipping keeps, advance_skipping keeps]
      cases extraction.progressAfter event <;> rfl

/-- The run that leaves out blank chunks is the run that keeps them, without these chunks. -/
theorem runFrom_skipping (stop : StopRequest) (position : Nat) (replies : List Reply) :
    extraction.skipping.runFrom stop position replies =
      (extraction.runFrom stop position replies).withoutBlanks := by
  cases stopped : stop.stops with
  | true =>
      rw [runFrom_of_stops stopped, runFrom_of_stops stopped]
      rfl
  | false =>
      induction replies generalizing extraction stop position with
      | nil =>
          have ending (extraction : Extraction) : extraction.endOfDocument position =
              extraction.accept .documentEnd position := rfl
          unfold runFrom
          rw [stopped, ending, ending, accept_eq, accept_eq, refusal?_skipping]
          cases extraction.refusal? .documentEnd <;> rfl
      | cons reply later ih =>
          rw [runFrom_cons stopped, runFrom_cons stopped, react_skipping keeps]
          cases reaction : extraction.react stop reply with
          | inl outcome => rfl
          | inr next =>
              obtain ⟨running, event, -, -, -, rfl⟩ := of_react_inr reaction
              have keepsLater : (extraction.advance event).skipsBlanks = false := keeps
              simp only [Sum.map_inr]
              rw [ih keepsLater _ _ running]
              rfl

omit keeps

/-- A run that leaves out blank chunks and one that keeps them come to the same failure after
as many pulls, or both succeed after as many pulls, with the same attributes and with the same
chunks but for the blank ones. -/
theorem run_skipsBlanks (pattern : Pattern) (settings : Settings) (stop : StopRequest)
    (replies : List Reply) :
    let skips := (start pattern { settings with skipsBlanks := true }).run stop replies
    let keeps := (start pattern { settings with skipsBlanks := false }).run stop replies
    skips = keeps.withoutBlanks := by
  intro skips keeps
  have atStart : start pattern { settings with skipsBlanks := true } =
      (start pattern { settings with skipsBlanks := false }).skipping := by
    simp [start, skipping, Capture.withoutBlanks, Capture.empty]
  have same : skips = (start pattern { settings with skipsBlanks := true }).runFrom stop 0
      replies := rfl
  rw [same, atStart]
  exact runFrom_skipping rfl stop 0 replies

end Extraction

end XmlExtract
