import XmlExtract.Proofs.ExtractionStep
import XmlExtract.Proofs.KeyedFolds

/-!
# What a whole run captures

A run that never stops early and ends well has taken every event up to the end of the
document, so its capture is that of the events one after the other
(`capture_of_outcome`).  The capture of a list of events is read off the trail alone:
the attributes are those of the elements that start at positions which agree with the
pattern (`attributes_foldl_advance`), the chunks are the texts that stand at positions
which satisfy it (`chunks_foldl_advance`).  A run ends well if none of the events is
refused (`outcome_of_admits`).
-/

namespace XmlExtract

/-- The events of a list of replies, up to the end of the document or the first
failure. -/
def Reply.events : List Reply → List Event
  | [] => []
  | reply :: later =>
      match reply.answer with
      | .error _ | .ok .documentEnd => []
      | .ok event => event :: events later

namespace StartedElement

/-- The entry of an element among the attributes: its written position, and its
attributes by name. -/
def entry (element : StartedElement) : String × Attributes :=
  (element.position.render, Keyed.ofList element.attributes)

end StartedElement

/-- A text where it stands: the position around it, and the text. -/
structure StandingText where
  position : Position
  content : String
  deriving Repr, DecidableEq

namespace StandingText

def chunk (text : StandingText) : Chunk := ⟨text.position.render, text.content⟩

end StandingText

namespace Trail

def textBy (trail : Trail) : Event → List StandingText
  | .text content => [⟨trail.position, content⟩]
  | _ => []

/-- The texts in a sequence of events, in order, with the positions around them. -/
def texts (trail : Trail) : List Event → List StandingText
  | [] => []
  | event :: later => trail.textBy event ++ (trail.follow event).texts later

theorem texts_append (trail : Trail) (first second : List Event) :
    trail.texts (first ++ second) =
      trail.texts first ++ (first.foldl follow trail).texts second := by
  induction first generalizing trail with
  | nil => rfl
  | cons event later ih => simp [texts, ih]

end Trail

namespace Extraction

variable {extraction : Extraction}

def keeps (extraction : Extraction) (text : StandingText) : Bool :=
  text.position.depth != 0 && !(extraction.skipsBlanks && text.content.toList.all isBlank) &&
    decide (extraction.pattern.Matches text.position)

def records (extraction : Extraction) (element : StartedElement) : Bool :=
  decide (extraction.pattern.Agrees element.position)

@[simp]
theorem trail_advance (extraction : Extraction) (event : Event) :
    (extraction.advance event).trail = extraction.trail.follow event :=
  rfl

theorem keeps_advance (extraction : Extraction) (event : Event) :
    (extraction.advance event).keeps = extraction.keeps :=
  rfl

theorem records_advance (extraction : Extraction) (event : Event) :
    (extraction.advance event).records = extraction.records :=
  rfl

theorem attributes_advance (extraction : Extraction) (event : Event) :
    (extraction.advance event).capture.attributes =
      Keyed.insertAllNew
        (((extraction.trail.startedBy event).filter extraction.records).map
          StartedElement.entry)
        extraction.capture.attributes := by
  cases event with
  | elementStart name attributes =>
      by_cases agrees : extraction.pattern.Agrees (extraction.trail.enter name).position
      · simp [advance, captureAfter, Position.compatible_iff, agrees, Trail.startedBy, records,
          Keyed.insertAllNew, StartedElement.entry, Capture.addAttributes]
      · simp [advance, captureAfter, Position.compatible_iff, agrees, Trail.startedBy, records,
          Keyed.insertAllNew]
  | text content =>
      cases wanted : extraction.wants content <;>
        simp [advance, captureAfter, wanted, Trail.startedBy, Keyed.insertAllNew,
          Capture.addText]
  | documentStart | elementEnd name | documentEnd => rfl

theorem wants_eq_keeps (extraction : Extraction) (content : String) :
    extraction.wants content = extraction.keeps ⟨extraction.trail.position, content⟩ := by
  rw [Bool.eq_iff_iff, wants_iff]
  simp only [keeps, Bool.and_eq_true, bne_iff_ne, Bool.not_eq_true', decide_eq_true_eq,
    Position.depth, Trail.length_places, and_assoc, ne_eq]

theorem chunks_advance (extraction : Extraction) (event : Event) :
    (extraction.advance event).capture.chunks.toList =
      extraction.capture.chunks.toList ++
        ((extraction.trail.textBy event).filter extraction.keeps).map StandingText.chunk := by
  cases event with
  | elementStart name attributes =>
      by_cases compatible :
          (extraction.trail.enter name).position.compatible extraction.pattern = true <;>
        simp [advance, captureAfter, compatible, Trail.textBy, Capture.addAttributes]
  | text content =>
      cases wanted : extraction.wants content <;>
        simp [advance, captureAfter, wanted, Trail.textBy, Capture.addText,
          ← wants_eq_keeps, StandingText.chunk]
  | documentStart | elementEnd name | documentEnd =>
      simp [advance, captureAfter, Trail.textBy]

/-- The attributes that a list of events leaves: those of the elements at positions
that agree with the pattern, where the first entry of a written position stays. -/
theorem attributes_foldl_advance (extraction : Extraction) (events : List Event) :
    (events.foldl advance extraction).capture.attributes =
      Keyed.insertAllNew
        (((extraction.trail.started events).filter extraction.records).map
          StartedElement.entry)
        extraction.capture.attributes := by
  induction events generalizing extraction with
  | nil => rfl
  | cons event later ih =>
      rw [List.foldl_cons, ih, attributes_advance, records_advance, trail_advance,
        Trail.started, List.filter_append, List.map_append]
      exact (List.foldl_append ..).symm

/-- The chunks that a list of events leaves: the texts at positions that satisfy the
pattern, in order. -/
theorem chunks_foldl_advance (extraction : Extraction) (events : List Event) :
    (events.foldl advance extraction).capture.chunks.toList =
      extraction.capture.chunks.toList ++
        ((extraction.trail.texts events).filter extraction.keeps).map StandingText.chunk := by
  induction events generalizing extraction with
  | nil => simp [Trail.texts]
  | cons event later ih =>
      rw [List.foldl_cons, ih, chunks_advance, keeps_advance, trail_advance, Trail.texts,
        List.filter_append, List.map_append, List.append_assoc]

theorem progressAfter_eq_finish_iff (full : extraction.stopsEarly = false) (event : Event) :
    extraction.progressAfter event = .finish ↔ event = .documentEnd := by
  cases event <;> simp [progressAfter, full]

/-- A run that never stops early and ends well captures what its events leave. -/
theorem capture_of_outcome (full : extraction.stopsEarly = false) {stop : StopRequest}
    {position : Nat} {replies : List Reply} {capture : Capture}
    (ended : (extraction.runFrom stop position replies).outcome = .ok capture) :
    capture = ((Reply.events replies).foldl advance extraction).capture := by
  induction replies generalizing extraction stop position with
  | nil =>
      rw [outcome_runFrom_nil] at ended
      cases heard : extraction.hear stop ⟨position, .ok .documentEnd, false⟩ with
      | error error => simp [heard] at ended
      | ok event =>
          simp only [heard, Except.ok.injEq] at ended
          exact ended.symm
  | cons reply later ih =>
      rw [outcome_runFrom_cons] at ended
      cases heard : extraction.hear stop reply with
      | error error => simp [heard] at ended
      | ok event =>
          have answer := (hear_eq_ok_iff.mp heard).2.1
          simp only [heard] at ended
          cases progress : extraction.progressAfter event with
          | finish =>
              have last := (progressAfter_eq_finish_iff full event).mp progress
              subst last
              simp only [progress, Except.ok.injEq] at ended
              simp [Reply.events, answer, ← ended, captureAfter]
          | proceed =>
              simp only [progress] at ended
              have events : Reply.events (reply :: later) = event :: Reply.events later := by
                cases event <;> simp_all [Reply.events, progressAfter]
              rw [events, List.foldl_cons]
              exact ih full ended

/-! ### Runs without refusals -/

/-- None of the events is refused when its turn comes. -/
def Admits (extraction : Extraction) : List Event → Prop
  | [] => True
  | event :: later => extraction.refusal? event = none ∧ (extraction.advance event).Admits later

theorem admits_append (extraction : Extraction) (first second : List Event) :
    extraction.Admits (first ++ second) ↔
      extraction.Admits first ∧ (first.foldl advance extraction).Admits second := by
  induction first generalizing extraction with
  | nil => simp [Admits]
  | cons event later ih => simp [Admits, ih, and_assoc]

/-- What is refused depends on the trail and on whether there has been a root. -/
theorem Admits.congr {other : Extraction} {events : List Event}
    (admits : extraction.Admits events) (sameTrail : other.trail = extraction.trail)
    (sameRoot : other.hadRoot = extraction.hadRoot) : other.Admits events := by
  induction events generalizing extraction other with
  | nil => trivial
  | cons event later ih =>
      have refusals : other.refusal? event = extraction.refusal? event := by
        cases event <;> simp [refusal?, sameTrail, sameRoot]
      refine ⟨refusals.trans admits.1, ih admits.2 ?_ ?_⟩
      · rw [trail_advance, trail_advance, sameTrail]
      · simp [advance, sameRoot]

theorem trail_foldl_advance (extraction : Extraction) (events : List Event) :
    (events.foldl advance extraction).trail = events.foldl Trail.follow extraction.trail := by
  induction events generalizing extraction with
  | nil => rfl
  | cons event later ih => exact ih (extraction.advance event)

theorem pattern_foldl_advance (extraction : Extraction) (events : List Event) :
    (events.foldl advance extraction).pattern = extraction.pattern := by
  induction events generalizing extraction with
  | nil => rfl
  | cons event later ih => exact ih (extraction.advance event)

theorem hadRoot_foldl_advance (extraction : Extraction) (events : List Event) :
    (events.foldl advance extraction).hadRoot =
      (extraction.hadRoot || events.any Event.isStart) := by
  induction events generalizing extraction with
  | nil => simp
  | cons event later ih =>
      rw [List.foldl_cons, ih, List.any_cons]
      simp [advance, Bool.or_assoc]

theorem not_stops_raiseIf {stop : StopRequest} (unheeded : stop.heeded = false)
    (now : Bool) : (stop.raiseIf now).stops = false := by
  simp [StopRequest.raiseIf, StopRequest.stops, unheeded]

theorem progressAfter_eq_proceed (full : extraction.stopsEarly = false) {event : Event}
    (unfinished : event ≠ .documentEnd) : extraction.progressAfter event = .proceed := by
  cases progress : extraction.progressAfter event with
  | proceed => rfl
  | finish => exact absurd ((progressAfter_eq_finish_iff full event).mp progress) unfinished

/-- A run over events of which none is refused ends well at the end of the document. -/
theorem outcome_of_admits (full : extraction.stopsEarly = false) {events : List Event}
    (unfinished : Event.documentEnd ∉ events)
    (admits : extraction.Admits (events ++ [.documentEnd])) {stop : StopRequest}
    (unheeded : stop.heeded = false) (position : Nat) {replies : List Reply}
    (answers : replies.map (·.answer) = (events ++ [Event.documentEnd]).map .ok) :
    (extraction.runFrom stop position replies).outcome =
      .ok (events.foldl advance extraction).capture := by
  induction events generalizing extraction stop position replies with
  | nil =>
      obtain ⟨reply, later, rfl, answer, rest⟩ := List.map_eq_cons_iff.mp answers
      have heard : extraction.hear stop reply = .ok .documentEnd :=
        hear_eq_ok_iff.mpr ⟨not_stops_raiseIf unheeded _, answer, admits.1⟩
      rw [outcome_runFrom_cons, heard]
      rfl
  | cons event events ih =>
      obtain ⟨reply, later, rfl, answer, rest⟩ := List.map_eq_cons_iff.mp answers
      obtain ⟨accepted, admitsLater⟩ := admits
      rw [List.mem_cons, not_or] at unfinished
      obtain ⟨different, unfinishedLater⟩ := unfinished
      have heard : extraction.hear stop reply = .ok event :=
        hear_eq_ok_iff.mpr ⟨not_stops_raiseIf unheeded _, answer, accepted⟩
      rw [outcome_runFrom_cons, heard]
      simp only [progressAfter_eq_proceed full (Ne.symm different)]
      have fullLater : (extraction.advance event).stopsEarly = false := full
      have unheededLater : (stop.raiseIf reply.stopRaised).heeded = false := unheeded
      exact ih fullLater unfinishedLater admitsLater unheededLater reply.position rest

end Extraction

end XmlExtract
