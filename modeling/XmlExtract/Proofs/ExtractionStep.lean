import XmlExtract.Extraction
import XmlExtract.Proofs.PatternMatching
import XmlExtract.Proofs.TrailHistory

/-!
# One step of an extraction

An extraction takes an event in one of two ways.  Either the event is refused, for
a cause that `refusal?` names, and nothing happens; or the extraction becomes
`advance` of itself and goes on, unless `progressAfter` says that it has finished.
`accept_eq` says so in one equation, and the facts about runs are drawn from it.
-/

namespace XmlExtract

namespace Extraction

/-- Why an event is refused, if it is. -/
def refusal? (extraction : Extraction) : Event → Option Malformation
  | .elementStart name _ =>
      if extraction.trail.depth == 0 && extraction.hadRoot then some (.secondRoot name)
      else none
  | .elementEnd name =>
      if extraction.trail.depth == 0 then some (.endWithoutStart name) else none
  | .documentEnd =>
      match extraction.trail.position.last? with
      | some place => some (.elementNotClosed place.name)
      | none => if extraction.hadRoot then none else some .noRoot
  | .documentStart | .text _ => none

/-- What has been captured after an event that is not refused. -/
def captureAfter (extraction : Extraction) : Event → Capture
  | .elementStart name attributes =>
      let position := (extraction.trail.enter name).position
      if position.compatible extraction.pattern then
        extraction.capture.addAttributes position.render attributes
      else
        extraction.capture
  | .text content =>
      if extraction.wants content then
        extraction.capture.addText extraction.trail.position.render content
      else
        extraction.capture
  | .documentStart | .elementEnd _ | .documentEnd => extraction.capture

def advance (extraction : Extraction) (event : Event) : Extraction :=
  { extraction with
    trail := extraction.trail.follow event
    hadRoot := extraction.hadRoot || event.isStart
    capture := extraction.captureAfter event }

/-- Whether an event that is not refused is the last one that is wanted. -/
def progressAfter (extraction : Extraction) : Event → Progress
  | .elementStart name _ =>
      if extraction.stopsEarly &&
          (extraction.trail.enter name).position.past extraction.pattern then
        .finish
      else .proceed
  | .documentEnd => .finish
  | .documentStart | .elementEnd _ | .text _ => .proceed

/-- Everything that taking an event can do. -/
theorem accept_eq (extraction : Extraction) (event : Event) (position : Nat) :
    extraction.accept event position =
      match extraction.refusal? event with
      | some cause => .error (.malformed position cause)
      | none => .ok (extraction.progressAfter event, extraction.advance event) := by
  obtain ⟨pattern, stopsEarly, skipsBlanks, trail, hadRoot, capture⟩ := extraction
  cases event with
  | documentStart => simp [accept, refusal?, progressAfter, advance, captureAfter,
      Trail.follow, Event.isStart]
  | elementStart name attributes =>
      simp only [accept, enterElement, refusal?]
      split
      · rfl
      · simp [progressAfter, advance, captureAfter, Trail.follow, Event.isStart,
          Trail.judge_eq, Position.judge]
  | elementEnd name =>
      simp only [accept, leaveElement, refusal?]
      cases left : trail.leave? with
      | none =>
          have outside := (Trail.leave?_eq_none_iff trail).mp left
          simp [outside]
      | some answer =>
          have inside := Trail.depth_leave left
          simp [inside, progressAfter, advance, captureAfter, Trail.follow, left,
            Event.isStart]
  | text content =>
      simp only [accept, takeText, refusal?]
      split <;> simp_all [progressAfter, advance, captureAfter, Trail.follow, Event.isStart]
  | documentEnd =>
      simp only [accept, endOfDocument, refusal?]
      cases open? : trail.position.last? with
      | some place => rfl
      | none =>
          cases hadRoot <;>
            simp [progressAfter, advance, captureAfter, Trail.follow, Event.isStart]

theorem wants_iff (extraction : Extraction) (text : String) :
    extraction.wants text = true ↔
      extraction.trail.depth ≠ 0 ∧
        (extraction.skipsBlanks && text.toList.all isBlank) = false ∧
        extraction.pattern.Matches extraction.trail.position := by
  simp only [wants, Trail.judge_eq, Position.judge, Bool.and_eq_true, bne_iff_ne,
    Bool.not_eq_true', Position.exact_iff, and_assoc, ne_eq]

/-! ### Runs, one reply at a time -/

/-- The event that an extraction takes from a reply, unless a request to stop, the
source or the extraction itself stands against it. -/
def hear (extraction : Extraction) (stop : StopRequest) (reply : Reply) :
    Except Error Event :=
  if (stop.raiseIf reply.stopRaised).stops then .error .cancelled
  else
    match reply.answer with
    | .error error => .error error
    | .ok event =>
        match extraction.refusal? event with
        | some cause => .error (.malformed reply.position cause)
        | none => .ok event

variable {extraction : Extraction} {stop : StopRequest} {reply : Reply} {event : Event}

theorem hear_eq_ok_iff :
    extraction.hear stop reply = .ok event ↔
      (stop.raiseIf reply.stopRaised).stops = false ∧ reply.answer = .ok event ∧
        extraction.refusal? event = none := by
  unfold hear
  cases stopped : (stop.raiseIf reply.stopRaised).stops with
  | true => simp
  | false =>
      cases answer : reply.answer with
      | error error => simp
      | ok taken =>
          simp only [Bool.false_eq_true, if_false, true_and, Except.ok.injEq]
          cases refused : extraction.refusal? taken with
          | some cause =>
              simp only [reduceCtorEq, false_iff]
              rintro ⟨rfl, accepted⟩
              simp [refused] at accepted
          | none =>
              simp only [Except.ok.injEq]
              exact ⟨fun equal => ⟨equal, equal ▸ refused⟩, And.left⟩

theorem stops_raiseIf (stopped : stop.stops = true) (now : Bool) :
    (stop.raiseIf now).stops = true := by
  simp_all [StopRequest.stops, StopRequest.raiseIf]

theorem outcome_runFrom_cons (extraction : Extraction) (stop : StopRequest) (position : Nat)
    (reply : Reply) (later : List Reply) :
    (extraction.runFrom stop position (reply :: later)).outcome =
      match extraction.hear stop reply with
      | .error error => .error error
      | .ok event =>
          match extraction.progressAfter event with
          | .finish => .ok (extraction.captureAfter event)
          | .proceed =>
              ((extraction.advance event).runFrom (stop.raiseIf reply.stopRaised)
                reply.position later).outcome := by
  rw [runFrom]
  unfold hear
  cases stopped : stop.stops with
  | true => simp [stops_raiseIf stopped]
  | false =>
      cases raised : (stop.raiseIf reply.stopRaised).stops with
      | true => simp [raised]
      | false =>
          cases answer : reply.answer with
          | error error => simp [raised]
          | ok event =>
              simp only [raised, Bool.false_eq_true, if_false, accept_eq]
              cases refused : extraction.refusal? event with
              | some cause => rfl
              | none =>
                  simp only
                  cases extraction.progressAfter event <;> rfl

/-- When the replies run out, the document ends. -/
theorem outcome_runFrom_nil (extraction : Extraction) (stop : StopRequest) (position : Nat) :
    (extraction.runFrom stop position []).outcome =
      match extraction.hear stop ⟨position, .ok .documentEnd, false⟩ with
      | .error error => .error error
      | .ok _ => .ok extraction.capture := by
  have ending : extraction.endOfDocument position = extraction.accept .documentEnd position :=
    rfl
  unfold runFrom hear
  rw [ending, accept_eq]
  cases stopped : stop.stops with
  | true => simp [stops_raiseIf stopped]
  | false =>
      have quiet : (stop.raiseIf false).stops = false := by
        simpa [StopRequest.stops, StopRequest.raiseIf] using stopped
      simp only [quiet, Bool.false_eq_true, if_false]
      cases extraction.refusal? .documentEnd <;> rfl

end Extraction

end XmlExtract
