import XmlExtract.Proofs.ExtractionStep

/-!
# Reactions to a reply

A run that has not been stopped makes one pull, and what comes of the reply is either the
outcome of the run or the extraction that goes on (`runFrom_cons`).  There is one lemma for
each of these: what a run that goes on has heard (`of_react_inr`), how it fails
(`of_react_error`), and where it ends well (`of_react_ok`).
-/

namespace XmlExtract

/-- The run that makes one pull and then goes on like this one. -/
def Run.afterPull (run : Run) : Run := { run with pulls := run.pulls + 1 }

namespace Extraction

variable {extraction : Extraction} {stop : StopRequest} {reply : Reply}

/-- What comes of one reply: the outcome of the run, or the extraction that goes on. -/
def react (extraction : Extraction) (stop : StopRequest) (reply : Reply) :
    Except Error Capture ⊕ Extraction :=
  match extraction.hear stop reply with
  | .error error => .inl (.error error)
  | .ok event =>
      match extraction.progressAfter event with
      | .finish => .inl (.ok (extraction.captureAfter event))
      | .proceed => .inr (extraction.advance event)

theorem not_stops_of_unheeded (unheeded : stop.heeded = false) : stop.stops = false := by
  rw [StopRequest.stops, unheeded, Bool.false_and]

theorem runFrom_of_stops (stopped : stop.stops = true) (position : Nat)
    (replies : List Reply) :
    extraction.runFrom stop position replies = ⟨.error .cancelled, 0, stop⟩ := by
  cases replies <;> simp [runFrom, stopped]

/-- One pull of a run that has not been stopped. -/
theorem runFrom_cons (running : stop.stops = false) (position : Nat) (reply : Reply)
    (later : List Reply) :
    extraction.runFrom stop position (reply :: later) =
      match extraction.react stop reply with
      | .inl outcome => ⟨outcome, 1, stop.raiseIf reply.stopRaised⟩
      | .inr next =>
          (next.runFrom (stop.raiseIf reply.stopRaised) reply.position later).afterPull := by
  rw [runFrom, running]
  unfold react hear
  cases raised : (stop.raiseIf reply.stopRaised).stops with
  | true => simp [raised]
  | false =>
      cases answer : reply.answer with
      | error error => simp [raised]
      | ok event =>
          simp only [raised, Bool.false_eq_true, if_false, accept_eq]
          cases refused : extraction.refusal? event with
          | some cause => rfl
          | none =>
              simp only
              cases extraction.progressAfter event <;> rfl

theorem hear_of_stops (stopped : (stop.raiseIf reply.stopRaised).stops = true) :
    extraction.hear stop reply = .error .cancelled := by
  simp [hear, stopped]

theorem react_of_stops (stopped : (stop.raiseIf reply.stopRaised).stops = true) :
    extraction.react stop reply = .inl (.error .cancelled) := by
  rw [react, hear_of_stops stopped]

/-- A request matters to the answer to a reply only if it stops the run. -/
theorem react_congr {other : StopRequest} {otherReply : Reply}
    (running : (stop.raiseIf reply.stopRaised).stops = false)
    (otherRunning : (other.raiseIf otherReply.stopRaised).stops = false)
    (position : reply.position = otherReply.position)
    (answer : reply.answer = otherReply.answer) :
    extraction.react stop reply = extraction.react other otherReply := by
  unfold react hear
  rw [running, otherRunning, position, answer]

/-- A run that goes on after a reply has heard an event before the end of the document. -/
theorem of_react_inr {next : Extraction} (goesOn : extraction.react stop reply = .inr next) :
    (stop.raiseIf reply.stopRaised).stops = false ∧
      ∃ event, reply.answer = .ok event ∧ event ≠ .documentEnd ∧
        extraction.refusal? event = none ∧ next = extraction.advance event := by
  unfold react at goesOn
  cases heard : extraction.hear stop reply with
  | error error => simp [heard] at goesOn
  | ok event =>
      obtain ⟨running, answer, accepted⟩ := hear_eq_ok_iff.mp heard
      cases progress : extraction.progressAfter event with
      | finish => simp [heard, progress] at goesOn
      | proceed =>
          simp only [heard, progress, Sum.inr.injEq] at goesOn
          refine ⟨running, event, answer, ?_, accepted, goesOn.symm⟩
          rintro rfl
          simp [progressAfter] at progress

/-- An extraction that is not stopped fails by the reply or by its event. -/
theorem of_react_error {error : Error}
    (running : (stop.raiseIf reply.stopRaised).stops = false)
    (failed : extraction.react stop reply = .inl (.error error)) :
    reply.answer = .error error ∨ ∃ cause, error = .malformed reply.position cause := by
  unfold react hear at failed
  rw [running] at failed
  cases answer : reply.answer with
  | error reason =>
      left
      simpa [answer] using failed
  | ok event =>
      right
      cases refused : extraction.refusal? event with
      | some cause => exact ⟨cause, by simpa [answer, refused] using failed.symm⟩
      | none =>
          cases progress : extraction.progressAfter event <;>
            simp [answer, refused, progress] at failed

/-- An extraction ends well at an event that it takes for the last one. -/
theorem finish_of_react_ok {capture : Capture}
    (ended : extraction.react stop reply = .inl (.ok capture)) :
    ∃ event, reply.answer = .ok event ∧ extraction.refusal? event = none ∧
      extraction.progressAfter event = .finish := by
  unfold react at ended
  cases heard : extraction.hear stop reply with
  | error error => simp [heard] at ended
  | ok event =>
      obtain ⟨-, answer, accepted⟩ := hear_eq_ok_iff.mp heard
      cases progress : extraction.progressAfter event with
      | finish => exact ⟨event, answer, accepted, progress⟩
      | proceed => simp [heard, progress] at ended

/-- An extraction ends well at the end of the document, or at a start if it stops early. -/
theorem of_react_ok {capture : Capture}
    (ended : extraction.react stop reply = .inl (.ok capture)) :
    ∃ event, reply.answer = .ok event ∧ extraction.refusal? event = none ∧
      (event = .documentEnd ∨ extraction.stopsEarly = true ∧
        ∃ name attributes, event = .elementStart name attributes) := by
  obtain ⟨event, answer, accepted, finished⟩ := finish_of_react_ok ended
  refine ⟨event, answer, accepted, ?_⟩
  cases event with
  | documentEnd => exact .inl rfl
  | elementStart name attributes =>
      right
      cases early : extraction.stopsEarly with
      | true => exact ⟨rfl, name, attributes, rfl⟩
      | false => simp [progressAfter, early] at finished
  | documentStart | elementEnd name | text content => simp [progressAfter] at finished

theorem react_documentEnd (extraction : Extraction) (stop : StopRequest) (position : Nat) :
    extraction.react stop ⟨position, .ok .documentEnd, false⟩ =
      .inl (extraction.runFrom stop position []).outcome := by
  rw [outcome_runFrom_nil, react]
  cases heard : extraction.hear stop ⟨position, .ok .documentEnd, false⟩ with
  | error error => rfl
  | ok event =>
      obtain ⟨-, answer, -⟩ := hear_eq_ok_iff.mp heard
      rw [← Except.ok.inj answer]
      rfl

end Extraction

end XmlExtract
