import XmlExtract.Proofs.EarlyStop
import XmlExtract.Session

/-!
# Refused calls

A call on a session changes it in place, so that a failure could leave something behind.  It
does not: every call that is refused fails before it has written anything but the count of
calls, and every other one does what `Extraction.accept` says (`perform_handle`).  One
invariant is needed for that, which is that nothing is open before there has been a root.
So the calls that are refused can be left out of a course of calls, and neither the other
answers nor the rest of the session's life tell the difference (`handleAll_accepted`).
-/

namespace XmlExtract

/-- Nothing is open before there has been a root. -/
def Extraction.Rooted (extraction : Extraction) : Prop :=
  extraction.trail.depth ≠ 0 → extraction.hadRoot = true

theorem Extraction.rooted_advance {extraction : Extraction} (rooted : extraction.Rooted)
    (event : Event) : (extraction.advance event).Rooted := by
  intro inside
  cases event with
  | elementStart name attributes => simp [advance, Event.isStart]
  | elementEnd name =>
      have before : extraction.trail.depth ≠ 0 := by
        cases left : extraction.trail.leave? with
        | none => simpa [advance, Trail.follow, left] using inside
        | some answer =>
            have depths := Trail.depth_leave left
            omega
      simp [advance, rooted before]
  | documentStart | text content | documentEnd =>
      have had : extraction.hadRoot = true := rooted inside
      simp [advance, had]

namespace Session

variable {session : Session}

theorem rooted_start (pattern : Pattern) (settings : Settings) :
    (start pattern settings).extraction.Rooted := by
  intro inside
  exact absurd rfl inside

/-! ### One call -/

/-- The answer to a call and the session after it, if a call that fails leaves nothing
behind. -/
def settle (session : Session) :
    Except Error (Progress × Extraction) → Except Error Progress × Session
  | .error error => (.error error, session)
  | .ok (progress, extraction) => (.ok progress, { session with extraction := extraction })

theorem perform_noteRoot (rooted : session.extraction.Rooted) (name : String)
    (attributes : List (String × String)) (position : Nat) :
    (noteRoot name position).perform session =
      match session.extraction.refusal? (.elementStart name attributes) with
      | some cause => (.error (.malformed position cause), session)
      | none => (.ok (), { session with extraction.hadRoot := true }) := by
  by_cases outside : session.extraction.trail.depth = 0
  · cases had : session.extraction.hadRoot <;>
      simp [noteRoot, Extraction.refusal?, outside, had]
  · have same : session = { session with extraction.hadRoot := true } := by
      rw [← rooted outside]
    simpa [noteRoot, Extraction.refusal?, outside] using same

theorem perform_record (session : Session) (attributes : List (String × String)) :
    let extraction := session.extraction
    (record attributes).perform session =
      (.ok (), { session with extraction.capture :=
        if extraction.trail.position.compatible extraction.pattern then
          extraction.capture.addAttributes extraction.trail.position.render attributes
        else
          extraction.capture }) := by
  intro extraction
  unfold record
  cases compatible : extraction.trail.position.compatible extraction.pattern with
  | true => simp [extraction, Trail.judge_eq, Position.judge, compatible]
  | false => simp [extraction, Trail.judge_eq, Position.judge, compatible]

theorem perform_enterElement (rooted : session.extraction.Rooted) (name : String)
    (attributes : List (String × String)) (position : Nat) :
    (enterElement name attributes position).perform session =
      session.settle (session.extraction.accept (.elementStart name attributes) position) := by
  rw [enterElement, perform_bind, perform_noteRoot rooted name attributes, Extraction.accept_eq]
  cases session.extraction.refusal? (.elementStart name attributes) with
  | some cause => rfl
  | none =>
      simp only [perform_bind, perform_write, perform_record, perform_get, perform_ite,
        perform_pure, Trail.judge_eq, Position.judge]
      simp only [settle, Extraction.progressAfter, Extraction.advance, Extraction.captureAfter,
        Trail.follow, Event.isStart, Bool.or_true]
      split <;> rfl

/-- Taking back a trail on which nothing is open changes nothing. -/
theorem perform_close (session : Session) :
    close.perform session =
      match session.extraction.trail.leave? with
      | some (closed, trail) => (.ok (some closed), { session with extraction.trail := trail })
      | none => (.ok none, session) := by
  obtain ⟨⟨pattern, stopsEarly, skipsBlanks, ⟨opened, tallies⟩, hadRoot, capture⟩, calls⟩ :=
    session
  cases last : opened.back? with
  | none =>
      have nothing : opened = #[] := Array.back?_eq_none_iff.mp last
      simp [close, Trail.leave?, nothing, Except.map]
  | some closed =>
      have something : opened ≠ #[] := by
        rintro rfl
        simp at last
      simp [close, Trail.leave?, last, something, Except.map]

theorem perform_leaveElement (session : Session) (name : String) (position : Nat) :
    (leaveElement name position).perform session =
      session.settle (session.extraction.accept (.elementEnd name) position) := by
  rw [leaveElement, perform_bind, perform_close]
  cases left : session.extraction.trail.leave? with
  | none => simp [Extraction.accept, Extraction.leaveElement, left, settle]
  | some answer => simp [Extraction.accept, Extraction.leaveElement, left, settle]

theorem perform_endOfDocument (session : Session) (position : Nat) :
    (endOfDocument position).perform session =
      session.settle (session.extraction.accept .documentEnd position) := by
  simp only [endOfDocument, perform_bind, perform_get, Extraction.accept,
    Extraction.endOfDocument]
  cases session.extraction.trail.position.last? with
  | some place => rfl
  | none => cases had : session.extraction.hadRoot <;> simp [had, settle]

/-- A call is refused before it has written anything but the count, or it does what
`Extraction.accept` says. -/
theorem perform_handle (rooted : session.extraction.Rooted) (position : Nat) (event : Event) :
    (handle position event).perform session =
      session.counted.settle (session.extraction.accept event position) := by
  have countedRooted : session.counted.extraction.Rooted := rooted
  unfold handle
  rw [perform_bind, perform_count]
  cases event with
  | documentStart => rfl
  | elementStart name attributes =>
      exact perform_enterElement countedRooted name attributes position
  | elementEnd name => exact perform_leaveElement session.counted name position
  | text content => rfl
  | documentEnd => exact perform_endOfDocument session.counted position

theorem rooted_handle (rooted : session.extraction.Rooted) (position : Nat) (event : Event) :
    ((handle position event).perform session).2.extraction.Rooted := by
  rw [perform_handle rooted, Extraction.accept_eq]
  cases session.extraction.refusal? event with
  | some cause => exact rooted
  | none => exact Extraction.rooted_advance rooted event

/-! ### Runs -/

theorem runFrom_eq (rooted : session.extraction.Rooted) (stop : StopRequest) (position : Nat)
    (replies : List Reply) :
    session.runFrom stop position replies = session.extraction.runFrom stop position replies := by
  induction replies generalizing session stop position with
  | nil =>
      simp only [runFrom, Extraction.runFrom, perform_handle rooted]
      cases stop.stops with
      | true => rfl
      | false =>
          simp only [Bool.false_eq_true, if_false, Extraction.accept]
          cases session.extraction.endOfDocument position <;> rfl
  | cons reply later ih =>
      simp only [runFrom, Extraction.runFrom]
      cases reply.answer with
      | error error => rfl
      | ok event =>
          have next := rooted_handle rooted reply.position event
          simp only [perform_handle rooted] at next ⊢
          cases accepted : session.extraction.accept event reply.position with
          | error error => rfl
          | ok answer =>
              obtain ⟨progress, extraction⟩ := answer
              rw [accepted] at next
              cases progress with
              | finish => rfl
              | proceed =>
                  have same := ih next (stop.raiseIf reply.stopRaised) reply.position
                  simp only [settle] at same ⊢
                  rw [same]

/-! ### Courses of calls -/

/-- The calls that are answered well. -/
def accepted (calls : List (Nat × Event)) (answers : List (Except Error Progress)) :
    List (Nat × Event) :=
  ((calls.zip answers).filter fun call => call.2.isOk).map Prod.fst

theorem handleAll_cons (session : Session) (call : Nat × Event) (later : List (Nat × Event)) :
    (handleAll (call :: later)).run session =
      let called := (handle call.1 call.2).perform session
      let rest := (handleAll later).run called.2
      (called.1 :: rest.1, rest.2) :=
  rfl

theorem rooted_handleAll (rooted : session.extraction.Rooted) (calls : List (Nat × Event)) :
    ((handleAll calls).run session).2.extraction.Rooted := by
  induction calls generalizing session with
  | nil => exact rooted
  | cons call later ih => exact ih (rooted_handle rooted call.1 call.2)

theorem calls_handleAll (rooted : session.extraction.Rooted) (calls : List (Nat × Event)) :
    ((handleAll calls).run session).2.calls = session.calls + calls.length := by
  induction calls generalizing session with
  | nil => rfl
  | cons call later ih =>
      have counts : ((handle call.1 call.2).perform session).2.calls = session.calls + 1 := by
        rw [perform_handle rooted]
        cases session.extraction.accept call.2 call.1 <;> rfl
      rw [handleAll_cons, List.length_cons]
      simp only [ih (rooted_handle rooted call.1 call.2), counts]
      omega

/-- Two sessions at the same point, one of which is spared the calls that the other one
refuses, come to the same point. -/
theorem handleAll_accepted_of_same {other : Session} (rooted : session.extraction.Rooted)
    (same : other.extraction = session.extraction) (calls : List (Nat × Event)) :
    let answered := (handleAll calls).run session
    let again := (handleAll (accepted calls answered.1)).run other
    again.1 = answered.1.filter Except.isOk ∧
      again.2.extraction = answered.2.extraction := by
  induction calls generalizing session other with
  | nil => exact ⟨rfl, same⟩
  | cons call later ih =>
      have next := rooted_handle rooted call.1 call.2
      have otherRooted : other.extraction.Rooted := same ▸ rooted
      have first := perform_handle rooted call.1 call.2
      have second := perform_handle otherRooted call.1 call.2
      rw [same] at second
      simp only [handleAll_cons]
      cases answer : session.extraction.accept call.2 call.1 with
      | error error =>
          -- The other session is not called, and the extraction is the same as before.
          rw [answer] at first
          rw [first] at next ⊢
          exact ih next same
      | ok result =>
          rw [answer] at first second
          rw [first] at next ⊢
          have met : (other.counted.settle (.ok result)).2.extraction =
              (session.counted.settle (.ok result)).2.extraction := rfl
          obtain ⟨answers, ends⟩ := ih next met
          have taken (answers : List (Except Error Progress)) :
              accepted (call :: later) (.ok result.1 :: answers) =
                call :: accepted later answers := rfl
          simp only [settle] at answers ends ⊢
          rw [taken, handleAll_cons, second]
          exact ⟨congrArg (.ok result.1 :: ·) answers, ends⟩

/-- The calls that are refused can be left out of a course of calls: the other calls have the
same answers, the extraction comes to the same point with its trail, root and capture, only
the count of calls tells the difference, and it makes none to the outcome of a run. -/
theorem handleAll_accepted (pattern : Pattern) (settings : Settings)
    (calls : List (Nat × Event)) :
    let answered := (handleAll calls).run (start pattern settings)
    let spared := accepted calls answered.1
    let again := (handleAll spared).run (start pattern settings)
    again.1 = answered.1.filter Except.isOk ∧
      again.2.extraction = answered.2.extraction ∧
      answered.2.calls = calls.length ∧ again.2.calls = spared.length ∧
      ∀ stop replies, again.2.run stop replies = answered.2.run stop replies := by
  intro answered spared again
  have rooted := rooted_start pattern settings
  obtain ⟨answers, ends⟩ := handleAll_accepted_of_same rooted rfl calls
  refine ⟨answers, ends, ?_, ?_, ?_⟩
  · exact (calls_handleAll rooted calls).trans (Nat.zero_add _)
  · exact (calls_handleAll rooted spared).trans (Nat.zero_add _)
  · intro stop replies
    have answeredRooted : answered.2.extraction.Rooted := rooted_handleAll rooted calls
    have againRooted : again.2.extraction.Rooted := rooted_handleAll rooted spared
    rw [run, run, runFrom_eq againRooted, runFrom_eq answeredRooted, ends]

/-- A stray end, an early end of the document and a second root are refused. -/
example :
    let calls : List (Nat × Event) :=
      [(0, .elementEnd "a"), (0, .elementStart "a" []), (3, .documentEnd), (3, .elementEnd "a"),
        (7, .elementStart "b" []), (11, .documentEnd)]
    accepted calls ((handleAll calls).run (start .root .standard)).1 =
      [(0, .elementStart "a" []), (3, .elementEnd "a"), (11, .documentEnd)] := by
  decide +kernel

end Session

end XmlExtract
