import XmlExtract.Proofs.RefusedCalls

/-!
# Calls after an early finish

Whoever calls a session need not mind its answers.  A refused event leaves the extraction as
it was, and an extraction that has finished takes the next event like any other.  After an
early finish this makes no difference to the capture: the extraction is exhausted, every event
that it takes leaves it exhausted, and so no call captures anything
(`Session.capture_handleAll_of_finish`).
-/

namespace XmlExtract

namespace Extraction

variable {extraction : Extraction}

/-- The extraction after a call, whatever the answer to the call is. -/
def feed (extraction : Extraction) (position : Nat) (event : Event) : Extraction :=
  match extraction.accept event position with
  | .ok (_, next) => next
  | .error _ => extraction

/-- The extraction after calls with these positions and events. -/
def feedAll (extraction : Extraction) (calls : List (Nat × Event)) : Extraction :=
  calls.foldl (fun extraction call => extraction.feed call.1 call.2) extraction

theorem feed_eq (extraction : Extraction) (position : Nat) (event : Event) :
    extraction.feed position event =
      match extraction.refusal? event with
      | some _ => extraction
      | none => extraction.advance event := by
  rw [feed, accept_eq]
  cases extraction.refusal? event <;> rfl

/-- What every event keeps that is not refused, calls keep. -/
theorem feedAll_of_advance (kept : Extraction → Prop)
    (step : ∀ extraction event, kept extraction →
      extraction.refusal? event = none → kept (extraction.advance event))
    (holds : kept extraction) (calls : List (Nat × Event)) :
    kept (extraction.feedAll calls) := by
  induction calls generalizing extraction with
  | nil => exact holds
  | cons call later ih =>
      obtain ⟨position, event⟩ := call
      have next : kept (extraction.feed position event) := by
        rw [feed_eq]
        cases refused : extraction.refusal? event with
        | some cause => exact holds
        | none => exact step extraction event holds refused
      exact ih next

theorem sound_feedAll (sound : extraction.trail.Sound) (calls : List (Nat × Event)) :
    (extraction.feedAll calls).trail.Sound := by
  apply feedAll_of_advance (fun extraction => extraction.trail.Sound) _ sound
  intro extraction event sound _
  exact sound.follow event

theorem Exhausted.capture_feedAll {root : Place} (exhausted : extraction.Exhausted root)
    (calls : List (Nat × Event)) :
    (extraction.feedAll calls).capture = extraction.capture := by
  have kept : (extraction.feedAll calls).Exhausted root ∧
      (extraction.feedAll calls).capture = extraction.capture := by
    apply feedAll_of_advance
      (fun next => next.Exhausted root ∧ next.capture = extraction.capture) _ ⟨exhausted, rfl⟩
    rintro next event ⟨stillExhausted, same⟩ taken
    exact ⟨stillExhausted.advance taken, (stillExhausted.captureAfter_eq taken).trans same⟩
  exact kept.2

/-- An element at whose start an extraction finishes leaves it exhausted. -/
theorem exists_exhausted_of_finish (sound : extraction.trail.Sound) {name : String}
    {attributes : List (String × String)} {position : Nat} {next : Extraction}
    (finished : extraction.accept (.elementStart name attributes) position =
      .ok (.finish, next)) : ∃ root, next.Exhausted root := by
  rw [accept_eq] at finished
  cases refused : extraction.refusal? (.elementStart name attributes) with
  | some cause => simp [refused] at finished
  | none =>
      simp only [refused, Except.ok.injEq, Prod.mk.injEq] at finished
      obtain ⟨progress, rfl⟩ := finished
      apply exists_exhausted_of_past sound
      cases past : (extraction.trail.enter name).position.past extraction.pattern with
      | true => rfl
      | false => simp [progressAfter, past] at progress

/-- Once the start of an element has finished an extraction, no call captures anything,
whatever calls came before it, whatever comes after, and whatever the answers are. -/
theorem capture_feedAll_of_finish (pattern : Pattern) (settings : Settings)
    (earlier : List (Nat × Event)) {name : String} {attributes : List (String × String)}
    {position : Nat} {finished : Extraction}
    (finishes : ((start pattern settings).feedAll earlier).accept
      (.elementStart name attributes) position = .ok (.finish, finished))
    (later : List (Nat × Event)) :
    (finished.feedAll later).capture = finished.capture := by
  have sound : ((start pattern settings).feedAll earlier).trail.Sound :=
    sound_feedAll Trail.sound_fresh earlier
  obtain ⟨root, exhausted⟩ := exists_exhausted_of_finish sound finishes
  exact exhausted.capture_feedAll later

end Extraction

namespace Session

variable {session : Session}

/-- A call leaves the extraction that its event leaves, whatever the answer is. -/
theorem extraction_handle (rooted : session.extraction.Rooted) (position : Nat)
    (event : Event) : ((handle position event).perform session).2.extraction =
      session.extraction.feed position event := by
  rw [perform_handle rooted, Extraction.feed]
  cases session.extraction.accept event position <;> rfl

theorem extraction_handleAll (rooted : session.extraction.Rooted)
    (calls : List (Nat × Event)) :
    ((handleAll calls).run session).2.extraction = session.extraction.feedAll calls := by
  induction calls generalizing session with
  | nil => rfl
  | cons call later ih =>
      rw [handleAll_cons]
      simp only [ih (rooted_handle rooted call.1 call.2), extraction_handle rooted]
      rfl

/-- Once the start of an element has finished a session, no call captures anything, whatever
calls came before it, whatever comes after, and whatever the answers are. -/
theorem capture_handleAll_of_finish (pattern : Pattern) (settings : Settings)
    (earlier : List (Nat × Event)) {name : String} {attributes : List (String × String)}
    {position : Nat} {finished : Session}
    (finishes : (handle position (.elementStart name attributes)).perform
      ((handleAll earlier).run (start pattern settings)).2 = (.ok .finish, finished))
    (later : List (Nat × Event)) :
    ((handleAll later).run finished).2.extraction.capture = finished.extraction.capture := by
  have fresh := rooted_start pattern settings
  have rooted := rooted_handleAll fresh earlier
  have stillRooted : finished.extraction.Rooted := by
    have kept := rooted_handle rooted position (.elementStart name attributes)
    rwa [finishes] at kept
  rw [perform_handle rooted, extraction_handleAll fresh] at finishes
  cases accepted : ((start pattern settings).extraction.feedAll earlier).accept
      (.elementStart name attributes) position with
  | error error => simp [accepted, settle] at finishes
  | ok answer =>
      obtain ⟨progress, extraction⟩ := answer
      simp only [accepted, settle, Prod.mk.injEq, Except.ok.injEq] at finishes
      obtain ⟨rfl, rfl⟩ := finishes
      rw [extraction_handleAll stillRooted]
      exact Extraction.capture_feedAll_of_finish pattern settings earlier accepted later

/-- An end that nothing has opened, then a root with a matching child. -/
def firstSibling : Session :=
  ((handleAll [(0, .elementEnd "z"), (0, .elementStart "a" []), (3, .elementStart "b" []),
    (6, .text "hit"), (9, .elementEnd "b")]).run
      (start ⟨[.every "a", .only "b" 1]⟩ .standard)).2

theorem capture_handleAll_secondSibling :
    let second := (handle 13 (.elementStart "b" [])).perform firstSibling
    second.1 = .ok .finish ∧
      ((handleAll [(16, .text "miss"), (20, .elementEnd "b"), (24, .elementEnd "a"),
        (28, .elementStart "a" []), (31, .documentEnd)]).run second.2).2.extraction.capture =
          second.2.extraction.capture := by
  intro second
  have answer : second.1 = .ok .finish := by decide +kernel
  exact ⟨answer, capture_handleAll_of_finish _ _ _ (Prod.ext answer rfl) _⟩

end Session

end XmlExtract
