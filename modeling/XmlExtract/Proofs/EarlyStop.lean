import XmlExtract.Proofs.ExtractionStep

/-!
# Stopping early loses nothing

An extraction that may stop early stops when its position has gone past the
pattern.  From then on an extraction that reads on captures nothing: it is
*exhausted*, which means that every position that agrees with the pattern is spent
and that the current position does not reach down to the pattern's end.  One step
keeps this property and the capture (`Exhausted.advance`, `Exhausted.captureAfter_eq`),
hence so does a run, and the two extractions differ in nothing but in a failure that
comes later.
-/

namespace XmlExtract

/-- Where a trail has gone past a pattern, every position that agrees with the pattern is spent,
if it begins at the same root. -/
theorem Trail.spent_of_past {trail : Trail} (sound : trail.Sound) {pattern : Pattern}
    (past : trail.position.past pattern = true) {position : Position}
    (sameRoot : ∀ root ∈ position.places.head?, trail.position.places.head? = some root)
    (agrees : pattern.Agrees position) : trail.Spent position := by
  rcases ((Position.past_iff _ _).mp past).prefix_or_smaller agrees (fun _ => sameRoot) with
    onTheWay | ⟨above, place, below, current, joined, inside, named, smaller⟩
  · exact Or.inl onTheWay
  · right
    have counted := sound.counted above current inside
    refine ⟨above, place, below, joined, (List.prefix_append _ _).trans inside, ?_, ?_⟩
    · intro stays
      have sameLength : (above ++ [place]).length = (above ++ [current]).length := by simp
      have same := List.prefix_of_prefix_length_le stays inside (Nat.le_of_eq sameLength)
      have whole := List.append_cancel_left (same.eq_of_length sameLength)
      simp only [List.cons.injEq, and_true] at whole
      rw [whole] at smaller
      exact Nat.lt_irrefl _ smaller
    · rw [named]
      exact Nat.le_trans (Nat.le_of_lt smaller) counted

namespace Extraction

/-- Nothing that follows can be captured.  The position of the root, which is that
of every element, is part of the argument: a document has one root. -/
structure Exhausted (extraction : Extraction) (root : Place) : Prop where
  sound : extraction.trail.Sound
  hadRoot : extraction.hadRoot = true
  rooted : ∀ place, extraction.trail.position.places.head? = some place → place = root
  spent : ∀ position : Position, position.places.head? = some root →
    extraction.pattern.Agrees position → extraction.trail.Spent position
  shallow : extraction.pattern.Agrees extraction.trail.position →
    extraction.trail.depth < extraction.pattern.length

variable {extraction : Extraction} {root : Place}

/-! ### One step -/

/-- What agrees with a pattern and reaches down to its end goes on agreeing further
down. -/
theorem agrees_of_covering {pattern : Pattern} {outer inner : Position}
    (agrees : pattern.Agrees outer) (covering : pattern.length ≤ outer.depth)
    (above : outer.places <+: inner.places) : pattern.Agrees inner := by
  have shared := Trail.take_zip inner.places pattern.steps outer.places.length covering
  rw [← List.prefix_iff_eq_take.mp above] at shared
  unfold Pattern.Agrees at agrees ⊢
  rw [← shared]
  exact agrees

/-- The position of an element that an exhausted extraction meets begins at the
root. -/
theorem Exhausted.head?_enter (exhausted : extraction.Exhausted root)
    (inside : extraction.trail.depth ≠ 0) (name : String) :
    (extraction.trail.enter name).position.places.head? = some root := by
  have notEmpty : extraction.trail.position.places ≠ [] := by
    intro empty
    apply inside
    rw [← Trail.length_places, empty]
    rfl
  rw [Trail.position_enter]
  cases places : extraction.trail.position.places with
  | nil => exact absurd places notEmpty
  | cons first deeper =>
      have same := exhausted.rooted first (by rw [places]; rfl)
      rw [same]
      rfl

theorem Exhausted.not_agrees_enter (exhausted : extraction.Exhausted root)
    (inside : extraction.trail.depth ≠ 0) (name : String) :
    ¬ extraction.pattern.Agrees (extraction.trail.enter name).position := fun agrees =>
  Trail.not_spent_enter extraction.trail name
    (exhausted.spent _ (exhausted.head?_enter inside name) agrees)

/-- An element that an exhausted extraction does not refuse is inside the root. -/
theorem Exhausted.depth_ne_zero (exhausted : extraction.Exhausted root) {name : String}
    {attributes : List (String × String)}
    (taken : extraction.refusal? (.elementStart name attributes) = none) :
    extraction.trail.depth ≠ 0 := by
  intro outside
  simp [refusal?, outside, exhausted.hadRoot] at taken

/-- An exhausted extraction captures nothing from the next event. -/
theorem Exhausted.captureAfter_eq (exhausted : extraction.Exhausted root) {event : Event}
    (taken : extraction.refusal? event = none) :
    extraction.captureAfter event = extraction.capture := by
  cases event with
  | elementStart name attributes =>
      have incompatible := exhausted.not_agrees_enter (exhausted.depth_ne_zero taken) name
      rw [← Position.compatible_iff] at incompatible
      simp [captureAfter, incompatible]
  | text content =>
      have unwanted : ¬ extraction.wants content = true := by
        rw [wants_iff, Pattern.matches_iff]
        rintro ⟨-, -, depths, agrees⟩
        have shallow := exhausted.shallow agrees
        simp only [Position.depth, Trail.length_places] at depths
        omega
      simp [captureAfter, unwanted]
  | documentStart | elementEnd name | documentEnd => rfl

theorem Exhausted.advance (exhausted : extraction.Exhausted root) {event : Event}
    (taken : extraction.refusal? event = none) :
    (extraction.advance event).Exhausted root where
  sound := exhausted.sound.follow event
  hadRoot := by simp [Extraction.advance, exhausted.hadRoot]
  spent position starts agrees :=
    (exhausted.spent position starts agrees).follow exhausted.sound event
  rooted place first := by
    cases event with
    | elementStart name attributes =>
        have whole := exhausted.head?_enter (exhausted.depth_ne_zero taken) name
        exact Option.some.inj (first.symm.trans whole)
    | elementEnd name =>
        cases left : extraction.trail.leave? with
        | none =>
            simp only [Extraction.advance, Trail.follow, left] at first
            exact exhausted.rooted place first
        | some answer =>
            simp only [Extraction.advance, Trail.follow, left] at first
            apply exhausted.rooted
            rw [Trail.position_leave left, List.head?_append, first]
            rfl
    | documentStart | text content | documentEnd => exact exhausted.rooted place first
  shallow agrees := by
    cases event with
    | elementStart name attributes =>
        exact absurd agrees (exhausted.not_agrees_enter (exhausted.depth_ne_zero taken) name)
    | elementEnd name =>
        cases left : extraction.trail.leave? with
        | none =>
            simp only [Extraction.advance, Trail.follow, left] at agrees ⊢
            exact exhausted.shallow agrees
        | some answer =>
            simp only [Extraction.advance, Trail.follow, left] at agrees ⊢
            by_contra covering
            have inner : extraction.pattern.Agrees extraction.trail.position := by
              refine agrees_of_covering agrees ?_ ?_
              · simp only [Position.depth, Trail.length_places]
                omega
              · rw [Trail.position_leave left]
                exact List.prefix_append _ _
            have shallow := exhausted.shallow inner
            have depths := Trail.depth_leave left
            omega
    | documentStart | text content | documentEnd => exact exhausted.shallow agrees

/-- An element past the pattern exhausts the extraction that takes it. -/
theorem exists_exhausted_of_past (sound : extraction.trail.Sound) (name : String)
    (attributes : List (String × String))
    (past : (extraction.trail.enter name).position.past extraction.pattern = true) :
    ∃ root, (extraction.advance (.elementStart name attributes)).Exhausted root := by
  have soundAfter := sound.enter name
  obtain ⟨root, starts⟩ :
      ∃ root, (extraction.trail.enter name).position.places.head? = some root := by
    rw [Trail.position_enter]
    cases extraction.trail.position.places with
    | nil => exact ⟨_, rfl⟩
    | cons root deeper => exact ⟨root, rfl⟩
  refine ⟨root, ?_⟩
  refine { sound := soundAfter, hadRoot := ?_, rooted := ?_, spent := ?_, shallow := ?_ }
  · simp [Extraction.advance, Event.isStart]
  · intro place first
    exact Option.some.inj (first.symm.trans starts)
  · intro position first agrees
    apply Trail.spent_of_past soundAfter past _ agrees
    intro place member
    exact starts.trans (first.symm.trans member)
  · intro agrees
    exact absurd agrees (((Position.past_iff _ _).mp past).not_admits)

/-! ### Whole runs -/

/-- A run that begins exhausted ends with the capture it began with, if it ends
well. -/
theorem Exhausted.capture_of_outcome (exhausted : extraction.Exhausted root)
    {stop : StopRequest} {position : Nat} {replies : List Reply} {capture : Capture}
    (ended : (extraction.runFrom stop position replies).outcome = .ok capture) :
    capture = extraction.capture := by
  induction replies generalizing extraction stop position with
  | nil =>
      rw [outcome_runFrom_nil] at ended
      cases heard : extraction.hear stop ⟨position, .ok .documentEnd, false⟩ with
      | error error => simp [heard] at ended
      | ok event => simpa [heard] using ended.symm
  | cons reply later ih =>
      rw [outcome_runFrom_cons] at ended
      cases heard : extraction.hear stop reply with
      | error error => simp [heard] at ended
      | ok event =>
          have taken := (hear_eq_ok_iff.mp heard).2.2
          have unchanged := exhausted.captureAfter_eq taken
          cases progress : extraction.progressAfter event with
          | finish =>
              simp only [heard, progress, Except.ok.injEq] at ended
              exact ended.symm.trans unchanged
          | proceed =>
              simp only [heard, progress] at ended
              exact (ih (exhausted.advance taken) ended).trans unchanged

def withEarlyStop (extraction : Extraction) (stopsEarly : Bool) : Extraction :=
  { extraction with stopsEarly := stopsEarly }

/-- An extraction that stops early and one that does not take the same events in the
same way. -/
theorem hear_withEarlyStop (extraction : Extraction) (stopsEarly : Bool)
    (stop : StopRequest) (reply : Reply) :
    (extraction.withEarlyStop stopsEarly).hear stop reply = extraction.hear stop reply := by
  unfold hear
  have refusals (event : Event) :
      (extraction.withEarlyStop stopsEarly).refusal? event = extraction.refusal? event := by
    cases event <;> rfl
  simp only [refusals]

theorem advance_withEarlyStop (extraction : Extraction) (stopsEarly : Bool) (event : Event) :
    (extraction.withEarlyStop stopsEarly).advance event =
      (extraction.advance event).withEarlyStop stopsEarly := by
  cases event <;> rfl

/-- The two extractions disagree on whether to go on only where the position has gone
past the pattern. -/
theorem progressAfter_withEarlyStop (extraction : Extraction) (event : Event) :
    (extraction.withEarlyStop true).progressAfter event =
        (extraction.withEarlyStop false).progressAfter event ∨
      (extraction.withEarlyStop true).progressAfter event = .finish ∧
        (extraction.withEarlyStop false).progressAfter event = .proceed ∧
        ∃ name attributes, event = .elementStart name attributes ∧
          (extraction.trail.enter name).position.past extraction.pattern = true := by
  cases event with
  | elementStart name attributes =>
      cases past : (extraction.trail.enter name).position.past extraction.pattern <;>
        simp [progressAfter, withEarlyStop, past]
  | documentStart | elementEnd name | text content | documentEnd => exact Or.inl rfl

/-- A run that may stop early ends like the run that may not, or it ends well before
that one fails. -/
theorem outcome_withEarlyStop (sound : extraction.trail.Sound) (stop : StopRequest)
    (position : Nat) (replies : List Reply) :
    ((extraction.withEarlyStop true).runFrom stop position replies).outcome =
        ((extraction.withEarlyStop false).runFrom stop position replies).outcome ∨
      ∃ capture error,
        ((extraction.withEarlyStop true).runFrom stop position replies).outcome =
            .ok capture ∧
          ((extraction.withEarlyStop false).runFrom stop position replies).outcome =
            .error error := by
  induction replies generalizing extraction stop position with
  | nil =>
      left
      simp only [outcome_runFrom_nil, hear_withEarlyStop]
      rfl
  | cons reply later ih =>
      simp only [outcome_runFrom_cons, hear_withEarlyStop]
      cases heard : extraction.hear stop reply with
      | error error => exact Or.inl rfl
      | ok event =>
          have captures (stopsEarly : Bool) :
              (extraction.withEarlyStop stopsEarly).captureAfter event =
                extraction.captureAfter event := by
            cases event <;> rfl
          rcases progressAfter_withEarlyStop extraction event with
            same | ⟨early, late, name, attributes, rfl, past⟩
          · simp only [same, captures, advance_withEarlyStop]
            cases (extraction.withEarlyStop false).progressAfter event with
            | finish => exact Or.inl rfl
            | proceed => exact ih (sound.follow event) _ _
          · -- The early run is over; the other one reads on exhausted.
            simp only [early, late, captures]
            have soundLater : (extraction.withEarlyStop false).trail.Sound := sound
            obtain ⟨root, exhausted⟩ := exists_exhausted_of_past
              soundLater name attributes past
            cases ended : (((extraction.withEarlyStop false).advance
                (.elementStart name attributes)).runFrom (stop.raiseIf reply.stopRaised)
                reply.position later).outcome with
            | error error => exact Or.inr ⟨_, error, rfl, rfl⟩
            | ok capture =>
                left
                rw [exhausted.capture_of_outcome ended]
                rfl

/-- Stopping early never changes the capture of a run that ends well, and makes no
run fail: it can only turn a later failure into a success. -/
theorem run_stopsEarly_refines_run (pattern : Pattern) (settings : Settings)
    (stop : StopRequest) (replies : List Reply) :
    let full := ((start pattern { settings with stopsEarly := false }).run stop replies).outcome
    let early := ((start pattern { settings with stopsEarly := true }).run stop replies).outcome
    (∀ capture, full = .ok capture → early = .ok capture) ∧
      ∀ error, early = .error error → full = .error error := by
  intro full early
  have sound : (start pattern settings).trail.Sound := Trail.sound_fresh
  have related : early = full ∨ ∃ capture error, early = .ok capture ∧ full = .error error :=
    outcome_withEarlyStop sound stop 0 replies
  rcases related with same | ⟨capture, error, finished, failed⟩
  · rw [same]
    exact ⟨fun _ => id, fun _ => id⟩
  · rw [finished, failed]
    simp

end Extraction

end XmlExtract
