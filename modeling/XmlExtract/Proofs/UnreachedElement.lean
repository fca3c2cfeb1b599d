import XmlExtract.Proofs.ElementTree
import XmlExtract.Proofs.Nesting

/-!
# Elements that a pattern does not reach

If the position of an element disagrees with a pattern, nothing in the element matters: not
its attributes, and not what stands between its tags.  Two runs over events that differ there
and nowhere else come to the same capture, or refuse an event for the same cause
(`sameButPosition_unreached`).

Inside of the element the two runs have nothing in common but how they began.  What one event
keeps is that the trail stays below the position of the element and that the tallies outside of
it are untouched (`Unreached.step`).  The tally of the element itself is dropped with its end, so
behind the element both runs are in the same state (`verdict_element`).
-/

namespace XmlExtract

/-! ### Runs without positions -/

namespace Extraction

variable {extraction : Extraction}

/-- What a run over events comes to: a capture, or the cause for which an event is refused.
When the events run out, the document ends. -/
def verdict (extraction : Extraction) : List Event → Except Malformation Capture
  | [] =>
      match extraction.refusal? .documentEnd with
      | some cause => .error cause
      | none => .ok extraction.capture
  | event :: later =>
      match extraction.refusal? event with
      | some cause => .error cause
      | none =>
          match extraction.progressAfter event with
          | .finish => .ok (extraction.captureAfter event)
          | .proceed => (extraction.advance event).verdict later

/-- An outcome tells of a verdict, and of the byte to blame for a refusal. -/
inductive Tells : Except Malformation Capture → Except Error Capture → Prop
  | done (capture : Capture) : Tells (.ok capture) (.ok capture)
  | refused (position : Nat) (cause : Malformation) :
      Tells (.error cause) (.error (.malformed position cause))

theorem tells_runFrom (extraction : Extraction) {events : List Event} {replies : List Reply}
    (answers : replies.map (·.answer) = events.map .ok) {stop : StopRequest}
    (unmet : stop.Unmet replies) (position : Nat) :
    Tells (extraction.verdict events) (extraction.runFrom stop position replies).outcome := by
  induction events generalizing extraction stop position replies with
  | nil =>
      obtain rfl := List.map_eq_nil_iff.mp answers
      rw [outcome_runFrom_nil, hear_of_ok unmet.not_stops rfl, verdict]
      cases extraction.refusal? .documentEnd with
      | some cause => exact .refused position cause
      | none => exact .done extraction.capture
  | cons event events ih =>
      obtain ⟨reply, later, rfl, answer, rest⟩ := List.map_eq_cons_iff.mp answers
      rw [outcome_runFrom_cons, hear_of_ok unmet.head_not_stops answer, verdict]
      cases extraction.refusal? event with
      | some cause => exact .refused reply.position cause
      | none =>
          simp only
          cases extraction.progressAfter event with
          | finish => exact .done _
          | proceed => exact ih _ rest unmet.tail reply.position

/-- Two outcomes are the same, but for the byte that is blamed for a refusal. -/
inductive SameButPosition : Except Error Capture → Except Error Capture → Prop
  | done (capture : Capture) : SameButPosition (.ok capture) (.ok capture)
  | refused (position otherPosition : Nat) (cause : Malformation) :
      SameButPosition (.error (.malformed position cause))
        (.error (.malformed otherPosition cause))

theorem Tells.sameButPosition {verdict : Except Malformation Capture}
    {outcome other : Except Error Capture} (tells : Tells verdict outcome)
    (otherTells : Tells verdict other) : SameButPosition outcome other := by
  cases tells with
  | done capture =>
      cases otherTells
      exact .done capture
  | refused position cause =>
      cases otherTells with
      | refused otherPosition => exact .refused position otherPosition cause

/-- Verdicts that are the same behind some events are the same in front of them. -/
theorem verdict_append_congr {front first second : List Event}
    (same : (front.foldl advance extraction).verdict first =
      (front.foldl advance extraction).verdict second) :
    extraction.verdict (front ++ first) = extraction.verdict (front ++ second) := by
  induction front generalizing extraction with
  | nil => exact same
  | cons event later ih =>
      simp only [List.cons_append, verdict]
      rw [ih same]

end Extraction

/-! ### What stands between the tags of an element -/

namespace Event

/-- Elements end after they have started, and all of them end. -/
structure Balanced (events : List Event) : Prop where
  nested : ∀ before, before <+: events → ends before ≤ starts before
  closed : starts events = ends events
  unfinished : Event.documentEnd ∉ events

instance (events : List Event) : Decidable (Balanced events) :=
  decidable_of_iff
    ((∀ before ∈ events.inits, ends before ≤ starts before) ∧
      starts events = ends events ∧ Event.documentEnd ∉ events)
    ⟨fun ⟨nested, closed, unfinished⟩ =>
      ⟨fun before inside => nested before ((List.mem_inits _ _).mpr inside), closed, unfinished⟩,
    fun balanced =>
      ⟨fun before inside => balanced.nested before ((List.mem_inits _ _).mp inside),
        balanced.closed, balanced.unfinished⟩⟩

/-- Events end so many elements that are open before them, and all that start among them. -/
structure Closes (opened : Nat) (events : List Event) : Prop where
  nested : ∀ before, before <+: events → ends before ≤ opened + starts before
  closed : opened + starts events = ends events

theorem Balanced.closes {events : List Event} (balanced : Balanced events) :
    Closes 0 events where
  nested before inside := by
    rw [Nat.zero_add]
    exact balanced.nested before inside
  closed := by
    rw [Nat.zero_add]
    exact balanced.closed

theorem Closes.tail {opened : Nat} {event : Event} {later : List Event}
    (closes : Closes opened (event :: later)) :
    ends [event] ≤ opened + starts [event] ∧
      Closes (opened + starts [event] - ends [event]) later := by
  have here : ends [event] ≤ opened + starts [event] := by
    apply closes.nested
    exact ⟨later, rfl⟩
  refine ⟨here, ?_, ?_⟩
  · intro before inside
    have nested := closes.nested (event :: before) ((List.prefix_cons_inj event).mpr inside)
    rw [starts_cons, ends_cons] at nested
    omega
  · have closed := closes.closed
    rw [starts_cons, ends_cons] at closed
    omega

end Event

namespace Trail

variable {outer inner next : Trail} {closed : Place}

/-- A trail is where another one is or deeper, and the tallies outside of the innermost element
of the other one are the same. -/
structure Below (outer inner : Trail) : Prop where
  above : outer.position.places <+: inner.position.places
  outside : inner.tallies.drop (inner.depth - outer.depth + 1) = outer.tallies.drop 1

theorem below_refl (trail : Trail) : trail.Below trail where
  above := List.prefix_rfl
  outside := by rw [Nat.sub_self]

theorem Below.depth_le (below : outer.Below inner) : outer.depth ≤ inner.depth := by
  rw [← length_places, ← length_places]
  exact below.above.length_le

theorem Below.enter (below : outer.Below inner) (name : String) :
    outer.Below (inner.enter name) where
  above := by
    rw [position_enter]
    exact below.above.trans (List.prefix_append _ _)
  outside := by
    have levels : (inner.enter name).depth - outer.depth + 1 = inner.depth - outer.depth + 2 := by
      have deeper := below.depth_le
      rw [depth_enter]
      omega
    rw [levels, drop_tallies_enter]
    exact below.outside

theorem Below.leave (below : outer.Below inner) (deeper : outer.depth < inner.depth)
    (left : inner.leave? = some (closed, next)) : outer.Below next where
  above := by
    have above := below.above
    rw [position_leave left, List.prefix_concat_iff] at above
    rcases above with whole | inside
    · rw [← position_leave left] at whole
      have same := congrArg List.length whole
      rw [length_places, length_places] at same
      omega
    · exact inside
  outside := by
    have levels : inner.depth - outer.depth + 1 = 1 + (next.depth - outer.depth + 1) := by
      have shallower := depth_leave left
      omega
    rw [tallies_leave left, List.drop_drop, ← levels]
    exact below.outside

theorem depth_follow (trail : Trail) (event : Event) :
    (trail.follow event).depth = trail.depth + Event.starts [event] - Event.ends [event] := by
  cases event with
  | elementStart name attributes => exact depth_enter trail name
  | elementEnd name => exact depth_follow_end trail name
  | documentStart | text content | documentEnd => rfl

/-- An event keeps a trail below another one, unless it ends the innermost element of that. -/
theorem Below.follow (below : outer.Below inner) {event : Event}
    (stays : Event.ends [event] ≤ inner.depth - outer.depth + Event.starts [event]) :
    outer.Below (inner.follow event) := by
  cases event with
  | elementStart name attributes => exact below.enter name
  | elementEnd name =>
      unfold Trail.follow
      cases left : inner.leave? with
      | none => exact below
      | some answer =>
          apply below.leave _ left
          simp [Event.ends, Event.starts, Event.isEnd, Event.isStart] at stays
          omega
  | documentStart | text content | documentEnd => exact below

theorem Below.resumes (below : outer.Below inner) (same : inner.depth = outer.depth) :
    Resumes outer inner where
  opened := by
    have places := below.above.eq_of_length (by rw [length_places, length_places, same])
    simpa [position] using places.symm
  outside := by
    have outside := below.outside
    rwa [same, Nat.sub_self] at outside

/-- What an element leaves behind does not depend on what was in it. -/
theorem follow_end_of_resumes {trail : Trail} {name : String}
    (resumes : Resumes (trail.enter name) inner) (tag : String) :
    inner.follow (.elementEnd tag) = ⟨trail.opened, (trail.enter name).tallies.drop 1⟩ := by
  obtain ⟨closed, back, left, resumesBack⟩ := exists_leave_of_resumes resumes
  have tallies := (tallies_leave left).trans resumes.outside
  have opened := resumesBack.opened
  unfold follow
  rw [left]
  obtain ⟨backOpened, backTallies⟩ := back
  simp only at tallies opened
  rw [tallies, opened]

end Trail

namespace Extraction

variable {extraction outer : Extraction} {trail : Trail} {name : String} {body : List Event}

/-! ### One event inside of an element -/

/-- The position of the innermost element disagrees with the pattern, and the extraction goes on
all the same. -/
structure Unreached (extraction : Extraction) : Prop where
  inside : extraction.trail.depth ≠ 0
  hadRoot : extraction.hadRoot = true
  disagrees : ¬ extraction.pattern.Agrees extraction.trail.position
  goesOn : (extraction.stopsEarly && extraction.trail.position.past extraction.pattern) = false

def onTrail (extraction : Extraction) (trail : Trail) : Extraction :=
  { extraction with trail := trail }

/-- Inside of an element that is not reached, an event is taken and changes nothing but the
trail. -/
theorem Unreached.step (unreached : outer.Unreached) (below : outer.trail.Below trail)
    {event : Event} (unfinished : event ≠ .documentEnd) :
    (outer.onTrail trail).refusal? event = none ∧
      (outer.onTrail trail).progressAfter event = .proceed ∧
      (outer.onTrail trail).advance event = outer.onTrail (trail.follow event) := by
  have inside : (trail.depth == 0) = false := by
    have deeper := below.depth_le
    have opened := unreached.inside
    rw [beq_eq_false_iff_ne]
    omega
  have hadRoot := unreached.hadRoot
  cases event with
  | documentStart =>
      simp [refusal?, progressAfter, advance, captureAfter, onTrail, Event.isStart, Trail.follow]
  | elementStart name attributes =>
      have deeper := below.enter name
      have past := Position.past_eq_of_prefix deeper.above unreached.disagrees
      have unwanted : (trail.enter name).position.compatible outer.pattern = false := by
        rw [← Bool.not_eq_true, Position.compatible_iff]
        exact fun agrees => unreached.disagrees (agrees.of_prefix deeper.above)
      have goesOn := unreached.goesOn
      rw [← past] at goesOn
      refine ⟨?_, ?_, ?_⟩
      · simp [refusal?, onTrail, inside]
      · simp only [progressAfter, onTrail, goesOn]
        rfl
      · simp [advance, captureAfter, onTrail, unwanted, Event.isStart, hadRoot, Trail.follow]
  | elementEnd name =>
      refine ⟨?_, rfl, ?_⟩
      · simp [refusal?, onTrail, inside]
      · simp [advance, captureAfter, onTrail, Event.isStart]
  | text content =>
      have unwanted : (outer.onTrail trail).wants content = false := by
        rw [← Bool.not_eq_true, wants_iff, Pattern.matches_iff]
        rintro ⟨-, -, -, agrees⟩
        exact unreached.disagrees (agrees.of_prefix below.above)
      refine ⟨rfl, rfl, ?_⟩
      rw [advance, captureAfter, unwanted]
      simp [onTrail, Event.isStart, Trail.follow]
  | documentEnd => contradiction

/-! ### Whole elements -/

/-- A run comes through events that end all elements inside, and is back in its place then. -/
theorem Unreached.exists_resumes (unreached : outer.Unreached)
    (below : outer.trail.Below trail) {events : List Event}
    (closes : Event.Closes (trail.depth - outer.trail.depth) events)
    (unfinished : Event.documentEnd ∉ events) (later : List Event) :
    ∃ last, Trail.Resumes outer.trail last ∧
      (outer.onTrail trail).verdict (events ++ later) = (outer.onTrail last).verdict later := by
  induction events generalizing trail with
  | nil =>
      refine ⟨trail, below.resumes ?_, rfl⟩
      have closed : trail.depth - outer.trail.depth = 0 := closes.closed
      have deeper := below.depth_le
      omega
  | cons event events ih =>
      rw [List.mem_cons, not_or] at unfinished
      obtain ⟨different, unfinishedLater⟩ := unfinished
      obtain ⟨stays, closesLater⟩ := closes.tail
      obtain ⟨taken, goesOn, next⟩ := unreached.step below (Ne.symm different)
      have levels : (trail.follow event).depth - outer.trail.depth =
          trail.depth - outer.trail.depth + Event.starts [event] - Event.ends [event] := by
        have deeper := below.depth_le
        rw [Trail.depth_follow]
        omega
      rw [← levels] at closesLater
      rw [List.cons_append, verdict, taken, goesOn, next]
      exact ih (below.follow stays) closesLater unfinishedLater

/-- The extraction in an element that has not been reached. -/
def entered (extraction : Extraction) (name : String) : Extraction :=
  { extraction with trail := extraction.trail.enter name, hadRoot := true }

/-- The extraction behind an element that has not been reached. -/
def beyond (extraction : Extraction) (name : String) : Extraction :=
  { extraction with
    trail := ⟨extraction.trail.opened, (extraction.trail.enter name).tallies.drop 1⟩
    hadRoot := true }

theorem unreached_entered
    (disagrees : ¬ extraction.pattern.Agrees (extraction.trail.enter name).position)
    (goesOn : extraction.progressAfter (.elementStart name []) = .proceed) :
    (extraction.entered name).Unreached where
  inside := by
    rw [entered, Trail.depth_enter]
    exact Nat.succ_ne_zero _
  hadRoot := rfl
  disagrees := disagrees
  goesOn := by simpa [progressAfter, entered] using goesOn

theorem Unreached.verdict_entered (unreached : (extraction.entered name).Unreached)
    (balanced : Event.Balanced body) (tag : String) (rest : List Event) :
    (extraction.entered name).verdict (body ++ .elementEnd tag :: rest) =
      (extraction.beyond name).verdict rest := by
  have closes := balanced.closes
  rw [← Nat.sub_self (extraction.entered name).trail.depth] at closes
  obtain ⟨last, resumes, through⟩ := unreached.exists_resumes (Trail.below_refl _) closes
    balanced.unfinished (.elementEnd tag :: rest)
  have inside : (last.depth == 0) = false := by
    rw [beq_eq_false_iff_ne, resumes.depth_eq]
    exact unreached.inside
  have taken : ((extraction.entered name).onTrail last).refusal? (.elementEnd tag) = none := by
    simp [refusal?, onTrail, inside]
  have back : ((extraction.entered name).onTrail last).advance (.elementEnd tag) =
      extraction.beyond name := by
    have trail := Trail.follow_end_of_resumes resumes tag
    simp [advance, onTrail, entered, beyond, captureAfter, trail, Event.isStart]
  refine through.trans ?_
  rw [verdict, taken, back]
  rfl

/-- The start of an element that is not reached can be refused, or it can finish the extraction;
otherwise the run goes on behind the element, whatever is in it. -/
theorem verdict_element
    (disagrees : ¬ extraction.pattern.Agrees (extraction.trail.enter name).position)
    (balanced : Event.Balanced body) (attributes : List (String × String)) (tag : String)
    (rest : List Event) :
    extraction.verdict (.elementStart name attributes :: (body ++ .elementEnd tag :: rest)) =
      match extraction.refusal? (.elementStart name []) with
      | some cause => .error cause
      | none =>
          match extraction.progressAfter (.elementStart name []) with
          | .finish => .ok extraction.capture
          | .proceed => (extraction.beyond name).verdict rest := by
  have captures :
      extraction.captureAfter (.elementStart name attributes) = extraction.capture := by
    rw [← Position.compatible_iff, Bool.not_eq_true] at disagrees
    simp [captureAfter, disagrees]
  have entering :
      extraction.advance (.elementStart name attributes) = extraction.entered name := by
    simp [advance, captures, entered, Event.isStart, Trail.follow]
  have refusals : extraction.refusal? (.elementStart name attributes) =
      extraction.refusal? (.elementStart name []) := rfl
  have progresses : extraction.progressAfter (.elementStart name attributes) =
      extraction.progressAfter (.elementStart name []) := rfl
  rw [verdict, refusals, progresses, captures, entering]
  cases extraction.refusal? (.elementStart name []) with
  | some cause => rfl
  | none =>
      cases progress : extraction.progressAfter (.elementStart name []) with
      | finish => rfl
      | proceed => exact (unreached_entered disagrees progress).verdict_entered balanced tag rest

/-- Two runs over events that differ only in the attributes of one element and in what stands
between its tags have the same outcome, but for the positions of bytes, if the position of the
element disagrees with the pattern. -/
theorem sameButPosition_unreached (pattern : Pattern) (settings : Settings)
    {front : List Event} {name : String}
    (unreached : ((front.foldl Trail.follow .fresh).enter name).position.compatible pattern = false)
    {body otherBody : List Event} (balanced : Event.Balanced body)
    (otherBalanced : Event.Balanced otherBody)
    (attributes otherAttributes : List (String × String)) (tag otherTag : String)
    (rest : List Event) {replies others : List Reply}
    (answers : replies.map (·.answer) =
      (front ++ .elementStart name attributes :: (body ++ .elementEnd tag :: rest)).map .ok)
    (otherAnswers : others.map (·.answer) =
      (front ++ .elementStart name otherAttributes ::
        (otherBody ++ .elementEnd otherTag :: rest)).map .ok)
    {stop : StopRequest} (unmet : stop.Unmet replies) (otherUnmet : stop.Unmet others) :
    SameButPosition ((start pattern settings).run stop replies).outcome
      ((start pattern settings).run stop others).outcome := by
  have disagrees : ¬ (front.foldl advance (start pattern settings)).pattern.Agrees
      ((front.foldl advance (start pattern settings)).trail.enter name).position := by
    rw [pattern_foldl_advance, trail_foldl_advance, ← Position.compatible_iff, Bool.not_eq_true]
    exact unreached
  have tells := tells_runFrom (start pattern settings) answers unmet 0
  have otherTells := tells_runFrom (start pattern settings) otherAnswers otherUnmet 0
  have same := verdict_append_congr
    ((verdict_element disagrees balanced attributes tag rest).trans
      (verdict_element disagrees otherBalanced otherAttributes otherTag rest).symm)
  rw [same] at tells
  exact tells.sameButPosition otherTells

/-- Two children called `a`, of which the second one matches, and between them an element with
these attributes and this body. -/
def between (attributes : List (String × String)) (body : List Event) : List Event :=
  [.documentStart, .elementStart "r" [], .elementStart "a" [], .elementEnd "a"] ++
    .elementStart "x" attributes ::
      (body ++ .elementEnd "x" ::
        [.elementStart "a" [], .text "two", .elementEnd "a", .elementEnd "r"])

theorem sameButPosition_between :
    let body : List Event :=
      [.text "one", .elementStart "a" [], .elementStart "a" [("k", "2")], .elementEnd "z",
        .documentStart, .elementEnd "a"]
    let pattern : Pattern := ⟨[.every "r", .only "a" 2]⟩
    let replies := (between [("k", "1")] body).map fun event => (⟨7, .ok event, false⟩ : Reply)
    let others := (between [] []).map fun event => (⟨3, .ok event, false⟩ : Reply)
    SameButPosition ((start pattern .standard).run .ignored replies).outcome
      ((start pattern .standard).run .ignored others).outcome := by
  intro body pattern replies others
  have unreached : (([.documentStart, .elementStart "r" [], .elementStart "a" [],
      .elementEnd "a"].foldl Trail.follow .fresh).enter "x").position.compatible pattern =
        false := by decide
  have balanced : Event.Balanced body := by decide
  have empty : Event.Balanced [] := by decide
  have answers : replies.map (·.answer) = (between [("k", "1")] body).map .ok := rfl
  have otherAnswers : others.map (·.answer) = (between [] []).map .ok := rfl
  exact sameButPosition_unreached pattern .standard unreached balanced empty _ _ _ _ _
    answers otherAnswers (.inl rfl) (.inl rfl)

end Extraction

end XmlExtract
