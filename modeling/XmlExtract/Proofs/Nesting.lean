import Mathlib.Data.List.Infix
import XmlExtract.Proofs.SideBySide

/-!
# The sequences of events that make a document

Whether a run ends well is a question of counting.  A sequence of events is
*single-rooted* if no element ends before it has started, all of them end, and exactly
one starts while nothing is open.  An extraction that does not stop early ends well over
single-rooted sequences and over no others, and if it fails, it blames the first event
that breaks the nesting (`outcome_singleRooted`).

The invariant of a run says what the extraction knows of the events that it has taken:
how many elements are open, and whether there has been a root (`HasTaken`).  With it, an
event is refused exactly when it breaks the nesting (`HasTaken.refusal?_eq_none_iff`).
-/

namespace XmlExtract

/-! ### Counting starts and ends -/

namespace Event

/-- How many elements start. -/
def starts (events : List Event) : Nat := events.countP isStart

/-- How many elements end. -/
def ends (events : List Event) : Nat := events.countP isEnd

theorem starts_cons (event : Event) (events : List Event) :
    starts (event :: events) = starts [event] + starts events := by
  rw [starts, starts, starts, ← List.countP_append, List.singleton_append]

theorem ends_cons (event : Event) (events : List Event) :
    ends (event :: events) = ends [event] + ends events := by
  rw [ends, ends, ends, ← List.countP_append, List.singleton_append]

/-- An element starts at an index while nothing is open. -/
def StartsRoot (events : List Event) (index : Nat) : Prop :=
  (∃ name attributes, events[index]? = some (.elementStart name attributes)) ∧
    starts (events.take index) = ends (events.take index)

/-- Elements end after they have started, all of them end, and exactly one of them starts
while nothing is open. -/
structure SingleRooted (events : List Event) : Prop where
  nested : ∀ before, before <+: events → ends before ≤ starts before
  closed : starts events = ends events
  rooted : ∃! index, StartsRoot events index

/-- An event breaks the nesting after other events: an end while nothing is open, the
start of a second root, or the end of the document while an element is open or before
there has been a root. -/
inductive Breaks (before : List Event) : Event → Prop
  | endOutside (outside : starts before = ends before) (name : String) :
      Breaks before (.elementEnd name)
  | secondRoot (outside : starts before = ends before) (rooted : 0 < starts before)
      (name : String) (attributes : List (String × String)) :
      Breaks before (.elementStart name attributes)
  | unclosed (inside : ends before < starts before) : Breaks before .documentEnd
  | rootless (startless : starts before = 0) : Breaks before .documentEnd

/-- After the events `taken`, none of these events breaks the nesting. -/
def Unbroken (taken events : List Event) : Prop :=
  ∀ before event, before ++ [event] <+: events → ¬ Breaks (taken ++ before) event

theorem unbroken_nil (taken : List Event) : Unbroken taken [] := by
  intro before event inside
  simp at inside

theorem unbroken_cons {taken : List Event} {event : Event} {later : List Event}
    (keeps : ¬ Breaks taken event) (rest : Unbroken (taken ++ [event]) later) :
    Unbroken taken (event :: later) := by
  rintro (_ | ⟨first, before⟩) next inside
  · obtain ⟨rfl, -⟩ := List.cons_prefix_cons.mp inside
    simpa using keeps
  · obtain ⟨rfl, within⟩ := List.cons_prefix_cons.mp inside
    have later := rest before next within
    rwa [List.append_assoc, List.singleton_append] at later

/-- The first element of a sequence that starts any. -/
theorem exists_first_start {events : List Event} (some : 0 < starts events) :
    ∃ index name attributes, events[index]? = .some (.elementStart name attributes) ∧
      starts (events.take index) = 0 := by
  induction events with
  | nil => simp [starts] at some
  | cons event later ih =>
      cases event with
      | elementStart name attributes => exact ⟨0, name, attributes, rfl, rfl⟩
      | documentStart | elementEnd name | text content | documentEnd =>
          obtain ⟨index, name, attributes, found, startless⟩ := ih some
          exact ⟨index + 1, name, attributes, found, startless⟩

theorem exists_startsRoot {events : List Event}
    (nested : ∀ before, before <+: events → ends before ≤ starts before)
    (some : 0 < starts events) :
    ∃ index, StartsRoot events index ∧ starts (events.take index) = 0 := by
  obtain ⟨index, name, attributes, found, startless⟩ := exists_first_start some
  have endless := nested _ (List.take_prefix index events)
  exact ⟨index, ⟨⟨name, attributes, found⟩, by omega⟩, startless⟩

theorem starts_take_pos {events : List Event} {index : Nat} {name : String}
    {attributes : List (String × String)} {count : Nat}
    (found : events[index]? = some (.elementStart name attributes)) (later : index < count) :
    0 < starts (events.take count) := by
  rw [starts, List.countP_pos_iff]
  refine ⟨.elementStart name attributes, ?_, rfl⟩
  apply List.mem_of_getElem? (i := index)
  rwa [List.getElem?_take_of_lt later]

theorem isPrefix_take_concat {events : List Event} {index : Nat} {event : Event}
    (found : events[index]? = some event) : events.take index ++ [event] <+: events := by
  have longer := List.take_prefix (index + 1) events
  rwa [List.take_add_one, found] at longer

/-! ### Single roots -/

variable {events : List Event}

theorem nested_of_unbroken (unbroken : Unbroken [] events) :
    ∀ before, before <+: events → ends before ≤ starts before := by
  intro before inside
  induction before using List.reverseRecOn with
  | nil => exact Nat.le_refl _
  | append_singleton before event ih =>
      have outer := ih ((List.prefix_append _ _).trans inside)
      cases event with
      | elementEnd name =>
          have opened : starts before ≠ ends before :=
            fun outside => unbroken before _ inside (.endOutside outside name)
          simp only [starts, ends, List.countP_append, List.countP_singleton, isStart, isEnd]
            at outer opened ⊢
          simp only [Bool.false_eq_true, if_false, if_true]
          omega
      | elementStart name attributes =>
          simp only [starts, ends, List.countP_append, List.countP_singleton, isStart, isEnd]
            at outer ⊢
          simp only [Bool.false_eq_true, if_false, if_true]
          omega
      | documentStart | text content | documentEnd =>
          simpa [starts, ends, List.countP_append, isStart, isEnd] using outer

/-- Two roots break the nesting at the second of them. -/
theorem not_startsRoot_of_lt (unbroken : Unbroken [] events) {index later : Nat}
    (first : StartsRoot events index) (smaller : index < later) :
    ¬ StartsRoot events later := by
  rintro ⟨⟨name, attributes, found⟩, outside⟩
  obtain ⟨⟨firstName, firstAttributes, firstFound⟩, -⟩ := first
  exact unbroken _ _ (isPrefix_take_concat found)
    (.secondRoot outside (starts_take_pos firstFound smaller) name attributes)

theorem singleRooted_of_unbroken (unbroken : Unbroken [] (events ++ [.documentEnd])) :
    SingleRooted events := by
  have inner : Unbroken [] events :=
    fun before event inside => unbroken before event (inside.trans (List.prefix_append _ _))
  have nested := nested_of_unbroken inner
  have ending : ¬ Breaks events .documentEnd := unbroken events .documentEnd List.prefix_rfl
  have some : 0 < starts events :=
    Nat.pos_of_ne_zero fun startless => ending (.rootless startless)
  have closed : starts events = ends events := by
    have atMost := nested events List.prefix_rfl
    have atLeast : ¬ ends events < starts events := fun inside => ending (.unclosed inside)
    omega
  obtain ⟨index, root, -⟩ := exists_startsRoot nested some
  refine ⟨nested, closed, index, root, fun other otherRoot => ?_⟩
  rcases Nat.lt_trichotomy other index with smaller | same | larger
  · exact absurd root (not_startsRoot_of_lt inner otherRoot smaller)
  · exact same
  · exact absurd otherRoot (not_startsRoot_of_lt inner root larger)

theorem SingleRooted.starts_pos (single : SingleRooted events) : 0 < starts events := by
  obtain ⟨index, ⟨⟨name, attributes, found⟩, -⟩, -⟩ := single.rooted
  rw [starts, List.countP_pos_iff]
  exact ⟨_, List.mem_of_getElem? found, rfl⟩

theorem SingleRooted.unbroken (single : SingleRooted events)
    (unfinished : Event.documentEnd ∉ events) :
    Unbroken [] (events ++ [.documentEnd]) := by
  intro before event inside breaks
  rw [List.nil_append] at breaks
  rcases List.prefix_concat_iff.mp inside with whole | within
  · -- The end of the document comes when all that has started has ended.
    obtain ⟨rfl, last⟩ := List.append_inj' whole rfl
    rw [List.singleton_inj] at last
    subst last
    have closed := single.closed
    have some := single.starts_pos
    cases breaks <;> omega
  · cases breaks with
    | endOutside outside name =>
        have nested := single.nested _ within
        simp [starts, ends, List.countP_append, isStart, isEnd] at nested outside
        omega
    | secondRoot outside rooted name attributes =>
        -- There is a root before this one, and both are the only one.
        have above : before <+: events := (List.prefix_append _ _).trans within
        have nested : ∀ first, first <+: before → ends first ≤ starts first :=
          fun first inner => single.nested first (inner.trans above)
        obtain ⟨index, ⟨⟨firstName, firstAttributes, found⟩, firstOutside⟩, -⟩ :=
          exists_startsRoot nested rooted
        have smaller : index < before.length := (List.getElem?_eq_some_iff.mp found).1
        obtain ⟨after, rfl⟩ := within
        have firstRoot : StartsRoot (before ++ [.elementStart name attributes] ++ after) index := by
          refine ⟨⟨firstName, firstAttributes, ?_⟩, ?_⟩
          · rw [List.append_assoc, List.getElem?_append_left smaller]
            exact found
          · rw [List.append_assoc, List.take_append_of_le_length (Nat.le_of_lt smaller)]
            exact firstOutside
        have secondRoot :
            StartsRoot (before ++ [.elementStart name attributes] ++ after) before.length := by
          refine ⟨⟨name, attributes, ?_⟩, ?_⟩
          · simp
          · rw [List.append_assoc, List.take_left]
            exact outside
        have same := single.rooted.unique firstRoot secondRoot
        omega
    | unclosed inside =>
        exact unfinished (within.subset (by simp))
    | rootless startless =>
        exact unfinished (within.subset (by simp))

/-- The events of a document are single-rooted exactly when neither they nor the end of the
document after them breaks the nesting. -/
theorem singleRooted_iff_unbroken (unfinished : Event.documentEnd ∉ events) :
    SingleRooted events ↔ Unbroken [] (events ++ [.documentEnd]) :=
  ⟨fun single => single.unbroken unfinished, singleRooted_of_unbroken⟩

end Event

/-! ### Courses of events -/

/-- The events of successful replies with their positions, up to the end of the document.
When the replies run out, the document ends at the position of the last of them. -/
def Reply.course (position : Nat) : List Reply → List (Nat × Event)
  | [] => [(position, .documentEnd)]
  | reply :: later =>
      match reply.answer with
      | .error _ => []
      | .ok .documentEnd => [(reply.position, .documentEnd)]
      | .ok event => (reply.position, event) :: course reply.position later

/-- After the events `taken`, a course of events breaks the nesting at a position, and
not before. -/
def Event.FirstBreak (taken : List Event) (course : List (Nat × Event)) (position : Nat) :
    Prop :=
  ∃ before event after, course = before ++ (position, event) :: after ∧
    Unbroken taken (before.map Prod.snd) ∧ Breaks (taken ++ before.map Prod.snd) event

namespace Event

theorem firstBreak_here {taken : List Event} {event : Event} (breaks : Breaks taken event)
    (position : Nat) (after : List (Nat × Event)) :
    FirstBreak taken ((position, event) :: after) position :=
  ⟨[], event, after, rfl, unbroken_nil taken, by simpa using breaks⟩

theorem FirstBreak.not_unbroken {taken : List Event} {course : List (Nat × Event)}
    {position : Nat} (broken : FirstBreak taken course position) :
    ¬ Unbroken taken (course.map Prod.snd) := by
  obtain ⟨before, event, after, rfl, -, breaks⟩ := broken
  intro unbroken
  exact unbroken (before.map Prod.snd) event ⟨after.map Prod.snd, by simp⟩ breaks

theorem FirstBreak.cons {taken : List Event} {event : Event} {course : List (Nat × Event)}
    {place : Nat} (keeps : ¬ Breaks taken event)
    (later : FirstBreak (taken ++ [event]) course place) (position : Nat) :
    FirstBreak taken ((position, event) :: course) place := by
  obtain ⟨before, next, after, rfl, unbroken, breaks⟩ := later
  refine ⟨(position, event) :: before, next, after, rfl, unbroken_cons keeps unbroken, ?_⟩
  rwa [List.append_assoc, List.singleton_append] at breaks

end Event

namespace Reply

theorem course_cons {reply : Reply} {event : Event} (answer : reply.answer = .ok event)
    (unfinished : event ≠ .documentEnd) (position : Nat) (later : List Reply) :
    course position (reply :: later) =
      (reply.position, event) :: course reply.position later := by
  cases event with
  | documentEnd => contradiction
  | documentStart | elementStart name attributes | elementEnd name | text content =>
      simp [course, answer]

theorem exists_course_eq_cons {reply : Reply} {event : Event}
    (answer : reply.answer = .ok event) (position : Nat) (later : List Reply) :
    ∃ after, course position (reply :: later) = (reply.position, event) :: after := by
  by_cases last : event = .documentEnd
  · subst last
    exact ⟨[], by simp [course, answer]⟩
  · exact ⟨_, course_cons answer last position later⟩

theorem documentEnd_not_mem_events (replies : List Reply) :
    Event.documentEnd ∉ Reply.events replies := by
  induction replies with
  | nil => simp [Reply.events]
  | cons reply later ih =>
      unfold Reply.events
      split
      · simp
      · simp
      · rename_i event different answer
        rw [List.mem_cons, not_or]
        exact ⟨fun same => different same.symm, ih⟩

/-- The course of successful replies ends with the end of the document. -/
theorem map_course {replies : List Reply}
    (successful : ∀ reply ∈ replies, ∃ event, reply.answer = .ok event) (position : Nat) :
    (course position replies).map Prod.snd = Reply.events replies ++ [.documentEnd] := by
  induction replies generalizing position with
  | nil => rfl
  | cons reply later ih =>
      rw [List.forall_mem_cons] at successful
      obtain ⟨⟨event, answer⟩, rest⟩ := successful
      cases event with
      | documentEnd => simp [course, Reply.events, answer]
      | documentStart | elementStart name attributes | elementEnd name | text content =>
          simp [course, Reply.events, answer, ih rest]

end Reply

/-! ### Requests to stop -/

/-- A request to stop does not stop a run over these replies: it is not heeded, or it is not
made by the last of them. -/
def StopRequest.Unmet (stop : StopRequest) (replies : List Reply) : Prop :=
  stop.heeded = false ∨ stop.raised = false ∧ ∀ reply ∈ replies, reply.stopRaised = false

namespace StopRequest.Unmet

variable {stop : StopRequest} {reply : Reply} {later : List Reply}

theorem not_stops (unmet : stop.Unmet later) : (stop.raiseIf false).stops = false := by
  rcases unmet with unheeded | ⟨unraised, -⟩
  · exact Extraction.not_stops_raiseIf unheeded false
  · simp [raiseIf, stops, unraised]

theorem tail (unmet : stop.Unmet (reply :: later)) :
    (stop.raiseIf reply.stopRaised).Unmet later := by
  rcases unmet with unheeded | ⟨unraised, quiet⟩
  · exact .inl unheeded
  · rw [List.forall_mem_cons] at quiet
    refine .inr ⟨?_, quiet.2⟩
    rw [raiseIf, unraised, quiet.1]
    rfl

theorem head_not_stops (unmet : stop.Unmet (reply :: later)) :
    (stop.raiseIf reply.stopRaised).stops = false := by
  have running := unmet.tail.not_stops
  rwa [raiseIf, Bool.or_false] at running

end StopRequest.Unmet

/-! ### What an extraction knows of the events it has taken -/

namespace Extraction

/-- An extraction has taken these events: so many elements are open, and there has been a
root if one has started. -/
structure HasTaken (extraction : Extraction) (events : List Event) : Prop where
  depth : extraction.trail.depth + Event.ends events = Event.starts events
  hadRoot : extraction.hadRoot = true ↔ 0 < Event.starts events

variable {extraction : Extraction} {taken : List Event}

theorem hasTaken_start (pattern : Pattern) (settings : Settings) :
    (start pattern settings).HasTaken [] where
  depth := rfl
  hadRoot := by simp [start, Event.starts]

/-- An event is refused exactly when it breaks the nesting. -/
theorem HasTaken.refusal?_eq_none_iff (known : extraction.HasTaken taken) (event : Event) :
    extraction.refusal? event = none ↔ ¬ Event.Breaks taken event := by
  have depth := known.depth
  rw [Extraction.refusal?_eq_none_iff]
  cases event with
  | documentStart | text content =>
      refine ⟨fun _ breaks => ?_, fun _ => trivial⟩
      cases breaks
  | elementStart name attributes =>
      rw [known.hadRoot, not_iff_not]
      constructor
      · rintro ⟨outside, rooted⟩
        exact .secondRoot (by omega) rooted name attributes
      · rintro (_ | ⟨outside, rooted⟩)
        exact ⟨by omega, rooted⟩
  | elementEnd name =>
      rw [ne_eq, not_iff_not]
      constructor
      · intro outside
        exact .endOutside (by omega) name
      · rintro ⟨outside⟩
        omega
  | documentEnd =>
      rw [known.hadRoot]
      constructor
      · rintro ⟨closed, rooted⟩ (_ | _ | inside | startless) <;> omega
      · intro whole
        have rooted : ¬ Event.starts taken = 0 := fun startless => whole (.rootless startless)
        have closed : ¬ Event.ends taken < Event.starts taken :=
          fun inside => whole (.unclosed inside)
        omega

theorem HasTaken.breaks_of_refusal? (known : extraction.HasTaken taken) {event : Event}
    {cause : Malformation} (refused : extraction.refusal? event = some cause) :
    Event.Breaks taken event := by
  by_contra keeps
  rw [(known.refusal?_eq_none_iff event).mpr keeps] at refused
  contradiction

theorem HasTaken.advance (known : extraction.HasTaken taken) {event : Event}
    (accepted : extraction.refusal? event = none) :
    (extraction.advance event).HasTaken (taken ++ [event]) where
  depth := by
    have depth := known.depth
    rw [trail_advance]
    simp only [Event.starts, Event.ends, List.countP_append, List.countP_singleton] at depth ⊢
    cases event with
    | elementStart name attributes =>
        simp only [Trail.follow, Trail.depth_enter, Event.isStart, Event.isEnd]
        simp only [Bool.false_eq_true, if_false, if_true]
        omega
    | elementEnd name =>
        have opened := (Extraction.refusal?_eq_none_iff extraction _).mp accepted
        simp only [Trail.depth_follow_end, Event.isStart, Event.isEnd]
        simp only [Bool.false_eq_true, if_false, if_true]
        omega
    | documentStart | text content | documentEnd => exact depth
  hadRoot := by
    have hadRoot := known.hadRoot
    simp only [Extraction.advance, Bool.or_eq_true, hadRoot, Event.starts, List.countP_append,
      List.countP_singleton]
    cases event.isStart <;> simp

/-! ### Whole runs -/

/-- Nothing but a refusal keeps an extraction from hearing a successful reply. -/
theorem hear_of_ok {stop : StopRequest} {reply : Reply} {event : Event}
    (running : (stop.raiseIf reply.stopRaised).stops = false) (answer : reply.answer = .ok event) :
    extraction.hear stop reply =
      match extraction.refusal? event with
      | some cause => .error (.malformed reply.position cause)
      | none => .ok event := by
  rw [hear, running, answer]
  cases refused : extraction.refusal? event <;> simp [refused]

/-- A run over successful replies that does not stop early ends well if none of the events
breaks the nesting, and otherwise it blames the first that does. -/
theorem outcome_of_hasTaken (known : extraction.HasTaken taken)
    (full : extraction.stopsEarly = false) {stop : StopRequest} {replies : List Reply}
    (unmet : stop.Unmet replies)
    (successful : ∀ reply ∈ replies, ∃ event, reply.answer = .ok event) (position : Nat) :
    (Event.Unbroken taken ((Reply.course position replies).map Prod.snd) ∧
        ∃ capture, (extraction.runFrom stop position replies).outcome = .ok capture) ∨
      ∃ place cause, Event.FirstBreak taken (Reply.course position replies) place ∧
        (extraction.runFrom stop position replies).outcome =
          .error (.malformed place cause) := by
  induction replies generalizing extraction taken stop position with
  | nil =>
      have answer : (⟨position, .ok .documentEnd, false⟩ : Reply).answer = .ok .documentEnd := rfl
      rw [outcome_runFrom_nil, hear_of_ok unmet.not_stops answer]
      cases refused : extraction.refusal? .documentEnd with
      | none =>
          have keeps := (known.refusal?_eq_none_iff _).mp refused
          exact .inl ⟨Event.unbroken_cons keeps (Event.unbroken_nil _), _, rfl⟩
      | some cause =>
          have breaks := known.breaks_of_refusal? refused
          exact .inr ⟨position, cause, Event.firstBreak_here breaks position [], rfl⟩
  | cons reply later ih =>
      rw [List.forall_mem_cons] at successful
      obtain ⟨⟨event, answer⟩, rest⟩ := successful
      rw [outcome_runFrom_cons, hear_of_ok unmet.head_not_stops answer]
      cases refused : extraction.refusal? event with
      | some cause =>
          have breaks := known.breaks_of_refusal? refused
          obtain ⟨after, course⟩ := Reply.exists_course_eq_cons answer position later
          rw [course]
          exact .inr ⟨_, cause, Event.firstBreak_here breaks _ after, rfl⟩
      | none =>
          have keeps := (known.refusal?_eq_none_iff _).mp refused
          by_cases last : event = .documentEnd
          · subst last
            left
            simp only [Reply.course, answer]
            exact ⟨Event.unbroken_cons keeps (Event.unbroken_nil _), _, rfl⟩
          · rw [Reply.course_cons answer last]
            simp only [progressAfter_eq_proceed full last]
            have fullLater : (extraction.advance event).stopsEarly = false := full
            rcases ih (known.advance refused) fullLater unmet.tail rest reply.position with
              ⟨unbroken, capture, ended⟩ | ⟨place, cause, broken, ended⟩
            · exact .inl ⟨Event.unbroken_cons keeps unbroken, capture, ended⟩
            · exact .inr ⟨place, cause, broken.cons keeps _, ended⟩

/-- A run over successful replies that does not stop early ends well over a single-rooted
sequence, and over any other it blames the first event that breaks the nesting. -/
theorem verdict_of_successful (pattern : Pattern) {settings : Settings}
    (full : settings.stopsEarly = false) {stop : StopRequest} {replies : List Reply}
    (unmet : stop.Unmet replies)
    (successful : ∀ reply ∈ replies, ∃ event, reply.answer = .ok event) :
    (Event.SingleRooted (Reply.events replies) ∧
        ∃ capture, ((start pattern settings).run stop replies).outcome = .ok capture) ∨
      ¬ Event.SingleRooted (Reply.events replies) ∧
        ∃ position cause, Event.FirstBreak [] (Reply.course 0 replies) position ∧
          ((start pattern settings).run stop replies).outcome =
            .error (.malformed position cause) := by
  have unfinished := Reply.documentEnd_not_mem_events replies
  rw [Event.singleRooted_iff_unbroken unfinished, ← Reply.map_course successful 0]
  rcases outcome_of_hasTaken (hasTaken_start pattern settings) full unmet successful 0 with
    whole | ⟨position, cause, broken, blamed⟩
  · exact .inl whole
  · exact .inr ⟨broken.not_unbroken, position, cause, broken, blamed⟩

/-- An extraction that does not stop early ends well over single-rooted sequences of events
and over no others; otherwise it blames the first event that breaks the nesting.  The names
of end tags matter neither to this verdict nor to what is captured, and the pattern, the
names of elements, their attributes and the text do not matter to the verdict. -/
theorem outcome_singleRooted (pattern : Pattern) {settings : Settings}
    (full : settings.stopsEarly = false) {stop : StopRequest} (replies : List Reply)
    (unmet : stop.Unmet replies)
    (successful : ∀ reply ∈ replies, ∃ event, reply.answer = .ok event) :
    let outcome := ((start pattern settings).run stop replies).outcome
    ((∃ capture, outcome = .ok capture) ↔ Event.SingleRooted (Reply.events replies)) ∧
      (¬ Event.SingleRooted (Reply.events replies) →
        ∃ position cause, Event.FirstBreak [] (Reply.course 0 replies) position ∧
          outcome = .error (.malformed position cause)) ∧
      (∀ renamed, List.Forall₂ (Reply.Paired Event.SameButEnds) replies renamed →
        Agree Eq outcome ((start pattern settings).run stop renamed).outcome) ∧
      ∀ otherPattern otherSettings others, otherSettings.stopsEarly = false →
        List.Forall₂ (Reply.Paired Event.Alike) replies others →
        Agree (fun _ _ => True) outcome
          ((start otherPattern otherSettings).run stop others).outcome := by
  intro outcome
  have verdict := verdict_of_successful pattern full unmet successful
  refine ⟨⟨?_, ?_⟩, ?_, ?_, ?_⟩
  · rintro ⟨capture, ended⟩
    rcases verdict with ⟨single, -⟩ | ⟨-, position, cause, -, blamed⟩
    · exact single
    · exact absurd (ended.symm.trans blamed) (by simp)
  · intro single
    rcases verdict with ⟨-, ended⟩ | ⟨broken, -⟩
    · exact ended
    · exact absurd single broken
  · intro broken
    rcases verdict with ⟨single, -⟩ | ⟨-, blamed⟩
    · exact absurd single broken
    · exact blamed
  · intro renamed pairs
    exact keeps_eq_sameButEnds.agree_runFrom rfl stop 0 pairs
  · intro otherPattern otherSettings others otherFull pairs
    have level := level_start full otherFull pattern otherPattern
    exact Level.keeps.agree_runFrom level stop 0 pairs

/-- Two elements side by side, of which the first ends under another name, and an end that
nobody comes to. -/
def twoRoots : List Reply :=
  [⟨0, .ok .documentStart, false⟩, ⟨0, .ok (.elementStart "a" []), false⟩,
    ⟨3, .ok (.elementEnd "x"), false⟩, ⟨7, .ok (.elementStart "b" []), false⟩,
    ⟨10, .ok (.elementEnd "b"), false⟩, ⟨14, .ok (.elementEnd "b"), false⟩]

theorem outcome_twoRoots :
    ∃ position cause, Event.FirstBreak [] (Reply.course 0 twoRoots) position ∧
      ((start .root { Settings.standard with stopsEarly := false }).run .ignored
        twoRoots).outcome = .error (.malformed position cause) := by
  have successful : ∀ reply ∈ twoRoots, ∃ event, reply.answer = .ok event := by
    simp [twoRoots]
  have two : ¬ Event.SingleRooted (Reply.events twoRoots) := by
    intro single
    have first : Event.StartsRoot (Reply.events twoRoots) 1 := ⟨⟨"a", [], rfl⟩, rfl⟩
    have second : Event.StartsRoot (Reply.events twoRoots) 3 := ⟨⟨"b", [], rfl⟩, rfl⟩
    exact absurd (single.rooted.unique first second) (by decide)
  exact (outcome_singleRooted .root rfl twoRoots (.inl rfl) successful).2.1 two

end Extraction

end XmlExtract
