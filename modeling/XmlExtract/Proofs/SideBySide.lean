import XmlExtract.Proofs.RunCapture

/-!
# Runs side by side

Two extractions that take replies in pairs can be compared step by step.  If paired
events are refused together, are the last ones together, and lead to states that can be
compared again, then the two runs come to the same verdict: both end well, or both
blame the same position (`Keeps.agree_runFrom`).

Two comparisons are made in this way.  Runs of different patterns over events of the
same kind have the same verdict (`Level.keeps`), because what is refused depends on
how many elements are open and on whether there has been a root.  Runs over events that
differ in the names of end tags have the same capture too (`keeps_eq_sameButEnds`).
-/

namespace XmlExtract

/-! ### Verdicts -/

/-- Two outcomes agree: two values that are related, two malformations at the same
position, or the same failure. -/
inductive Agree {α : Type} (related : α → α → Prop) :
    Except Error α → Except Error α → Prop
  | done {value other : α} (values : related value other) :
      Agree related (.ok value) (.ok other)
  | refused (position : Nat) (cause otherCause : Malformation) :
      Agree related (.error (.malformed position cause))
        (.error (.malformed position otherCause))
  | failed (error : Error) : Agree related (.error error) (.error error)

theorem Agree.exists_ok {α : Type} {related : α → α → Prop} {outcome other : Except Error α}
    (agree : Agree related outcome other) {value : α} (ended : outcome = .ok value) :
    ∃ otherValue, other = .ok otherValue ∧ related value otherValue := by
  cases agree with
  | done values =>
      cases ended
      exact ⟨_, rfl, values⟩
  | refused position cause otherCause => contradiction
  | failed error => contradiction

/-! ### Replies in pairs -/

/-- Two answers are the same failure, or paired events. -/
inductive AnswersPaired (paired : Event → Event → Prop) :
    Except Error Event → Except Error Event → Prop
  | event {event other : Event} (events : paired event other) :
      AnswersPaired paired (.ok event) (.ok other)
  | failure (error : Error) : AnswersPaired paired (.error error) (.error error)

/-- Two replies that differ in nothing but their events, which are paired. -/
structure Reply.Paired (paired : Event → Event → Prop) (reply other : Reply) : Prop where
  position : reply.position = other.position
  stopRaised : reply.stopRaised = other.stopRaised
  answers : AnswersPaired paired reply.answer other.answer

theorem Reply.paired_refl {paired : Event → Event → Prop} (refl : ∀ event, paired event event)
    (reply : Reply) : reply.Paired paired reply where
  position := rfl
  stopRaised := rfl
  answers := by
    cases reply.answer with
    | error error => exact .failure error
    | ok event => exact .event (refl event)

/-! ### Kinds of events -/

namespace Event

/-- Two events of the same kind. -/
inductive Alike : Event → Event → Prop
  | documentStart : Alike .documentStart .documentStart
  | elementStart (name other : String) (attributes others : List (String × String)) :
      Alike (.elementStart name attributes) (.elementStart other others)
  | elementEnd (name other : String) : Alike (.elementEnd name) (.elementEnd other)
  | text (content other : String) : Alike (.text content) (.text other)
  | documentEnd : Alike .documentEnd .documentEnd

theorem alike_refl (event : Event) : event.Alike event := by
  cases event <;> constructor

/-- Two events that differ in nothing but the name of an end tag. -/
inductive SameButEnds : Event → Event → Prop
  | same (event : Event) : SameButEnds event event
  | elementEnd (name other : String) : SameButEnds (.elementEnd name) (.elementEnd other)

end Event

/-! ### How many elements are open -/

namespace Trail

theorem last?_eq_none_iff (trail : Trail) :
    trail.position.last? = none ↔ trail.depth = 0 := by
  rw [Position.last?, List.getLast?_eq_none_iff, ← length_places,
    List.length_eq_zero_iff]

theorem depth_follow_end (trail : Trail) (name : String) :
    (trail.follow (.elementEnd name)).depth = trail.depth - 1 := by
  cases left : trail.leave? with
  | none =>
      have outside := (leave?_eq_none_iff trail).mp left
      simp only [follow, left]
      omega
  | some answer =>
      have deeper := depth_leave left
      simp only [follow, left]
      omega

end Trail

/-! ### One step of two extractions -/

namespace Extraction

/-- One step keeps two extractions comparable: `beside` compares them, and events come in
pairs. -/
structure Keeps (beside : Extraction → Extraction → Prop) (paired : Event → Event → Prop)
    (related : Capture → Capture → Prop) : Prop where
  refusal {extraction other : Extraction} {event otherEvent : Event} :
    beside extraction other → paired event otherEvent →
      (extraction.refusal? event = none ↔ other.refusal? otherEvent = none)
  progress {extraction other : Extraction} {event otherEvent : Event} :
    beside extraction other → paired event otherEvent →
      other.progressAfter otherEvent = extraction.progressAfter event
  advance {extraction other : Extraction} {event otherEvent : Event} :
    beside extraction other → paired event otherEvent →
      beside (extraction.advance event) (other.advance otherEvent)
  captures {extraction other : Extraction} :
    beside extraction other → related extraction.capture other.capture
  ending : paired .documentEnd .documentEnd

variable {beside : Extraction → Extraction → Prop} {paired : Event → Event → Prop}
  {related : Capture → Capture → Prop} {extraction other : Extraction}

/-- Comparable extractions hear paired events, or they refuse paired events together, or
the same failure keeps both from hearing one. -/
theorem Keeps.agree_hear (keeps : Keeps beside paired related)
    (compared : beside extraction other) {reply otherReply : Reply}
    (replies : reply.Paired paired otherReply) (stop : StopRequest) :
    Agree paired (extraction.hear stop reply) (other.hear stop otherReply) := by
  obtain ⟨position, answer, stopRaised⟩ := reply
  obtain ⟨otherPosition, otherAnswer, otherRaised⟩ := otherReply
  obtain ⟨samePosition, sameRaised, answers⟩ := replies
  dsimp only at samePosition sameRaised answers
  subst samePosition sameRaised
  unfold hear
  cases stopped : (stop.raiseIf stopRaised).stops with
  | true => exact .failed .cancelled
  | false =>
      cases answers with
      | failure error => exact .failed error
      | @event event otherEvent events =>
          have together := keeps.refusal compared events
          simp only [Bool.false_eq_true, if_false]
          cases refused : extraction.refusal? event with
          | none =>
              rw [together.mp refused]
              exact .done events
          | some cause =>
              cases otherRefused : other.refusal? otherEvent with
              | none =>
                  rw [together.mpr otherRefused] at refused
                  contradiction
              | some otherCause => exact .refused position cause otherCause

/-! ### Whole runs -/

/-- Comparable extractions come to outcomes that agree, whatever paired replies they run
over. -/
theorem Keeps.agree_runFrom (keeps : Keeps beside paired related)
    (compared : beside extraction other) (stop : StopRequest) (position : Nat)
    {replies others : List Reply} (pairs : List.Forall₂ (Reply.Paired paired) replies others) :
    Agree related (extraction.runFrom stop position replies).outcome
      (other.runFrom stop position others).outcome := by
  induction pairs generalizing extraction other stop position with
  | nil =>
      have ending : Reply.Paired paired ⟨position, .ok .documentEnd, false⟩
          ⟨position, .ok .documentEnd, false⟩ := ⟨rfl, rfl, .event keeps.ending⟩
      rw [outcome_runFrom_nil, outcome_runFrom_nil]
      have heard := keeps.agree_hear compared ending stop
      generalize extraction.hear stop _ = hearing at heard ⊢
      generalize other.hear stop _ = otherHearing at heard ⊢
      cases heard with
      | done events => exact .done (keeps.captures compared)
      | refused position cause otherCause => exact .refused position cause otherCause
      | failed error => exact .failed error
  | @cons reply otherReply later others first rest ih =>
      rw [outcome_runFrom_cons, outcome_runFrom_cons]
      have heard := keeps.agree_hear compared first stop
      generalize extraction.hear stop reply = hearing at heard ⊢
      generalize other.hear stop otherReply = otherHearing at heard ⊢
      cases heard with
      | @done event otherEvent events =>
          have further := keeps.advance compared events
          simp only [keeps.progress compared events]
          cases extraction.progressAfter event with
          | finish => exact .done (keeps.captures further)
          | proceed =>
              rw [← first.stopRaised, ← first.position]
              exact ih further _ _
      | refused position cause otherCause => exact .refused position cause otherCause
      | failed error => exact .failed error

/-! ### Different patterns over events of the same kind -/

/-- Two extractions have as many elements open and agree on whether there has been a
root, and neither stops early. -/
structure Level (extraction other : Extraction) : Prop where
  depth : other.trail.depth = extraction.trail.depth
  hadRoot : other.hadRoot = extraction.hadRoot
  full : extraction.stopsEarly = false
  otherFull : other.stopsEarly = false

theorem level_start {settings otherSettings : Settings} (full : settings.stopsEarly = false)
    (otherFull : otherSettings.stopsEarly = false) (pattern otherPattern : Pattern) :
    Level (start pattern settings) (start otherPattern otherSettings) where
  depth := rfl
  hadRoot := rfl
  full := full
  otherFull := otherFull

/-- What is refused, in numbers: an end or the end of the document by how many elements
are open, a start by whether it would be a second root. -/
theorem refusal?_eq_none_iff (extraction : Extraction) (event : Event) :
    extraction.refusal? event = none ↔
      match event with
      | .elementStart _ _ => ¬ (extraction.trail.depth = 0 ∧ extraction.hadRoot = true)
      | .elementEnd _ => extraction.trail.depth ≠ 0
      | .documentEnd => extraction.trail.depth = 0 ∧ extraction.hadRoot = true
      | .documentStart | .text _ => True := by
  cases event with
  | elementStart name attributes => simp [refusal?]
  | elementEnd name => simp [refusal?]
  | documentEnd =>
      rw [← Trail.last?_eq_none_iff, refusal?]
      cases extraction.trail.position.last? <;> simp
  | documentStart | text content => simp [refusal?]

/-- Events of the same kind keep extractions level. -/
theorem Level.keeps : Keeps Level Event.Alike fun _ _ => True where
  refusal level alike := by
    cases alike <;> simp [refusal?_eq_none_iff, level.depth, level.hadRoot]
  progress level alike := by
    cases alike <;> simp [progressAfter, level.full, level.otherFull]
  advance level alike :=
    { depth := by
        rw [trail_advance, trail_advance]
        cases alike with
        | elementStart name other attributes others => simp [Trail.follow, level.depth]
        | elementEnd name other => rw [Trail.depth_follow_end, Trail.depth_follow_end, level.depth]
        | documentStart | text content other | documentEnd => exact level.depth
      hadRoot := by
        cases alike <;> simp [Extraction.advance, Event.isStart, level.hadRoot]
      full := level.full
      otherFull := level.otherFull }
  captures _ := trivial
  ending := .documentEnd

/-! ### Different names in end tags -/

/-- The name of an end tag changes nothing but the message of a refusal. -/
theorem keeps_eq_sameButEnds : Keeps Eq Event.SameButEnds Eq where
  refusal same events := by
    subst same
    cases events <;> simp [refusal?_eq_none_iff]
  progress same events := by
    subst same
    cases events <;> rfl
  advance same events := by
    subst same
    cases events <;> rfl
  captures same := congrArg capture same
  ending := .same _

end Extraction

end XmlExtract
