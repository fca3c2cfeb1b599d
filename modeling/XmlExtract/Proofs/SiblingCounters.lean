import Mathlib.Logic.Function.Basic
import XmlExtract.Proofs.TrailHistory

/-!
# Counters that are never reset

A trail keeps one tally for each open element and drops it when the element ends.  The same
indices can be had without dropping anything, from one count for each position and each name
of a child there, which only ever grows.  The two give the same answers to the same requests
(`answers_eq_counters`).

They could differ only where an element starts and the trail begins a new tally, while the
counters may still know of earlier children at the same position.  They do not, because
counters know of children at spent positions only (`Mirrors.spent`), and the position of an
element that starts is not spent.
-/

namespace XmlExtract

/-- The current position, and how many children of each name have ever started at each
position. -/
structure SiblingCounters where
  position : Position
  counts : Position × String → Nat

namespace SiblingCounters

def fresh : SiblingCounters := ⟨.root, fun _ => 0⟩

def childCount (counters : SiblingCounters) (name : String) : Nat :=
  counters.counts (counters.position, name)

/-- An element starts and is counted under the position around it. -/
def enter (counters : SiblingCounters) (name : String) : SiblingCounters :=
  let index := counters.childCount name + 1
  ⟨⟨counters.position.places ++ [⟨name, index⟩]⟩,
    Function.update counters.counts (counters.position, name) index⟩

theorem counts_enter (counters : SiblingCounters) (name other : String) :
    (counters.enter name).counts (counters.position, other) =
      if other = name then counters.childCount name + 1 else counters.childCount other := by
  by_cases same : other = name <;> simp [enter, childCount, same]

theorem counts_enter_of_ne (counters : SiblingCounters) (name other : String)
    {position : Position} (elsewhere : position ≠ counters.position) :
    (counters.enter name).counts (position, other) = counters.counts (position, other) := by
  apply Function.update_of_ne
  simp [elsewhere]

/-- The innermost open element ends; what has been counted stays. -/
def leave? (counters : SiblingCounters) : Option (Place × SiblingCounters) :=
  counters.position.places.getLast?.map fun closed =>
    (closed, { counters with position := ⟨counters.position.places.dropLast⟩ })

end SiblingCounters

/-! ### Requests and answers -/

/-- A request to whoever keeps the position: an element starts, the innermost one ends, or
the number of children so far is asked for. -/
inductive Move where
  | enter (name : String)
  | leave
  | count (name : String)

inductive MoveAnswer where
  | entered (position : Position)
  | left (closed : Option Place)
  | counted (number : Nat)

namespace MoveAnswer

/-- The position that an element is given. -/
def position? : MoveAnswer → Option Position
  | entered position => some position
  | left _ | counted _ => none

end MoveAnswer

namespace Move

def events : Move → List Event
  | enter name => [.elementStart name []]
  | leave => [.elementEnd ""]
  | count _ => []

/-- The answers to requests one after the other, and the state after them. -/
def inTurn {State : Type} (answer : State → Move → MoveAnswer × State) (state : State) :
    List Move → List MoveAnswer × State
  | [] => ([], state)
  | move :: later =>
      let (first, next) := answer state move
      let (others, last) := inTurn answer next later
      (first :: others, last)

end Move

def Trail.answer (trail : Trail) : Move → MoveAnswer × Trail
  | .enter name => (.entered (trail.enter name).position, trail.enter name)
  | .leave =>
      match trail.leave? with
      | some (closed, outer) => (.left (some closed), outer)
      | none => (.left none, trail)
  | .count name => (.counted (trail.childCount name), trail)

def SiblingCounters.answer (counters : SiblingCounters) : Move → MoveAnswer × SiblingCounters
  | .enter name => (.entered (counters.enter name).position, counters.enter name)
  | .leave =>
      match counters.leave? with
      | some (closed, outer) => (.left (some closed), outer)
      | none => (.left none, counters)
  | .count name => (.counted (counters.childCount name), counters)

namespace Trail

variable {trail outer : Trail} {counters : SiblingCounters} {closed : Place}

/-! ### One request -/

/-- Counters and a trail are at the same position, and they count the same children on the
way there.  What else the counters know of is at spent positions. -/
structure Mirrors (trail : Trail) (counters : SiblingCounters) : Prop where
  sound : trail.Sound
  position : counters.position = trail.position
  counted : ∀ above, above <+: trail.position.places →
    ∀ name, counters.counts (⟨above⟩, name) = trail.countAt above.length name
  spent : ∀ position name, counters.counts (position, name) ≠ 0 → trail.Spent position

theorem mirrors_fresh : Mirrors fresh .fresh where
  sound := sound_fresh
  position := rfl
  counted above onTheWay name := by
    obtain rfl := List.prefix_nil.mp onTheWay
    rfl
  spent position name counted := absurd rfl counted

theorem Mirrors.childCount_eq (mirrors : trail.Mirrors counters) (name : String) :
    counters.childCount name = trail.childCount name := by
  have counted := mirrors.counted trail.position.places List.prefix_rfl name
  rw [length_places, countAt_depth] at counted
  rw [SiblingCounters.childCount, mirrors.position]
  exact counted

theorem Mirrors.position_enter (mirrors : trail.Mirrors counters) (name : String) :
    (counters.enter name).position = (trail.enter name).position := by
  have places := Trail.position_enter trail name
  rw [← mirrors.childCount_eq, ← mirrors.position] at places
  exact congrArg Position.mk places.symm

theorem position_enter_ne (trail : Trail) (name : String) :
    (trail.enter name).position ≠ trail.position := by
  intro same
  apply not_spent_enter trail name
  rw [same]
  exact spent_position trail

/-- Nothing has been counted at the position of an element that starts. -/
theorem Mirrors.counts_eq_zero (mirrors : trail.Mirrors counters) (name other : String) :
    counters.counts ((trail.enter name).position, other) = 0 := by
  by_contra counted
  exact not_spent_enter trail name (mirrors.spent _ _ counted)

theorem Mirrors.enter (mirrors : trail.Mirrors counters) (name : String) :
    (trail.enter name).Mirrors (counters.enter name) where
  sound := mirrors.sound.enter name
  position := mirrors.position_enter name
  counted above onTheWay other := by
    rw [Trail.position_enter] at onTheWay
    rcases List.prefix_concat_iff.mp onTheWay with rfl | outside
    · -- The element that starts has no children yet.
      have entered := Trail.position_enter trail name
      rw [← entered, SiblingCounters.counts_enter_of_ne, mirrors.counts_eq_zero, length_places,
        countAt_depth, childCount_enter]
      rw [mirrors.position]
      exact position_enter_ne trail name
    · rcases Nat.lt_or_eq_of_le (length_le_depth_of_above outside) with shorter | whole
      · rw [SiblingCounters.counts_enter_of_ne, mirrors.counted above outside,
          countAt_enter_of_lt trail name shorter]
        rw [mirrors.position]
        intro same
        have whole := length_places trail
        rw [← same] at whole
        exact Nat.ne_of_lt shorter whole
      · rw [← length_places] at whole
        obtain rfl := outside.eq_of_length whole
        have here : counters.position = ⟨trail.position.places⟩ := mirrors.position
        rw [← here, SiblingCounters.counts_enter, length_places, countAt_enter_depth mirrors.sound,
          mirrors.childCount_eq, mirrors.childCount_eq]
  spent position other counted := by
    by_cases here : position = trail.position
    · subst here
      exact (spent_position trail).enter mirrors.sound name
    · rw [SiblingCounters.counts_enter_of_ne] at counted
      · exact (mirrors.spent position other counted).enter mirrors.sound name
      · rwa [mirrors.position]

/-- When the innermost element ends, the counters go back with the trail. -/
theorem Mirrors.leave (mirrors : trail.Mirrors counters)
    (left : trail.leave? = some (closed, outer)) :
    ∃ back, counters.leave? = some (closed, back) ∧ outer.Mirrors back := by
  have places := position_leave left
  refine ⟨{ counters with position := outer.position }, ?_, ?_⟩
  · simp [SiblingCounters.leave?, mirrors.position, places]
  · refine ⟨mirrors.sound.leave left, rfl, ?_, ?_⟩
    · intro above onTheWay name
      have inside : above <+: trail.position.places := by
        rw [places]
        exact onTheWay.trans (List.prefix_append _ _)
      rw [countAt_leave left (length_le_depth_of_above onTheWay)]
      exact mirrors.counted above inside name
    · intro position name counted
      exact (mirrors.spent position name counted).leave mirrors.sound left

/-- While nothing is open, the counters have nothing to end either. -/
theorem Mirrors.leave_eq_none (mirrors : trail.Mirrors counters) (outside : trail.leave? = none) :
    counters.leave? = none := by
  rw [leave?_eq_none_iff, ← length_places, List.length_eq_zero_iff] at outside
  simp [SiblingCounters.leave?, mirrors.position, outside]

theorem Mirrors.answer (mirrors : trail.Mirrors counters) (move : Move) :
    (counters.answer move).1 = (trail.answer move).1 ∧
      (trail.answer move).2.Mirrors (counters.answer move).2 := by
  cases move with
  | enter name =>
      refine ⟨?_, mirrors.enter name⟩
      exact congrArg MoveAnswer.entered (mirrors.position_enter name)
  | leave =>
      unfold Trail.answer SiblingCounters.answer
      cases left : trail.leave? with
      | none =>
          rw [mirrors.leave_eq_none left]
          exact ⟨rfl, mirrors⟩
      | some found =>
          obtain ⟨closed, outer⟩ := found
          obtain ⟨back, leftToo, stillMirrors⟩ := mirrors.leave left
          rw [leftToo]
          exact ⟨rfl, stillMirrors⟩
  | count name => exact ⟨congrArg MoveAnswer.counted (mirrors.childCount_eq name), mirrors⟩

/-! ### Requests one after the other -/

theorem Mirrors.inTurn (mirrors : trail.Mirrors counters) (moves : List Move) :
    (Move.inTurn SiblingCounters.answer counters moves).1 =
        (Move.inTurn Trail.answer trail moves).1 ∧
      (Move.inTurn Trail.answer trail moves).2.Mirrors
        (Move.inTurn SiblingCounters.answer counters moves).2 := by
  induction moves generalizing trail counters with
  | nil => exact ⟨rfl, mirrors⟩
  | cons move later ih =>
      obtain ⟨same, next⟩ := mirrors.answer move
      obtain ⟨sameLater, last⟩ := ih next
      exact ⟨congrArg₂ List.cons same sameLater, last⟩

theorem position?_answer (trail : Trail) (move : Move) :
    [(trail.answer move).1].filterMap MoveAnswer.position? =
      (trail.started move.events).map (·.position) := by
  cases move with
  | enter name => rfl
  | leave =>
      unfold Trail.answer
      cases trail.leave? <;> rfl
  | count name => rfl

theorem answer_snd (trail : Trail) (move : Move) :
    (trail.answer move).2 = move.events.foldl follow trail := by
  cases move with
  | enter name => rfl
  | leave =>
      simp only [Trail.answer, Move.events, List.foldl, Trail.follow]
      cases trail.leave? <;> rfl
  | count name => rfl

/-- The positions that a trail gives out are those of the elements that start. -/
theorem positions_inTurn (trail : Trail) (moves : List Move) :
    (Move.inTurn Trail.answer trail moves).1.filterMap MoveAnswer.position? =
      (trail.started (moves.flatMap Move.events)).map (·.position) := by
  induction moves generalizing trail with
  | nil => rfl
  | cons move later ih =>
      rw [Move.inTurn, List.flatMap_cons, started_append, List.map_append, ← position?_answer,
        ← answer_snd, ← ih, ← List.filterMap_append]
      rfl

/-- The innermost tally is the one with the number of the depth, counting from that of the
document. -/
theorem Sound.tally_at_depth (sound : trail.Sound) :
    ∃ tally, trail.tallies.head? = some tally ∧
      trail.tallies.reverse[trail.depth]? = some tally := by
  have levels := sound.levels
  cases tallies : trail.tallies with
  | nil => exact absurd tallies sound.tallies_ne_nil
  | cons tally outside =>
      rw [tallies, List.length_cons, Nat.add_right_cancel_iff] at levels
      refine ⟨tally, rfl, ?_⟩
      rw [List.reverse_cons, ← levels, ← List.length_reverse, List.getElem?_concat_length]

/-- A trail answers any requests like counters that are never reset.  It has one tally more
than there are open elements, the last of which is the one that a start needs, and it never
gives the same position to two elements. -/
theorem answers_eq_counters (moves : List Move) :
    let (answers, trail) := Move.inTurn Trail.answer fresh moves
    answers = (Move.inTurn SiblingCounters.answer .fresh moves).1 ∧
      (trail.tallies.length = trail.depth + 1 ∧
        ∃ tally, trail.tallies.head? = some tally ∧
          trail.tallies.reverse[trail.depth]? = some tally) ∧
      (answers.filterMap MoveAnswer.position?).Nodup := by
  obtain ⟨same, mirrors⟩ := mirrors_fresh.inTurn moves
  refine ⟨same.symm, ⟨mirrors.sound.levels, mirrors.sound.tally_at_depth⟩, ?_⟩
  rw [positions_inTurn]
  exact nodup_position_started sound_fresh _

end Trail

end XmlExtract
