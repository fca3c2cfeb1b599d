import Mathlib.Data.List.Forall2
import XmlExtract.Path.Match

/-!
# What the three questions about a position mean

The three questions that a position is asked about a pattern are answered by
functions that walk two lists in step.  This file says what the answers mean in
terms of single steps and places.  `compatible_iff` and `exact_iff` compare them
level by level.  `past_iff` reads the third answer as an inductive relation, from
which `Past.prefix_or_smaller` draws the fact behind every early stop: a position
that agrees with a pattern which another position has gone past is either an
ancestor of that position, or it leaves the way there towards a smaller sibling.
-/

namespace XmlExtract

namespace Step

/-- A place satisfies a step: it has the name of the step, and the index if the
step has one. -/
def Admits (step : Step) (place : Place) : Prop :=
  step.name = place.name ∧ ∀ index ∈ step.index, index = place.index

instance (step : Step) (place : Place) : Decidable (step.Admits place) :=
  inferInstanceAs (Decidable (_ ∧ _))

/-- A step leaves no other sibling than this place: it has the index of the
place, or no index where there are no siblings. -/
def Pins (step : Step) (atRoot : Bool) (place : Place) : Prop :=
  step.name = place.name ∧
    (step.index = some place.index ∨ (atRoot = true ∧ step.index = none))

theorem accepts_iff (step : Step) (place : Place) :
    step.accepts place = true ↔ step.Admits place := by
  obtain ⟨name, index⟩ := step
  cases index <;> simp [accepts, Admits]

/-- The place that a step is pinned to satisfies the step. -/
theorem Pins.admits {step : Step} {atRoot : Bool} {place : Place}
    (pins : step.Pins atRoot place) : step.Admits place := by
  obtain ⟨named, index | ⟨-, every⟩⟩ := pins
  · exact ⟨named, by simp [index]⟩
  · exact ⟨named, by simp [every]⟩

/-- A place that satisfies a pinning step is the pinned place, unless the step
pins the root without an index. -/
theorem Pins.eq_or_root {step : Step} {atRoot : Bool} {place other : Place}
    (pins : step.Pins atRoot place) (admits : step.Admits other) :
    other = place ∨ atRoot = true := by
  obtain ⟨pinnedName, pinnedIndex | ⟨root, -⟩⟩ := pins
  · left
    have sameIndex := admits.2 _ pinnedIndex
    have sameName := admits.1.symm.trans pinnedName
    cases other
    cases place
    simp_all
  · exact Or.inr root

end Step

namespace Pattern

/-- A position satisfies a pattern step by step, at equal depth. -/
def Matches (pattern : Pattern) (position : Position) : Prop :=
  List.Forall₂ Step.Admits pattern.steps position.places

instance (pattern : Pattern) (position : Position) :
    Decidable (pattern.Matches position) :=
  inferInstanceAs (Decidable (List.Forall₂ _ _ _))

/-- A position and a pattern agree on every level that both have. -/
def Agrees (pattern : Pattern) (position : Position) : Prop :=
  ∀ shared ∈ position.places.zip pattern.steps, shared.2.Admits shared.1

instance (pattern : Pattern) (position : Position) :
    Decidable (pattern.Agrees position) :=
  inferInstanceAs (Decidable (∀ shared ∈ _, _))

theorem Agrees.admits {pattern : Pattern} {position : Position}
    (agrees : pattern.Agrees position) {level : Nat} {place : Place} {step : Step}
    (placeAt : position.places[level]? = some place)
    (stepAt : pattern.steps[level]? = some step) : step.Admits place := by
  apply agrees (place, step)
  apply List.mem_of_getElem? (i := level)
  rw [List.getElem?_zip_eq_some]
  exact ⟨placeAt, stepAt⟩

theorem Agrees.of_prefix {pattern : Pattern} {outer inner : Position}
    (agrees : pattern.Agrees inner) (above : outer.places <+: inner.places) :
    pattern.Agrees outer := by
  intro shared member
  obtain ⟨level, found⟩ := List.mem_iff_getElem?.mp member
  obtain ⟨placeAt, stepAt⟩ := List.getElem?_zip_eq_some.mp found
  obtain ⟨below, joined⟩ := above
  apply agrees.admits _ stepAt
  rw [← joined, List.getElem?_append_left (List.getElem?_eq_some_iff.mp placeAt).1]
  exact placeAt

theorem matches_iff (pattern : Pattern) (position : Position) :
    pattern.Matches position ↔
      position.depth = pattern.length ∧ pattern.Agrees position := by
  rw [Matches, List.forall₂_iff_zip, Position.depth, length, eq_comm]
  apply and_congr_right
  intro _
  constructor
  · intro admits shared member
    obtain ⟨level, found⟩ := List.mem_iff_getElem?.mp member
    obtain ⟨placeAt, stepAt⟩ := List.getElem?_zip_eq_some.mp found
    apply admits
    apply List.mem_of_getElem? (i := level)
    rw [List.getElem?_zip_eq_some]
    exact ⟨stepAt, placeAt⟩
  · intro agrees step place member
    obtain ⟨level, found⟩ := List.mem_iff_getElem?.mp member
    obtain ⟨stepAt, placeAt⟩ := List.getElem?_zip_eq_some.mp found
    exact agrees.admits placeAt stepAt

end Pattern

namespace Position

theorem compatible_iff (position : Position) (pattern : Pattern) :
    position.compatible pattern = true ↔ pattern.Agrees position := by
  simp [compatible, Pattern.Agrees, Step.accepts_iff]

theorem exact_iff (position : Position) (pattern : Pattern) :
    position.exact pattern = true ↔ pattern.Matches position := by
  rw [exact, Bool.and_eq_true, beq_iff_eq, compatible_iff, Pattern.matches_iff]

/-- Places have gone past the steps beside them: under pinned places, one has the
name of its step and a larger index. -/
inductive Past : Bool → List (Place × Step) → Prop
  | here {atRoot : Bool} {place : Place} {step : Step} {deeper : List (Place × Step)}
      {bound : Nat} (named : step.name = place.name) (bounded : step.index = some bound)
      (larger : bound < place.index) : Past atRoot ((place, step) :: deeper)
  | further {atRoot : Bool} {place : Place} {step : Step} {deeper : List (Place × Step)}
      (pins : step.Pins atRoot place) (past : Past false deeper) :
      Past atRoot ((place, step) :: deeper)

theorem pastShared_iff (atRoot : Bool) (shared : List (Place × Step)) :
    pastShared atRoot shared = true ↔ Past atRoot shared := by
  induction shared generalizing atRoot with
  | nil =>
      simp only [pastShared, Bool.false_eq_true, false_iff]
      rintro ⟨⟩
  | cons first deeper ih =>
      obtain ⟨place, step⟩ := first
      constructor
      · intro past
        simp only [pastShared, Bool.and_eq_true, beq_iff_eq] at past
        obtain ⟨named, past⟩ := past
        cases index : step.index with
        | none =>
            simp only [index, Bool.and_eq_true] at past
            exact .further ⟨named.symm, Or.inr ⟨past.1, index⟩⟩ ((ih false).mp past.2)
        | some bound =>
            simp only [index, Bool.or_eq_true, Bool.and_eq_true, decide_eq_true_eq,
              beq_iff_eq] at past
            rcases past with larger | ⟨rfl, pastBelow⟩
            · exact .here named.symm index larger
            · exact .further ⟨named.symm, Or.inl index⟩ ((ih false).mp pastBelow)
      · intro past
        cases past with
        | here named bounded larger => simp [pastShared, named, bounded, larger]
        | further pins past =>
            have pastBelow := (ih false).mpr past
            obtain ⟨named, index | ⟨rfl, index⟩⟩ := pins <;>
              simp [pastShared, named, index, pastBelow]

theorem past_iff (position : Position) (pattern : Pattern) :
    position.past pattern = true ↔ Past true (position.places.zip pattern.steps) :=
  pastShared_iff true _

theorem Past.not_admits {atRoot : Bool} {shared : List (Place × Step)}
    (past : Past atRoot shared) : ¬ ∀ pair ∈ shared, pair.2.Admits pair.1 := by
  induction past with
  | here named bounded larger =>
      intro agrees
      have equal := (agrees _ List.mem_cons_self).2 _ bounded
      exact Nat.ne_of_lt larger equal
  | further pins past ih =>
      exact fun agrees => ih fun pair member =>
        agrees pair (List.mem_cons_of_mem _ member)

/-- Where places disagree with the steps beside them, the walk is over: what stands below
does not matter. -/
theorem pastShared_append (atRoot : Bool) (places below : List Place) {steps : List Step}
    (disagree : ¬ ∀ shared ∈ places.zip steps, shared.2.Admits shared.1) :
    pastShared atRoot ((places ++ below).zip steps) =
      pastShared atRoot (places.zip steps) := by
  induction places generalizing atRoot steps with
  | nil => simp at disagree
  | cons place inner ih =>
      cases steps with
      | nil => simp at disagree
      | cons step deeper =>
          rw [List.zip_cons_cons, List.forall_mem_cons, not_and] at disagree
          simp only [List.cons_append, List.zip_cons_cons, pastShared]
          by_cases admits : step.Admits place
          · simp only [ih _ (disagree admits)]
          by_cases named : place.name = step.name
          · cases index : step.index with
            | none => simp [Step.Admits, named, index] at admits
            | some bound =>
                have otherIndex : (bound == place.index) = false := by
                  simpa [Step.Admits, named, index] using admits
                simp only [otherIndex, Bool.false_and]
          · rw [beq_eq_false_iff_ne.mpr named, Bool.false_and, Bool.false_and]

/-- The positions below one that disagrees with a pattern are past the pattern if it is. -/
theorem past_eq_of_prefix {outer inner : Position} {pattern : Pattern}
    (above : outer.places <+: inner.places) (disagrees : ¬ pattern.Agrees outer) :
    inner.past pattern = outer.past pattern := by
  obtain ⟨below, joined⟩ := above
  rw [past, ← joined]
  exact pastShared_append true outer.places below disagrees

/-- Below the root, pinned places leave one way: whatever else agrees with the
steps stays on it, or leaves it for a sibling before the place that is past. -/
theorem Past.prefix_or_smaller {atRoot : Bool} {opened places : List Place}
    {steps : List Step} (past : Past atRoot (opened.zip steps))
    (agrees : ∀ shared ∈ places.zip steps, shared.2.Admits shared.1)
    (sameRoot : atRoot = true → ∀ root ∈ places.head?, opened.head? = some root) :
    places <+: opened ∨
      ∃ (above : List Place) (place : Place) (below : List Place) (current : Place),
        places = above ++ place :: below ∧ above ++ [current] <+: opened ∧
          place.name = current.name ∧ place.index < current.index := by
  induction places generalizing atRoot opened steps with
  | nil => exact Or.inl List.nil_prefix
  | cons place below ih =>
      obtain _ | ⟨current, inner⟩ := opened
      · cases past
      obtain _ | ⟨step, deeper⟩ := steps
      · cases past
      simp only [List.zip_cons_cons, List.forall_mem_cons] at agrees past
      cases past with
      | here named bounded larger =>
          right
          refine ⟨[], place, below, current, rfl, by simp, ?_, ?_⟩
          · exact agrees.1.1.symm.trans named
          · have equal := agrees.1.2 _ bounded
            omega
      | further pins past =>
          have onTheWay : place = current := by
            rcases pins.eq_or_root agrees.1 with equal | root
            · exact equal
            · have heads := sameRoot root place rfl
              simpa using heads.symm
          subst onTheWay
          rcases ih past agrees.2 (by simp) with inside | ⟨above, smaller, rest, other, found⟩
          · exact Or.inl (List.cons_prefix_cons.mpr ⟨rfl, inside⟩)
          · right
            obtain ⟨rfl, within, found⟩ := found
            exact ⟨place :: above, smaller, rest, other, rfl,
              List.cons_prefix_cons.mpr ⟨rfl, within⟩, found⟩

end Position

end XmlExtract
