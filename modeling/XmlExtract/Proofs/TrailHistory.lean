import Mathlib.Data.List.Infix
import XmlExtract.Event
import XmlExtract.Trail

/-!
# Positions are given out once

A trail drops the tally of an element when the element ends, and yet it never
gives the same position to two elements.  The reason is a property of the trail
alone: a position is *spent* if it lies on the way to the current one, or leaves
that way towards a sibling that has been counted already.  Spent positions stay
spent (`Spent.follow`), every position is spent from the moment at which it is given
out (`spent_position`), and the next position to be given out is not spent
(`not_spent_enter`).
-/

namespace XmlExtract

namespace Trail

variable {trail after : Trail} {closed : Place}

/-! ### The effect of one step -/

/-- How many children called `name` the open element at a depth has had; at depth
zero the children are those of the document. -/
def countAt (trail : Trail) (depth : Nat) (name : String) : Nat :=
  countIn (trail.tallies.drop (trail.depth - depth)) name

theorem length_places (trail : Trail) : trail.position.places.length = trail.depth := by
  simp [position, depth]

theorem countAt_depth (trail : Trail) (name : String) :
    trail.countAt trail.depth name = trail.childCount name := by
  simp [countAt, childCount]

@[simp]
theorem position_enter (trail : Trail) (name : String) :
    (trail.enter name).position.places =
      trail.position.places ++ [⟨name, trail.childCount name + 1⟩] := by
  simp [position, enter, childCount]

@[simp]
theorem depth_enter (trail : Trail) (name : String) :
    (trail.enter name).depth = trail.depth + 1 := by
  simp [depth, enter]

@[simp]
theorem childCount_enter (trail : Trail) (name other : String) :
    (trail.enter name).childCount other = 0 := by
  simp [childCount, enter, countIn, EmptyCollection.emptyCollection]

theorem leave?_eq_none_iff (trail : Trail) : trail.leave? = none ↔ trail.depth = 0 := by
  obtain ⟨opened, tallies⟩ := trail
  cases last : opened.back? with
  | none => simpa [leave?, depth, last] using Array.back?_eq_none_iff.mp last
  | some closed =>
      have nonempty : opened ≠ #[] := by
        rintro rfl
        simp at last
      simpa [leave?, depth, last] using nonempty

theorem position_leave (left : trail.leave? = some (closed, after)) :
    trail.position.places = after.position.places ++ [closed] := by
  obtain ⟨opened, tallies⟩ := trail
  cases last : opened.back? with
  | none => simp [leave?, last] at left
  | some innermost =>
      simp only [leave?, last, Option.some.injEq, Prod.mk.injEq] at left
      obtain ⟨rfl, rfl⟩ := left
      obtain ⟨outer, rfl⟩ := Array.back?_eq_some_iff.mp last
      simp [position]

theorem tallies_leave (left : trail.leave? = some (closed, after)) :
    after.tallies = trail.tallies.drop 1 := by
  obtain ⟨opened, tallies⟩ := trail
  cases last : opened.back? with
  | none => simp [leave?, last] at left
  | some innermost =>
      simp only [leave?, last, Option.some.injEq, Prod.mk.injEq] at left
      rw [← left.2]

theorem depth_leave (left : trail.leave? = some (closed, after)) :
    trail.depth = after.depth + 1 := by
  rw [← length_places, ← length_places, position_leave left]
  simp

theorem countAt_leave (left : trail.leave? = some (closed, after)) {depth : Nat}
    (within : depth ≤ after.depth) (name : String) :
    after.countAt depth name = trail.countAt depth name := by
  have shift : trail.depth - depth = 1 + (after.depth - depth) := by
    have := depth_leave left
    omega
  rw [countAt, countAt, tallies_leave left, List.drop_drop, shift]

/-- The tallies of a trail: one for the document and one for each open element, in
which the open elements themselves have been counted. -/
structure Sound (trail : Trail) : Prop where
  levels : trail.tallies.length = trail.depth + 1
  counted : ∀ above place, above ++ [place] <+: trail.position.places →
    place.index ≤ trail.countAt above.length place.name

theorem sound_fresh : Sound fresh where
  levels := rfl
  counted above place inside := by
    simp [fresh, position] at inside

theorem Sound.tallies_ne_nil (sound : trail.Sound) : trail.tallies ≠ [] := by
  intro empty
  have levels := sound.levels
  simp [empty] at levels

/-- Entering an element counts it among the children of the element around it. -/
theorem countAt_enter_depth (sound : trail.Sound) (name other : String) :
    (trail.enter name).countAt trail.depth other =
      if other = name then trail.childCount name + 1 else trail.childCount other := by
  obtain ⟨opened, tallies⟩ := trail
  cases tallies with
  | nil => exact absurd rfl sound.tallies_ne_nil
  | cons tally outer =>
      by_cases same : other = name <;>
        simp [countAt, enter, depth, countIn, childCount, Keyed.insert, Keyed.find?_alter, same]

/-- Entering an element leaves the tallies further out as they are. -/
theorem drop_tallies_enter (trail : Trail) (name : String) (count : Nat) :
    (trail.enter name).tallies.drop (count + 2) = trail.tallies.drop (count + 1) := by
  obtain ⟨opened, tallies⟩ := trail
  cases tallies <;> simp [enter]

theorem countAt_enter_of_lt (trail : Trail) (name : String) {depth : Nat}
    (outside : depth < trail.depth) (other : String) :
    (trail.enter name).countAt depth other = trail.countAt depth other := by
  obtain ⟨levels, joined⟩ := Nat.exists_eq_add_of_lt outside
  have shift : (trail.enter name).depth - depth = levels + 2 := by
    rw [depth_enter]
    omega
  have unshift : trail.depth - depth = levels + 1 := by omega
  rw [countAt, countAt, shift, unshift, drop_tallies_enter]

theorem countAt_le_countAt_enter (sound : trail.Sound) (name : String) {depth : Nat}
    (within : depth ≤ trail.depth) (other : String) :
    trail.countAt depth other ≤ (trail.enter name).countAt depth other := by
  rcases Nat.lt_or_eq_of_le within with outside | rfl
  · exact Nat.le_of_eq (countAt_enter_of_lt trail name outside other).symm
  · rw [countAt_enter_depth sound, countAt_depth]
    split
    · rename_i same
      rw [same]
      omega
    · exact Nat.le_refl _

theorem length_le_depth_of_above {above : List Place}
    (onTheWay : above <+: trail.position.places) : above.length ≤ trail.depth := by
  rw [← length_places]
  exact onTheWay.length_le

theorem Sound.enter (sound : trail.Sound) (name : String) : (trail.enter name).Sound where
  levels := by
    obtain ⟨opened, tallies⟩ := trail
    have levels := sound.levels
    cases tallies with
    | nil => exact absurd rfl sound.tallies_ne_nil
    | cons tally outer => simpa [Trail.enter, depth] using levels
  counted above place inside := by
    rw [position_enter] at inside
    rcases List.prefix_concat_iff.mp inside with whole | onTheWay
    · obtain ⟨rfl, newest⟩ := List.append_inj' whole rfl
      simp only [List.cons.injEq, and_true] at newest
      subst newest
      rw [length_places, countAt_enter_depth sound]
      simp
    · refine Nat.le_trans (sound.counted above place onTheWay) ?_
      apply countAt_le_countAt_enter sound
      have within := length_le_depth_of_above onTheWay
      simp only [List.length_append, List.length_singleton] at within
      omega

theorem Sound.leave (sound : trail.Sound) (left : trail.leave? = some (closed, after)) :
    after.Sound where
  levels := by
    have levels := sound.levels
    have depths := depth_leave left
    rw [tallies_leave left, List.length_drop]
    omega
  counted above place inside := by
    have within := length_le_depth_of_above inside
    simp only [List.length_append, List.length_singleton] at within
    rw [countAt_leave left (by omega)]
    apply sound.counted
    rw [position_leave left]
    exact inside.trans (List.prefix_append _ _)

/-! ### Spent positions -/

/-- No later element can be at this position: it lies on the way to the current
position, or leaves that way towards a sibling that has been counted. -/
def Spent (trail : Trail) (position : Position) : Prop :=
  position.places <+: trail.position.places ∨
    ∃ (above : List Place) (place : Place) (below : List Place),
      position.places = above ++ place :: below ∧ above <+: trail.position.places ∧
        ¬ above ++ [place] <+: trail.position.places ∧
        place.index ≤ trail.countAt above.length place.name

theorem spent_position (trail : Trail) : trail.Spent trail.position :=
  Or.inl List.prefix_rfl

/-- The place that an element enters has an index that has not been counted. -/
theorem not_counted_enter {name : String} {above : List Place} {place : Place}
    (entered : above ++ [place] =
      trail.position.places ++ [⟨name, trail.childCount name + 1⟩]) :
    ¬ place.index ≤ trail.countAt above.length place.name := by
  obtain ⟨rfl, newest⟩ := List.append_inj' entered rfl
  simp only [List.cons.injEq, and_true] at newest
  subst newest
  rw [length_places, countAt_depth]
  exact Nat.not_succ_le_self _

theorem Spent.enter (sound : trail.Sound) {position : Position}
    (spent : trail.Spent position) (name : String) :
    (trail.enter name).Spent position := by
  rcases spent with onTheWay | ⟨above, place, below, joined, onTheWay, leaves, counted⟩
  · left
    rw [position_enter]
    exact onTheWay.trans (List.prefix_append _ _)
  · right
    have within := length_le_depth_of_above onTheWay
    have countedAfter := Nat.le_trans counted (countAt_le_countAt_enter sound name within _)
    refine ⟨above, place, below, joined, ?_, ?_, countedAfter⟩
    · rw [position_enter]
      exact onTheWay.trans (List.prefix_append _ _)
    · rw [position_enter, List.prefix_concat_iff]
      rintro (whole | inside)
      · exact not_counted_enter whole counted
      · exact leaves inside

theorem Spent.leave (sound : trail.Sound) {position : Position}
    (spent : trail.Spent position) (left : trail.leave? = some (closed, after)) :
    after.Spent position := by
  have places := position_leave left
  have closedCounted :
      closed.index ≤ after.countAt after.position.places.length closed.name := by
    rw [length_places, countAt_leave left (Nat.le_refl _), ← length_places after]
    apply sound.counted
    rw [places]
  have closedLeaves : ¬ after.position.places ++ [closed] <+: after.position.places := by
    intro inside
    have longer := inside.length_le
    rw [List.length_append] at longer
    exact Nat.not_succ_le_self _ longer
  rcases spent with onTheWay | ⟨above, place, below, joined, onTheWay, leaves, counted⟩
  · -- A position on the way is still on it, or it is the one that has just been closed.
    rw [places, List.prefix_concat_iff] at onTheWay
    rcases onTheWay with whole | inside
    · exact Or.inr ⟨after.position.places, closed, [], whole, List.prefix_rfl,
        closedLeaves, closedCounted⟩
    · exact Or.inl inside
  · -- What left the way below the closed element now leaves it at that element.
    right
    rw [places, List.prefix_concat_iff] at onTheWay
    rcases onTheWay with whole | inside
    · refine ⟨after.position.places, closed, place :: below, ?_, List.prefix_rfl,
        closedLeaves, closedCounted⟩
      rw [joined, whole, List.append_assoc, List.singleton_append]
    · refine ⟨above, place, below, joined, inside, ?_, ?_⟩
      · intro stays
        apply leaves
        rw [places]
        exact stays.trans (List.prefix_append _ _)
      · rw [countAt_leave left (length_le_depth_of_above inside)]
        exact counted

/-- An element that starts is given a position that was not spent. -/
theorem not_spent_enter (trail : Trail) (name : String) :
    ¬ trail.Spent (trail.enter name).position := by
  rintro (onTheWay | ⟨above, place, below, joined, -, leaves, counted⟩)
  · have longer := onTheWay.length_le
    rw [position_enter, List.length_append] at longer
    exact Nat.not_succ_le_self _ longer
  · have inside : above ++ [place] <+:
        trail.position.places ++ [⟨name, trail.childCount name + 1⟩] := by
      rw [← position_enter, joined]
      exact ⟨below, by simp⟩
    rcases List.prefix_concat_iff.mp inside with whole | stays
    · exact not_counted_enter whole counted
    · exact leaves stays

/-! ### Following events -/

/-- The trail after an event.  An end without an open element changes nothing. -/
def follow (trail : Trail) : Event → Trail
  | .elementStart name _ => trail.enter name
  | .elementEnd _ =>
      match trail.leave? with
      | some (_, outer) => outer
      | none => trail
  | .documentStart | .text _ | .documentEnd => trail

theorem Sound.follow (sound : trail.Sound) (event : Event) : (trail.follow event).Sound := by
  cases event with
  | documentStart => exact sound
  | elementStart name attributes => exact sound.enter name
  | elementEnd name =>
      unfold Trail.follow
      cases left : trail.leave? with
      | none => exact sound
      | some answer => exact sound.leave left
  | text content => exact sound
  | documentEnd => exact sound

theorem Spent.follow (sound : trail.Sound) {position : Position}
    (spent : trail.Spent position) (event : Event) :
    (trail.follow event).Spent position := by
  cases event with
  | documentStart => exact spent
  | elementStart name attributes => exact spent.enter sound name
  | elementEnd name =>
      unfold Trail.follow
      cases left : trail.leave? with
      | none => exact spent
      | some answer => exact spent.leave sound left
  | text content => exact spent
  | documentEnd => exact spent

end Trail

/-- An element where it starts: its position, and its attributes in the order of
the document. -/
structure StartedElement where
  position : Position
  attributes : List (String × String)
  deriving Repr, DecidableEq

namespace Trail

variable {trail : Trail}

def startedBy (trail : Trail) : Event → List StartedElement
  | .elementStart name attributes => [⟨(trail.enter name).position, attributes⟩]
  | _ => []

/-- The elements that start in a sequence of events, in order. -/
def started (trail : Trail) : List Event → List StartedElement
  | [] => []
  | event :: later => trail.startedBy event ++ (trail.follow event).started later

theorem started_append (trail : Trail) (first second : List Event) :
    trail.started (first ++ second) =
      trail.started first ++ (first.foldl follow trail).started second := by
  induction first generalizing trail with
  | nil => rfl
  | cons event later ih => simp [started, ih]

theorem not_spent_of_mem_startedBy {event : Event} {element : StartedElement}
    (member : element ∈ trail.startedBy event) :
    ¬ trail.Spent element.position ∧ (trail.follow event).Spent element.position := by
  cases event with
  | elementStart name attributes =>
      simp only [startedBy, List.mem_singleton] at member
      subst member
      exact ⟨not_spent_enter trail name, spent_position _⟩
  | _ => simp [startedBy] at member

theorem not_spent_of_mem_started (sound : trail.Sound) {events : List Event}
    {element : StartedElement} (member : element ∈ trail.started events) :
    ¬ trail.Spent element.position := by
  induction events generalizing trail with
  | nil => simp [started] at member
  | cons event later ih =>
      rw [started, List.mem_append] at member
      rcases member with now | afterwards
      · exact (not_spent_of_mem_startedBy now).1
      · exact fun spent => ih (sound.follow event) afterwards (spent.follow sound event)

/-- No two elements start at the same position. -/
theorem nodup_position_started (sound : trail.Sound) (events : List Event) :
    ((trail.started events).map (·.position)).Nodup := by
  induction events generalizing trail with
  | nil => simp [started]
  | cons event later ih =>
      rw [started, List.map_append, List.nodup_append]
      refine ⟨?_, ih (sound.follow event), ?_⟩
      · cases event <;> simp [startedBy]
      · intro position now other afterwards
        obtain ⟨element, member, rfl⟩ := List.mem_map.mp now
        obtain ⟨laterElement, laterMember, rfl⟩ := List.mem_map.mp afterwards
        intro same
        apply not_spent_of_mem_started (sound.follow event) laterMember
        rw [← same]
        exact (not_spent_of_mem_startedBy member).2

end Trail

end XmlExtract
