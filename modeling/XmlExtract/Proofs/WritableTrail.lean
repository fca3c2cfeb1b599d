import XmlExtract.Proofs.Nesting
import XmlExtract.Proofs.WrittenPosition

/-!
# Positions that can be read back

The positions that a trail gives out are written as texts, and a text is read back as the
position if every name is one that an expression can hold and every index is small
enough.  Names come from the events, and an index is at most the number of elements that
have started (`Within.foldl`).  A sequence of events is *readable* if its names are such
and its indices stay below the bound, as they do if few enough elements start
(`Readable.of_starts_lt`).  A trail that follows it comes to writable positions only
(`Readable.writable_foldl`).
-/

namespace XmlExtract

/-- A name that an expression can hold. -/
structure Nameable (name : String) : Prop where
  named : name.toList ≠ []
  slashless : '/' ∉ name.toList
  opens : '[' ∉ name.toList
  closes : ']' ∉ name.toList

instance (name : String) : Decidable (Nameable name) :=
  decidable_of_iff
    (name.toList ≠ [] ∧ '/' ∉ name.toList ∧ '[' ∉ name.toList ∧ ']' ∉ name.toList)
    ⟨fun ⟨named, slashless, opens, closes⟩ => ⟨named, slashless, opens, closes⟩,
      fun ⟨named, slashless, opens, closes⟩ => ⟨named, slashless, opens, closes⟩⟩

namespace Trail

/-- A trail on which no index is larger than `count`, and every name is one that an
expression can hold. -/
structure Within (trail : Trail) (count : Nat) : Prop where
  named : ∀ place ∈ trail.position.places, Nameable place.name
  counted : ∀ place ∈ trail.position.places, 0 < place.index ∧ place.index ≤ count
  tallied : ∀ tally ∈ trail.tallies, ∀ name held, tally.find? name = some held → held ≤ count

variable {trail : Trail} {count : Nat}

theorem within_fresh : fresh.Within 0 where
  named place member := by simp [fresh, position] at member
  counted place member := by simp [fresh, position] at member
  tallied tally member name held found := by
    rw [fresh, List.mem_singleton] at member
    subst member
    contradiction

theorem Within.childCount_le (within : trail.Within count) (name : String) :
    trail.childCount name ≤ count := by
  unfold childCount countIn
  cases tallies : trail.tallies with
  | nil => exact Nat.zero_le count
  | cons tally outer =>
      cases found : tally.find? name with
      | none => simp [found]
      | some held =>
          have member : tally ∈ trail.tallies := by simp [tallies]
          simpa [found] using within.tallied tally member name held found

theorem Within.enter (within : trail.Within count) {name : String}
    (nameable : Nameable name) : (trail.enter name).Within (count + 1) where
  named place member := by
    rw [position_enter, List.mem_append, List.mem_singleton] at member
    rcases member with outer | rfl
    · exact within.named place outer
    · exact nameable
  counted place member := by
    rw [position_enter, List.mem_append, List.mem_singleton] at member
    rcases member with outer | rfl
    · have counted := within.counted place outer
      omega
    · have children := within.childCount_le name
      dsimp only
      omega
  tallied tally member other held found := by
    have children := within.childCount_le name
    obtain ⟨opened, tallies⟩ := trail
    simp only [Trail.enter, List.mem_cons] at member
    rcases member with rfl | member
    · contradiction
    · cases tallies with
      | nil => simp at member
      | cons innermost outer =>
          rcases List.mem_cons.mp member with rfl | further
          · rw [Keyed.find?_insert] at found
            split at found
            · rw [← Option.some.inj found]
              exact Nat.succ_le_succ children
            · exact Nat.le_succ_of_le
                (within.tallied innermost List.mem_cons_self other held found)
          · exact Nat.le_succ_of_le
              (within.tallied tally (List.mem_cons_of_mem _ further) other held found)

theorem Within.leave (within : trail.Within count) {closed : Place} {after : Trail}
    (left : trail.leave? = some (closed, after)) : after.Within count := by
  have places := position_leave left
  have inside {place : Place} (member : place ∈ after.position.places) :
      place ∈ trail.position.places := by
    rw [places]
    exact List.mem_append_left _ member
  exact
    { named := fun place member => within.named place (inside member)
      counted := fun place member => within.counted place (inside member)
      tallied := fun tally member => by
        rw [tallies_leave left] at member
        exact within.tallied tally (List.mem_of_mem_drop member) }

/-- Following an event raises no index by more than the number of elements that start. -/
theorem Within.follow (within : trail.Within count) {event : Event}
    (nameable : ∀ name attributes, event = .elementStart name attributes → Nameable name) :
    (trail.follow event).Within (count + Event.starts [event]) := by
  cases event with
  | elementStart name attributes => exact within.enter (nameable name attributes rfl)
  | elementEnd name =>
      show (trail.follow (.elementEnd name)).Within count
      cases left : trail.leave? with
      | none => simpa [Trail.follow, left] using within
      | some answer => simpa [Trail.follow, left] using within.leave left
  | documentStart | text content | documentEnd => exact within

/-! ### Sequences of events -/

variable {events : List Event}

/-- The indices of a trail are at most the number of elements that have started. -/
theorem Within.foldl (within : trail.Within count)
    (nameable : ∀ name attributes, .elementStart name attributes ∈ events → Nameable name) :
    (events.foldl Trail.follow trail).Within (count + Event.starts events) := by
  induction events generalizing trail count with
  | nil => exact within
  | cons event later ih =>
      have followed := within.follow fun name attributes same =>
        nameable name attributes (same ▸ List.mem_cons_self)
      rw [Event.starts_cons, ← Nat.add_assoc, List.foldl_cons]
      exact ih followed fun name attributes inside =>
        nameable name attributes (List.mem_cons_of_mem _ inside)

/-- An element starts where the trail is when it has followed its start. -/
theorem exists_prefix_of_mem_started {element : StartedElement}
    (member : element ∈ trail.started events) :
    ∃ before, before <+: events ∧ element.position = (before.foldl follow trail).position := by
  induction events generalizing trail with
  | nil => simp [started] at member
  | cons event later ih =>
      rw [started, List.mem_append] at member
      rcases member with now | afterwards
      · refine ⟨[event], by simp, ?_⟩
        cases event with
        | elementStart name attributes =>
            rw [startedBy, List.mem_singleton] at now
            rw [now]
            rfl
        | _ => simp [startedBy] at now
      · obtain ⟨before, inside, same⟩ := ih afterwards
        exact ⟨event :: before, List.cons_prefix_cons.mpr ⟨rfl, inside⟩, same⟩

/-- A text stands where the trail is when it has followed what comes before. -/
theorem exists_prefix_of_mem_texts {text : StandingText} (member : text ∈ trail.texts events) :
    ∃ before, before <+: events ∧ text.position = (before.foldl follow trail).position := by
  induction events generalizing trail with
  | nil => simp [texts] at member
  | cons event later ih =>
      rw [texts, List.mem_append] at member
      rcases member with now | afterwards
      · refine ⟨[], List.nil_prefix, ?_⟩
        cases event with
        | text content =>
            rw [textBy, List.mem_singleton] at now
            rw [now]
            rfl
        | _ => simp [textBy] at now
      · obtain ⟨before, inside, same⟩ := ih afterwards
        exact ⟨event :: before, List.cons_prefix_cons.mpr ⟨rfl, inside⟩, same⟩

end Trail

/-! ### Readable sequences -/

/-- Events whose elements can be named and counted: every name is one that an expression can
hold, and no index of a position that they lead to reaches the bound. -/
structure Readable (events : List Event) : Prop where
  nameable : ∀ name attributes, .elementStart name attributes ∈ events → Nameable name
  bounded : ∀ before, before <+: events →
    ∀ place ∈ (before.foldl Trail.follow Trail.fresh).position.places,
      place.index < Step.indexBound

namespace Readable

variable {events : List Event}

theorem of_starts_lt
    (nameable : ∀ name attributes, .elementStart name attributes ∈ events → Nameable name)
    (few : Event.starts events < Step.indexBound) : Readable events where
  nameable := nameable
  bounded before inside place member := by
    have within := Trail.within_fresh.foldl fun name attributes member =>
      nameable name attributes (inside.subset member)
    have atMost := (within.counted place member).2
    have fewer : Event.starts before ≤ Event.starts events := inside.sublist.countP_le
    omega

/-- Wherever a trail comes while it follows readable events, its position is writable. -/
theorem writable_foldl (readable : Readable events) {before : List Event}
    (inside : before <+: events) :
    (before.foldl Trail.follow Trail.fresh).position.Writable := by
  have within := Trail.within_fresh.foldl fun name attributes member =>
    readable.nameable name attributes (inside.subset member)
  intro place member
  obtain ⟨named, slashless, opens, closes⟩ := within.named place member
  have counted := (within.counted place member).1
  exact ⟨named, slashless, opens, closes, counted, readable.bounded before inside place member⟩

theorem writable_started (readable : Readable events) {element : StartedElement}
    (member : element ∈ Trail.fresh.started events) : element.position.Writable := by
  obtain ⟨before, inside, same⟩ := Trail.exists_prefix_of_mem_started member
  rw [same]
  exact readable.writable_foldl inside

theorem writable_texts (readable : Readable events) {text : StandingText}
    (member : text ∈ Trail.fresh.texts events) : text.position.Writable := by
  obtain ⟨before, inside, same⟩ := Trail.exists_prefix_of_mem_texts member
  rw [same]
  exact readable.writable_foldl inside

end Readable

end XmlExtract
