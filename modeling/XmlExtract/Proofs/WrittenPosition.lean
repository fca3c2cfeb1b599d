import XmlExtract.Proofs.WrittenPattern

/-!
# Written positions

A position is written as a text of slashes, names and bracketed indices, and that
text is the key under which attributes are kept.  Two facts about the text are
needed.  Positions whose names have no slash are written differently if they differ
(`render_injective`), because the last bracket ends a name.  And a written position
is read back as itself exactly when every place of it is one that the reader of
expressions can name (`parse_render_iff`), as it is with patterns
(`Step.reads_back_writable`).
-/

namespace XmlExtract

/-! ### Places -/

namespace Place

/-- What is written of a place after its slash. -/
def written (place : Place) : List Char :=
  place.name.toList ++ '[' :: (Nat.toDigits 10 place.index ++ [']'])

def Slashless (place : Place) : Prop := '/' ∉ place.name.toList

instance (place : Place) : Decidable place.Slashless :=
  inferInstanceAs (Decidable (¬ _))

/-- A place that an expression can name: a name with neither slash nor bracket, and
an index from one up to the bound. -/
structure Writable (place : Place) : Prop where
  named : place.name.toList ≠ []
  slashless : place.Slashless
  opens : '[' ∉ place.name.toList
  closes : ']' ∉ place.name.toList
  counted : 0 < place.index
  bounded : place.index < Step.indexBound

instance (place : Place) : Decidable place.Writable :=
  decidable_of_iff
    (place.name.toList ≠ [] ∧ place.Slashless ∧ '[' ∉ place.name.toList ∧
      ']' ∉ place.name.toList ∧ 0 < place.index ∧ place.index < Step.indexBound)
    ⟨fun ⟨named, slashless, opens, closes, counted, bounded⟩ =>
      ⟨named, slashless, opens, closes, counted, bounded⟩,
    fun ⟨named, slashless, opens, closes, counted, bounded⟩ =>
      ⟨named, slashless, opens, closes, counted, bounded⟩⟩

theorem toList_render (place : Place) : place.render.toList = '/' :: place.written :=
  place.toStep.toList_render

theorem Slashless.not_mem_written {place : Place} (slashless : place.Slashless) :
    '/' ∉ place.written := by
  have digits := Decimal.not_mem_toDigits place.index '/' (by decide)
  simpa [Slashless, written, digits] using slashless

/-- The last opening bracket ends the name. -/
theorem written_injective {place other : Place} (same : place.written = other.written) :
    place = other := by
  obtain ⟨name, index⟩ := place
  obtain ⟨otherName, otherIndex⟩ := other
  have brackets (number : Nat) : '[' ∉ Nat.toDigits 10 number ++ [']'] := by
    simp [Decimal.not_mem_toDigits number '[' (by decide)]
  have parts : name.toList = otherName.toList ∧
      Nat.toDigits 10 index ++ [']'] = Nat.toDigits 10 otherIndex ++ [']'] := by
    rw [written, written, List.append_eq_append_iff] at same
    rcases same with ⟨between, first, second⟩ | ⟨between, first, second⟩
    · cases between with
      | nil => simpa [first] using second
      | cons bracket between =>
          have inside : '[' ∈ Nat.toDigits 10 index ++ [']'] := by
            rw [(List.cons.inj second).2]
            simp
          exact absurd inside (brackets index)
    · cases between with
      | nil => simpa [first, eq_comm] using second
      | cons bracket between =>
          have inside : '[' ∈ Nat.toDigits 10 otherIndex ++ [']'] := by
            rw [(List.cons.inj second).2]
            simp
          exact absurd inside (brackets otherIndex)
  have digits := List.append_cancel_right parts.2
  have values := congrArg Decimal.read? digits
  rw [Decimal.read?_toDigits, Decimal.read?_toDigits] at values
  rw [String.toList_inj.mp parts.1, Option.some.inj values]

end Place

/-! ### Writing a position -/

namespace Position

def Slashless (position : Position) : Prop := ∀ place ∈ position.places, place.Slashless

/-- Every place of a position is one that an expression can name. -/
def Writable (position : Position) : Prop := ∀ place ∈ position.places, place.Writable

instance (position : Position) : Decidable position.Slashless :=
  inferInstanceAs (Decidable (∀ place ∈ _, _))

instance (position : Position) : Decidable position.Writable :=
  inferInstanceAs (Decidable (∀ place ∈ _, _))

theorem Writable.slashless {position : Position} (writable : position.Writable) :
    position.Slashless :=
  fun place member => (writable place member).slashless

theorem toList_render (position : Position) :
    position.render.toList = position.places.flatMap fun place => '/' :: place.written := by
  rw [render, String.toList_join, List.flatMap_map]
  simp only [Place.toList_render]

/-- Cutting a written position at its slashes gives the written places. -/
theorem splitOn_written {before : List Char} (whole : '/' ∉ before) {places : List Place}
    (slashless : ∀ place ∈ places, place.Slashless) :
    (before ++ places.flatMap fun place => '/' :: place.written).splitOn '/' =
      before :: places.map Place.written := by
  induction places generalizing before with
  | nil => simpa using List.splitOn_eq_singleton whole
  | cons place places ih =>
      rw [List.forall_mem_cons] at slashless
      rw [List.flatMap_cons, List.cons_append, List.splitOn_append_cons_self_of_not_mem whole,
        ih slashless.1.not_mem_written slashless.2, List.map_cons]

/-- Positions without slashes in their names are told apart by their written forms. -/
theorem render_injective {position other : Position} (slashless : position.Slashless)
    (otherSlashless : other.Slashless) (same : position.render = other.render) :
    position = other := by
  have written := congrArg String.toList same
  rw [toList_render, toList_render] at written
  have cut := congrArg (List.splitOn '/') written
  have nothing : '/' ∉ ([] : List Char) := List.not_mem_nil
  have first := splitOn_written nothing slashless
  have second := splitOn_written nothing otherSlashless
  rw [List.nil_append] at first second
  rw [first, second, List.cons.injEq] at cut
  have places : position.places = other.places :=
    (List.map_inj_right fun _ _ => Place.written_injective).mp cut.2
  exact congrArg Position.mk places

end Position

/-! ### Reading a position back -/

/-- A place is written as the step that only this place satisfies. -/
theorem Place.writable_toStep_iff (place : Place) : place.toStep.Writable ↔ place.Writable := by
  constructor
  · rintro ⟨named, counted⟩
    obtain ⟨positive, bounded⟩ := counted place.index rfl
    exact
      { named := named.nonempty
        slashless := named.slashless
        opens := named.opens
        closes := named.closes
        counted := positive
        bounded := bounded }
  · intro writable
    refine ⟨⟨writable.named, writable.slashless, writable.opens, writable.closes⟩, ?_⟩
    intro index found
    obtain rfl := Option.some.inj found
    exact ⟨writable.counted, writable.bounded⟩

namespace Position

theorem writable_of_parse {expression : String} {position : Position}
    (done : parse expression = .ok position) : position.Writable := by
  intro place member
  have written := parse_eq_ok_iff.mp done
  obtain ⟨text, item⟩ := written.exists_item (List.mem_map_of_mem member)
  exact place.writable_toStep_iff.mp (Step.writable_of_item item)

theorem Writable.parse_render {position : Position} (writable : position.Writable) :
    parse position.render = .ok position := by
  have steps : ∀ step ∈ position.places.map Place.toStep, step.Writable := by
    rw [List.forall_mem_map]
    exact fun place member => place.writable_toStep_iff.mpr (writable place member)
  have written := Step.expression_written steps
  rw [List.flatMap_map] at written
  rw [parse_eq_ok_iff, toList_render]
  exact written

/-- A written position is read back as it is exactly when every place of it is one
that an expression can name. -/
theorem parse_render_iff (position : Position) :
    parse position.render = .ok position ↔ position.Writable :=
  ⟨writable_of_parse, Writable.parse_render⟩

end Position

/-- Patterns and positions are read back from their written forms exactly when an expression
can name every step of them: by a name that is not empty and has neither slash nor bracket,
and by an index that is not zero and fits into a word.  What the readers return is of that
kind, whatever they have read, so that it is read back from its written form. -/
theorem Step.reads_back_writable :
    (∀ pattern : Pattern, Pattern.parse pattern.render = .ok pattern ↔ pattern.Writable) ∧
    (∀ position : Position,
      Position.parse position.render = .ok position ↔ position.Writable) ∧
    (∀ expression pattern, Pattern.parse expression = .ok pattern →
      pattern.Writable ∧ Pattern.parse pattern.render = .ok pattern) ∧
    ∀ expression position, Position.parse expression = .ok position →
      position.Writable ∧ Position.parse position.render = .ok position := by
  refine ⟨Pattern.parse_render_iff, Position.parse_render_iff, ?_, ?_⟩
  · intro expression pattern done
    have writable := Pattern.writable_of_parse done
    exact ⟨writable, writable.parse_render⟩
  · intro expression position done
    have writable := Position.writable_of_parse done
    exact ⟨writable, writable.parse_render⟩

example : Pattern.parse (Pattern.render ⟨[.every "a/b"]⟩) = .ok ⟨[.every "a", .every "b"]⟩ := by
  rfl

end XmlExtract
