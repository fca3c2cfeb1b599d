import XmlExtract.Proofs.PathGrammar

/-!
# Written patterns

A step is written as a slash, its name, and its index in brackets if it has one.  If its name
and its index are ones that the grammar has, what is written is an item of the grammar
(`Step.Writable.item`), and the items of the grammar give no other steps
(`Step.writable_of_item`).  So a written pattern is read back as itself exactly when every step
of it is of that kind (`Pattern.parse_render_iff`), and what the reader returns always is.
-/

namespace XmlExtract

/-! ### Decimal digits -/

namespace Decimal

theorem digits_toDigits (number : Nat) :
    PathGrammar.Digits (Nat.toDigits 10 number) number where
  nonempty := Nat.toDigits_ne_nil
  decimal := fun _ member => Nat.isDigit_of_mem_toDigits (by decide) (by decide) member
  worth := Nat.ofDigitChars_ten_toDigits

theorem read?_toDigits (number : Nat) : read? (Nat.toDigits 10 number) = some number :=
  read?_eq_some_iff.mpr (digits_toDigits number)

theorem not_mem_toDigits (number : Nat) (character : Char)
    (other : character.isDigit = false) : character ∉ Nat.toDigits 10 number :=
  (digits_toDigits number).not_mem other

end Decimal

/-! ### Steps -/

namespace Step

/-- What is written of a step after its slash. -/
def written (step : Step) : List Char :=
  match step.index with
  | some index => step.name.toList ++ '[' :: (Nat.toDigits 10 index ++ [']'])
  | none => step.name.toList

/-- A step that an expression can name. -/
structure Writable (step : Step) : Prop where
  named : PathGrammar.Name step.name.toList
  counted : ∀ index ∈ step.index, 1 ≤ index ∧ index < indexBound

theorem toList_render (step : Step) : step.render.toList = '/' :: step.written := by
  obtain ⟨name, index⟩ := step
  cases index with
  | none => simp [render, written, ToString.toString]
  | some index => simp [render, written, Nat.toList_repr, ToString.toString]

theorem writable_of_item {text : List Char} {step : Step} (item : PathGrammar.Item text step) :
    step.Writable := by
  cases item with
  | every named => exact ⟨named, by simp⟩
  | only named index =>
      refine ⟨named, fun number found => ?_⟩
      obtain rfl := Option.some.inj found
      exact ⟨index.positive, Nat.lt_of_le_sub_one (by decide) index.bounded⟩

theorem Writable.item {step : Step} (writable : step.Writable) :
    PathGrammar.Item step.written step := by
  obtain ⟨name, index⟩ := step
  cases index with
  | none => exact .every writable.named
  | some number =>
      obtain ⟨positive, bounded⟩ := writable.counted number rfl
      exact .only writable.named
        { numeral := .unsigned (Decimal.digits_toDigits number)
          positive := positive
          bounded := Nat.le_sub_one_of_lt bounded }

theorem series_written {step : Step} {steps : List Step}
    (writable : ∀ other ∈ step :: steps, other.Writable) :
    PathGrammar.Series (step.written ++ steps.flatMap fun step => '/' :: step.written)
      (step :: steps) := by
  induction steps generalizing step with
  | nil => simpa using PathGrammar.Series.last (writable step List.mem_cons_self).item
  | cons next steps ih =>
      rw [List.forall_mem_cons] at writable
      simpa using PathGrammar.Series.next writable.1.item (ih writable.2)

/-- The written steps of a path, a slash in front of each, are an expression for these
steps. -/
theorem expression_written {steps : List Step} (writable : ∀ step ∈ steps, step.Writable) :
    PathGrammar.Expression (steps.flatMap fun step => '/' :: step.written) steps := by
  cases steps with
  | nil => exact .bare .empty
  | cons step steps => exact .slashed (.series (series_written writable))

end Step

/-! ### Patterns -/

namespace Pattern

/-- Every step of a pattern is one that an expression can name. -/
def Writable (pattern : Pattern) : Prop := ∀ step ∈ pattern.steps, step.Writable

theorem toList_render {pattern : Pattern} (nonempty : pattern.steps ≠ []) :
    pattern.render.toList = pattern.steps.flatMap fun step => '/' :: step.written := by
  rw [render, isEmpty, if_neg (by simpa using nonempty), String.toList_join, List.flatMap_map]
  simp only [Step.toList_render]

theorem writable_of_parse {expression : String} {pattern : Pattern}
    (done : parse expression = .ok pattern) : pattern.Writable := by
  intro step member
  obtain ⟨text, item⟩ := (parse_eq_ok_iff.mp done).exists_item member
  exact Step.writable_of_item item

theorem Writable.parse_render {pattern : Pattern} (writable : pattern.Writable) :
    parse pattern.render = .ok pattern := by
  rw [parse_eq_ok_iff]
  by_cases empty : pattern.steps = []
  · -- The pattern without steps is written as the slash that may stand in front.
    have slash : pattern.render.toList = ['/'] := by simp [render, isEmpty, empty]
    rw [slash, empty]
    exact .slashed .empty
  · rw [toList_render empty]
    exact Step.expression_written writable

/-- A written pattern is read back as it is exactly when every step of it is one that an
expression can name. -/
theorem parse_render_iff (pattern : Pattern) :
    parse pattern.render = .ok pattern ↔ pattern.Writable :=
  ⟨writable_of_parse, Writable.parse_render⟩

end Pattern

end XmlExtract
