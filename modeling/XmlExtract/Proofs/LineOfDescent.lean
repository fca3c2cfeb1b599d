import XmlExtract.Proofs.PatternMatching

/-!
# Positions in one line of descent

Each position has its ancestors above it and its descendants below it.  The three questions
about a position and a pattern are answered along such a line.  A position is compatible
with the pattern if the line can be drawn through a match (`compatible_iff_exists_exact`), so
that the ancestors of a compatible position are compatible and the descendants of an
incompatible one are not.  A position past the pattern is not compatible, and what is below it
is past the pattern too (`judge_in_line`).
-/

namespace XmlExtract

/-- A place that satisfies a step. -/
def Step.somePlace (step : Step) : Place := ⟨step.name, step.index.getD 1⟩

theorem Step.admits_somePlace (step : Step) : step.Admits step.somePlace := by
  refine ⟨rfl, ?_⟩
  intro index found
  rw [Step.somePlace, Option.mem_def.mp found, Option.getD_some]

namespace Position

variable {pattern : Pattern} {position outer inner : Position}

/-- One position is an ancestor of another: it lies above. -/
def IsAncestor (outer inner : Position) : Prop := outer.places <+: inner.places ∧ outer ≠ inner

/-- Two positions lie in one line of descent. -/
def InLine (first second : Position) : Prop :=
  first.IsAncestor second ∨ second.IsAncestor first ∨ first = second

theorem inLine_iff (first second : Position) :
    first.InLine second ↔ first.places <+: second.places ∨ second.places <+: first.places := by
  constructor
  · rintro (above | below | rfl)
    · exact .inl above.1
    · exact .inr below.1
    · exact .inl List.prefix_rfl
  · intro comparable
    by_cases same : first = second
    · exact .inr (.inr same)
    · rcases comparable with above | below
      · exact .inl ⟨above, same⟩
      · exact .inr (.inl ⟨below, Ne.symm same⟩)

/-! ### A match in line with a compatible position -/

/-- The position cut off at the depth of the pattern, or prolonged to that depth by places that
the steps admit. -/
def toMatch (position : Position) (pattern : Pattern) : Position :=
  ⟨position.places.take pattern.length ++
    (pattern.steps.drop position.depth).map Step.somePlace⟩

theorem matches_toMatch (agrees : pattern.Agrees position) :
    pattern.Matches (position.toMatch pattern) := by
  obtain ⟨places⟩ := position
  obtain ⟨steps⟩ := pattern
  show List.Forall₂ Step.Admits steps
    (places.take steps.length ++ (steps.drop places.length).map Step.somePlace)
  replace agrees : ∀ shared ∈ places.zip steps, shared.2.Admits shared.1 := agrees
  induction places generalizing steps with
  | nil =>
      rw [List.take_nil, List.length_nil, List.drop_zero, List.nil_append,
        List.forall₂_map_right_iff, List.forall₂_same]
      exact fun step _ => step.admits_somePlace
  | cons place below ih =>
      cases steps with
      | nil => exact .nil
      | cons step deeper =>
          rw [List.zip_cons_cons, List.forall_mem_cons] at agrees
          exact .cons agrees.1 (ih deeper agrees.2)

theorem inLine_toMatch (position : Position) (pattern : Pattern) :
    (position.toMatch pattern).InLine position := by
  rw [inLine_iff, toMatch]
  rcases Nat.le_total pattern.length position.depth with deep | shallow
  · left
    rw [List.drop_eq_nil_of_le deep, List.map_nil, List.append_nil]
    exact List.take_prefix _ _
  · right
    rw [List.take_of_length_le shallow]
    exact List.prefix_append _ _

/-- A position is compatible with a pattern if a match is an ancestor or a descendant of it, or
the position itself. -/
theorem compatible_iff_exists_exact (position : Position) (pattern : Pattern) :
    position.compatible pattern = true ↔
      ∃ target : Position, target.exact pattern = true ∧ target.InLine position := by
  rw [compatible_iff]
  constructor
  · intro agrees
    refine ⟨position.toMatch pattern, ?_, inLine_toMatch position pattern⟩
    rw [exact_iff]
    exact matches_toMatch agrees
  · rintro ⟨target, isMatch, inLine⟩
    obtain ⟨depth, agrees⟩ := (Pattern.matches_iff _ _).mp ((exact_iff _ _).mp isMatch)
    rcases (inLine_iff _ _).mp inLine with above | below
    · -- All steps of the pattern are used up at the match.
      obtain ⟨further, joined⟩ := above
      intro shared member
      apply agrees shared
      have steps : pattern.steps = pattern.steps ++ [] := (List.append_nil _).symm
      rw [← joined, steps, List.zip_append depth, List.zip_nil_right, List.append_nil] at member
      exact member
    · exact agrees.of_prefix below

/-! ### Along the line -/

theorem compatible_of_isAncestor (above : outer.IsAncestor inner)
    (compatible : inner.compatible pattern = true) : outer.compatible pattern = true := by
  rw [compatible_iff] at compatible ⊢
  exact compatible.of_prefix above.1

theorem not_compatible_of_past (past : position.past pattern = true) :
    position.compatible pattern = false := by
  rw [Bool.eq_false_iff, ne_eq, compatible_iff]
  exact ((past_iff _ _).mp past).not_admits

theorem past_of_isAncestor (above : outer.IsAncestor inner)
    (past : outer.past pattern = true) : inner.past pattern = true := by
  have disagrees : ¬ pattern.Agrees outer := by
    rw [← compatible_iff, not_compatible_of_past past]
    exact Bool.false_ne_true
  have same := past_eq_of_prefix above.1 disagrees
  rw [same]
  exact past

/-- The answers to the three questions fit together along every line of descent.  A position is
compatible with a pattern exactly if some match is in line with it; so are its ancestors then,
and if it is not, neither are its descendants.  A position past the pattern is not compatible,
and its descendants are past the pattern.  So nothing is wanted where nothing follows. -/
theorem judge_in_line (pattern : Pattern) (position : Position) :
    (position.compatible pattern = true ↔
        ∃ target : Position, target.exact pattern = true ∧
          (target.IsAncestor position ∨ position.IsAncestor target ∨ target = position)) ∧
      (position.compatible pattern = true →
        ∀ outer : Position, outer.IsAncestor position → outer.compatible pattern = true) ∧
      (position.compatible pattern = false →
        ∀ inner : Position, position.IsAncestor inner → inner.compatible pattern = false) ∧
      (position.past pattern = true → position.compatible pattern = false) ∧
      (position.past pattern = true →
        ∀ inner : Position, position.IsAncestor inner → inner.past pattern = true) ∧
      ((position.judge pattern).nothingFollows = true →
        (position.judge pattern).attributesWanted = false ∧
          (position.judge pattern).textWanted = false) := by
  refine ⟨compatible_iff_exists_exact position pattern, ?_, ?_, not_compatible_of_past, ?_, ?_⟩
  · intro compatible outer above
    exact compatible_of_isAncestor above compatible
  · intro incompatible inner above
    rw [Bool.eq_false_iff] at incompatible ⊢
    exact mt (compatible_of_isAncestor above) incompatible
  · intro past inner above
    exact past_of_isAncestor above past
  · intro past
    have incompatible := not_compatible_of_past past
    refine ⟨incompatible, ?_⟩
    show position.exact pattern = false
    rw [exact, incompatible, Bool.and_false]

/-- With `/a/b[2]/c`, everything below `/a[1]/b[3]` is past the pattern, and `/a[1]` is in line
with a match. -/
theorem judge_in_line_thirdB :
    let pattern : Pattern := ⟨[.every "a", .only "b" 2, .every "c"]⟩
    let third : Position := ⟨[⟨"a", 1⟩, ⟨"b", 3⟩]⟩
    (∀ inner : Position, third.IsAncestor inner → inner.past pattern = true) ∧
      ∃ target : Position, target.exact pattern = true ∧
        (target.IsAncestor ⟨[⟨"a", 1⟩]⟩ ∨ IsAncestor ⟨[⟨"a", 1⟩]⟩ target ∨
          target = ⟨[⟨"a", 1⟩]⟩) := by
  intro pattern third
  exact ⟨(judge_in_line pattern third).2.2.2.2.1 (by decide),
    (judge_in_line pattern ⟨[⟨"a", 1⟩]⟩).1.mp (by decide)⟩

end Position

end XmlExtract
