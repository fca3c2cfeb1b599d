/-!
# Patterns and positions

A *pattern* says where a caller wants data: a list of steps, each a name and
perhaps an index among the siblings of that name.  A *position* says where a
reader is: a list of places, each a name and its index.  Indices count from one.

Both have a written form.  A step is written `/name[2]`, or `/name` if it takes
every index; a place is always written with its index.  The pattern without
steps is written `/`, the position without places is the empty text.
-/

namespace XmlExtract

/-- One step of a pattern.  A step without an index takes every sibling of its
name. -/
structure Step where
  name : String
  index : Option Nat
  deriving Repr, DecidableEq

/-- One step of a position: a name and the index among the siblings of that
name. -/
structure Place where
  name : String
  index : Nat
  deriving Repr, DecidableEq

/-- Where a caller wants data, from the root downwards. -/
structure Pattern where
  steps : List Step
  deriving Repr, DecidableEq, Inhabited

/-- Where a reader is, from the root downwards. -/
structure Position where
  places : List Place
  deriving Repr, DecidableEq, Inhabited

namespace Step

/-- The step to every sibling called `name`. -/
def every (name : String) : Step := ⟨name, none⟩

/-- The step to one sibling called `name`; an index below one counts as one. -/
def only (name : String) (index : Nat) : Step := ⟨name, some (max index 1)⟩

/-- Whether a place satisfies this step. -/
def accepts (step : Step) (place : Place) : Bool :=
  step.name == place.name && step.index.all (· == place.index)

/-- The written form of a step. -/
def render (step : Step) : String :=
  match step.index with
  | some index => s!"/{step.name}[{index}]"
  | none => s!"/{step.name}"

end Step

namespace Place

/-- The step that only this place satisfies. -/
def toStep (place : Place) : Step := ⟨place.name, some place.index⟩

/-- The written form of a place. -/
def render (place : Place) : String := place.toStep.render

end Place

namespace Pattern

/-- The pattern without steps. -/
def root : Pattern := ⟨[]⟩

/-- Descend by one step to every child called `name`. -/
def append (pattern : Pattern) (name : String) : Pattern :=
  ⟨pattern.steps ++ [Step.every name]⟩

/-- Pin the last step to one sibling, whose number counts from zero.  A pattern
without steps has nothing to pin. -/
def pinLast (pattern : Pattern) (number : Nat) : Pattern :=
  match pattern.steps.getLast? with
  | some last => ⟨pattern.steps.dropLast ++ [{ last with index := some (number + 1) }]⟩
  | none => pattern

/-- The number of steps. -/
def length (pattern : Pattern) : Nat := pattern.steps.length

/-- Whether there are no steps. -/
def isEmpty (pattern : Pattern) : Bool := pattern.steps.isEmpty

/-- Whether some step is pinned to an index. -/
def isPinned (pattern : Pattern) : Bool :=
  pattern.steps.any (·.index.isSome)

/-- The written form of a pattern. -/
def render (pattern : Pattern) : String :=
  if pattern.isEmpty then "/" else String.join (pattern.steps.map Step.render)

end Pattern

namespace Position

/-- The position outside of every element. -/
def root : Position := ⟨[]⟩

/-- The number of open elements. -/
def depth (position : Position) : Nat := position.places.length

/-- Whether no element is open. -/
def isRoot (position : Position) : Bool := position.places.isEmpty

/-- The innermost place. -/
def last? (position : Position) : Option Place := position.places.getLast?

/-- The written form of a position. -/
def render (position : Position) : String :=
  String.join (position.places.map Place.render)

end Position

end XmlExtract
