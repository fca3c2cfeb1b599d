import XmlExtract.Path.Basic

/-!
# Matching positions against patterns

Three questions about a position and a pattern.  *Compatible*: do the steps that
both have agree, so that the position is an ancestor or a descendant of a match,
or a match itself?  *Exact*: is it a match?  *Past*: does document order rule out
that any later element is compatible?

A position is past a pattern if, at some step, it has the name of the step and a
larger index, while every step above is pinned to the subtree that holds the
position.  A step above is pinned by the index of the position; the first step
needs no index for that, because a document has one root.
-/

namespace XmlExtract

namespace Position

/-- Whether every step that the position and the pattern share agrees. -/
def compatible (position : Position) (pattern : Pattern) : Bool :=
  (position.places.zip pattern.steps).all fun shared => shared.2.accepts shared.1

/-- Whether the position satisfies the whole pattern at the same depth. -/
def exact (position : Position) (pattern : Pattern) : Bool :=
  position.depth == pattern.length && position.compatible pattern

/-- Whether places lie past the steps beside them.  At the root a step without
index is pinned all the same. -/
def pastShared (atRoot : Bool) : List (Place × Step) → Bool
  | [] => false
  | (place, step) :: deeper =>
      place.name == step.name &&
        match step.index with
        | some bound =>
            bound < place.index || (bound == place.index && pastShared false deeper)
        | none => atRoot && pastShared false deeper

/-- Whether no element after one at this position can be compatible. -/
def past (position : Position) (pattern : Pattern) : Bool :=
  pastShared true (position.places.zip pattern.steps)

end Position

/-- The answers to the three questions, as what to do at a position. -/
structure Verdict where
  /-- Record the attributes of the element that starts here. -/
  attributesWanted : Bool
  /-- Record the text that stands here. -/
  textWanted : Bool
  /-- Nothing that follows can be asked for. -/
  nothingFollows : Bool
  deriving Repr, DecidableEq

/-- Answer the three questions for a position and a pattern. -/
def Position.judge (position : Position) (pattern : Pattern) : Verdict where
  attributesWanted := position.compatible pattern
  textWanted := position.exact pattern
  nothingFollows := position.past pattern

end XmlExtract
