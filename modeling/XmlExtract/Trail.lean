import XmlExtract.Keyed
import XmlExtract.Path.Match

/-!
# The trail through a document

A trail follows the elements of a document as they start and end.  It gives
each element its index among the siblings of the same name.

The counts that this takes are kept in one tally for the document and one for
each open element, and a tally is dropped when its element ends.  That is enough:
an element receives children only while it is open, and its position never comes
back, because the next sibling of its name has a larger index.

A verdict on the current position looks no deeper than the pattern, so that it costs
the same at every depth; `judge_eq` says that it is the verdict on the position.
-/

namespace XmlExtract

/-- How many children of each name have started. -/
abbrev Tally := Keyed Nat

/-- The open elements from the root downwards, and the tallies of their children,
innermost first.  The last tally is that of the document. -/
structure Trail where
  opened : Array Place
  tallies : List Tally
  deriving Repr

namespace Trail

/-- The trail before the first event. -/
def fresh : Trail := ⟨#[], [∅]⟩

/-- The current position. -/
def position (trail : Trail) : Position := ⟨trail.opened.toList⟩

/-- The number of open elements. -/
def depth (trail : Trail) : Nat := trail.opened.size

/-- How many children of the innermost open element the tallies count under `name`. -/
def countIn (tallies : List Tally) (name : String) : Nat :=
  (tallies.head?.bind (·.find? name)).getD 0

/-- How many children called `name` the innermost open element has had. -/
def childCount (trail : Trail) (name : String) : Nat := countIn trail.tallies name

/-- An element called `name` starts. -/
def enter (trail : Trail) (name : String) : Trail :=
  match trail with
  | ⟨opened, tallies⟩ =>
      let index := countIn tallies name + 1
      let counted := match tallies with
        | tally :: outer => tally.insert name index :: outer
        | [] => []
      ⟨opened.push ⟨name, index⟩, ∅ :: counted⟩

/-- The innermost open element ends.  Answers its place, unless none is open. -/
def leave? (trail : Trail) : Option (Place × Trail) :=
  match trail with
  | ⟨opened, tallies⟩ =>
      match opened.back? with
      | some closed => some (closed, ⟨opened.pop, tallies.drop 1⟩)
      | none => none

/-- The verdict on the current position. -/
def judge (trail : Trail) (pattern : Pattern) : Verdict :=
  Position.judge ⟨(trail.opened.take (pattern.length + 1)).toList⟩ pattern

/-- Zipping looks no deeper than the shorter list. -/
theorem take_zip (places : List Place) (steps : List Step) (count : Nat)
    (enough : steps.length ≤ count) :
    (places.take count).zip steps = places.zip steps := by
  induction steps generalizing places count with
  | nil => simp
  | cons step steps ih =>
      cases places with
      | nil => simp
      | cons place places =>
          cases count with
          | zero => simp at enough
          | succ count =>
              simp only [List.length_cons] at enough
              simp [ih places count (by omega)]

theorem judge_eq (trail : Trail) (pattern : Pattern) :
    trail.judge pattern = trail.position.judge pattern := by
  have shared := take_zip trail.opened.toList pattern.steps (pattern.length + 1)
    (by simp [Pattern.length])
  have depths : (min (pattern.length + 1) trail.opened.size == pattern.length) =
      (trail.opened.size == pattern.length) := by
    rw [Bool.eq_iff_iff, beq_iff_eq, beq_iff_eq]
    omega
  simp [judge, position, Position.judge, Position.compatible, Position.exact,
    Position.past, Position.depth, shared, depths]

end Trail

end XmlExtract
