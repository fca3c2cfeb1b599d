import XmlExtract.Text.Folding.Table
import XmlExtract.Text.Rows

/-!
# Folding of names

International names that differ in case, in width or in the shape of a letter are one
name.  Folding makes them equal: every character stands for itself, for some other
characters, or for nothing.  What it gives is not yet composed; see
`Composition.compose`.
-/

namespace XmlExtract.Folding

/-- A run of characters that stand for the run that begins at `target`. -/
structure Shift where
  first : Nat
  last : Nat
  step : Nat
  target : Nat
  deriving Repr, DecidableEq

/-- What a run makes of a code point, if it is of the run. -/
def Shift.image? (shift : Shift) (point : Nat) : Option Nat :=
  if shift.first ≤ point ∧ point ≤ shift.last ∧ (point - shift.first) % shift.step = 0 then
    some (shift.target + (point - shift.first))
  else
    none

/-- The runs of shifted characters. -/
def shifts : List Shift :=
  (Rows.read shifted).filterMap fun
    | [first, last, step, target] => some ⟨first, last, step, target⟩
    | _ => none

/-- The characters that stand for others, with what they stand for. -/
def replacements : List (Nat × List Nat) :=
  (Rows.read replaced).filterMap fun
    | source :: targets => some (source, targets)
    | [] => none

/-- The runs of characters that stand for nothing, ends included. -/
def droppedRanges : List (Nat × Nat) :=
  (Rows.read dropped).filterMap fun
    | [first, last] => some (first, last)
    | _ => none

/-- What a code point outside of ASCII stands for. -/
def foldPoint (point : Nat) : List Nat :=
  match replacements.lookup point with
  | some targets => targets
  | none =>
      match shifts.findSome? (·.image? point) with
      | some target => [target]
      | none =>
          if droppedRanges.any fun range => range.1 ≤ point && point ≤ range.2 then []
          else [point]

/-- What a character stands for in a name. -/
def foldChar (character : Char) : List Char :=
  if character.toNat < 0x80 then [character.toLower]
  else (foldPoint character.toNat).map Char.ofNat

/-- A name with every character replaced by what it stands for. -/
def fold (name : List Char) : List Char := name.flatMap foldChar

end XmlExtract.Folding
