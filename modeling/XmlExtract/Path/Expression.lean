import XmlExtract.Error
import XmlExtract.Path.Basic
import XmlExtract.Text.Decimal

/-!
# Path expressions

The text of a pattern or a position: steps with slashes between them, and one
slash in front that may be left out.  A step is a name, which has no slash and
no bracket, and perhaps an index in brackets, written in decimal digits with or
without a plus sign.  An index is at least one and below `2 ^ 64`.  A position
has an index in every step.

The steps are read from left to right, and the first that cannot be read decides
the error.
-/

namespace XmlExtract

namespace Step

/-- The bound below which every index lies. -/
def indexBound : Nat := 0x10000000000000000

/-- Read the digits of an index, which may follow a plus sign. -/
def readNumber? (inner : List Char) : Option Nat :=
  let digits := match inner with
    | '+' :: digits => digits
    | digits => digits
  (Decimal.read? digits).filter (· < indexBound)

/-- Read an index from what follows the first opening bracket of `step`. -/
def readIndex (step bracketed : List Char) : Except PathFlaw Nat :=
  if bracketed.getLast? = some ']' then
    match readNumber? bracketed.dropLast with
    | none => .error (.indexNotNumber (String.ofList bracketed.dropLast))
    | some 0 => .error (.indexZero (String.ofList step))
    | some index => .ok index
  else
    .error (.unterminatedIndex (String.ofList step))

/-- Check the name of `step` and join it with an index. -/
def named (step name : List Char) (index : Option Nat) : Except PathFlaw Step :=
  if name.isEmpty then
    .error (.missingName (String.ofList step))
  else if name.contains ']' then
    .error (.strayBracket (String.ofList step))
  else
    .ok ⟨String.ofList name, index⟩

/-- Read one step.  The index is checked before the name. -/
def read (step : List Char) : Except PathFlaw Step :=
  if step.isEmpty then
    .error .emptyStep
  else
    match step.dropWhile (· ≠ '[') with
    | [] => named step step none
    | _ :: bracketed => do
        let index ← readIndex step bracketed
        named step (step.takeWhile (· ≠ '[')) (some index)

/-- Read the steps of an expression. -/
def readAll (expression : List Char) : Except PathFlaw (List Step) :=
  let body := match expression with
    | '/' :: body => body
    | body => body
  if body.isEmpty then .ok [] else (body.splitOn '/').mapM read

/-- The place that a step with an index names. -/
def toPlace (step : Step) : Except PathFlaw Place :=
  match step.index with
  | some index => .ok ⟨step.name, index⟩
  | none => .error (.missingIndex step.name)

end Step

/-- Read the text of a pattern. -/
def Pattern.parse (expression : String) : Except Error Pattern :=
  match Step.readAll expression.toList with
  | .ok steps => .ok ⟨steps⟩
  | .error flaw => .error (.badExpression expression flaw)

/-- Read the text of a position.  All steps are read before their indices are
asked for. -/
def Position.parse (expression : String) : Except Error Position :=
  match Step.readAll expression.toList >>= (·.mapM Step.toPlace) with
  | .ok places => .ok ⟨places⟩
  | .error flaw => .error (.badExpression expression flaw)

end XmlExtract
