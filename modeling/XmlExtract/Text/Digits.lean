/-!
# Digits

The value of digits in a radix of at most sixteen.  Letters stand for the values
from ten on, in either case.
-/

namespace XmlExtract.Digits

/-- The value of a digit. -/
def value? (radix : Nat) (character : Char) : Option Nat :=
  let value? :=
    if '0' ≤ character ∧ character ≤ '9' then some (character.toNat - '0'.toNat)
    else if 'a' ≤ character ∧ character ≤ 'f' then some (character.toNat - 'a'.toNat + 10)
    else if 'A' ≤ character ∧ character ≤ 'F' then some (character.toNat - 'A'.toNat + 10)
    else none
  value?.filter (· < radix)

/-- Read digits after digits that were worth `number`. -/
def readAfter? (radix number : Nat) : List Char → Option Nat
  | [] => some number
  | character :: rest =>
      match value? radix character with
      | some digit => readAfter? radix (number * radix + digit) rest
      | none => none

/-- The number that digits write; no digits write zero. -/
def read? (radix : Nat) (digits : List Char) : Option Nat := readAfter? radix 0 digits

end XmlExtract.Digits
