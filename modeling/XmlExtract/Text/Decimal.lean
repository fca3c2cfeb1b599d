/-!
# Decimal digits

Reading a text of ASCII digits as a natural number.
-/

namespace XmlExtract.Decimal

/-- The value of an ASCII digit. -/
def digitValue? (character : Char) : Option Nat :=
  if '0' ≤ character ∧ character ≤ '9' then some (character.toNat - '0'.toNat) else none

/-- Read digits after digits that were worth `value`. -/
def readAfter (value : Nat) : List Char → Option Nat
  | [] => some value
  | character :: rest =>
      match digitValue? character with
      | some digit => readAfter (10 * value + digit) rest
      | none => none

/-- The number that one or more digits write; leading zeros are allowed. -/
def read? (digits : List Char) : Option Nat :=
  if digits.isEmpty then none else readAfter 0 digits

end XmlExtract.Decimal
