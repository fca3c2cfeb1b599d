import XmlExtract.Error.Cause
import XmlExtract.Text.Digits

/-!
# References

A reference stands between an ampersand and a semicolon and means one character:
by its number in decimal digits after `#` or in hexadecimal digits after `#x`, or
by one of the five names that every document knows.

Offsets in flaws count the bytes of the UTF-8 form.
-/

namespace XmlExtract.Reference

/-- The bound below which the number of a character reference lies. -/
def numberBound : Nat := 0x100000000

/-- Read digits after digits that were worth `value`.  Each is checked before the
number that it makes. -/
def readDigitsAfter (radix value : Nat) : List Char → Except CharacterFlaw Nat
  | [] => .ok value
  | character :: rest =>
      match Digits.value? radix character with
      | none => .error .badDigit
      | some digit =>
          if value * radix + digit < numberBound then
            readDigitsAfter radix (value * radix + digit) rest
          else
            .error .tooLarge

/-- Read a number without a sign. -/
def readNumber (radix : Nat) (digits : List Char) : Except CharacterFlaw Nat :=
  match digits with
  | [] => .error .empty
  | '+' :: _ | '-' :: _ => .error .sign
  | digits => readDigitsAfter radix 0 digits

/-- The character with a number. -/
def characterOf (number : Nat) : Except CharacterFlaw Char :=
  if number = 0 then .error .zero
  else if number.isValidChar then .ok (Char.ofNat number)
  else .error (.notCodePoint number)

/-- The character that the digits after `#` name. -/
def readCharacter (digits : List Char) : Except CharacterFlaw Char :=
  match digits with
  | 'x' :: digits => readNumber 16 digits >>= characterOf
  | digits => readNumber 10 digits >>= characterOf

/-- The entities that every document knows. -/
def entities : List (String × Char) :=
  [("lt", '<'), ("gt", '>'), ("amp", '&'), ("apos", '\''), ("quot", '\"')]

/-- The character that a reference means; `start` is the offset of its name. -/
def resolve (start : Nat) (name : List Char) : Except ReferenceFlaw Char :=
  match name with
  | '#' :: digits =>
      match readCharacter digits with
      | .ok character => .ok character
      | .error cause => .error (.badCharacter cause)
  | name =>
      match entities.lookup (String.ofList name) with
      | some character => .ok character
      | none =>
          let text := String.ofList name
          .error (.unknownEntity start (start + text.utf8ByteSize) text)

/-- Resolve the references in what follows offset `offset` of a text with `size`
bytes.  `opened` is the offset after an ampersand whose semicolon has not come,
with the characters since then in reverse, and `before` is the resolved text so
far in reverse. -/
def resolveFrom (size offset : Nat) (opened : Option (Nat × List Char))
    (before : List Char) : List Char → Except ReferenceFlaw (List Char)
  | [] =>
      match opened with
      | some (start, _) => .error (.unterminated (start - 1) size)
      | none => .ok before.reverse
  | character :: rest =>
      let next := offset + character.utf8Size
      match opened with
      | none =>
          if character = '&' then resolveFrom size next (some (next, [])) before rest
          else resolveFrom size next none (character :: before) rest
      | some (start, name) =>
          if character = '&' then
            .error (.unterminated (start - 1) size)
          else if character = ';' then
            match resolve start name.reverse with
            | .ok resolved => resolveFrom size next none (resolved :: before) rest
            | .error flaw => .error flaw
          else
            resolveFrom size next (some (start, character :: name)) before rest

/-- Resolve every reference in a text. -/
def resolveAll (text : List Char) : Except ReferenceFlaw (List Char) :=
  resolveFrom (String.ofList text).utf8ByteSize 0 none [] text

end XmlExtract.Reference
