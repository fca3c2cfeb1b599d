import XmlExtract.Text.Composition.Table
import XmlExtract.Text.Rows

/-!
# Composition

A letter with marks can be written in several ways: as one character, or as a letter
and marks in different orders.  `compose` picks one of them, which is the
normalization form C of the Unicode Standard for every text without characters that
only duplicate others: it takes characters apart, sorts the marks after each letter
by their class, and joins what can be joined.
-/

namespace XmlExtract.Composition

/-- A character, and the character and the mark that it is joined from. -/
structure Joint where
  whole : Nat
  base : Nat
  mark : Nat
  deriving Repr, DecidableEq

/-- The joints, without those of Hangul. -/
def joints : List Joint :=
  (Rows.read composites).filterMap fun
    | [whole, base, mark] => some ⟨whole, base, mark⟩
    | _ => none

/-- The marks that are ordered, as ranges with their class. -/
def markRanges : List (Nat × Nat × Nat) :=
  (Rows.read orderedMarks).filterMap fun
    | [first, last, order] => some (first, last, order)
    | _ => none

/-- The class of a mark; zero is the class of everything that keeps its place. -/
def markClass (point : Nat) : Nat :=
  match markRanges.find? fun range => range.1 ≤ point && point ≤ range.2.1 with
  | some range => range.2.2
  | none => 0

/-! ### Hangul -/

/-- The first syllable of Hangul. -/
def syllables : Nat := 0xAC00

/-- The first leading consonant, and how many there are. -/
def leads : Nat × Nat := (0x1100, 19)

/-- The first vowel, and how many there are. -/
def vowels : Nat × Nat := (0x1161, 21)

/-- What comes before the first trailing consonant, and how many there are with it. -/
def trails : Nat × Nat := (0x11A7, 28)

/-- How many syllables there are. -/
def syllableCount : Nat := leads.2 * vowels.2 * trails.2

/-- A syllable taken apart: the syllable without its trailing consonant and that
consonant, or the leading consonant and the vowel. -/
def splitSyllable? (point : Nat) : Option (Nat × Nat) :=
  if syllables ≤ point ∧ point < syllables + syllableCount then
    let index := point - syllables
    let trail := index % trails.2
    if trail = 0 then
      some (leads.1 + index / (vowels.2 * trails.2),
        vowels.1 + index / trails.2 % vowels.2)
    else
      some (point - trail, trails.1 + trail)
  else
    none

/-- The syllable that two parts make. -/
def joinSyllable? (base part : Nat) : Option Nat :=
  if leads.1 ≤ base ∧ base < leads.1 + leads.2 ∧
      vowels.1 ≤ part ∧ part < vowels.1 + vowels.2 then
    some (syllables + ((base - leads.1) * vowels.2 + (part - vowels.1)) * trails.2)
  else if syllables ≤ base ∧ base < syllables + syllableCount ∧
      (base - syllables) % trails.2 = 0 ∧
      trails.1 < part ∧ part < trails.1 + trails.2 then
    some (base + (part - trails.1))
  else
    none

/-! ### Taking apart and joining -/

/-- A character taken apart once. -/
def split? (point : Nat) : Option (Nat × Nat) :=
  match splitSyllable? point with
  | some parts => some parts
  | none =>
      (joints.find? fun joint => joint.whole == point).map fun joint =>
        (joint.base, joint.mark)

/-- The character that a character and a mark make. -/
def join? (base mark : Nat) : Option Nat :=
  match joinSyllable? base mark with
  | some syllable => some syllable
  | none =>
      (joints.find? fun joint => joint.base == base && joint.mark == mark).map Joint.whole

/-- How often a character can be taken apart. -/
def depth : Nat := 4

/-- A character taken apart up to `depth` times. -/
def takeApart (point : Nat) : Nat → List Nat
  | 0 => [point]
  | depth + 1 =>
      match split? point with
      | some (base, mark) => takeApart base depth ++ [mark]
      | none => [point]

/-- Put a code point before sorted ones: a mark goes behind the marks of lower
classes that follow it. -/
def insertMark (point : Nat) : List Nat → List Nat
  | [] => [point]
  | next :: rest =>
      if 0 < markClass next ∧ markClass next < markClass point then
        next :: insertMark point rest
      else
        point :: next :: rest

/-- Sort the marks after each letter; marks of one class keep their order. -/
def sortMarks (points : List Nat) : List Nat := points.foldr insertMark []

/-- Join marks to the letter `base`.  The marks in `kept`, latest first, could not be
joined; a mark behind one of its own class or a higher one cannot be joined either. -/
def joinMarks (base : Nat) (kept : List Nat) : List Nat → List Nat
  | [] => base :: kept.reverse
  | point :: rest =>
      let reachable := kept.head?.all fun last => markClass last < markClass point
      match if reachable then join? base point else none with
      | some whole => joinMarks whole kept rest
      | none =>
          if markClass point = 0 then base :: kept.reverse ++ joinMarks point [] rest
          else joinMarks base (point :: kept) rest

/-- Join every letter and its marks; marks before the first letter stay. -/
def joinAll (points : List Nat) : List Nat :=
  let isMark (point : Nat) : Bool := 0 < markClass point
  match points.dropWhile isMark with
  | [] => points
  | first :: rest => points.takeWhile isMark ++ joinMarks first [] rest

/-- The composed form of a text. -/
def compose (text : List Char) : List Char :=
  let apart := text.flatMap fun character => takeApart character.toNat depth
  (joinAll (sortMarks apart)).map Char.ofNat

end XmlExtract.Composition
