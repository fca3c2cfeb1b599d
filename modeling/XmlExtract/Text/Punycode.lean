/-!
# Punycode

A way to write any text in letters, digits and hyphens, in which international names
of hosts are written.  The ASCII characters of the text come first.  The others follow
from the lowest code point to the highest; each is written as how far one has to count
from the one before it, where one counts places in the text first and code points next.
The digits have no fixed length, and the `bias` makes numbers of the expected size short.
-/

namespace XmlExtract.Punycode

/-- How many digits there are. -/
def base : Nat := 36

/-- The digit of a value: the letters, then the decimal digits. -/
def digit (value : Nat) : Char :=
  if value < 26 then Char.ofNat ('a'.toNat + value) else Char.ofNat ('0'.toNat + (value - 26))

/-- The value below which the digit at a position is the last one. -/
def threshold (bias position : Nat) : Nat := max 1 (min 26 (position - bias))

/-- The digits of a number from a position on. -/
def digitsFrom (bias position number : Nat) : List Char :=
  let least := threshold bias position
  if number < least then
    [digit number]
  else
    digit (least + (number - least) % (base - least)) ::
      digitsFrom bias (position + base) ((number - least) / (base - least))
termination_by number
decreasing_by
  have positive : 1 ≤ threshold bias position := by unfold threshold; omega
  calc (number - threshold bias position) / (base - threshold bias position)
      ≤ number - threshold bias position := Nat.div_le_self _ _
    _ < number := by omega

/-- The digits of a number. -/
def digits (bias number : Nat) : List Char := digitsFrom bias base number

/-- The bias for a number that is expected to have the size of `delta`. -/
def biasFor (delta : Nat) : Nat :=
  if 455 < delta then base + biasFor (delta / (base - 1))
  else base * delta / (delta + 38)
termination_by delta
decreasing_by unfold base; omega

/-- The bias before the first number. -/
def firstBias : Nat := 72

/-- The bias after a number: it is expected to shrink, more so after the first one,
and the more the longer the text is. -/
def nextBias (delta length : Nat) (first : Bool) : Nat :=
  let shrunk := if first then delta / 700 else delta / 2
  biasFor (shrunk + shrunk / length)

/-- What is written, and how far one has counted since. -/
structure State where
  delta : Nat
  bias : Nat
  /-- How many characters are written. -/
  length : Nat
  written : List Char

/-- Pass a character of the text while the code point `point` is due.  `plain` is the
number of ASCII characters. -/
def State.pass (plain point : Nat) (state : State) (character : Char) : State :=
  if character.toNat < point then
    { state with delta := state.delta + 1 }
  else if character.toNat = point then
    { delta := 0
      bias := nextBias state.delta (state.length + 1) (state.length == plain)
      length := state.length + 1
      written := state.written ++ digits state.bias state.delta }
  else
    state

/-- Write the characters with the code points `due`, of which none is below `next`. -/
def writeFrom (text : List Char) (plain : Nat) :
    (next : Nat) → (due : List Nat) → State → List Char
  | _, [], state => state.written
  | next, point :: due, state =>
      let counted := { state with delta := state.delta + (point - next) * (state.length + 1) }
      let state := text.foldl (State.pass plain point) counted
      writeFrom text plain (point + 1) due { state with delta := state.delta + 1 }

/-- The code points outside of ASCII, each once, in ascending order. -/
def duePoints (text : List Char) : List Nat :=
  (((text.map Char.toNat).filter (0x80 ≤ ·)).eraseDups).mergeSort

/-- The written form of a text. -/
def encode (text : List Char) : List Char :=
  let plain := text.filter fun character => character.toNat < 0x80
  let start := if plain.isEmpty then [] else plain ++ ['-']
  writeFrom text plain.length 0x80 (duePoints text) ⟨0, firstBias, plain.length, start⟩

end XmlExtract.Punycode
