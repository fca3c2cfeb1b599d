import XmlExtract.Input.Locator.Percent

/-!
# The steps of a locator

The path of a locator is a list of steps.  The step `.` stays, the step `..` goes
back, and the others are percent-encoded.  A letter with a colon is a drive, and no
step goes back behind it.  In a `file:` locator a bar after the letter of the first
step is a colon, and steps without a name at the beginning do not count.

Tabs and line ends do not belong to a step.  Behind the drive that begins the first
step of a `file:` locator they still divide: `C:`, a tab and `x` are the two steps
`C:` and `x`.
-/

namespace XmlExtract.Steps

/-- The characters that are encoded in a step. -/
def escaped : String := " \"<>`#?\x7b\x7d"

/-- Whether a character is a tab or a line end, which no part of a locator keeps. -/
def isLayout (character : Char) : Bool :=
  character == '\t' || character == '\n' || character == '\r'

/-- A text without tabs and line ends. -/
def plain (text : List Char) : List Char := text.filter fun character => !isLayout character

/-- A step with its encoded dots written out. -/
def plainDots : List Char → List Char
  | '%' :: '2' :: 'e' :: rest | '%' :: '2' :: 'E' :: rest => '.' :: plainDots rest
  | character :: rest => character :: plainDots rest
  | [] => []

/-- Whether a step begins with a letter and a colon or a bar, and ends there or goes
on with a backslash. -/
def beginsWithDrive : List Char → Bool
  | letter :: mark :: rest =>
      letter.isAlpha && (mark == ':' || mark == '|') &&
        (rest.isEmpty || rest.head? == some '\\')
  | _ => false

/-- Whether a step is a letter and a colon or a bar. -/
def isDrive (step : List Char) : Bool := step.length == 2 && beginsWithDrive step

/-- The drive that begins a step and what comes behind it, if a tab or a line end
stands between the two. -/
def cutDrive? (step : List Char) : Option (List Char × List Char) :=
  let behind := (step.dropWhile (· != ':')).drop 1
  match plain step with
  | letter :: ':' :: rest =>
      if letter.isAlpha && behind.head?.any isLayout && !rest.isEmpty then
        some ([letter, ':'], rest)
      else
        none
  | _ => none

/-- A path as far as it is resolved. -/
structure Path where
  /-- Its steps, innermost first. -/
  outer : List (List Char) := []
  /-- Whether its first step was read as a drive and nothing else. -/
  hasDrive : Bool := false
  deriving Repr, DecidableEq

/-- A path with one step more. -/
def Path.push (path : Path) (step : List Char) : Path :=
  { path with outer := step :: path.outer }

/-- The steps of a path, outermost first. -/
def Path.steps (path : Path) : List (List Char) := path.outer.reverse

/-- Go back one step; a drive is not left. -/
def Path.leave (path : Path) : Path :=
  match path.outer with
  | step :: around => if beginsWithDrive step then path else { path with outer := around }
  | [] => path

/-- Follow a step as it is written that is neither `.` nor `..`. -/
def Path.enter (isFile : Bool) (path : Path) (step : List Char) : Path :=
  let name := plain step
  if isFile && path.outer.isEmpty then
    if isDrive name then ⟨[name.take 1 ++ [':']], true⟩
    else
      match cutDrive? step with
      | some (drive, rest) => (path.push drive).push (Percent.encode escaped rest)
      | none => path.push (Percent.encode escaped name)
  else
    path.push (Percent.encode escaped name)

/-- Follow steps as they are written. -/
def resolveAfter (isFile : Bool) (path : Path) : List (List Char) → Path
  | [] => path
  | step :: later =>
      let closed (path : Path) := if later.isEmpty then path.push [] else path
      if plainDots (plain step) = ['.', '.'] then
        resolveAfter isFile (closed path.leave) later
      else if plainDots (plain step) = ['.'] then
        resolveAfter isFile (closed path) later
      else
        resolveAfter isFile (path.enter isFile step) later

/-- The path that steps make; `isFile` tells whether the locator is a `file:` locator. -/
def resolve (isFile : Bool) (steps : List (List Char)) : Path :=
  resolveAfter isFile {} steps

/-- The path without its first slash. -/
def dropSlash : List Char → List Char
  | '/' :: rest => rest
  | path => path

/-- The steps from the first that has a name on; a path has one step at least. -/
def dropNameless (steps : List (List Char)) : List (List Char) :=
  match steps.dropWhile List.isEmpty with
  | [] => [[]]
  | named => named

/-- The written form of steps. -/
def render (steps : List (List Char)) : List Char := steps.flatMap ('/' :: ·)

/-- The bytes of the path that steps name on this machine.  A drive at the end is the
root of the drive. -/
def localPath (steps : List (List Char)) : List UInt8 :=
  let bytes := steps.flatMap fun step => 0x2F :: Percent.decode step
  match bytes.reverse with
  | mark :: letter :: _ :: _ =>
      if (Char.ofNat letter.toNat).isAlpha && (mark == 0x3A || mark == 0x7C) then
        bytes ++ [0x2F]
      else
        bytes
  | _ => bytes

end XmlExtract.Steps
