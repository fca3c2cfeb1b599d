import XmlExtract.Keyed
import XmlExtract.Path.Expression
import XmlExtract.Path.Match
import XmlExtract.Text.Quoted

/-!
# What a query captures

A capture holds chunks of text in the order of the document, each with the
written position of its element, and attributes by written position.  The
attributes of a position are recorded once: the first record stays.  Within one
record the last value of a repeated name stays.
-/

namespace XmlExtract

/-- A chunk of text and the written position of the element around it. -/
structure Chunk where
  position : String
  text : String
  deriving Repr, DecidableEq

/-- A chunk for the eye: position, equals sign, quoted text. -/
def Chunk.render (chunk : Chunk) : String :=
  s!"{chunk.position} = {Quoted.encode chunk.text}"

/-- The attributes of one element: values by name. -/
abbrev Attributes := Keyed String

/-- Chunks of text and attributes by position. -/
structure Capture where
  chunks : Array Chunk
  attributes : Keyed Attributes
  deriving Repr, DecidableEq

namespace Capture

/-- The capture of nothing. -/
def empty : Capture := ⟨#[], ∅⟩

instance : Inhabited Capture := ⟨empty⟩

/-- Append one chunk of text. -/
def addText (capture : Capture) (position text : String) : Capture :=
  { capture with chunks := capture.chunks.push ⟨position, text⟩ }

/-- Record the attributes of the element at `position`, unless that position has
been recorded. -/
def addAttributes (capture : Capture) (position : String)
    (pairs : List (String × String)) : Capture :=
  { capture with
    attributes := capture.attributes.insertIfNew position (Keyed.ofList pairs) }

/-- The text of every chunk, in order. -/
def texts (capture : Capture) : List String :=
  capture.chunks.toList.map (·.text)

/-- The chunks at one written position, in order. -/
def chunksAt (capture : Capture) (position : String) : List Chunk :=
  capture.chunks.toList.filter (·.position == position)

/-- The attributes recorded for a written position. -/
def attributesAt? (capture : Capture) (position : String) : Option Attributes :=
  capture.attributes.find? position

/-- The value of one attribute at a written position. -/
def attributeValue? (capture : Capture) (position name : String) : Option String :=
  (capture.attributesAt? position).bind (·.find? name)

/-- Whether the text is that of a position which satisfies the pattern. -/
def selects (pattern : Pattern) (key : String) : Bool :=
  match Position.parse key with
  | .ok position => position.exact pattern
  | .error _ => false

/-- The attributes of the positions that satisfy a pattern, in ascending order of
their written forms.  The pattern without steps selects everything. -/
def attributesMatching (capture : Capture) (pattern : Pattern) : List (String × Attributes) :=
  if pattern.isEmpty then capture.attributes.entries
  else capture.attributes.entries.filter fun entry => selects pattern entry.1

/-- Whether nothing has been captured. -/
def isEmpty (capture : Capture) : Bool :=
  capture.chunks.isEmpty && capture.attributes.isEmpty

end Capture

end XmlExtract
