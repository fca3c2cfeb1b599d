import XmlExtract.Document
import XmlExtract.Input.Source

/-!
# Queries

A query pairs a source with a pattern.  Running it opens the source, makes a
document of the input, and runs the pattern over it.

Several patterns can be asked of one document in memory.  It is transcoded once,
and each pattern gets the outcome it would get alone.
-/

namespace XmlExtract

/-- A source and what is asked of it. -/
structure Query where
  source : Source
  pattern : Pattern
  settings : Settings
  deriving Repr

namespace Query

/-! ### Building -/

/-- The query for the root of a source. -/
def ofSource (decoders : Decoders) (source : Source) : Query :=
  ⟨source, .root, { Settings.standard with decoders := decoders }⟩

/-- Descend to the children called `name`. -/
def descend (query : Query) (name : String) : Query :=
  { query with pattern := query.pattern.append name }

/-- Pin the last step to one sibling, whose number counts from zero. -/
def pin (query : Query) (number : Nat) : Query :=
  { query with pattern := query.pattern.pinLast number }

/-- Ask for another pattern. -/
def withPattern (query : Query) (pattern : Pattern) : Query :=
  { query with pattern := pattern }

/-- Use other settings. -/
def withSettings (query : Query) (settings : Settings) : Query :=
  { query with settings := settings }

/-! ### Running -/

/-- Run a query.  The source is opened and its input made ready before the request
to stop is looked at for the first time. -/
def run (world : World) (query : Query) (stop : StopRequest) : Run :=
  match query.source.supply world query.settings with
  | .error error => ⟨.error error, 0, stop⟩
  | .ok supply =>
      let input := supply.impatient.input
      let stop := stop.raiseIf (Document.stopRaised input)
      match Document.ofInput input with
      | .error error => ⟨.error error, 0, stop⟩
      | .ok document => document.run query.pattern query.settings stop

/-- The outcome of a query, if nobody asks to stop. -/
def outcome (world : World) (query : Query) : Except Error Capture :=
  (query.run world .ignored).outcome

/-- The outcomes of several patterns for bytes in memory, in the order of the
patterns.  If the bytes cannot be transcoded, each has that error. -/
def outcomes (bytes : List UInt8) (patterns : List Pattern) (settings : Settings) :
    List (Except Error Capture) :=
  match Document.ofBytes bytes with
  | .error error => patterns.map fun _ => .error error
  | .ok document => patterns.map fun pattern => document.capture pattern settings

/-- The captures of several expressions with keys, in order, or the first failure.
The bytes are transcoded before an expression is parsed. -/
def table (bytes : List UInt8) (queries : List (String × String)) (settings : Settings) :
    Except Error (List (String × Capture)) := do
  let document ← Document.ofBytes bytes
  queries.mapM fun query => do
    let pattern ← Pattern.parse query.2
    let capture ← document.capture pattern settings
    .ok (query.1, capture)

end Query

end XmlExtract
