import XmlExtract.Error.Cause

/-!
# Errors

The one type of failure that a query can answer with.  An error ends the run
that produced it.  `Error.message` is the full wording, and
`Error.blamesDocument` tells faults of the document from faults of its
delivery.
-/

namespace XmlExtract

/-- What can go wrong in a query.  Positions are byte offsets in the input. -/
inductive Error where
  | unavailable (cause : Unavailability)
  | malformed (position : Nat) (cause : Malformation)
  | invalid (position : Nat) (cause : Invalidity)
  /-- Reading the input failed; the text is the reader's. -/
  | io (text : String)
  | badExpression (expression : String) (cause : PathFlaw)
  | cancelled
  /-- The worker that ran a streamed query ended without an answer. -/
  | brokenDown (text : String)
  deriving Repr, DecidableEq

namespace Error

/-- The full wording of an error. -/
def message : Error → String
  | unavailable cause => s!"Tokenizer unavailable: {cause.message}"
  | malformed position cause => s!"Malformed document at byte {position}: {cause.message}"
  | invalid position cause => s!"Invalid document at byte {position}: {cause.message}"
  | io text => s!"I/O error: {text}"
  | badExpression expression cause =>
      s!"Invalid path expression '{expression}': {cause.message}"
  | cancelled => "Query cancelled"
  | brokenDown text => s!"Query worker failed: {text}"

/-- Whether the document is at fault, rather than its delivery. -/
def blamesDocument : Error → Bool
  | malformed _ _ | invalid _ _ => true
  | _ => false

end Error

end XmlExtract
