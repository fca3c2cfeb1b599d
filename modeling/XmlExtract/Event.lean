/-!
# Events

A document as a sequence of events, in the order in which a reader meets them.
-/

namespace XmlExtract

/-- One event of a document. -/
inductive Event where
  | documentStart
  /-- An element begins; its attributes stand in the order of the document. -/
  | elementStart (name : String) (attributes : List (String × String))
  | elementEnd (name : String)
  /-- One chunk of character data: a run of text, a resolved reference or a CDATA
  section. -/
  | text (content : String)
  | documentEnd
  deriving Repr, DecidableEq

namespace Event

/-- Whether an element begins. -/
def isStart : Event → Bool
  | elementStart _ _ => true
  | _ => false

/-- Whether an element ends. -/
def isEnd : Event → Bool
  | elementEnd _ => true
  | _ => false

/-- The name of the element that begins or ends. -/
def tagName? : Event → Option String
  | elementStart name _ | elementEnd name => some name
  | _ => none

end Event

end XmlExtract
