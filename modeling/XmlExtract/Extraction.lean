import XmlExtract.Capture
import XmlExtract.Reply
import XmlExtract.Settings
import XmlExtract.Text.Blank
import XmlExtract.Trail

/-!
# Extractions

An extraction follows the events of one document for one pattern and captures what
the pattern asks for: the text of the elements at its positions, and the
attributes of those elements, their ancestors and their descendants.

`Extraction.accept` takes one event.  It either proceeds, or finishes, or refuses
the event, and then the extraction stays as it was.  `Extraction.run` asks a source
for one reply after the other until the document ends, a reply or an event fails,
the extraction finishes early, or a heeded request to stop is made.  The request is
looked at before and after each reply, so that a reply that comes together with it
is dropped.
-/

namespace XmlExtract

/-- The state of a query between two events. -/
structure Extraction where
  pattern : Pattern
  stopsEarly : Bool
  skipsBlanks : Bool
  trail : Trail
  hadRoot : Bool
  capture : Capture
  deriving Repr

/-- Whether an extraction wants more events. -/
inductive Progress where
  | proceed
  | finish
  deriving Repr, DecidableEq

/-- What came of a run: its outcome, how many replies it asked for, and the
request to stop as it stood at the end. -/
structure Run where
  outcome : Except Error Capture
  pulls : Nat
  stop : StopRequest
  deriving Repr

namespace Extraction

/-- The extraction before the first event. -/
def start (pattern : Pattern) (settings : Settings) : Extraction where
  pattern := pattern
  stopsEarly := settings.stopsEarly
  skipsBlanks := settings.skipsBlanks
  trail := Trail.fresh
  hadRoot := false
  capture := Capture.empty

/-- An element starts.  A second root is refused. -/
def enterElement (extraction : Extraction) (name : String)
    (attributes : List (String × String)) (position : Nat) :
    Except Error (Progress × Extraction) :=
  match extraction with
  | ⟨pattern, stopsEarly, skipsBlanks, trail, hadRoot, capture⟩ =>
      if trail.depth == 0 && hadRoot then
        .error (.malformed position (.secondRoot name))
      else
        let trail := trail.enter name
        let verdict := trail.judge pattern
        let capture :=
          if verdict.attributesWanted then
            capture.addAttributes trail.position.render attributes
          else
            capture
        let progress :=
          if stopsEarly && verdict.nothingFollows then Progress.finish else .proceed
        .ok (progress, ⟨pattern, stopsEarly, skipsBlanks, trail, true, capture⟩)

/-- An element ends.  Its name plays no part; an end without a start is refused. -/
def leaveElement (extraction : Extraction) (name : String) (position : Nat) :
    Except Error (Progress × Extraction) :=
  match extraction with
  | ⟨pattern, stopsEarly, skipsBlanks, trail, hadRoot, capture⟩ =>
      match trail.leave? with
      | some (_, trail) =>
          .ok (.proceed, ⟨pattern, stopsEarly, skipsBlanks, trail, hadRoot, capture⟩)
      | none => .error (.malformed position (.endWithoutStart name))

/-- Whether a chunk of text at the current position is captured. -/
def wants (extraction : Extraction) (text : String) : Bool :=
  extraction.trail.depth != 0 &&
    !(extraction.skipsBlanks && text.toList.all isBlank) &&
    (extraction.trail.judge extraction.pattern).textWanted

/-- A chunk of text comes. -/
def takeText (extraction : Extraction) (text : String) : Extraction :=
  if extraction.wants text then
    { extraction with
      capture := extraction.capture.addText extraction.trail.position.render text }
  else
    extraction

/-- The document ends.  It must have had a root, and no element may be open. -/
def endOfDocument (extraction : Extraction) (position : Nat) :
    Except Error (Progress × Extraction) :=
  match extraction.trail.position.last? with
  | some place => .error (.malformed position (.elementNotClosed place.name))
  | none =>
      if extraction.hadRoot then .ok (.finish, extraction)
      else .error (.malformed position .noRoot)

/-- Take one event; `position` is the byte to blame if it is refused. -/
def accept (extraction : Extraction) (event : Event) (position : Nat) :
    Except Error (Progress × Extraction) :=
  match event with
  | .documentStart => .ok (.proceed, extraction)
  | .elementStart name attributes => extraction.enterElement name attributes position
  | .elementEnd name => extraction.leaveElement name position
  | .text content => .ok (.proceed, extraction.takeText content)
  | .documentEnd => extraction.endOfDocument position

/-- Ask for replies until the run is over.  When the replies run out, the document
ends at the position of the last one, which is `position` if none has come. -/
def runFrom (extraction : Extraction) (stop : StopRequest) (position : Nat) :
    List Reply → Run
  | [] =>
      if stop.stops then
        ⟨.error .cancelled, 0, stop⟩
      else
        match extraction.endOfDocument position with
        | .error error => ⟨.error error, 1, stop⟩
        | .ok (_, extraction) => ⟨.ok extraction.capture, 1, stop⟩
  | reply :: later =>
      if stop.stops then
        ⟨.error .cancelled, 0, stop⟩
      else
        let stop := stop.raiseIf reply.stopRaised
        if stop.stops then
          ⟨.error .cancelled, 1, stop⟩
        else
          match reply.answer with
          | .error error => ⟨.error error, 1, stop⟩
          | .ok event =>
              match extraction.accept event reply.position with
              | .error error => ⟨.error error, 1, stop⟩
              | .ok (.finish, extraction) => ⟨.ok extraction.capture, 1, stop⟩
              | .ok (.proceed, extraction) =>
                  let run := runFrom extraction stop reply.position later
                  { run with pulls := run.pulls + 1 }

/-- Run over the replies of a source. -/
def run (extraction : Extraction) (stop : StopRequest) (replies : List Reply) : Run :=
  extraction.runFrom stop 0 replies

end Extraction

end XmlExtract
