import XmlExtract.Error
import XmlExtract.Event

/-!
# Replies and requests to stop

A source of events answers one reply at a time.  Its owner may ask it to stop;
the request stays raised once it has been made, and whoever asks for replies
decides whether to heed it.
-/

namespace XmlExtract

/-- One reply of a source of events. -/
structure Reply where
  /-- The byte at which fetching this reply began. -/
  position : Nat
  answer : Except Error Event
  /-- Whether a request to stop was made by the time the reply was there. -/
  stopRaised : Bool
  deriving Repr

/-- A request to stop: whether it counts, and whether it has been made. -/
structure StopRequest where
  heeded : Bool
  raised : Bool
  deriving Repr, DecidableEq

namespace StopRequest

/-- A request that nobody heeds and nobody has made. -/
def ignored : StopRequest := ⟨false, false⟩

/-- A request that is heeded and has not been made. -/
def waiting : StopRequest := ⟨true, false⟩

/-- Make the request if `now` holds; it is never taken back. -/
def raiseIf (request : StopRequest) (now : Bool) : StopRequest :=
  { request with raised := request.raised || now }

/-- Whether the request stops a run. -/
def stops (request : StopRequest) : Bool := request.heeded && request.raised

end StopRequest

end XmlExtract
