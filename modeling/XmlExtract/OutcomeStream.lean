import XmlExtract.Query

/-!
# Outcome streams

A stream that yields the outcome of a query once and then is over.  The query runs
when a value is asked for the first time.  Cancelling the stream asks the query to
stop; a cancelled stream yields nothing.
-/

namespace XmlExtract

/-- A query that is still to be run, if any, and the request to stop. -/
structure OutcomeStream where
  pending : Option Query
  stopRaised : Bool
  deriving Repr

namespace OutcomeStream

/-- The stream of a query. -/
def ofQuery (query : Query) : OutcomeStream := ⟨some query, false⟩

/-- Ask the query to stop. -/
def cancel (stream : OutcomeStream) : OutcomeStream := { stream with stopRaised := true }

/-- Ask for a value; `none` means that the stream is over. -/
def next (world : World) (stream : OutcomeStream) :
    Option (Except Error Capture) × OutcomeStream :=
  match stream.stopRaised, stream.pending with
  | true, _ | _, none => (none, { stream with pending := none })
  | false, some query =>
      let run := query.run world .waiting
      let after : OutcomeStream := ⟨none, run.stop.raised⟩
      match run.stop.raised, run.outcome with
      | true, _ | _, .error .cancelled => (none, after)
      | false, outcome => (some outcome, after)

end OutcomeStream

end XmlExtract
