import XmlExtract.Extraction

/-!
# Sessions

A session is an extraction in the hands of a caller, who hands it one event after the other
and may go on whatever the answers are.  It is changed in place: what a call has written
before it fails stays written.  Calls are counted, which serves the log only.
-/

namespace XmlExtract

structure Session where
  extraction : Extraction
  calls : Nat
  deriving Repr

namespace Session

/-- The session before the first call. -/
def start (pattern : Pattern) (settings : Settings) : Session :=
  ⟨Extraction.start pattern settings, 0⟩

/-- What is done to a session until it is done or fails. -/
abbrev Action := ExceptT Error (StateM Session)

/-- The answer of an action, and the session that it leaves. -/
def Action.perform {α : Type} (action : Action α) (session : Session) :
    Except Error α × Session :=
  StateT.run action.run session

/-- The session after one more call. -/
def counted (session : Session) : Session := { session with calls := session.calls + 1 }

def count : Action Unit := modify counted

def write (change : Extraction → Extraction) : Action Unit :=
  modify fun session => { session with extraction := change session.extraction }

section

variable {α β : Type} (session : Session)

@[simp]
theorem perform_pure (value : α) : (pure value : Action α).perform session = (.ok value, session) :=
  rfl

@[simp]
theorem perform_throw (error : Error) :
    (throw error : Action α).perform session = (.error error, session) :=
  rfl

@[simp]
theorem perform_get : (get : Action Session).perform session = (.ok session, session) :=
  rfl

@[simp]
theorem perform_count : count.perform session = (.ok (), session.counted) :=
  rfl

@[simp]
theorem perform_write (change : Extraction → Extraction) :
    (write change).perform session =
      (.ok (), { session with extraction := change session.extraction }) :=
  rfl

/-- What has been written before a failure stays written. -/
@[simp]
theorem perform_bind (action : Action α) (next : α → Action β) :
    (action >>= next).perform session =
      match action.perform session with
      | (.ok value, after) => (next value).perform after
      | (.error error, after) => (.error error, after) := by
  change (ExceptT.bindCont next (action.perform session).1 : StateM Session _).run
    (action.perform session).2 = _
  cases action.perform session with
  | mk answer after => cases answer <;> rfl

@[simp]
theorem perform_map (change : α → β) (action : Action α) :
    (change <$> action).perform session =
      ((action.perform session).1.map change, (action.perform session).2) := by
  rw [map_eq_pure_bind, perform_bind]
  cases action.perform session with
  | mk answer after => cases answer <;> rfl

@[simp]
theorem perform_ite (condition : Prop) [Decidable condition] (first second : Action α) :
    (if condition then first else second).perform session =
      if condition then first.perform session else second.perform session := by
  split <;> rfl

end

/-- An element that starts outside of every element is the root, and there is one root. -/
def noteRoot (name : String) (position : Nat) : Action Unit := do
  if (← get).extraction.trail.depth == 0 then
    if (← get).extraction.hadRoot then
      throw (.malformed position (.secondRoot name))
    write fun extraction => { extraction with hadRoot := true }

/-- Record the attributes of the element that has started, if they are wanted. -/
def record (attributes : List (String × String)) : Action Unit := do
  let extraction := (← get).extraction
  if (extraction.trail.judge extraction.pattern).attributesWanted then
    let key := extraction.trail.position.render
    write fun extraction =>
      { extraction with capture := extraction.capture.addAttributes key attributes }

/-- An element starts. -/
def enterElement (name : String) (attributes : List (String × String)) (position : Nat) :
    Action Progress := do
  noteRoot name position
  write fun extraction => { extraction with trail := extraction.trail.enter name }
  record attributes
  let extraction := (← get).extraction
  if extraction.stopsEarly && (extraction.trail.judge extraction.pattern).nothingFollows then
    return .finish
  return .proceed

/-- Take the innermost place off the trail, and its tally if there was one. -/
def close : Action (Option Place) := do
  let closed := (← get).extraction.trail.opened.back?
  write fun extraction =>
    { extraction with trail.opened := extraction.trail.opened.pop }
  if closed.isSome then
    write fun extraction =>
      { extraction with trail.tallies := extraction.trail.tallies.drop 1 }
  return closed

/-- An element ends.  Only after the trail has been taken back is it known whether one was
open. -/
def leaveElement (name : String) (position : Nat) : Action Progress := do
  match ← close with
  | some _ => return .proceed
  | none => throw (.malformed position (.endWithoutStart name))

/-- The document ends. -/
def endOfDocument (position : Nat) : Action Progress := do
  match (← get).extraction.trail.position.last? with
  | some place => throw (.malformed position (.elementNotClosed place.name))
  | none =>
      unless (← get).extraction.hadRoot do
        throw (.malformed position .noRoot)
      return .finish

/-- Hand an event to the session; `position` is the byte to blame if it is refused. -/
def handle (position : Nat) (event : Event) : Action Progress := do
  count
  match event with
  | .documentStart => return .proceed
  | .elementStart name attributes => enterElement name attributes position
  | .elementEnd name => leaveElement name position
  | .text content =>
      write fun extraction => extraction.takeText content
      return .proceed
  | .documentEnd => endOfDocument position

/-- Hand over events with their positions, whatever the answers are, and collect the
answers. -/
def handleAll : List (Nat × Event) → StateM Session (List (Except Error Progress))
  | [] => return []
  | (position, event) :: later => do
      let answer ← (handle position event).perform
      return answer :: (← handleAll later)

/-- Ask for replies and hand over their events until the run is over. -/
def runFrom (session : Session) (stop : StopRequest) (position : Nat) : List Reply → Run
  | [] =>
      if stop.stops then
        ⟨.error .cancelled, 0, stop⟩
      else
        match (handle position .documentEnd).perform session with
        | (.error error, _) => ⟨.error error, 1, stop⟩
        | (.ok _, session) => ⟨.ok session.extraction.capture, 1, stop⟩
  | reply :: later =>
      if stop.stops then
        ⟨.error .cancelled, 0, stop⟩
      else
        let stop := stop.raiseIf reply.stopRaised
        if stop.stops then
          ⟨.error .cancelled, 1, stop⟩
        else
          match reply.answer with
          | .error error => ⟨.error error, 1, stop⟩
          | .ok event =>
              match (handle reply.position event).perform session with
              | (.error error, _) => ⟨.error error, 1, stop⟩
              | (.ok .finish, session) => ⟨.ok session.extraction.capture, 1, stop⟩
              | (.ok .proceed, session) =>
                  let run := runFrom session stop reply.position later
                  { run with pulls := run.pulls + 1 }

/-- Run over the replies of a source. -/
def run (session : Session) (stop : StopRequest) (replies : List Reply) : Run :=
  session.runFrom stop 0 replies

end Session

end XmlExtract
