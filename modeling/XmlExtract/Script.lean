import XmlExtract.Reply

/-!
# Scripts

A script is a source of events that hands out a prepared list of answers and then reports the end of
the document for ever.  The position of a reply is the number of answers handed
out so far, that reply included; the reports of the end that follow do not count.
-/

namespace XmlExtract

/-- Prepared answers, and how many have been handed out before them. -/
structure Script where
  answers : List (Except Error Event)
  handedOut : Nat
  deriving Repr

namespace Script

/-- A script of which nothing has been handed out. -/
def ofAnswers (answers : List (Except Error Event)) : Script := ⟨answers, 0⟩

/-- Hand out the next answer. -/
def next (script : Script) : Except Error Event × Script :=
  match script.answers with
  | answer :: later => (answer, ⟨later, script.handedOut + 1⟩)
  | [] => (.ok .documentEnd, script)

/-- The number of answers left. -/
def remaining (script : Script) : Nat := script.answers.length

/-- The script after a number of answers have been asked for. -/
def advance (script : Script) : Nat → Script
  | 0 => script
  | pulls + 1 => script.next.2.advance pulls

/-- The replies to the next requests up to the first report of the end.  A request
to stop is made while the reply with number `stopAt` is fetched, counting from
the one after those handed out. -/
def replies (script : Script) (stopAt : Option Nat) : List Reply :=
  go stopAt script.handedOut script.answers
where
  /-- The replies that follow the first `count` answers. -/
  go (stopAt : Option Nat) (count : Nat) : List (Except Error Event) → List Reply
    | [] => [⟨count, .ok .documentEnd, stopAt == some (count + 1)⟩]
    | answer :: later =>
        ⟨count + 1, answer, stopAt == some (count + 1)⟩ :: go stopAt (count + 1) later

end Script

end XmlExtract
