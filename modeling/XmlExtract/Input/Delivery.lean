import XmlExtract.Error

/-!
# Delivered input

How the bytes of a document reach a reader.  A delivery is a list of parts: data,
interruptions, failures, and requests of the owner to stop, each in the place
where the reader meets it.  The reader fetches bytes into a buffer and fetches
again only when it has used up the buffer and needs one more byte, so the cuts
between the parts can be seen in one thing only: the first buffer ends with the
first part that has data, or when it is full.

`Supply.input` therefore joins the parts into an `Input`: all bytes up to a
failure, the length of the first buffer, the failure, and the number of bytes
that come before the first request to stop.  An interruption is overcome by
fetching again and leaves no trace, except that `Supply.impatient` gives up at
one that comes before all data.
-/

namespace XmlExtract

/-- One part of a delivery. -/
inductive Delivery where
  | data (bytes : List UInt8)
  /-- Fetching is interrupted; fetching again goes on with the next part. -/
  | interruption
  /-- Fetching fails with a text. -/
  | failure (text : String)
  /-- The owner asks to stop. -/
  | stopRequest
  /-- Whoever delivers breaks down, and the reader with it. -/
  | breakdown
  deriving Repr, DecidableEq

/-- The bytes of a document as a reader comes to see them. -/
structure Input where
  bytes : List UInt8
  /-- How many bytes the first buffer holds. -/
  window : Nat
  /-- What happens when a byte after the last is asked for; `none` is the end. -/
  fault : Option Error
  /-- How many bytes come before the first request to stop. -/
  stopAfter : Option Nat
  deriving Repr, DecidableEq

namespace Input

/-- Bytes that lie in memory. -/
def ofBytes (bytes : List UInt8) : Input := ⟨bytes, bytes.length, none, none⟩

/-- The first buffer, or the failure that comes instead. -/
def firstBuffer (input : Input) : Except Error (List UInt8) :=
  match input.bytes, input.fault with
  | [], some error => .error error
  | bytes, _ => .ok (bytes.take input.window)

/-- Whether a reader that has asked for `reach` bytes has met a request to stop. -/
def stopRaisedBy (input : Input) (reach : Nat) : Bool :=
  input.stopAfter.any (· < reach)

/-- The input without its first bytes, which were looked at and belong to no
event. -/
def drop (input : Input) (count : Nat) : Input where
  bytes := input.bytes.drop count
  window := input.window - count
  fault := input.fault
  stopAfter := input.stopAfter.map (· - count)

end Input

namespace Delivery

/-- The text of the failure that an interruption is for a reader that does not
fetch again. -/
def interruptionText : String := "interrupted"

/-- The text that tells of a breakdown. -/
def breakdownText : String := "exited without a result"

/-- Join the parts that follow `count` bytes.  Data without bytes is skipped: a read that
brings nothing would be the end. -/
def joinAfter (count : Nat) : List Delivery → Input
  | [] => ⟨[], 0, none, none⟩
  | .data bytes :: later =>
      let rest := joinAfter (count + bytes.length) later
      { rest with
        bytes := bytes ++ rest.bytes
        window := if bytes.isEmpty then rest.window else bytes.length }
  | .interruption :: later => joinAfter count later
  | .failure text :: _ => ⟨[], 0, some (.io text), none⟩
  | .stopRequest :: later => { joinAfter count later with stopAfter := some count }
  | .breakdown :: _ => ⟨[], 0, some (.brokenDown breakdownText), none⟩

/-- Join the parts of a delivery. -/
def join (deliveries : List Delivery) : Input := joinAfter 0 deliveries

/-- The delivery as it is for a reader that gives up at an interruption before all
data. -/
def giveUpEarly : List Delivery → List Delivery
  | .interruption :: later => .failure interruptionText :: later
  | .stopRequest :: later => .stopRequest :: giveUpEarly later
  | .data [] :: later => giveUpEarly later
  | deliveries => deliveries

end Delivery

/-- A delivery and the buffer it is fetched into; memory needs no buffer. -/
structure Supply where
  deliveries : List Delivery
  capacity : Option Nat
  deriving Repr, DecidableEq

namespace Supply

/-- Bytes that lie in memory. -/
def ofBytes (bytes : List UInt8) : Supply := ⟨[.data bytes], none⟩

/-- The input that a reader sees.  Into a buffer without room nothing is fetched, so that the
input is empty, and a failure or a request to stop in the delivery is never met. -/
def input (supply : Supply) : Input :=
  let joined := Delivery.join supply.deliveries
  match supply.capacity with
  | none => joined
  | some 0 => Input.ofBytes []
  | some capacity => { joined with window := min capacity joined.window }

/-- The supply for a reader that gives up at an interruption before all data. -/
def impatient (supply : Supply) : Supply :=
  { supply with deliveries := Delivery.giveUpEarly supply.deliveries }

end Supply

end XmlExtract
