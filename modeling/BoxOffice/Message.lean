import BoxOffice.Text.Bytes

/-!
# Change messages

What travels on the bus: a routing key that names the kind of change, a body, the number of the entity as
the key that orders messages, an identifier, and a count of how often the message was handed back.
-/

namespace BoxOffice

/-- A message about a change. -/
structure Message where
  /-- The kind of change, such as `event.created`. -/
  routingKey : String
  /-- Distinct for each publication, and kept when the message is handed back. -/
  messageId : String
  /-- The number of the entity that changed. -/
  key : String
  body : Bytes
  /-- How often the message was handed back. -/
  redeliveries : Nat
  deriving DecidableEq, Repr

namespace Message

/-- The greatest count of redeliveries. -/
def maxRedeliveries : Nat := 4294967295

/-- The same message handed back once more. The count stops at its greatest value. -/
def redelivered (m : Message) : Message :=
  { m with redeliveries := min maxRedeliveries (m.redeliveries + 1) }

/-- The message handed back a number of times. -/
def redeliveredTimes (m : Message) : Nat → Message
  | 0 => m
  | n + 1 => (m.redeliveredTimes n).redelivered

end Message

end BoxOffice
