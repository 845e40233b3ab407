import BoxOffice.Json.Codec

/-!
# Changes

What happened to an event or a user. A change becomes a message whose routing key names the kind of
change and whose body holds its record, and a message becomes a change again when its routing key is one
that the domain knows and its body fits. `Change` gathers what the two domains have in common.
-/

namespace BoxOffice

/-- Why a change is not read or written. -/
inductive Change.Error
  /-- The body does not fit the routing key. -/
  | malformed (routingKey reason : String)
  /-- A record cannot be written. -/
  | encode (reason : String)
  deriving DecidableEq, Repr

/-- The report of a cause. -/
def Change.Error.message : Change.Error → String
  | malformed routingKey reason => "Malformed '" ++ routingKey ++ "' payload: " ++ reason
  | encode reason => "Encoding failed: " ++ reason

/-- The body of a message read as a record. -/
def Message.decodeBody {α : Type} (m : Message) (c : Json.Codec α) : Except Change.Error α :=
  match c.read m.body with
  | .ok v => .ok v
  | .error e => .error (.malformed m.routingKey e.message)

/-- What happened to an event. -/
inductive EventChange
  | created (snapshot : EventSnapshot)
  | updated (snapshot : EventSnapshot)
  | deleted (removed : Removed EventId)
  /-- Seats of it were booked. -/
  | seatsUpdated (count : SeatCount)
  deriving DecidableEq, Repr

namespace EventChange

/-- The routing key of a change. -/
def routingKey : EventChange → String
  | created _ => "event.created"
  | updated _ => "event.updated"
  | deleted _ => "event.deleted"
  | seatsUpdated _ => "event.seats.updated"

/-- The event that changed. -/
def eventId : EventChange → EventId
  | created s | updated s => s.id
  | deleted r => r.id
  | seatsUpdated c => c.id

/-- The record of a change. -/
def body : EventChange → Bytes
  | created s | updated s => Json.Codec.eventSnapshot.write s
  | deleted r => Json.Codec.removedEvent.write r
  | seatsUpdated c => Json.Codec.seatCount.write c

/-- The message of a change, with a given identifier. -/
def toMessage (messageId : String) (c : EventChange) : Message where
  routingKey := c.routingKey
  messageId := messageId
  key := c.eventId.text
  body := c.body
  redeliveries := 0

/-- The change of a message; nothing for a routing key of another domain. -/
def ofMessage (m : Message) : Except Change.Error (Option EventChange) :=
  if m.routingKey = "event.created" then
    (m.decodeBody Json.Codec.eventSnapshot).map fun s => some (created s)
  else if m.routingKey = "event.updated" then
    (m.decodeBody Json.Codec.eventSnapshot).map fun s => some (updated s)
  else if m.routingKey = "event.deleted" then
    (m.decodeBody Json.Codec.removedEvent).map fun r => some (deleted r)
  else if m.routingKey = "event.seats.updated" then
    (m.decodeBody Json.Codec.seatCount).map fun c => some (seatsUpdated c)
  else .ok none

end EventChange

/-- What happened to a user. -/
inductive UserChange
  | created (snapshot : UserSnapshot)
  | updated (snapshot : UserSnapshot)
  | deleted (removed : Removed UserId)
  deriving DecidableEq, Repr

namespace UserChange

/-- The routing key of a change. -/
def routingKey : UserChange → String
  | created _ => "user.created"
  | updated _ => "user.updated"
  | deleted _ => "user.deleted"

/-- The user who changed. -/
def userId : UserChange → UserId
  | created s | updated s => s.id
  | deleted r => r.id

/-- The record of a change. -/
def body : UserChange → Bytes
  | created s | updated s => Json.Codec.userSnapshot.write s
  | deleted r => Json.Codec.removedUser.write r

/-- The message of a change, with a given identifier. -/
def toMessage (messageId : String) (c : UserChange) : Message where
  routingKey := c.routingKey
  messageId := messageId
  key := c.userId.text
  body := c.body
  redeliveries := 0

/-- The change of a message; nothing for a routing key of another domain. -/
def ofMessage (m : Message) : Except Change.Error (Option UserChange) :=
  if m.routingKey = "user.created" then
    (m.decodeBody Json.Codec.userSnapshot).map fun s => some (created s)
  else if m.routingKey = "user.updated" then
    (m.decodeBody Json.Codec.userSnapshot).map fun s => some (updated s)
  else if m.routingKey = "user.deleted" then
    (m.decodeBody Json.Codec.removedUser).map fun r => some (deleted r)
  else .ok none

end UserChange

end BoxOffice
