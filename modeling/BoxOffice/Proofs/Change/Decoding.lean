import BoxOffice.Change
import BoxOffice.Proofs.Json.Records

/-!
# Reading changes back

A message with the routing key and the record of a change is read as that change,
when the numbers in it fit in 64 bits. When they do not it may be refused, and it
is still read as no other change.
-/

namespace BoxOffice

open Json (Codec Restores)

/-- The body of a message that holds a record. -/
theorem Message.restores {α : Type} {c : Codec α} (lawful : c.IsLawful) {m : Message} {v : α}
    (body : m.body = c.write v) :
    Restores (Json.Row.Fits c.shape.fields (c.toRow v)) v (m.decodeBody c) := by
  have read := lawful.restores v
  rw [← body] at read
  unfold decodeBody
  cases result : c.read m.body with
  | ok v' =>
      rw [result] at read
      rw [read.eq_of_ok rfl]
      exact .gives
  | error e =>
      rw [result] at read
      cases read with
      | fails unfit => exact .fails unfit _

namespace EventChange

/-- The numbers of a change fit in 64 bits. -/
def Fits : EventChange → Prop
  | created s | updated s => Json.Row.Fits _ (Codec.eventSnapshot.toRow s)
  | deleted r => Json.Row.Fits _ (Codec.removedEvent.toRow r)
  | seatsUpdated c => Json.Row.Fits _ (Codec.seatCount.toRow c)

/-- A message tells of a change: it has its routing key and its record. -/
structure Tells (m : Message) (c : EventChange) : Prop where
  routingKey : m.routingKey = c.routingKey
  body : m.body = c.body

/-- A message that tells of a change is read as that change, or not at all. -/
theorem Tells.restores {m : Message} {c : EventChange} (tells : Tells m c) :
    Restores c.Fits (some c) (ofMessage m) := by
  unfold ofMessage
  rw [tells.routingKey]
  cases c with
  | created s =>
      exact (Message.restores Codec.isLawful_eventSnapshot tells.body).map fun s => some (created s)
  | updated s =>
      exact (Message.restores Codec.isLawful_eventSnapshot tells.body).map fun s => some (updated s)
  | deleted r =>
      exact (Message.restores Codec.isLawful_removedEvent tells.body).map fun r => some (deleted r)
  | seatsUpdated c =>
      exact (Message.restores Codec.isLawful_seatCount tells.body).map fun c => some (seatsUpdated c)

end EventChange

namespace UserChange

/-- The numbers of a change fit in 64 bits. -/
def Fits : UserChange → Prop
  | created s | updated s => Json.Row.Fits _ (Codec.userSnapshot.toRow s)
  | deleted r => Json.Row.Fits _ (Codec.removedUser.toRow r)

/-- A message tells of a change: it has its routing key and its record. -/
structure Tells (m : Message) (c : UserChange) : Prop where
  routingKey : m.routingKey = c.routingKey
  body : m.body = c.body

/-- A message that tells of a change is read as that change, or not at all. -/
theorem Tells.restores {m : Message} {c : UserChange} (tells : Tells m c) :
    Restores c.Fits (some c) (ofMessage m) := by
  unfold ofMessage
  rw [tells.routingKey]
  cases c with
  | created s =>
      exact (Message.restores Codec.isLawful_userSnapshot tells.body).map fun s => some (created s)
  | updated s =>
      exact (Message.restores Codec.isLawful_userSnapshot tells.body).map fun s => some (updated s)
  | deleted r =>
      exact (Message.restores Codec.isLawful_removedUser tells.body).map fun r => some (deleted r)

end UserChange

end BoxOffice
