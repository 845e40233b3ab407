import BoxOffice.Json.Record
import BoxOffice.Message
import BoxOffice.Snapshot
import BoxOffice.Change.Payload

/-!
# The records of messages

The form of each record that a message or a stored file carries, with the two ways between a record's
fields and its type.
-/

namespace BoxOffice.Json

/-- How values of a type are written and read as records. -/
structure Codec (α : Type) where
  shape : Shape
  /-- The value of a row. -/
  ofRow : Row shape.fields → α
  /-- The row of a value. -/
  toRow : α → Row shape.fields

namespace Codec

variable {α : Type}

/-- A value as it is written. -/
def write (c : Codec α) (v : α) : Bytes := writeRow c.shape.fields (c.toRow v)

/-- Reads a whole text as a value. -/
def read (c : Codec α) (bytes : Bytes) : Except Error α :=
  (whole (c.shape.read bytes)).map c.ofRow

/-- The copy of an event. Its price may be absent and is zero then. -/
def eventSnapshot : Codec EventSnapshot where
  shape := ⟨"EventSnapshot",
    [⟨"id", .int64, none⟩, ⟨"public_id", .publicId, none⟩, ⟨"title", .text, none⟩,
      ⟨"start_date", .timestamp, none⟩, ⟨"end_date", .timestamp, none⟩,
      ⟨"available_seats", .nat64, none⟩, ⟨"ticket_price", .int64, some (0 : Int)⟩,
      ⟨"version", .nat64, none⟩]⟩
  ofRow := fun (id, publicId, title, startDate, endDate, availableSeats, price, version, _) =>
    ⟨⟨id⟩, publicId, title, startDate, endDate, availableSeats, ⟨price⟩, version⟩
  toRow := fun e => (e.id.number, e.publicId, e.title, e.startDate, e.endDate, e.availableSeats,
    e.ticketPrice.cents, e.version, ())

/-- The copy of a user. Its version may be absent and is the first then. -/
def userSnapshot : Codec UserSnapshot where
  shape := ⟨"UserSnapshot",
    [⟨"id", .int64, none⟩, ⟨"public_id", .publicId, none⟩, ⟨"version", .nat64, some (1 : Nat)⟩]⟩
  ofRow := fun (id, publicId, version, _) => ⟨⟨id⟩, publicId, version⟩
  toRow := fun u => (u.id.number, u.publicId, u.version, ())

/-- The row of an event. -/
def eventRow : Codec EventRow where
  shape := ⟨"LedgerEvent",
    [⟨"id", .int64, none⟩, ⟨"public_id", .publicId, none⟩, ⟨"title", .text, none⟩,
      ⟨"start_date", .timestamp, none⟩, ⟨"end_date", .timestamp, none⟩,
      ⟨"total_seats", .nat64, none⟩, ⟨"available_seats", .nat64, none⟩,
      ⟨"ticket_price", .int64, none⟩, ⟨"version", .nat64, none⟩]⟩
  ofRow := fun (id, publicId, title, startDate, endDate, total, available, price, version, _) =>
    ⟨⟨id⟩, publicId, title, startDate, endDate, total, available, ⟨price⟩, version⟩
  toRow := fun e => (e.id.number, e.publicId, e.title, e.startDate, e.endDate, e.totalSeats,
    e.availableSeats, e.ticketPrice.cents, e.version, ())

/-- A booking. -/
def booking : Codec Booking where
  shape := ⟨"Booking",
    [⟨"id", .int64, none⟩, ⟨"public_id", .publicId, none⟩, ⟨"event_id", .int64, none⟩,
      ⟨"user_id", .int64, none⟩, ⟨"seats", .nat32, none⟩, ⟨"total", .int64, none⟩,
      ⟨"status", .bookingStatus, none⟩, ⟨"expires_at", .timestamp, none⟩,
      ⟨"created_at", .timestamp, none⟩]⟩
  ofRow := fun (id, publicId, eventId, userId, seats, total, status, expiresAt, createdAt, _) =>
    ⟨⟨id⟩, publicId, ⟨eventId⟩, ⟨userId⟩, seats, ⟨total⟩, status, expiresAt, createdAt⟩
  toRow := fun b => (b.id.number, b.publicId, b.eventId.number, b.userId.number, b.seats,
    b.total.cents, b.status, b.expiresAt, b.createdAt, ())

/-- A payment. -/
def payment : Codec Payment where
  shape := ⟨"Payment",
    [⟨"id", .int64, none⟩, ⟨"public_id", .publicId, none⟩, ⟨"booking_id", .int64, none⟩,
      ⟨"user_id", .int64, none⟩, ⟨"amount", .int64, none⟩, ⟨"status", .paymentStatus, none⟩,
      ⟨"created_at", .timestamp, none⟩]⟩
  ofRow := fun (id, publicId, bookingId, userId, amount, status, createdAt, _) =>
    ⟨⟨id⟩, publicId, ⟨bookingId⟩, ⟨userId⟩, ⟨amount⟩, status, createdAt⟩
  toRow := fun p => (p.id.number, p.publicId, p.bookingId.number, p.userId.number, p.amount.cents,
    p.status, p.createdAt, ())

/-- A count of seats. -/
def seatCount : Codec SeatCount where
  shape := ⟨"SeatCount",
    [⟨"id", .int64, none⟩, ⟨"public_id", .publicId, none⟩, ⟨"available_seats", .nat64, none⟩,
      ⟨"version", .nat64, none⟩]⟩
  ofRow := fun (id, publicId, availableSeats, version, _) => ⟨⟨id⟩, publicId, availableSeats, version⟩
  toRow := fun c => (c.id.number, c.publicId, c.availableSeats, c.version, ())

/-- The form of a removal. Its version may be absent and is zero then. -/
def removalShape : Shape :=
  ⟨"Removed",
    [⟨"id", .int64, none⟩, ⟨"public_id", .publicId, none⟩, ⟨"version", .nat64, some (0 : Nat)⟩]⟩

/-- The removal of an event. -/
def removedEvent : Codec (Removed EventId) where
  shape := removalShape
  ofRow := fun (id, publicId, version, _) => ⟨⟨id⟩, publicId, version⟩
  toRow := fun r => (r.id.number, r.publicId, r.version, ())

/-- The removal of a user. -/
def removedUser : Codec (Removed UserId) where
  shape := removalShape
  ofRow := fun (id, publicId, version, _) => ⟨⟨id⟩, publicId, version⟩
  toRow := fun r => (r.id.number, r.publicId, r.version, ())

/-- A message. A message without a count of redeliveries was never handed back. -/
def message : Codec Message where
  shape := ⟨"ChangeMessage",
    [⟨"routing_key", .text, none⟩, ⟨"message_id", .text, none⟩, ⟨"key", .text, none⟩,
      ⟨"body", .bytes, none⟩, ⟨"redeliveries", .nat32, some (0 : Nat)⟩]⟩
  ofRow := fun (routingKey, messageId, key, body, redeliveries, _) =>
    ⟨routingKey, messageId, key, body, redeliveries⟩
  toRow := fun m => (m.routingKey, m.messageId, m.key, m.body, m.redeliveries, ())

end Codec

end BoxOffice.Json
