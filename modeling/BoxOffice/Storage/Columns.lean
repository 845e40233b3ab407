import BoxOffice.Ledger.Error
import BoxOffice.Snapshot.Error
import BoxOffice.Snapshot
import BoxOffice.Booking

/-!
# Rows of tables

A table stores counts as whole numbers of 64 bits with a sign. Reading a row refuses a negative count and
an unknown status; writing refuses a count that does not fit. Of several wrong columns the first one in
the order of the checks is told.
-/

namespace BoxOffice.Storage

/-- A count as it is stored, when it fits. -/
def store? (n : Nat) : Option Int :=
  if n ≤ 9223372036854775807 then some n else none

/-- The count that a stored number stands for, when it is not negative. -/
def load? (i : Int) : Option Nat :=
  if 0 ≤ i then some i.toNat else none

/-! ### The ledger's tables -/

/-- The stored form of a number of seats. -/
def storeSeats (n : Nat) : Except Ledger.Error Int :=
  match store? n with
  | some i => .ok i
  | none => .error (.storage ("Seat count out of range: " ++ Decimal.natText n))

/-- A count in a column of the ledger. -/
def loadColumn (i : Int) (column : String) : Except Ledger.Error Nat :=
  match load? i with
  | some n => .ok n
  | none => .error (.storage ("Invalid " ++ column ++ ": " ++ Decimal.intText i))

/-- The columns of a booking. -/
structure BookingColumns where
  id : Int
  publicId : PublicId
  eventId : Int
  userId : Int
  seats : Int
  totalCents : Int
  status : String
  expiresAt : Timestamp
  createdAt : Timestamp

/-- The booking of a row. -/
def BookingColumns.booking (c : BookingColumns) : Except Ledger.Error Booking :=
  match Booking.Status.ofWord? c.status with
  | none => .error (.storage ("Invalid booking status: " ++ c.status))
  | some status =>
    if 0 ≤ c.seats ∧ c.seats ≤ 4294967295 then
      .ok ⟨⟨c.id⟩, c.publicId, ⟨c.eventId⟩, ⟨c.userId⟩, c.seats.toNat, ⟨c.totalCents⟩, status,
        c.expiresAt, c.createdAt⟩
    else .error (.storage ("Invalid seat count: " ++ Decimal.intText c.seats))

/-- The columns of an event. -/
structure EventColumns where
  id : Int
  publicId : PublicId
  title : String
  startDate : Timestamp
  endDate : Timestamp
  totalSeats : Int
  availableSeats : Int
  ticketPriceCents : Int
  version : Int

/-- The event of a row. -/
def EventColumns.event (c : EventColumns) : Except Ledger.Error EventRow := do
  let total ← loadColumn c.totalSeats "total_seats"
  let available ← loadColumn c.availableSeats "available_seats"
  let version ← loadColumn c.version "version"
  .ok ⟨⟨c.id⟩, c.publicId, c.title, c.startDate, c.endDate, total, available, ⟨c.ticketPriceCents⟩,
    version⟩

/-- The checks before an event is registered. -/
def checkDraft (d : EventDraft) : Except Ledger.Error Unit := do
  let _ ← storeSeats d.totalSeats
  .ok ()

/-! ### The snapshots' tables -/

/-- The stored form of a count in a snapshot. -/
def storeCount (n : Nat) (name : String) : Except Snapshot.Error Int :=
  match store? n with
  | some i => .ok i
  | none => .error (.corrupt (name ++ " out of range: " ++ Decimal.natText n))

/-- A count in a column of a snapshot. -/
def loadCount (i : Int) (name : String) : Except Snapshot.Error Nat :=
  match load? i with
  | some n => .ok n
  | none => .error (.corrupt ("Negative " ++ name ++ ": " ++ Decimal.intText i))

/-- The columns of an event's snapshot. -/
structure SnapshotColumns where
  id : Int
  publicId : PublicId
  title : String
  startDate : Timestamp
  endDate : Timestamp
  availableSeats : Int
  ticketPriceCents : Int
  version : Int

/-- The snapshot of a row. -/
def SnapshotColumns.snapshot (c : SnapshotColumns) : Except Snapshot.Error EventSnapshot := do
  let available ← loadCount c.availableSeats "available_seats"
  let version ← loadCount c.version "version"
  .ok ⟨⟨c.id⟩, c.publicId, c.title, c.startDate, c.endDate, available, ⟨c.ticketPriceCents⟩, version⟩

/-- The checks before seats and a version are stored in a snapshot. -/
def checkSeats (availableSeats version : Nat) : Except Snapshot.Error Unit := do
  let _ ← storeCount availableSeats "available_seats"
  let _ ← storeCount version "version"
  .ok ()

/-- The checks before an event's snapshot is stored. -/
def checkEvent (s : EventSnapshot) : Except Snapshot.Error Unit :=
  checkSeats s.availableSeats s.version

/-- The checks before a user's snapshot is stored. -/
def checkUser (s : UserSnapshot) : Except Snapshot.Error Unit := do
  let _ ← storeCount s.version "version"
  .ok ()

end BoxOffice.Storage
