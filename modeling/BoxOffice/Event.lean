import BoxOffice.Money
import BoxOffice.PublicId
import BoxOffice.Timestamp

/-!
# Events on sale

The ledger keeps one row for each event: its description, how many seats there are, how many are left,
and a version that every change to the row raises by one.
-/

namespace BoxOffice

/-- The ledger's row of an event. -/
structure EventRow where
  id : EventId
  publicId : PublicId
  title : String
  startDate : Timestamp
  /-- When it ends; it is not sold after that. -/
  endDate : Timestamp
  totalSeats : Nat
  /-- How many seats are not booked. -/
  availableSeats : Nat
  ticketPrice : Money
  /-- How many changes the row has seen, its registration included. -/
  version : Nat
  deriving DecidableEq, Repr

/-- What an event is registered with. All seats are available at first. -/
structure EventDraft where
  publicId : PublicId
  title : String
  startDate : Timestamp
  endDate : Timestamp
  totalSeats : Nat
  ticketPrice : Money
  deriving DecidableEq, Repr

/-- New values for the fields of an event. A change of the number of seats changes the number of
available seats by as much. -/
structure EventRevision where
  title : String
  startDate : Timestamp
  endDate : Timestamp
  totalSeats : Nat
  ticketPrice : Money
  deriving DecidableEq, Repr

namespace EventRow

/-- The first row of an event. -/
def ofDraft (id : EventId) (d : EventDraft) : EventRow where
  id := id
  publicId := d.publicId
  title := d.title
  startDate := d.startDate
  endDate := d.endDate
  totalSeats := d.totalSeats
  availableSeats := d.totalSeats
  ticketPrice := d.ticketPrice
  version := 1

/-- The seats of a row that are booked. -/
def reservedSeats (row : EventRow) : Nat := row.totalSeats - row.availableSeats

/-- The row after a revision. -/
def revised (row : EventRow) (r : EventRevision) : EventRow :=
  { row with
    title := r.title
    startDate := r.startDate
    endDate := r.endDate
    totalSeats := r.totalSeats
    availableSeats := r.totalSeats - row.reservedSeats
    ticketPrice := r.ticketPrice
    version := row.version + 1 }

/-- The row after seats were taken. -/
def withSeatsTaken (row : EventRow) (seats : Nat) : EventRow :=
  { row with availableSeats := row.availableSeats - seats, version := row.version + 1 }

end EventRow

end BoxOffice
