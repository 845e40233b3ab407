import BoxOffice.Event

/-!
# Snapshots

A snapshot is a copy of an event or a user kept beside the ledger. It carries the version it was taken
at, so that an older message never replaces a newer one.
-/

namespace BoxOffice

/-- A copy of an event. -/
structure EventSnapshot where
  id : EventId
  publicId : PublicId
  title : String
  startDate : Timestamp
  /-- When it ends; it is not sold after that. -/
  endDate : Timestamp
  /-- The seats available at this version. -/
  availableSeats : Nat
  ticketPrice : Money
  /-- The version copied. -/
  version : Nat
  deriving DecidableEq, Repr

/-- A copy of a user. -/
structure UserSnapshot where
  id : UserId
  publicId : PublicId
  /-- The version copied. -/
  version : Nat
  deriving DecidableEq, Repr

/-- The copy of a ledger row. -/
def EventSnapshot.ofRow (row : EventRow) : EventSnapshot where
  id := row.id
  publicId := row.publicId
  title := row.title
  startDate := row.startDate
  endDate := row.endDate
  availableSeats := row.availableSeats
  ticketPrice := row.ticketPrice
  version := row.version

end BoxOffice
