import BoxOffice.Snapshot

/-!
# What messages carry besides snapshots

A count of seats after a booking, and the removal of an entity.
-/

namespace BoxOffice

/-- The seats of an event after a change. -/
structure SeatCount where
  id : EventId
  publicId : PublicId
  availableSeats : Nat
  /-- The version after the change. -/
  version : Nat
  deriving DecidableEq, Repr

/-- The removal of an entity with a given kind of number. -/
structure Removed (ι : Type) where
  id : ι
  publicId : PublicId
  /-- Its last version. -/
  version : Nat
  deriving DecidableEq, Repr

end BoxOffice
