import BoxOffice.Ident

/-!
# Why the ledger refuses

The causes for which a call on the ledger ends without an effect, and their reports. A cause is transient
when the same call may succeed later.
-/

namespace BoxOffice.Ledger

/-- Why the ledger refuses a call. -/
inductive Error
  | eventNotFound (id : EventId)
  /-- Fewer seats are left than were asked for. -/
  | seatsUnavailable (requested available : Nat)
  /-- Somebody else holds the row. -/
  | lockContention
  /-- A revision would leave fewer seats than are booked. -/
  | capacityBelowReserved (total reserved : Nat)
  /-- The event has bookings. -/
  | eventInUse (id : EventId)
  | storage (reason : String)
  deriving DecidableEq, Repr

namespace Error

/-- The report of a cause. -/
def message : Error → String
  | eventNotFound id => "Event not found: " ++ id.text
  | seatsUnavailable requested available =>
    "Seats unavailable: requested " ++ Decimal.natText requested ++ ", available " ++
      Decimal.natText available
  | lockContention => "Event row is locked by a concurrent booking"
  | capacityBelowReserved total reserved =>
    "Total seats " ++ Decimal.natText total ++ " is below the " ++ Decimal.natText reserved ++
      " seats already booked"
  | eventInUse id => "Event " ++ id.text ++ " has bookings"
  | storage reason => "Storage error: " ++ reason

/-- Whether the same call may succeed later. -/
def isTransient : Error → Bool
  | lockContention | storage _ => true
  | _ => false

end Error

end BoxOffice.Ledger
