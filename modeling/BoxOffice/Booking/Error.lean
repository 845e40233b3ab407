import BoxOffice.Ledger.Error
import BoxOffice.Snapshot.Error
import BoxOffice.Booking

/-!
# Why a booking is not made

The causes for which a booking is not made or not found, their reports, the four kinds that a client is
told, and the label under which each is counted.
-/

namespace BoxOffice.Booking

/-- What a client is told. -/
inductive Error.Kind
  | notFound
  /-- The request cannot be met. -/
  | conflict
  /-- The request may succeed later. -/
  | unavailable
  | invalid
  deriving DecidableEq, Repr

/-- Why a booking is not made or not found. -/
inductive Error
  | invalidSeats
  | eventNotFound (id : PublicId)
  | eventExpired (id : PublicId) (endedAt : Timestamp)
  | userNotFound (id : PublicId)
  /-- Fewer seats are left than were asked for. -/
  | seatsUnavailable (requested available : Nat)
  | bookingNotFound (id : PublicId)
  /-- The event's row stayed locked through every attempt. -/
  | busy
  | snapshot (cause : Snapshot.Error)
  | ledger (cause : Ledger.Error)
  deriving DecidableEq, Repr

namespace Error

/-- The report of a cause. -/
def message : Error → String
  | invalidSeats => "Seat count must be positive"
  | eventNotFound id => "Event not found: " ++ id.text
  | eventExpired id endedAt => "Event " ++ id.text ++ " ended at " ++ endedAt.sentence
  | userNotFound id => "User not found: " ++ id.text
  | seatsUnavailable requested available =>
    "Requested " ++ Decimal.natText requested ++ " seats but only " ++ Decimal.natText available ++
      " available"
  | bookingNotFound id => "Booking not found: " ++ id.text
  | busy => "Event is busy, try again"
  | snapshot cause => "Snapshot error: " ++ cause.message
  | ledger cause => "Ledger error: " ++ cause.message

/-- The kind that a client is told. -/
def kind : Error → Kind
  | eventNotFound _ | userNotFound _ | bookingNotFound _ => .notFound
  | seatsUnavailable .. | eventExpired .. => .conflict
  | invalidSeats => .invalid
  | busy | snapshot _ | ledger _ => .unavailable

/-- The label under which an attempt with this end is counted. -/
def outcome : Error → String
  | invalidSeats => "invalid_seats"
  | eventNotFound _ => "event_not_found"
  | eventExpired .. => "event_expired"
  | userNotFound _ => "user_not_found"
  | seatsUnavailable .. => "seats_unavailable"
  | bookingNotFound _ => "booking_not_found"
  | busy => "lock_contention"
  | snapshot _ | ledger _ => "error"

end Error

end BoxOffice.Booking
