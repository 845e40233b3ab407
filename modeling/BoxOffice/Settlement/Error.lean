import BoxOffice.Booking

/-!
# Why a settlement is refused

The causes for which a settlement is not recorded, and their reports.
-/

namespace BoxOffice.Settlement

/-- Why a settlement is refused. -/
inductive Error
  | bookingNotFound (id : BookingId)
  /-- The booking is no longer pending. -/
  | alreadySettled (id : BookingId) (status : Booking.Status)
  /-- Somebody else holds the booking's row. -/
  | lockContention
  | storage (reason : String)
  deriving DecidableEq, Repr

namespace Error

/-- The report of a cause. -/
def message : Error → String
  | bookingNotFound id => "Booking not found: " ++ id.text
  | alreadySettled id status => "Booking " ++ id.text ++ " already settled as " ++ status.word
  | lockContention => "Booking row is locked"
  | storage reason => "Storage error: " ++ reason

/-- Whether the same call may succeed later. -/
def isTransient : Error → Bool
  | lockContention | storage _ => true
  | _ => false

end Error

end BoxOffice.Settlement
