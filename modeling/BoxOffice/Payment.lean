import BoxOffice.Booking

/-!
# Payments

A payment records what came of charging for one booking. Its outcome is the status that the booking
settles to, `Payment.Status.settles`.
-/

namespace BoxOffice

/-- What came of a charge. -/
inductive Payment.Status
  | success
  | failed
  deriving DecidableEq, Repr, Inhabited

namespace Payment.Status

/-- Every outcome. -/
def all : List Status := [.success, .failed]

/-- The word for an outcome in messages and rows. -/
def word : Status → String
  | .success => "success"
  | .failed => "failed"

/-- The outcome that a word stands for. -/
def ofWord? (s : String) : Option Status :=
  all.find? (·.word == s)

/-- The status that a booking with this payment has. -/
def settles : Status → Booking.Status
  | .success => .success
  | .failed => .failed

@[simp]
theorem ofWord?_word (s : Status) : ofWord? s.word = some s := by
  cases s <;> decide

theorem settles_ne_pending (s : Status) : s.settles ≠ .pending := by
  cases s <;> decide

end Payment.Status

/-- A payment to record. -/
structure Payment.Draft where
  /-- The identifier it is to have outside. -/
  publicId : PublicId
  bookingId : BookingId
  userId : UserId
  /-- The amount charged or attempted. -/
  amount : Money
  status : Payment.Status
  deriving DecidableEq, Repr

/-- A recorded payment. -/
structure Payment where
  id : PaymentId
  publicId : PublicId
  bookingId : BookingId
  userId : UserId
  amount : Money
  status : Payment.Status
  createdAt : Timestamp
  deriving DecidableEq, Repr

end BoxOffice
