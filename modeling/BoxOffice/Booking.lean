import BoxOffice.Money
import BoxOffice.PublicId
import BoxOffice.Timestamp

/-!
# Bookings

A booking takes seats of one event for one user. It begins pending and a settlement moves it once, to
success or to failure; `Booking.Status.mayBecome` is that rule.
-/

namespace BoxOffice

/-- How far a booking has come. -/
inductive Booking.Status
  | pending
  | success
  | failed
  deriving DecidableEq, Repr, Inhabited

namespace Booking.Status

/-- Every status, the first one first. -/
def all : List Status := [.pending, .success, .failed]

/-- The word for a status in messages and rows. -/
def word : Status → String
  | .pending => "pending"
  | .success => "success"
  | .failed => "failed"

/-- The status that a word stands for. -/
def ofWord? (s : String) : Option Status :=
  all.find? (·.word == s)

/-- Whether a status is the last one of its booking. -/
def isTerminal (s : Status) : Bool := s != .pending

/-- Whether a booking may move from one status to another. -/
def mayBecome (s next : Status) : Bool := s == .pending && next != .pending

@[simp]
theorem ofWord?_word (s : Status) : ofWord? s.word = some s := by
  cases s <;> decide

end Booking.Status

/-- A stored booking. -/
structure Booking where
  id : BookingId
  publicId : PublicId
  eventId : EventId
  userId : UserId
  seats : Nat
  total : Money
  status : Booking.Status
  /-- The end of the payment hold. -/
  expiresAt : Timestamp
  createdAt : Timestamp
  deriving DecidableEq, Repr

/-- What a booking is asked for with. -/
structure Booking.Request where
  publicId : PublicId
  eventId : EventId
  userId : UserId
  seats : Nat
  expiresAt : Timestamp
  deriving DecidableEq, Repr

/-- What a committed booking answers. -/
structure Booking.Receipt where
  booking : Booking
  /-- The seats left on the event after it. -/
  availableSeats : Nat
  /-- The version of the event after it. -/
  version : Nat
  deriving DecidableEq, Repr

/-- What a client sees of a booking. -/
structure Booking.View where
  publicId : PublicId
  eventPublicId : PublicId
  seats : Nat
  total : Money
  status : Booking.Status
  expiresAt : Timestamp
  createdAt : Timestamp
  deriving DecidableEq, Repr

/-- What a client sees of a booking of an event that is known outside by an identifier. -/
def Booking.view (b : Booking) (event : PublicId) : Booking.View :=
  ⟨b.publicId, event, b.seats, b.total, b.status, b.expiresAt, b.createdAt⟩

end BoxOffice
