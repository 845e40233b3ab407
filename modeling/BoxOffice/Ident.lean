import BoxOffice.Decimal.Integer

/-!
# Identifiers of stored rows

Events, users, bookings and payments each have a number of their own kind under which they are stored.
It never leaves the box office; outside, a `PublicId` stands for it. A number that a message or a row
carries fits in 64 bits with a sign, and `InRange64` says so where it matters.
-/

namespace BoxOffice

/-- Whether a number fits in 64 bits with a sign. -/
def InRange64 (i : Int) : Prop :=
  -9223372036854775808 ≤ i ∧ i ≤ 9223372036854775807

instance (i : Int) : Decidable (InRange64 i) :=
  inferInstanceAs (Decidable (_ ∧ _))

/-- The number of an event. -/
@[ext]
structure EventId where
  number : Int
  deriving DecidableEq, Repr, Inhabited

/-- The number of a user. -/
@[ext]
structure UserId where
  number : Int
  deriving DecidableEq, Repr, Inhabited

/-- The number of a booking. -/
@[ext]
structure BookingId where
  number : Int
  deriving DecidableEq, Repr, Inhabited

/-- The number of a payment. -/
@[ext]
structure PaymentId where
  number : Int
  deriving DecidableEq, Repr, Inhabited

/-- The written form of an event's number. -/
def EventId.text (id : EventId) : String := Decimal.intText id.number

/-- The written form of a user's number. -/
def UserId.text (id : UserId) : String := Decimal.intText id.number

/-- The written form of a booking's number. -/
def BookingId.text (id : BookingId) : String := Decimal.intText id.number

/-- The written form of a payment's number. -/
def PaymentId.text (id : PaymentId) : String := Decimal.intText id.number

end BoxOffice
