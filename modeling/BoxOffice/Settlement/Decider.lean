import BoxOffice.Payment
import BoxOffice.Span

/-!
# Deciding payments

A settlement job names a booking and what to charge for it. A decider stands for the charge: asked for a
decision it says how the charge will go. It always goes the same way, or it follows a script whose last
entry repeats, or it is simulated: it takes a random time and succeeds by chance.
-/

namespace BoxOffice.Settlement

/-- A booking to settle. -/
structure Job where
  bookingId : BookingId
  userId : UserId
  amount : Money
  /-- The identifier that the payment is to have outside. -/
  paymentPublicId : PublicId
  deriving DecidableEq, Repr

/-- The job for a booking that was just made. -/
def Job.ofBooking (b : Booking) (paymentPublicId : PublicId) : Job :=
  ⟨b.id, b.userId, b.total, paymentPublicId⟩

/-- The payment for a job whose charge had an outcome. -/
def Job.payment (j : Job) (status : Payment.Status) : Payment.Draft :=
  ⟨j.paymentPublicId, j.bookingId, j.userId, j.amount, status⟩

/-- How a charge goes. -/
inductive Decision
  /-- It takes a while and has an outcome. -/
  | settles (after : Span) (status : Payment.Status)
  /-- It has to pass the gate and has an outcome. -/
  | passesGate (status : Payment.Status)
  | panics
  | hangs
  deriving DecidableEq, Repr

/-- What is drawn by chance for a simulated charge. -/
structure Draw where
  /-- How long the charge takes, which is cut to the longest it may take. -/
  latency : Span
  /-- A number from zero to one that has to be below the ratio of success. -/
  chance : Float

/-- How charges go. -/
inductive Decider
  /-- Each has the same outcome. -/
  | fixed (status : Payment.Status)
  /-- Each goes as the next decision says, the last one for ever. -/
  | script (first : Decision) (rest : List Decision)
  /-- Each takes a random time and succeeds with a probability. -/
  | simulated (ratio : Float) (longest : Span)

/-- A ratio of success within its bounds. No number stands for none. -/
def boundedRatio (ratio : Float) : Float :=
  if ratio.isNaN then 0.0 else if ratio < 0.0 then 0.0 else if 1.0 < ratio then 1.0 else ratio

/-- The next decision, and the decider after it. -/
def Decider.decide (d : Decider) (draw : Draw) : Decision × Decider :=
  match d with
  | .fixed status => (.settles ⟨0⟩ status, d)
  | .script first [] => (first, d)
  | .script first (next :: rest) => (first, .script next rest)
  | .simulated ratio longest =>
    let latency := Span.ofMillis (min draw.latency.millis longest.millis)
    (.settles latency (if draw.chance < boundedRatio ratio then .success else .failed), d)

end BoxOffice.Settlement
