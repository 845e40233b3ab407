import BoxOffice.Booking.Error
import BoxOffice.Ledger.Call
import BoxOffice.Retry.Policy
import BoxOffice.Settlement.Decider

/-!
# What is asked of the office

A request is what somebody outside asks for and waits to be answered. Requests of the catalog change
events and tell the others so. The booking service books seats and shows bookings. The rest reaches the
parts directly: the ledger, a settlement, a row to hold, the pool and the consumers to be shut down.
-/

namespace BoxOffice.Office

/-- A row of the ledger that somebody outside may hold. -/
inductive RowKey
  | event (id : EventId)
  | booking (id : BookingId)
  deriving DecidableEq, Repr

/-- What the catalog makes known after a change. -/
inductive Announcement
  | created
  | updated
  | deleted
  deriving DecidableEq, Repr

/-- What is asked for. -/
inductive Request
  | ledger (kind : Ledger.Call.Kind) (call : Ledger.Call kind)
  /-- A new event, made known. -/
  | register (draft : EventDraft)
  /-- New values for the fields of an event, made known. -/
  | revise (id : EventId) (revision : EventRevision)
  /-- The end of an event without bookings, made known. -/
  | remove (id : EventId)
  /-- Seats of an event for a user. -/
  | create (event user : PublicId) (seats : Nat)
  /-- A look at a booking. -/
  | find (booking : PublicId)
  /-- The settlement of a booking, outside the pool. -/
  | settle (job : Settlement.Job)
  | hold (key : RowKey)
  | wait (span : Span)
  | closePool (grace : Span)
  | stopConsumers
  | stopApplication

/-- The same of the ledger alone: a change of an event that is not made known. -/
def Request.quiet : Request → Request
  | .register draft => .ledger .row (.register draft)
  | .revise id revision => .ledger .row (.revise id revision)
  | .remove id => .ledger .row (.remove id)
  | r => r

/-- What is answered. -/
inductive Answer
  | ledger (kind : Ledger.Call.Kind) (answer : kind.Answer)
  /-- A booking, or why there is none. -/
  | booking (result : Except Booking.Error Booking.View)
  /-- The payment hold of the booking would end beyond the last instant there is. -/
  | undated
  /-- The outcome of a settlement. -/
  | settled (result : Except Settlement.Error Payment.Status)
  /-- The charge of a settlement panicked, or the wait before another attempt, for a fault. -/
  | panicked (fault : Option Retry.Fault)
  /-- Whether there is such a row; it is held now. -/
  | held (present : Bool)
  | waited
  /-- Whether all workers went in time. -/
  | drained (inTime : Bool)
  /-- The consumers have stopped: whether there were any to be told. -/
  | stopped (told : Bool)
  /-- Whether consumers and workers all went in time. -/
  | ended (clean : Bool)
  /-- There is nothing running that could be stopped. -/
  | notRunning

end BoxOffice.Office
