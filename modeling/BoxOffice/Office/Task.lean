import BoxOffice.Office.Request
import BoxOffice.Settlement.Run
import BoxOffice.Change

/-!
# Where a request stands

A request is answered in steps, and between two of them everybody else may get on. `Task` says what is
left to do for a request. While it has a call on the ledger open, the purpose of that call says what its
answer is for.
-/

namespace BoxOffice.Office

/-- What an answer of the ledger is for. -/
inductive Purpose : Ledger.Call.Kind → Type
  /-- It is the answer to the request. -/
  | answer {kind : Ledger.Call.Kind} : Purpose kind
  /-- The change is to be made known. -/
  | announce (announcement : Announcement) : Purpose .row
  /-- It ends an attempt to book seats, after a number of vain ones. -/
  | attempt (event : EventSnapshot) (request : Booking.Request) (retries : Nat) : Purpose .receipt
  /-- It is the booking that is looked for. -/
  | lookUp (booking : PublicId) : Purpose .booking
  /-- It is the event of the booking that was found. -/
  | view (booking : Booking) : Purpose .event
  deriving DecidableEq, Repr

/-- What is left to do for a request. -/
inductive Task
  /-- Everything. -/
  | asked (request : Request)
  /-- A call on the ledger goes on, not before an instant. -/
  | atLedger (kind : Ledger.Call.Kind) (stage : Ledger.Stage kind) (due : Nat) (purpose : Purpose kind)
  /-- A change of an event that the ledger has made is to be made known. -/
  | announcing (row : EventRow) (change : EventChange)
  /-- The event to book is known, and the user is to be looked up. -/
  | choosing (event : EventSnapshot) (user : PublicId) (seats : Nat)
  /-- An attempt to book seats is to be made, after a number of vain ones. -/
  | attempting (event : EventSnapshot) (request : Booking.Request) (retries : Nat)
  /-- The next attempt is made at an instant. -/
  | pausing (event : EventSnapshot) (request : Booking.Request) (retries due : Nat)
  /-- The seats are booked, and their number is to be made known. -/
  | announcingSeats (event : EventSnapshot) (receipt : Booking.Receipt)
  /-- The booking is to be handed over for settlement. -/
  | handingOver (event : EventSnapshot) (receipt : Booking.Receipt)
  /-- A settlement goes on. -/
  | settling (run : Settlement.Run)
  /-- A row is waited for. -/
  | holding (key : RowKey)
  /-- An instant is waited for. -/
  | waiting (due : Nat)
  /-- The workers of the pool are waited for, until an instant. -/
  | closingPool (deadline : Nat)
  /-- The consumers are waited for. -/
  | stoppingConsumers (told : Bool)
  /-- The end of the application is waited for. -/
  | stoppingApplication

end BoxOffice.Office
