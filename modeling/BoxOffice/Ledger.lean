import BoxOffice.Event
import BoxOffice.Ledger.Error
import BoxOffice.Ledger.Lock
import BoxOffice.Numbered
import BoxOffice.Payment
import BoxOffice.Settlement.Error
import BoxOffice.Span

/-!
# The ledger

The ledger is the one place where seats are taken. It keeps the rows of events and bookings, each behind
a lock of its own, and the payments. A booking is a transaction: it locks the event's row without
waiting, checks the seats, and later, still holding the row, stores the booking and takes the seats. A
removal is one too: holding the event's row it looks at every booking there is, waiting for those that
are locked, and refuses when one is for this event. What a transaction has left to do is kept beside the
lock it holds, so a state of the ledger says all about what may come of it.

All other changes are single steps. A row is never changed by anyone but the holder of its lock, and a
step that is refused changes nothing but the locks.
-/

namespace BoxOffice

namespace Ledger

/-- What the holder of an event's row has left to do. -/
inductive Transaction
  /-- To store a booking whose seats are checked. -/
  | booking (request : Booking.Request)
  /-- To take the event out when none of these bookings is for it. -/
  | removal (unchecked : List BookingId)
  deriving DecidableEq, Repr

/-- An event's row and its lock. -/
structure EventCell where
  row : EventRow
  /-- Whether the event has not been removed. Those who wait for the row of a removed event still get
  it. -/
  present : Bool
  lock : Lock
  /-- The transaction of the holder, if there is one. -/
  transaction : Option Transaction
  deriving DecidableEq, Repr

/-- A booking's row and its lock. -/
structure BookingCell where
  row : Booking
  lock : Lock
  deriving DecidableEq, Repr

end Ledger

/-- The rows of events and bookings, and the payments. -/
structure Ledger where
  /-- The rows of events, by number. -/
  events : List Ledger.EventCell
  /-- The rows of bookings, by number. -/
  bookings : List Ledger.BookingCell
  /-- The payments, by number. -/
  payments : List Payment
  /-- Whether the next booking to be stored fails. -/
  failNextInsert : Bool
  /-- How long a booking keeps the event's row before it is stored. -/
  hold : Option Span
  deriving DecidableEq, Repr

namespace Ledger

/-- A ledger without rows. -/
def empty : Ledger := ⟨[], [], [], false, none⟩

/-! ### Looking at rows -/

/-- The cell of an event, also of a removed one. -/
def eventCell? (l : Ledger) (id : EventId) : Option EventCell := Numbered.get? id.number l.events

/-- The cell of an event that has not been removed. -/
def presentCell? (l : Ledger) (id : EventId) : Option EventCell :=
  (l.eventCell? id).filter (·.present)

/-- The cell of a booking. -/
def bookingCell? (l : Ledger) (id : BookingId) : Option BookingCell :=
  Numbered.get? id.number l.bookings

/-- The ledger with another cell for an event. -/
def setEventCell (l : Ledger) (id : EventId) (cell : EventCell) : Ledger :=
  { l with events := Numbered.set id.number cell l.events }

/-- The ledger with another cell for a booking. -/
def setBookingCell (l : Ledger) (id : BookingId) (cell : BookingCell) : Ledger :=
  { l with bookings := Numbered.set id.number cell l.bookings }

/-- The row of an event that has not been removed and that nobody holds. -/
def openRow? (l : Ledger) (id : EventId) : Option EventRow :=
  ((l.presentCell? id).filter (·.lock.isFree)).map (·.row)

/-- The rows of the events that have not been removed and that nobody holds. -/
def openEvents (l : Ledger) : List EventRow :=
  (l.events.filter fun c => c.present && c.lock.isFree).map (·.row)

/-- The rows of the bookings that nobody holds. -/
def openBookings (l : Ledger) : List Booking :=
  (l.bookings.filter (·.lock.isFree)).map (·.row)

/-- The numbers of all bookings. -/
def bookingIds (l : Ledger) : List BookingId := l.bookings.map (·.row.id)

/-! ### Settings for trying things out -/

/-- Makes the next booking to be stored fail. -/
def failInsert (l : Ledger) : Ledger := { l with failNextInsert := true }

/-- Makes every booking keep the event's row for a while. -/
def setHold (l : Ledger) (hold : Span) : Ledger := { l with hold := some hold }

/-! ### Events -/

/-- Stores a new event. -/
def register (l : Ledger) (d : EventDraft) : EventRow × Ledger :=
  let row := EventRow.ofDraft ⟨Numbered.next l.events⟩ d
  (row, { l with events := l.events ++ [⟨row, true, .free, none⟩] })

/-- Gives an event's fields new values. -/
def revise (l : Ledger) (id : EventId) (r : EventRevision) : Except Error (EventRow × Ledger) :=
  match l.presentCell? id with
  | none => .error (.eventNotFound id)
  | some cell =>
    if cell.lock.isFree = false then .error .lockContention
    else if r.totalSeats < cell.row.reservedSeats then
      .error (.capacityBelowReserved r.totalSeats cell.row.reservedSeats)
    else
      let row := cell.row.revised r
      .ok (row, l.setEventCell id { cell with row := row })

/-! ### Transactions on events -/

/-- Locks the row of an event for a transaction. -/
def openTransaction (l : Ledger) (t : Ticket) (id : EventId)
    (transaction : EventRow → Except Error Transaction) : Except Error Ledger :=
  match l.presentCell? id with
  | none => .error (.eventNotFound id)
  | some cell =>
    if cell.lock.isFree = false then .error .lockContention
    else do
      let tr ← transaction cell.row
      .ok (l.setEventCell id { cell with lock := cell.lock.takenBy t, transaction := some tr })

/-- The cell of an event whose row a ticket holds for a transaction, and that transaction. -/
def transactionOf? (l : Ledger) (t : Ticket) (id : EventId) : Option (EventCell × Transaction) :=
  match l.eventCell? id with
  | none => none
  | some cell =>
    if cell.lock.holder = some t then cell.transaction.map fun tr => (cell, tr) else none

/-- The cell of an event after its holder let it go, with a given row. -/
def EventCell.closed (cell : EventCell) (row : EventRow) : EventCell :=
  { cell with row := row, lock := cell.lock.released, transaction := none }

/-- Begins a booking: locks the event's row and checks the seats. -/
def openBooking (l : Ledger) (t : Ticket) (r : Booking.Request) : Except Error Ledger :=
  l.openTransaction t r.eventId fun row =>
    if row.availableSeats < r.seats then
      .error (.seatsUnavailable r.seats row.availableSeats)
    else .ok (.booking r)

/-- The booking that a request becomes. -/
def bookingOf (l : Ledger) (r : Booking.Request) (row : EventRow) (createdAt : Timestamp) : Booking where
  id := ⟨Numbered.next l.bookings⟩
  publicId := r.publicId
  eventId := r.eventId
  userId := r.userId
  seats := r.seats
  total := row.ticketPrice.times r.seats
  status := .pending
  expiresAt := r.expiresAt
  createdAt := createdAt

/-- Ends a booking: stores it and takes the seats, or fails when it has to, and lets the row go. Nothing
happens without an open booking. -/
def commitBooking (l : Ledger) (t : Ticket) (id : EventId) (createdAt : Timestamp) :
    Option (Except Error Booking.Receipt × Ledger) :=
  match l.transactionOf? t id with
  | some (cell, .booking r) =>
    if l.failNextInsert then
      some (.error (.storage "injected insert failure"),
        { l.setEventCell id (cell.closed cell.row) with failNextInsert := false })
    else
      let booking := l.bookingOf r cell.row createdAt
      let row := cell.row.withSeatsTaken r.seats
      let l := l.setEventCell id (cell.closed row)
      some (.ok ⟨booking, row.availableSeats, row.version⟩,
        { l with bookings := l.bookings ++ [⟨booking, .free⟩] })
  | _ => none

/-- Begins a removal: locks the event's row and notes every booking there is, in the order in which they
will be looked at. -/
def openRemoval (l : Ledger) (t : Ticket) (id : EventId) (order : List BookingId → List BookingId) :
    Except Error Ledger :=
  l.openTransaction t id fun _ => .ok (.removal (order l.bookingIds))

/-- What a step of a removal came to. -/
inductive RemovalStep
  /-- Some bookings are left to be looked at. -/
  | unfinished
  /-- The removal is over. -/
  | finished (result : Except Error EventRow)

/-- A step of a removal: looks at the next booking, or takes the event out when none is left. -/
def stepRemoval (l : Ledger) (t : Ticket) (id : EventId) : Option (RemovalStep × Ledger) :=
  match l.transactionOf? t id with
  | some (cell, .removal []) =>
    some (.finished (.ok cell.row), l.setEventCell id { cell.closed cell.row with present := false })
  | some (cell, .removal (b :: rest)) =>
    let go := l.setEventCell id { cell with transaction := some (.removal rest) }
    match l.bookingCell? b with
    | none => some (.unfinished, go)
    | some booking =>
      let (seen, lock) := booking.lock.visit t
      let locked (l : Ledger) : Ledger := l.setBookingCell b { booking with lock := lock }
      if seen = false then some (.unfinished, locked l)
      else if booking.row.eventId = id then
        some (.finished (.error (.eventInUse id)), locked (l.setEventCell id (cell.closed cell.row)))
      else some (.unfinished, locked go)
  | _ => none

/-! ### Waiting for rows -/

/-- Asks for a look at an event's row: the row when the ticket may look now. A removed event has a row
for those who asked before. -/
def visitEvent (l : Ledger) (t : Ticket) (id : EventId) : Option EventRow × Ledger :=
  match l.eventCell? id with
  | none => (none, l)
  | some cell =>
    let (seen, lock) := cell.lock.visit t
    (if seen then some cell.row else none, l.setEventCell id { cell with lock := lock })

/-- Asks for a look at a booking's row: the row when the ticket may look now. -/
def visitBooking (l : Ledger) (t : Ticket) (id : BookingId) : Option Booking × Ledger :=
  match l.bookingCell? id with
  | none => (none, l)
  | some cell =>
    let (seen, lock) := cell.lock.visit t
    (if seen then some cell.row else none, l.setBookingCell id { cell with lock := lock })

/-- Asks for an event's row to keep: whether the ticket has it now. -/
def acquireEvent (l : Ledger) (t : Ticket) (id : EventId) : Bool × Ledger :=
  match l.eventCell? id with
  | none => (false, l)
  | some cell =>
    let (has, lock) := cell.lock.acquire t
    (has, l.setEventCell id { cell with lock := lock })

/-- Asks for a booking's row to keep: whether the ticket has it now. -/
def acquireBooking (l : Ledger) (t : Ticket) (id : BookingId) : Bool × Ledger :=
  match l.bookingCell? id with
  | none => (false, l)
  | some cell =>
    let (has, lock) := cell.lock.acquire t
    (has, l.setBookingCell id { cell with lock := lock })

/-- Gives up a ticket's hold on an event's row, its transaction, or its place in the queue. -/
def leaveEvent (l : Ledger) (t : Ticket) (id : EventId) : Ledger :=
  match l.eventCell? id with
  | none => l
  | some cell =>
    let transaction := if cell.lock.holder = some t then none else cell.transaction
    l.setEventCell id { cell with lock := cell.lock.without t, transaction := transaction }

/-- Gives up a ticket's hold on a booking's row or its place in the queue. -/
def leaveBooking (l : Ledger) (t : Ticket) (id : BookingId) : Ledger :=
  match l.bookingCell? id with
  | none => l
  | some cell => l.setBookingCell id { cell with lock := cell.lock.without t }

/-! ### Settlement -/

/-- Records a payment and moves its booking out of pending. -/
def settle (l : Ledger) (d : Payment.Draft) (createdAt : Timestamp) :
    Except Settlement.Error (Payment × Ledger) :=
  match l.bookingCell? d.bookingId with
  | none => .error (.bookingNotFound d.bookingId)
  | some cell =>
    if cell.lock.isFree = false then .error .lockContention
    else if cell.row.status.mayBecome d.status.settles = false then
      .error (.alreadySettled cell.row.id cell.row.status)
    else
      let payment : Payment :=
        ⟨⟨Numbered.next l.payments⟩, d.publicId, d.bookingId, d.userId, d.amount, d.status, createdAt⟩
      let l := l.setBookingCell d.bookingId
        { cell with row := { cell.row with status := d.status.settles } }
      .ok (payment, { l with payments := l.payments ++ [payment] })

end Ledger

end BoxOffice
