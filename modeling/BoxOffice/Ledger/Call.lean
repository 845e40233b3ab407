import BoxOffice.Ledger

/-!
# Calls on the ledger

A call begins, goes on in steps and ends with a result; between two of its steps any other call may get
on. Some calls are one step. A booking has two, with the event's row locked between them; a removal and
the look-ups may have to wait for rows that others hold. A call that is given up between two steps lets
go of all it holds and leaves nothing else behind.

`Call.Kind` sorts calls by what they answer, so that a call's answer has the right type.
-/

namespace BoxOffice.Ledger

/-- What calls answer. -/
inductive Call.Kind
  | row
  | receipt
  /-- The row of an event, if there is one. -/
  | event
  /-- A booking, if there is one. -/
  | booking
  | payment
  deriving DecidableEq, Repr

/-- The answers of a kind of call. -/
@[reducible]
def Call.Kind.Answer : Call.Kind → Type
  | row => Except Error EventRow
  | receipt => Except Error Booking.Receipt
  | event => Option EventRow
  | booking => Option Booking
  | payment => Except Settlement.Error Payment

/-- A call on the ledger. -/
inductive Call : Call.Kind → Type
  | register (d : EventDraft) : Call .row
  | revise (id : EventId) (r : EventRevision) : Call .row
  | remove (id : EventId) : Call .row
  | book (r : Booking.Request) : Call .receipt
  | findEvent (id : EventId) : Call .event
  /-- Looks a booking up by its public identifier. -/
  | findBooking (publicId : PublicId) : Call .booking
  | settle (d : Payment.Draft) : Call .payment

/-- Where a call stands between two of its steps. -/
inductive Stage : Call.Kind → Type
  /-- The removal of an event has begun. -/
  | removing (id : EventId) : Stage .row
  /-- A booking has locked the event's row. -/
  | booking (id : EventId) : Stage .receipt
  /-- A look-up waits for an event's row. -/
  | reading (id : EventId) : Stage .event
  /-- A look-up has these bookings left to look at. -/
  | scanning (wanted : PublicId) (rest : List BookingId) : Stage .booking

/-- What a step of a call came to. -/
inductive Progress (k : Call.Kind)
  | done (answer : k.Answer)
  | further (stage : Stage k)

/-- The first step of a call. `order` is the order in which bookings are looked at, and `at` the time that
stored rows bear. -/
def start (l : Ledger) (t : Ticket) (order : List BookingId → List BookingId) (now : Timestamp) :
    {k : Call.Kind} → Call k → Progress k × Ledger
  | _, .register d =>
    let (row, l) := l.register d
    (.done (.ok row), l)
  | _, .revise id r =>
    match l.revise id r with
    | .error e => (.done (.error e), l)
    | .ok (row, l) => (.done (.ok row), l)
  | _, .remove id =>
    match l.openRemoval t id order with
    | .error e => (.done (.error e), l)
    | .ok l => (.further (.removing id), l)
  | _, .book r =>
    match l.openBooking t r with
    | .error e => (.done (.error e), l)
    | .ok l => (.further (.booking r.eventId), l)
  | _, .findEvent id =>
    match l.presentCell? id with
    | none => (.done none, l)
    | some _ => (.further (.reading id), l)
  | _, .findBooking publicId => (.further (.scanning publicId (order l.bookingIds)), l)
  | _, .settle d =>
    match l.settle d now with
    | .error e => (.done (.error e), l)
    | .ok (payment, l) => (.done (.ok payment), l)

/-- A further step of a call. -/
def resume (l : Ledger) (t : Ticket) (now : Timestamp) :
    {k : Call.Kind} → Stage k → Progress k × Ledger
  | _, .removing id =>
    match l.stepRemoval t id with
    | some (.finished r, l) => (.done r, l)
    | some (.unfinished, l) => (.further (.removing id), l)
    | none => (.further (.removing id), l)
  | _, .booking id =>
    match l.commitBooking t id now with
    | some (r, l) => (.done r, l)
    | none => (.further (.booking id), l)
  | _, .reading id =>
    match l.visitEvent t id with
    | (some row, l) => (.done (some row), l)
    | (none, l) => (.further (.reading id), l)
  | _, .scanning _ [] => (.done none, l)
  | _, .scanning wanted (b :: rest) =>
    match l.visitBooking t b with
    | (some row, l) =>
      if row.publicId = wanted then (.done (some row), l) else (.further (.scanning wanted rest), l)
    | (none, l) => (.further (.scanning wanted (b :: rest)), l)

/-- Whether a further step of a call would get it on. -/
def canResume (l : Ledger) (t : Ticket) : {k : Call.Kind} → Stage k → Bool
  | _, .removing id =>
    match l.transactionOf? t id with
    | some (_, .removal (b :: _)) => (l.bookingCell? b).all fun c => c.lock.letsOn t
    | some (_, .removal []) => true
    | _ => false
  | _, .booking id =>
    match l.transactionOf? t id with
    | some (_, .booking _) => true
    | _ => false
  | _, .reading id => (l.eventCell? id).any fun c => c.lock.letsOn t
  | _, .scanning _ [] => true
  | _, .scanning _ (b :: _) => (l.bookingCell? b).any fun c => c.lock.letsOn t

/-- The ledger after a call was given up. -/
def abandon (l : Ledger) (t : Ticket) : {k : Call.Kind} → Stage k → Ledger
  | _, .removing id =>
    match l.transactionOf? t id with
    | some (_, .removal (b :: _)) => (l.leaveBooking t b).leaveEvent t id
    | _ => l.leaveEvent t id
  | _, .booking id => l.leaveEvent t id
  | _, .reading id => l.leaveEvent t id
  | _, .scanning _ [] => l
  | _, .scanning _ (b :: _) => l.leaveBooking t b

end BoxOffice.Ledger
