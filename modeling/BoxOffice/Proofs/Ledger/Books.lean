import BoxOffice.Ledger.Call

/-!
# The books of a ledger

The books are what a ledger holds when its locks are left out: the rows of the
events that are not removed, the bookings and the payments. A call that has
the ledger for itself needs no locks, and `Books.outcomes` says what it answers
and what it leaves in the books. It makes the same checks in the same order as
the calls on a ledger and never refuses because a row is held.

`Ledger.books` reads the books off a ledger. What the operations of a ledger do
to its books is said here, once; the later modules never open the cells of a
ledger to find its rows.
-/

namespace BoxOffice.Ledger

/-- A ledger without locks. An event that was removed keeps its number and has
no row. -/
structure Books where
  events : List (Option EventRow)
  bookings : List Booking
  payments : List Payment
  deriving DecidableEq, Repr

namespace Books

/-- Books in which nothing is written. -/
def empty : Books := ⟨[], [], []⟩

/-- The row of an event that is not removed. -/
def row? (b : Books) (id : EventId) : Option EventRow :=
  (Numbered.get? id.number b.events).join

/-- The booking with a number. -/
def booking? (b : Books) (id : BookingId) : Option Booking :=
  Numbered.get? id.number b.bookings

/-- The books with another row for an event, or without one. -/
def setRow (b : Books) (id : EventId) (row : Option EventRow) : Books :=
  { b with events := Numbered.set id.number row b.events }

/-- The books with another booking under a number. -/
def setBooking (b : Books) (id : BookingId) (booking : Booking) : Books :=
  { b with bookings := Numbered.set id.number booking b.bookings }

/-- The first row of a new event. -/
def firstRow (b : Books) (d : EventDraft) : EventRow :=
  .ofDraft ⟨Numbered.next b.events⟩ d

/-- The books with a new event. -/
def registered (b : Books) (d : EventDraft) : Books :=
  { b with events := b.events ++ [some (b.firstRow d)] }

/-- The booking that a request becomes, at the price of the event's row. -/
def newBooking (b : Books) (r : Booking.Request) (row : EventRow) (now : Timestamp) : Booking where
  id := ⟨Numbered.next b.bookings⟩
  publicId := r.publicId
  eventId := r.eventId
  userId := r.userId
  seats := r.seats
  total := row.ticketPrice.times r.seats
  status := .pending
  expiresAt := r.expiresAt
  createdAt := now

/-- The books after seats were booked: the booking is stored, and the row has
fewer seats left and a new version. -/
def booked (b : Books) (row : EventRow) (booking : Booking) : Books :=
  { b.setRow booking.eventId (some (row.withSeatsTaken booking.seats)) with
    bookings := b.bookings ++ [booking] }

/-- The payment that a draft becomes. -/
def newPayment (b : Books) (d : Payment.Draft) (now : Timestamp) : Payment :=
  ⟨⟨Numbered.next b.payments⟩, d.publicId, d.bookingId, d.userId, d.amount, d.status, now⟩

/-- The books after a settlement: the payment is stored and its booking has the
status that the payment settles to. -/
def settled (b : Books) (booking : Booking) (p : Payment) : Books :=
  { b.setBooking p.bookingId { booking with status := p.status.settles } with
    payments := b.payments ++ [p] }

/-- Gives an event's fields new values. -/
def revise (b : Books) (id : EventId) (r : EventRevision) : Except Error EventRow × Books :=
  match b.row? id with
  | none => (.error (.eventNotFound id), b)
  | some row =>
    if r.totalSeats < row.reservedSeats then
      (.error (.capacityBelowReserved r.totalSeats row.reservedSeats), b)
    else (.ok (row.revised r), b.setRow id (some (row.revised r)))

/-- Takes an event without bookings out. -/
def remove (b : Books) (id : EventId) : Except Error EventRow × Books :=
  match b.row? id with
  | none => (.error (.eventNotFound id), b)
  | some row =>
    if b.bookings.any (·.eventId = id) then (.error (.eventInUse id), b)
    else (.ok row, b.setRow id none)

/-- Books seats. -/
def book (b : Books) (r : Booking.Request) (now : Timestamp) :
    Except Error Booking.Receipt × Books :=
  match b.row? r.eventId with
  | none => (.error (.eventNotFound r.eventId), b)
  | some row =>
    if row.availableSeats < r.seats then
      (.error (.seatsUnavailable r.seats row.availableSeats), b)
    else
      let booking := b.newBooking r row now
      let after := row.withSeatsTaken r.seats
      (.ok ⟨booking, after.availableSeats, after.version⟩, b.booked row booking)

/-- The answers to a look-up by identifier: any booking that has it, or none when
there is none. -/
def findBooking (b : Books) (publicId : PublicId) : List (Option Booking) :=
  match b.bookings.filter (·.publicId = publicId) with
  | [] => [none]
  | found => found.map some

/-- Records a payment and moves its booking out of pending. -/
def settle (b : Books) (d : Payment.Draft) (now : Timestamp) :
    Except Settlement.Error Payment × Books :=
  match b.booking? d.bookingId with
  | none => (.error (.bookingNotFound d.bookingId), b)
  | some booking =>
    if booking.status.mayBecome d.status.settles then
      (.ok (b.newPayment d now), b.settled booking (b.newPayment d now))
    else (.error (.alreadySettled booking.id booking.status), b)

/-- What a call may answer, with the books after it, when it has the ledger for
itself at a given time. Only a look-up among bookings that share an identifier
has a choice. -/
def outcomes (b : Books) (now : Timestamp) : {k : Call.Kind} → Call k → List (k.Answer × Books)
  | _, .register d => [(.ok (b.firstRow d), b.registered d)]
  | _, .revise id r => [b.revise id r]
  | _, .remove id => [b.remove id]
  | _, .book r => [b.book r now]
  | _, .findEvent id => [(b.row? id, b)]
  | _, .findBooking publicId => (b.findBooking publicId).map fun answer => (answer, b)
  | _, .settle d => [b.settle d now]

/-! ### Looking at changed books -/

@[simp]
theorem row?_empty (id : EventId) : empty.row? id = none := by
  simp [row?, empty, Numbered.get?]

theorem row?_setRow {b : Books} {id : EventId} {old : EventRow} (found : b.row? id = some old)
    (id' : EventId) (row : Option EventRow) :
    (b.setRow id row).row? id' = if id' = id then row else b.row? id' := by
  have present : (Numbered.get? id.number b.events).isSome := by
    unfold row? at found
    cases h : Numbered.get? id.number b.events with
    | none => simp [h] at found
    | some _ => rfl
  unfold row? setRow
  rw [Numbered.get?_set]
  by_cases same : id' = id
  · subst same
    simp [present]
  · have : id'.number ≠ id.number := fun h => same (EventId.ext h)
    simp [same, this]

theorem row?_registered (b : Books) (d : EventDraft) (id : EventId) :
    (b.registered d).row? id =
      if id = ⟨Numbered.next b.events⟩ then some (b.firstRow d) else b.row? id := by
  unfold row? registered
  rw [Numbered.get?_append]
  by_cases same : id = ⟨Numbered.next b.events⟩
  · subst same
    simp
  · have : id.number ≠ Numbered.next b.events := fun h => same (EventId.ext h)
    simp [same, this]

/-- The number of the next event has no row. -/
@[simp]
theorem row?_next (b : Books) : b.row? ⟨Numbered.next b.events⟩ = none := by
  simp [row?]

theorem booking?_booked (b : Books) (row : EventRow) (booking : Booking) (id : BookingId) :
    (b.booked row booking).booking? id =
      if id = ⟨Numbered.next b.bookings⟩ then some booking else b.booking? id := by
  unfold booking? booked
  rw [Numbered.get?_append]
  by_cases same : id = ⟨Numbered.next b.bookings⟩
  · subst same
    simp
  · have : id.number ≠ Numbered.next b.bookings := fun h => same (BookingId.ext h)
    rw [if_neg this, if_neg same]

theorem booking?_settled {b : Books} {booking : Booking} {p : Payment}
    (found : b.booking? p.bookingId = some booking) (id : BookingId) :
    (b.settled booking p).booking? id =
      if id = p.bookingId then some { booking with status := p.status.settles }
      else b.booking? id := by
  unfold booking? at found
  unfold booking? settled setBooking
  rw [Numbered.get?_set]
  by_cases same : id = p.bookingId
  · subst same
    simp [found]
  · have : id.number ≠ p.bookingId.number := fun h => same (BookingId.ext h)
    simp [same, this]

theorem mem_of_booking? {b : Books} {id : BookingId} {booking : Booking}
    (found : b.booking? id = some booking) : booking ∈ b.bookings :=
  Numbered.mem_of_get? found

/-! ### What a call does to the books -/

/-- What a call that has the ledger for itself may do to the books: nothing, or
one of five changes. -/
inductive Change (b : Books) : Books → Prop
  | unchanged : Change b b
  | registered (d : EventDraft) : Change b (b.registered d)
  | revised {id : EventId} {row : EventRow} {r : EventRevision} (found : b.row? id = some row)
      (fits : row.reservedSeats ≤ r.totalSeats) : Change b (b.setRow id (some (row.revised r)))
  | removed {id : EventId} {row : EventRow} (found : b.row? id = some row)
      (unused : ∀ booking ∈ b.bookings, booking.eventId ≠ id) : Change b (b.setRow id none)
  | booked {row : EventRow} {r : Booking.Request} (now : Timestamp)
      (found : b.row? r.eventId = some row) (enough : r.seats ≤ row.availableSeats) :
      Change b (b.booked row (b.newBooking r row now))
  | settled {booking : Booking} {d : Payment.Draft} (now : Timestamp)
      (found : b.booking? d.bookingId = some booking) (open_ : booking.status = .pending) :
      Change b (b.settled booking (b.newPayment d now))

theorem change_revise (b : Books) (id : EventId) (r : EventRevision) :
    Change b (b.revise id r).2 := by
  unfold revise
  split
  · exact .unchanged
  · rename_i row found
    split
    · exact .unchanged
    · rename_i fits
      exact .revised found (Nat.le_of_not_lt fits)

theorem change_remove (b : Books) (id : EventId) : Change b (b.remove id).2 := by
  unfold remove
  split
  · exact .unchanged
  · rename_i row found
    split
    · exact .unchanged
    · rename_i unused
      refine .removed found fun booking member same => unused ?_
      exact List.any_eq_true.mpr ⟨booking, member, by simpa using same⟩

theorem change_book (b : Books) (r : Booking.Request) (now : Timestamp) :
    Change b (b.book r now).2 := by
  unfold book
  split
  · exact .unchanged
  · rename_i row found
    split
    · exact .unchanged
    · rename_i enough
      exact .booked now found (Nat.le_of_not_lt enough)

theorem change_settle (b : Books) (d : Payment.Draft) (now : Timestamp) :
    Change b (b.settle d now).2 := by
  unfold settle
  split
  · exact .unchanged
  · rename_i booking found
    split
    · rename_i may
      simp only [Booking.Status.mayBecome, Bool.and_eq_true, beq_iff_eq] at may
      exact .settled now found may.1
    · exact .unchanged

theorem change_of_outcome {b b' : Books} {now : Timestamp} {k : Call.Kind} {call : Call k}
    {answer : k.Answer} (outcome : (answer, b') ∈ b.outcomes now call) : Change b b' := by
  cases call with
  | register d =>
      obtain ⟨-, rfl⟩ := Prod.mk.inj (List.mem_singleton.mp outcome)
      exact .registered d
  | revise id r =>
      have same : b' = (b.revise id r).2 := congrArg Prod.snd (List.mem_singleton.mp outcome)
      rw [same]
      exact change_revise b id r
  | remove id =>
      have same : b' = (b.remove id).2 := congrArg Prod.snd (List.mem_singleton.mp outcome)
      rw [same]
      exact change_remove b id
  | book r =>
      have same : b' = (b.book r now).2 := congrArg Prod.snd (List.mem_singleton.mp outcome)
      rw [same]
      exact change_book b r now
  | findEvent id =>
      obtain ⟨-, rfl⟩ := Prod.mk.inj (List.mem_singleton.mp outcome)
      exact .unchanged
  | findBooking publicId =>
      obtain ⟨_, _, same⟩ := List.mem_map.mp outcome
      exact (Prod.mk.inj same).2 ▸ .unchanged
  | settle d =>
      have same : b' = (b.settle d now).2 := congrArg Prod.snd (List.mem_singleton.mp outcome)
      rw [same]
      exact change_settle b d now

/-! ### Numbers -/

/-- Rows bear the numbers under which they are found. -/
structure IsNumbered (b : Books) : Prop where
  row : ∀ {id row}, b.row? id = some row → row.id = id
  booking : ∀ {id booking}, b.booking? id = some booking → booking.id = id

theorem isNumbered_empty : empty.IsNumbered where
  row {id _} found := by
    rw [row?_empty] at found
    cases found
  booking found := by simp [booking?, empty, Numbered.get?] at found

theorem IsNumbered.change {b b' : Books} (numbered : b.IsNumbered) (change : Change b b') :
    b'.IsNumbered := by
  cases change with
  | unchanged => exact numbered
  | registered d =>
      refine ⟨fun {id row} found => ?_, numbered.booking⟩
      rw [row?_registered] at found
      split at found
      · rename_i next
        cases found
        exact next.symm
      · exact numbered.row found
  | @revised id old r at_ _ =>
      refine ⟨fun {id' row} found => ?_, numbered.booking⟩
      rw [row?_setRow at_] at found
      split at found
      · rename_i same
        cases found
        exact (numbered.row at_).trans same.symm
      · exact numbered.row found
  | removed at_ _ =>
      refine ⟨fun {id' row} found => ?_, numbered.booking⟩
      rw [row?_setRow at_] at found
      split at found
      · cases found
      · exact numbered.row found
  | @booked old r now at_ _ =>
      refine ⟨fun {id' row} found => ?_, fun {id' booking} found => ?_⟩
      · change (b.setRow r.eventId (some (old.withSeatsTaken r.seats))).row? id' = _ at found
        rw [row?_setRow at_] at found
        split at found
        · rename_i same
          cases found
          exact (numbered.row at_).trans same.symm
        · exact numbered.row found
      · rw [booking?_booked] at found
        split at found
        · rename_i next
          cases found
          exact next.symm
        · exact numbered.booking found
  | @settled old d now at_ _ =>
      refine ⟨numbered.row, fun {id' booking} found => ?_⟩
      rw [booking?_settled at_] at found
      split at found
      · rename_i same
        cases found
        exact (numbered.booking at_).trans same.symm
      · exact numbered.booking found

/-- What calls that have the ledger for themselves, one after another, make of
books. -/
inductive Since (b : Books) : Books → Prop
  | here : Since b b
  | later {b' b'' : Books} (since : Since b b') (numbered : b'.IsNumbered)
      (change : Change b' b'') : Since b b''

theorem Since.trans {b b' b'' : Books} (first : Since b b') (second : Since b' b'') :
    Since b b'' := by
  induction second with
  | here => exact first
  | later _ numbered change ih => exact .later ih numbered change

/-- Every booking is found under its number. -/
theorem IsNumbered.booking?_id {b : Books} (numbered : b.IsNumbered) {booking : Booking}
    (member : booking ∈ b.bookings) : b.booking? booking.id = some booking := by
  obtain ⟨n, found⟩ := Numbered.exists_get?_of_mem member
  have found : b.booking? ⟨n⟩ = some booking := found
  rw [numbered.booking found, found]

end Books

/-! ### The books of a ledger -/

/-- The row of a cell whose event is not removed. -/
def EventCell.shown (cell : EventCell) : Option EventRow :=
  if cell.present then some cell.row else none

/-- The books of a ledger. -/
def books (l : Ledger) : Books where
  events := l.events.map (·.shown)
  bookings := l.bookings.map (·.row)
  payments := l.payments

section Reading

variable {l : Ledger}

theorem row?_books (l : Ledger) (id : EventId) : l.books.row? id = (l.presentCell? id).map (·.row) := by
  unfold Books.row? books presentCell? eventCell?
  rw [Numbered.get?_map]
  cases Numbered.get? id.number l.events with
  | none => rfl
  | some cell => cases h : cell.present <;> simp [EventCell.shown, Option.filter, h]

theorem booking?_books (l : Ledger) (id : BookingId) :
    l.books.booking? id = (l.bookingCell? id).map (·.row) :=
  Numbered.get?_map _ _ _

theorem presentCell?_eq_some {id : EventId} {cell : EventCell} :
    l.presentCell? id = some cell ↔ l.eventCell? id = some cell ∧ cell.present = true := by
  simp only [presentCell?, Option.filter_eq_some_iff]

theorem row?_of_present {id : EventId} {cell : EventCell} (found : l.eventCell? id = some cell)
    (present : cell.present = true) : l.books.row? id = some cell.row := by
  rw [row?_books, presentCell?_eq_some.mpr ⟨found, present⟩]
  rfl

theorem row?_of_presentCell? {id : EventId} {cell : EventCell}
    (found : l.presentCell? id = some cell) : l.books.row? id = some cell.row := by
  rw [row?_books, found]
  rfl

/-! ### Changed cells -/

theorem eventCell?_setEventCell {id : EventId} {old : EventCell}
    (found : l.eventCell? id = some old) (cell : EventCell) (id' : EventId) :
    (l.setEventCell id cell).eventCell? id' = if id' = id then some cell else l.eventCell? id' := by
  unfold eventCell? at found
  unfold eventCell? setEventCell
  rw [Numbered.get?_set]
  by_cases same : id' = id
  · subst same
    simp [found]
  · have : id'.number ≠ id.number := fun h => same (EventId.ext h)
    simp [same, this]

theorem bookingCell?_setBookingCell {id : BookingId} {old : BookingCell}
    (found : l.bookingCell? id = some old) (cell : BookingCell) (id' : BookingId) :
    (l.setBookingCell id cell).bookingCell? id' =
      if id' = id then some cell else l.bookingCell? id' := by
  unfold bookingCell? at found
  unfold bookingCell? setBookingCell
  rw [Numbered.get?_set]
  by_cases same : id' = id
  · subst same
    simp [found]
  · have : id'.number ≠ id.number := fun h => same (BookingId.ext h)
    simp [same, this]

theorem books_setEventCell (l : Ledger) (id : EventId) (cell : EventCell) :
    (l.setEventCell id cell).books = l.books.setRow id cell.shown := by
  simp only [books, setEventCell, Books.setRow, Numbered.map_set]

theorem books_setBookingCell (l : Ledger) (id : BookingId) (cell : BookingCell) :
    (l.setBookingCell id cell).books = l.books.setBooking id cell.row := by
  simp only [books, setBookingCell, Books.setBooking, Numbered.map_set]

/-- A new lock or transaction is not seen in the books. -/
theorem books_setEventCell_of_shown {id : EventId} {old cell : EventCell}
    (found : l.eventCell? id = some old) (same : cell.shown = old.shown) :
    (l.setEventCell id cell).books = l.books := by
  have written : Numbered.get? id.number (l.events.map (·.shown)) = some old.shown := by
    rw [Numbered.get?_map]
    exact congrArg _ found
  rw [books_setEventCell, same]
  simp only [Books.setRow, books, Numbered.set_get?_self written]

theorem books_setBookingCell_of_row {id : BookingId} {old cell : BookingCell}
    (found : l.bookingCell? id = some old) (same : cell.row = old.row) :
    (l.setBookingCell id cell).books = l.books := by
  have written : Numbered.get? id.number (l.bookings.map (·.row)) = some old.row := by
    rw [Numbered.get?_map]
    exact congrArg _ found
  rw [books_setBookingCell, same]
  simp only [Books.setBooking, books, Numbered.set_get?_self written]

end Reading

end BoxOffice.Ledger
