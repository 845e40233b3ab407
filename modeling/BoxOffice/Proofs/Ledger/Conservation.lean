import BoxOffice.Proofs.Ledger.Reachable
import Mathlib

/-!
# Seats are conserved

Every seat of an event is available or booked. A booking checks the seats and
takes them in two steps, and between the two the event may be revised, other
events booked and calls given up; still the seats that are left and those of the
stored bookings always make up the seats that there are, and no subtraction of
seats goes below zero.

`Books.IsConserved` is the part of this that the books tell. It holds of empty
books and each of the changes that calls make keeps it, so it holds of every
reachable ledger. That an open booking finds the seats that it checked is the
custody of transactions.
-/

namespace BoxOffice.Ledger

namespace Books

/-- The seats of all stored bookings of an event. -/
def bookedSeats (b : Books) (id : EventId) : Nat :=
  ((b.bookings.filter (·.eventId = id)).map (·.seats)).sum

/-- Available and booked seats make up the seats of each event, and every booking
is for an event that is not removed. -/
structure IsConserved (b : Books) : Prop where
  seats : ∀ {id row}, b.row? id = some row →
    row.availableSeats + b.bookedSeats id = row.totalSeats
  placed : ∀ booking ∈ b.bookings, (b.row? booking.eventId).isSome

variable {b : Books} {id : EventId}

/-- Only the events and the seats of the bookings count. -/
theorem bookedSeats_eq (b : Books) (id : EventId) :
    b.bookedSeats id =
      (((b.bookings.map fun k => (k.eventId, k.seats)).filter (·.1 = id)).map (·.2)).sum := by
  rw [bookedSeats, List.filter_map, List.map_map]
  rfl

/-- An event without bookings has no seats booked. -/
theorem bookedSeats_eq_zero (unused : ∀ booking ∈ b.bookings, booking.eventId ≠ id) :
    b.bookedSeats id = 0 := by
  have none_ : b.bookings.filter (·.eventId = id) = [] :=
    List.filter_eq_nil_iff.mpr fun booking member => by simpa using unused booking member
  rw [bookedSeats, none_]
  rfl

theorem bookedSeats_booked (row : EventRow) (booking : Booking) :
    (b.booked row booking).bookedSeats id =
      b.bookedSeats id + if booking.eventId = id then booking.seats else 0 := by
  have stored : (b.booked row booking).bookings = b.bookings ++ [booking] := rfl
  rw [bookedSeats, stored, List.filter_append, List.map_append, List.sum_append, ← bookedSeats]
  by_cases own : booking.eventId = id
  · simp [own]
  · simp [own]

/-- A settlement changes neither the events nor the seats of bookings. -/
theorem map_settled {β : Type} {booking : Booking} {p : Payment}
    (found : b.booking? p.bookingId = some booking) (f : Booking → β)
    (same : f { booking with status := p.status.settles } = f booking) :
    (b.settled booking p).bookings.map f = b.bookings.map f := by
  have written : Numbered.get? p.bookingId.number (b.bookings.map f) = some (f booking) := by
    rw [Numbered.get?_map]
    exact congrArg _ found
  simp only [settled, setBooking, Numbered.map_set, same, Numbered.set_get?_self written]

theorem bookedSeats_settled {booking : Booking} {p : Payment}
    (found : b.booking? p.bookingId = some booking) :
    (b.settled booking p).bookedSeats id = b.bookedSeats id := by
  rw [bookedSeats_eq, bookedSeats_eq, map_settled found _ rfl]

namespace IsConserved

theorem empty : empty.IsConserved where
  seats {id _} found := by
    rw [row?_empty] at found
    cases found
  placed _ member := by cases member

/-- A new event has no bookings. -/
theorem registered (conserved : b.IsConserved) (d : EventDraft) : (b.registered d).IsConserved where
  seats {id row} found := by
    rw [row?_registered] at found
    split at found
    · rename_i next
      cases found
      have none_ : b.bookedSeats id = 0 := bookedSeats_eq_zero fun booking member same => by
        have placed := conserved.placed booking member
        rw [same, next, row?_next] at placed
        cases placed
      exact congrArg (d.totalSeats + ·) none_
    · exact conserved.seats found
  placed booking member := by
    rw [row?_registered]
    split
    · rfl
    · exact conserved.placed booking member

/-- A revision that leaves the booked seats moves the others with the total. -/
theorem revised (conserved : b.IsConserved) {row : EventRow} {r : EventRevision}
    (found : b.row? id = some row) (fits : row.reservedSeats ≤ r.totalSeats) :
    (b.setRow id (some (row.revised r))).IsConserved where
  seats {id' row'} found' := by
    have same : (b.setRow id (some (row.revised r))).bookedSeats id' = b.bookedSeats id' := rfl
    rw [row?_setRow found] at found'
    rw [same]
    split at found'
    · rename_i own
      cases found'
      have before := conserved.seats found
      simp only [EventRow.revised, EventRow.reservedSeats] at fits ⊢
      rw [own]
      omega
    · exact conserved.seats found'
  placed booking member := by
    rw [row?_setRow found]
    split
    · rfl
    · exact conserved.placed booking member

theorem removed (conserved : b.IsConserved) {row : EventRow} (found : b.row? id = some row)
    (unused : ∀ booking ∈ b.bookings, booking.eventId ≠ id) : (b.setRow id none).IsConserved where
  seats {id' row'} found' := by
    rw [row?_setRow found] at found'
    split at found'
    · cases found'
    · exact conserved.seats found'
  placed booking member := by
    rw [row?_setRow found, if_neg (unused booking member)]
    exact conserved.placed booking member

/-- A booking takes as many seats as it adds to those that are booked. -/
theorem booked (conserved : b.IsConserved) {row : EventRow} {booking : Booking}
    (found : b.row? booking.eventId = some row) (enough : booking.seats ≤ row.availableSeats) :
    (b.booked row booking).IsConserved where
  seats {id row'} found' := by
    have found' : (b.setRow booking.eventId (some (row.withSeatsTaken booking.seats))).row? id =
        some row' := found'
    rw [row?_setRow found] at found'
    rw [bookedSeats_booked]
    split at found'
    · rename_i own
      cases found'
      have before := conserved.seats found
      rw [own, if_pos rfl]
      simp only [EventRow.withSeatsTaken]
      omega
    · rename_i other
      rw [if_neg (Ne.symm other)]
      exact conserved.seats found'
  placed booking' member := by
    change ((b.setRow booking.eventId (some (row.withSeatsTaken booking.seats))).row? _).isSome = true
    rw [row?_setRow found]
    split
    · rfl
    · rename_i other
      rcases List.mem_append.mp member with before | new
      · exact conserved.placed booking' before
      · cases List.mem_singleton.mp new
        exact absurd rfl other

theorem settled (conserved : b.IsConserved) {booking : Booking} {p : Payment}
    (found : b.booking? p.bookingId = some booking) : (b.settled booking p).IsConserved where
  seats found' := by
    rw [bookedSeats_settled found]
    exact conserved.seats found'
  placed booking' member := by
    have listed : booking'.eventId ∈ b.bookings.map (·.eventId) := by
      rw [← map_settled found (·.eventId) rfl]
      exact List.mem_map_of_mem member
    obtain ⟨old, before, same⟩ := List.mem_map.mp listed
    rw [← same]
    exact conserved.placed old before

/-- Every change that a call makes conserves the seats. -/
theorem change {b' : Books} (conserved : b.IsConserved) (change : Change b b') :
    b'.IsConserved := by
  cases change with
  | unchanged => exact conserved
  | registered d => exact conserved.registered d
  | revised found fits => exact conserved.revised found fits
  | removed found unused => exact conserved.removed found unused
  | booked now found enough => exact conserved.booked found enough
  | settled now found _ => exact conserved.settled found

end IsConserved

end Books

/-! ### Every reachable ledger -/

theorem Traffic.Reachable.conserved {w : Traffic} (reachable : w.Reachable) :
    w.ledger.books.IsConserved :=
  reachable.books .empty fun _ conserved change => conserved.change change

/-- The seats of a ledger are conserved, and no subtraction of seats goes below
zero. -/
structure ConservesSeats (l : Ledger) : Prop where
  /-- Available seats and the seats of all stored bookings make up the seats of
  every event that is not removed. -/
  seats : ∀ id cell, l.presentCell? id = some cell →
    cell.row.availableSeats +
      (((l.bookings.map (·.row)).filter (·.eventId = id)).map (·.seats)).sum =
        cell.row.totalSeats
  /-- Every stored booking is for an event that is not removed. -/
  placed : ∀ booking ∈ l.bookings, (l.presentCell? booking.row.eventId).isSome
  /-- The seats that an open booking will take are there. -/
  taken : ∀ t id cell r, l.transactionOf? t id = some (cell, .booking r) →
    r.seats ≤ cell.row.availableSeats
  /-- No more seats are available than there are. -/
  reserved : ∀ id cell, l.presentCell? id = some cell →
    cell.row.availableSeats ≤ cell.row.totalSeats
  /-- A revision is made only when it leaves the seats that are booked. -/
  revised : ∀ id r row l', l.revise id r = .ok (row, l') →
    ∃ cell, l.presentCell? id = some cell ∧ cell.row.reservedSeats ≤ r.totalSeats

/-- A revision that is made found the event and fits its booked seats. -/
theorem fits_of_revise {l l' : Ledger} {id : EventId} {r : EventRevision} {row : EventRow}
    (done : l.revise id r = .ok (row, l')) :
    ∃ cell, l.presentCell? id = some cell ∧ cell.row.reservedSeats ≤ r.totalSeats := by
  unfold revise at done
  split at done
  · cases done
  · rename_i cell found
    split at done
    · cases done
    · split at done
      · cases done
      · rename_i fits
        exact ⟨cell, found, Nat.le_of_not_lt fits⟩

/-- Whatever overlaps at a ledger, its seats are conserved. -/
theorem Traffic.Reachable.conservesSeats {w : Traffic} (reachable : w.Reachable) :
    w.ledger.ConservesSeats where
  seats id cell found := reachable.conserved.seats (row?_of_presentCell? found)
  placed booking member := by
    have listed : booking.row ∈ w.ledger.books.bookings := List.mem_map_of_mem member
    have placed := reachable.conserved.placed booking.row listed
    rwa [row?_books, Option.isSome_map] at placed
  taken t id cell r held := by
    obtain ⟨found, -, open_⟩ := transactionOf?_eq_some.mp held
    obtain ⟨-, _, _, -, -, owned⟩ := reachable.sound.custody id cell _ found open_
    cases owned
    assumption
  reserved id cell found := by
    have whole := reachable.conserved.seats (row?_of_presentCell? found)
    omega
  revised id r row l' done := fits_of_revise done

namespace Traffic

/-- A request for two seats of the first event. -/
def pair : Booking.Request := ⟨.ofNat 2, ⟨1⟩, ⟨1⟩, 2, .epoch⟩

/-- A booking has locked the row of the event. -/
def ordered : Traffic := offered.begun 1 (.book pair) [] .epoch

/-- Another booking is refused meanwhile. -/
def refused : Traffic := ordered.begun 2 (.book pair) [] .epoch

/-- The booking is stored. -/
def sold : Traffic := refused.resumed 1 ⟨.book pair, .booking ⟨1⟩, 1⟩ .epoch

theorem reachable_sold : sold.Reachable := by
  have ordered : ordered.Reachable := reachable_offered.step (.begin ⟨rfl, rfl⟩ (.refl _))
  have refused : refused.Reachable := ordered.step (.begin ⟨rfl, rfl⟩ (.refl _))
  exact refused.step (.resume rfl)

theorem conservesSeats_sold :
    sold.ledger.ConservesSeats ∧
      (sold.ledger.presentCell? ⟨1⟩).map (·.row.availableSeats) = some 1 :=
  ⟨Reachable.conservesSeats reachable_sold, rfl⟩

end Traffic

end BoxOffice.Ledger
