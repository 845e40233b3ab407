import BoxOffice.Proofs.Ledger.Conservation
import BoxOffice.Proofs.Ledger.Payments

/-!
# Looking a booking up

A look-up goes through the bookings that there were when it began, one after
another, and waits for a row that somebody else holds. Where one booking alone has
the identifier that is wanted, and it was there at first, the look-up keeps it ahead
until it meets it, and answers it as it is then. `Books.Shows` says what the books
tell of a booking: which one has the identifier, what event it is for, and how its
status goes with its payments.
-/

namespace BoxOffice.Ledger

namespace Books

/-- The books show a booking as a client sees it: it alone has the identifier, its
event is there under the identifier that is shown, and it is pending without a payment
or has the outcome of its one payment. -/
def Shows (b : Books) (view : Booking.View) : Prop :=
  ∃ booking row, b.bookings.filter (·.publicId = view.publicId) = [booking] ∧
    b.row? booking.eventId = some row ∧ booking.view row.publicId = view ∧
    ((booking.status = .pending ∧ b.paymentsOf booking.id = []) ∨
      ∃ p, b.paymentsOf booking.id = [p] ∧ booking.status = p.status.settles)

variable {b : Books}

/-- Bookings have different numbers. -/
theorem IsNumbered.nodup_ids (numbered : b.IsNumbered) :
    (b.bookings.map fun booking => booking.id).Nodup := by
  have at_ {i : Nat} (bound : i < b.bookings.length) : b.bookings[i].id = ⟨(i : Int) + 1⟩ := by
    refine numbered.booking ?_
    unfold booking? Numbered.get?
    rw [if_pos (show (1 : Int) ≤ (i : Int) + 1 by omega),
      show ((i : Int) + 1).toNat - 1 = i by omega]
    exact List.getElem?_eq_getElem bound
  refine List.pairwise_iff_getElem.mpr fun i j i_lt j_lt early same => ?_
  rw [List.length_map] at i_lt j_lt
  rw [List.getElem_map, List.getElem_map, at_ i_lt, at_ j_lt] at same
  have numbers := congrArg BookingId.number same
  simp only at numbers
  omega

/-- Among bookings that share no identifier a stored one is found alone. -/
theorem filter_of_nodup (nodup : (b.bookings.map (·.publicId)).Nodup) {booking : Booking}
    (member : booking ∈ b.bookings) :
    b.bookings.filter (·.publicId = booking.publicId) = [booking] := by
  have once := (List.Nodup.of_map _ nodup).filter (·.publicId = booking.publicId)
  refine List.perm_singleton.mp
    ((List.perm_ext_iff_of_nodup once (List.nodup_singleton booking)).mpr fun other => ?_)
  rw [List.mem_filter, List.mem_singleton]
  constructor
  · rintro ⟨there, same⟩
    exact List.inj_on_of_nodup_map nodup there member (of_decide_eq_true same)
  · rintro rfl
    exact ⟨member, decide_eq_true rfl⟩

end Books

/-! ### Locks in nobody's way -/

/-- Whether nobody else holds a lock. -/
def Lock.isClear (l : Lock) (t : Ticket) : Bool := l.holder = some t || l.isFree

section Locks

variable {lock : Lock} {t : Ticket}

theorem Lock.visit_of_isClear (clear : lock.isClear t = true) : (lock.visit t).1 = true := by
  unfold isClear at clear
  unfold visit
  split
  · rfl
  · rename_i other
    simp only [other, decide_false, Bool.false_or] at clear
    rw [if_pos clear]

theorem Lock.letsOn_of_isClear (clear : lock.isClear t = true) : lock.letsOn t = true := by
  unfold isClear at clear
  unfold letsOn
  rw [clear]
  rfl

end Locks

/-! ### Steps of look-ups -/

theorem bookingIds_eq (l : Ledger) :
    l.bookingIds = l.books.bookings.map fun booking => booking.id := by
  simp [bookingIds, books]

section Steps

variable {l : Ledger} {t : Ticket} {now : Timestamp} {id : BookingId} {wanted : PublicId}
  {rest : List BookingId}

/-- A look-up among bookings leaves the rows of events alone. -/
theorem Resumed.events {result : Progress .booking × Ledger}
    (step : Resumed l t now (.scanning wanted rest) result) : result.2.events = l.events := by
  cases step <;> rfl

/-- A look-up that has the one booking that it wants ahead meets it or keeps it ahead. -/
theorem Resumed.scanned {result : Progress .booking × Ledger}
    (step : Resumed l t now (.scanning wanted rest) result) {booking : Booking}
    (found : l.books.booking? id = some booking) (same : booking.publicId = wanted)
    (sole : ∀ other ∈ l.books.bookings, other.publicId = wanted → other = booking)
    (ahead : id ∈ rest) (once : rest.Nodup) :
    result.1 = .done (some booking) ∨
      ∃ rest', result.1 = .further (.scanning wanted rest') ∧ id ∈ rest' ∧ rest'.Nodup := by
  cases step with
  | idle => exact .inr ⟨rest, rfl, ahead, once⟩
  | exhausted => cases ahead
  | @met _ _ rest' cell at_ has =>
      have listed : cell.row ∈ l.books.bookings := List.mem_map_of_mem (Numbered.mem_of_get? at_)
      rw [sole cell.row listed has]
      exact .inl rfl
  | @skipped _ next rest' cell at_ other =>
      refine .inr ⟨rest', rfl, ?_, once.of_cons⟩
      rcases List.mem_cons.mp ahead with rfl | later
      · rw [booking?_books, at_] at found
        cases found
        exact absurd same other
      · exact later
  | unseen at_ => exact .inr ⟨_, rfl, ahead, once⟩

/-- A look-up of an event that is there sees its row. -/
theorem Resumed.reads {result : Progress .event × Ledger} {event : EventId}
    (step : Resumed l t now (.reading event) result) {row : EventRow}
    (written : l.books.row? event = some row) :
    result.1 = .done (some row) ∨ result.1 = .further (.reading event) := by
  cases step with
  | idle => exact .inr rfl
  | @read _ cell found =>
      rw [row?_books] at written
      obtain ⟨cell', present, rfl⟩ := Option.map_eq_some_iff.mp written
      cases found.symm.trans (presentCell?_eq_some.mp present).1
      exact .inl rfl
  | unread => exact .inr rfl

/-- A look-up of an event that is there is to see its row. -/
theorem start_findEvent_of_row {event : EventId} {row : EventRow}
    (written : l.books.row? event = some row) (order : List BookingId → List BookingId) :
    l.start t order now (.findEvent event) = (.further (.reading event), l) := by
  rw [row?_books] at written
  obtain ⟨cell, present, -⟩ := Option.map_eq_some_iff.mp written
  simp only [start, present]

/-- A booking whose row nobody else holds is looked at. -/
theorem resume_scanning {cell : BookingCell} (found : l.bookingCell? id = some cell)
    (clear : cell.lock.isClear t = true) :
    l.resume t now (.scanning wanted (id :: rest)) =
      (if cell.row.publicId = wanted then .done (some cell.row)
        else .further (.scanning wanted rest),
        l.setBookingCell id { cell with lock := (cell.lock.visit t).2 }) := by
  simp only [resume, visitBooking, found, Lock.visit_of_isClear clear, if_true]
  split <;> rfl

/-- An event's row that nobody else holds is looked at. -/
theorem resume_reading {event : EventId} {cell : EventCell} (found : l.eventCell? event = some cell)
    (clear : cell.lock.isClear t = true) :
    l.resume t now (.reading event) =
      (.done (some cell.row),
        l.setEventCell event { cell with lock := (cell.lock.visit t).2 }) := by
  simp only [resume, visitEvent, found, Lock.visit_of_isClear clear, if_true]

end Steps

end BoxOffice.Ledger
