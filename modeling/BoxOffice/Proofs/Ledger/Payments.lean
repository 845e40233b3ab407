import BoxOffice.Proofs.Ledger.Books

/-!
# Bookings and their payments

The status of a booking and the list of payments are two records of one thing,
and `IsSettledOnce` says that they agree: a booking is pending and has no
payment, or it has one and its status is what that payment came to. Every
change of the books keeps this. No change of the books moves a booking that is
not pending any longer or changes anything but the status of a booking, which
`Endures` says of books and later books.
-/

namespace BoxOffice.Ledger.Books

/-! ### Bookings and payments -/

/-- The payments of a booking. -/
def paymentsOf (b : Books) (id : BookingId) : List Payment :=
  b.payments.filter (·.bookingId = id)

/-- The status of every booking and its payments agree. -/
structure IsSettledOnce (b : Books) : Prop where
  /-- A booking is pending without a payment, or has the status of its one payment. -/
  paid : ∀ {id booking}, b.booking? id = some booking →
    (booking.status = .pending ∧ b.paymentsOf id = []) ∨
      ∃ p, b.paymentsOf id = [p] ∧ booking.status = p.status.settles
  /-- Every payment is for a stored booking. -/
  placed : ∀ p ∈ b.payments, (b.booking? p.bookingId).isSome

theorem isSettledOnce_empty : empty.IsSettledOnce where
  paid found := by simp [booking?, empty, Numbered.get?] at found
  placed p member := by cases member

namespace IsSettledOnce

variable {b : Books}

/-- A new booking is pending, and there is no payment for it. -/
theorem booked (once : b.IsSettledOnce) (row : EventRow) (r : Booking.Request) (now : Timestamp) :
    (b.booked row (b.newBooking r row now)).IsSettledOnce := by
  have next : b.booking? ⟨Numbered.next b.bookings⟩ = none := by simp [booking?]
  constructor
  · intro id booking found
    rw [booking?_booked] at found
    split at found
    · rename_i new
      cases found
      refine .inl ⟨rfl, List.filter_eq_nil_iff.mpr fun p member same => ?_⟩
      have known := once.placed p member
      rw [of_decide_eq_true same, new, next] at known
      cases known
    · exact once.paid found
  · intro p member
    rw [booking?_booked]
    split
    · rfl
    · exact once.placed p member

/-- A payment is recorded for a booking that has none. -/
theorem settled (once : b.IsSettledOnce) {booking : Booking} {d : Payment.Draft} (now : Timestamp)
    (found : b.booking? d.bookingId = some booking) (open_ : booking.status = .pending) :
    (b.settled booking (b.newPayment d now)).IsSettledOnce := by
  -- A booking with a payment is not pending any longer.
  have unpaid : b.paymentsOf d.bookingId = [] := by
    rcases once.paid found with ⟨-, none_⟩ | ⟨p, -, status⟩
    · exact none_
    · exact absurd (status.symm.trans open_) p.status.settles_ne_pending
  have paymentsOf (id : BookingId) :
      (b.settled booking (b.newPayment d now)).paymentsOf id =
        b.paymentsOf id ++ if d.bookingId = id then [b.newPayment d now] else [] := by
    unfold Books.paymentsOf
    show (b.payments ++ [b.newPayment d now]).filter _ = _
    rw [List.filter_append]
    by_cases own : d.bookingId = id
    · rw [if_pos own]
      simp [newPayment, own]
    · rw [if_neg own]
      simp [newPayment, own]
  constructor
  · intro id booking' found'
    rw [booking?_settled found] at found'
    rw [paymentsOf]
    split at found'
    · rename_i own
      have own : id = d.bookingId := own
      cases found'
      refine .inr ⟨b.newPayment d now, ?_, rfl⟩
      rw [own, if_pos rfl, unpaid, List.nil_append]
    · rename_i other
      have other : ¬d.bookingId = id := fun same => other same.symm
      rw [if_neg other, List.append_nil]
      exact once.paid found'
  · intro p member
    rw [booking?_settled found]
    split
    · rfl
    · rename_i other
      rcases List.mem_append.mp member with before | new
      · exact once.placed p before
      · rw [List.mem_singleton.mp new] at other
        exact absurd rfl other

/-- Every change of the books keeps statuses and payments together. -/
theorem change (once : b.IsSettledOnce) {b' : Books} (change : Change b b') : b'.IsSettledOnce := by
  cases change with
  | unchanged => exact once
  | registered d => exact ⟨once.paid, once.placed⟩
  | revised found fits => exact ⟨once.paid, once.placed⟩
  | removed found unused => exact ⟨once.paid, once.placed⟩
  | booked now found enough => exact once.booked _ _ now
  | settled now found open_ => exact once.settled now found open_

end IsSettledOnce

/-! ### Bookings that last -/

/-- Bookings stay as they are but for their status, and those that are not pending
stay as they are settled. -/
def Endures (b b' : Books) : Prop :=
  ∀ {id booking}, b.booking? id = some booking → ∃ status,
    b'.booking? id = some { booking with status := status } ∧
    (booking.status.isTerminal = true → status = booking.status)

theorem endures_of_change {b b' : Books} (change : Change b b') : Endures b b' := by
  intro id booking at_
  cases change with
  | unchanged => exact ⟨booking.status, at_, fun _ => rfl⟩
  | registered d => exact ⟨booking.status, at_, fun _ => rfl⟩
  | revised found fits => exact ⟨booking.status, at_, fun _ => rfl⟩
  | removed found unused => exact ⟨booking.status, at_, fun _ => rfl⟩
  | booked now found enough =>
      refine ⟨booking.status, ?_, fun _ => rfl⟩
      rw [booking?_booked]
      split
      · rename_i new
        rw [new] at at_
        simp [booking?] at at_
      · exact at_
  | @settled old d now found open_ =>
      rw [booking?_settled found]
      split
      · rename_i own
        rw [own] at at_
        cases found.symm.trans at_
        refine ⟨_, rfl, fun terminal => ?_⟩
        rw [open_] at terminal
        cases terminal
      · exact ⟨booking.status, at_, fun _ => rfl⟩

theorem Since.endures {b b' : Books} (since : Since b b') : Endures b b' := by
  induction since with
  | here => exact fun at_ => ⟨_, at_, fun _ => rfl⟩
  | later _ _ change ih =>
      intro id booking at_
      obtain ⟨middle, at_', fixed⟩ := ih at_
      obtain ⟨last, at_'', fixed'⟩ := endures_of_change change at_'
      refine ⟨last, at_'', fun terminal => ?_⟩
      have same := fixed terminal
      exact (fixed' (same ▸ terminal)).trans same

/-- Bookings stay, with their price and user, and those that are not pending stay
as they are settled. -/
def Lasts (b b' : Books) : Prop :=
  ∀ {id booking}, b.booking? id = some booking → ∃ booking', b'.booking? id = some booking' ∧
    booking'.total = booking.total ∧ booking'.userId = booking.userId ∧
    (booking.status.isTerminal = true → booking'.status = booking.status)

theorem Since.lasts {b b' : Books} (since : Since b b') : Lasts b b' := by
  intro id booking at_
  obtain ⟨status, at_', fixed⟩ := since.endures at_
  exact ⟨_, at_', rfl, rfl, fixed⟩

theorem Since.settledOnce {b b' : Books} (since : Since b b') (once : b.IsSettledOnce) :
    b'.IsSettledOnce := by
  induction since with
  | here => exact once
  | later _ _ change ih => exact ih.change change

end BoxOffice.Ledger.Books
