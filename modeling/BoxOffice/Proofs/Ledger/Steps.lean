import BoxOffice.Proofs.Ledger.Books
import BoxOffice.Proofs.Ledger.Traffic

/-!
# What one step of a call does

`Started` lists everything that the first step of a call may come to, and
`Resumed` everything that a further step may come to: the progress of the call
and the ledger after it, with what was checked on the way. `started` and
`resumed` say that there is nothing else. All that later modules prove about
calls splits on these cases and does not open the operations of the ledger.
-/

namespace BoxOffice.Ledger

variable {l : Ledger} {t : Ticket}

/-! ### The first step -/

/-- What the first step of a call may come to. -/
inductive Started (l : Ledger) (t : Ticket) (order : List BookingId) (now : Timestamp) :
    {k : Call.Kind} → Call k → Progress k × Ledger → Prop
  /-- An event is stored. -/
  | registered (d : EventDraft) :
      Started l t order now (.register d) (.done (.ok (l.register d).1), (l.register d).2)
  /-- The call is answered by what the books say, and nothing is changed. -/
  | answered {k : Call.Kind} {call : Call k} {answer : k.Answer}
      (outcome : (answer, l.books) ∈ l.books.outcomes now call) :
      Started l t order now call (.done answer, l)
  /-- Somebody else holds the row. -/
  | passing {k : Call.Kind} {call : Call k} {answer : k.Answer}
      (passing : Call.Kind.isPassing answer = true) :
      Started l t order now call (.done answer, l)
  /-- The event has new values. -/
  | revised {id : EventId} {r : EventRevision} {cell : EventCell}
      (found : l.presentCell? id = some cell) (free : cell.lock.isFree = true)
      (fits : cell.row.reservedSeats ≤ r.totalSeats) :
      Started l t order now (.revise id r) (.done (.ok (cell.row.revised r)),
        l.setEventCell id { cell with row := cell.row.revised r })
  /-- The call has locked the event's row to remove it. -/
  | removing {id : EventId} {cell : EventCell} (found : l.presentCell? id = some cell)
      (free : cell.lock.isFree = true) :
      Started l t order now (.remove id) (.further (.removing id), l.setEventCell id
        { cell with lock := cell.lock.takenBy t, transaction := some (.removal order) })
  /-- The call has locked the event's row and checked its seats. -/
  | booking {r : Booking.Request} {cell : EventCell} (found : l.presentCell? r.eventId = some cell)
      (free : cell.lock.isFree = true) (enough : r.seats ≤ cell.row.availableSeats) :
      Started l t order now (.book r) (.further (.booking r.eventId), l.setEventCell r.eventId
        { cell with lock := cell.lock.takenBy t, transaction := some (.booking r) })
  /-- The call has found the event and will look at its row. -/
  | reading {id : EventId} {cell : EventCell} (found : l.presentCell? id = some cell) :
      Started l t order now (.findEvent id) (.further (.reading id), l)
  /-- The call will look at every booking that there is. -/
  | scanning {wanted : PublicId} :
      Started l t order now (.findBooking wanted) (.further (.scanning wanted order), l)
  /-- The payment is stored and its booking settled. -/
  | settled {d : Payment.Draft} {cell : BookingCell} {payment : Payment}
      (found : l.bookingCell? d.bookingId = some cell) (pending : cell.row.status = .pending)
      (stored : payment = l.books.newPayment d now) :
      Started l t order now (.settle d) (.done (.ok payment),
        { l.setBookingCell d.bookingId
            { cell with row := { cell.row with status := d.status.settles } } with
          payments := l.payments ++ [payment] })

/-- The two ways in which a transaction is refused, and the one in which it is
opened. -/
theorem openTransaction_cases (l : Ledger) (t : Ticket) (id : EventId)
    (transaction : EventRow → Except Error Transaction) :
    (l.presentCell? id = none ∧
      l.openTransaction t id transaction = .error (.eventNotFound id)) ∨
    ∃ cell, l.presentCell? id = some cell ∧
      ((cell.lock.isFree = false ∧ l.openTransaction t id transaction = .error .lockContention) ∨
        cell.lock.isFree = true ∧
          l.openTransaction t id transaction = (transaction cell.row).map fun tr =>
            l.setEventCell id
              { cell with lock := cell.lock.takenBy t, transaction := some tr }) := by
  unfold openTransaction
  cases found : l.presentCell? id with
  | none => exact .inl ⟨rfl, rfl⟩
  | some cell =>
      refine .inr ⟨cell, rfl, ?_⟩
      cases free : cell.lock.isFree with
      | false => exact .inl ⟨rfl, by simp [free]⟩
      | true =>
          refine .inr ⟨rfl, ?_⟩
          simp only [free, Bool.true_eq_false, if_false]
          cases transaction cell.row <;> rfl

theorem row?_of_absent {id : EventId} (absent : l.presentCell? id = none) :
    l.books.row? id = none := by
  rw [row?_books, absent]
  rfl

theorem started_revise (order : List BookingId) (now : Timestamp) (id : EventId)
    (r : EventRevision) :
    Started l t order now (.revise id r) (l.start t (fun _ => order) now (.revise id r)) := by
  simp only [start]
  cases found : l.presentCell? id with
  | none =>
      have refused : l.revise id r = .error (.eventNotFound id) := by simp [revise, found]
      rw [refused]
      refine .answered ?_
      simp [Books.outcomes, Books.revise, row?_of_absent found]
  | some cell =>
      cases free : cell.lock.isFree with
      | false =>
          have refused : l.revise id r = .error .lockContention := by simp [revise, found, free]
          rw [refused]
          exact .passing rfl
      | true =>
          by_cases fits : r.totalSeats < cell.row.reservedSeats
          · have refused : l.revise id r =
                .error (.capacityBelowReserved r.totalSeats cell.row.reservedSeats) := by
              simp [revise, found, free, fits]
            rw [refused]
            refine .answered ?_
            simp [Books.outcomes, Books.revise, row?_of_presentCell? found, fits]
          · have done : l.revise id r = .ok (cell.row.revised r,
                l.setEventCell id { cell with row := cell.row.revised r }) := by
              simp [revise, found, free, fits]
            rw [done]
            exact .revised found free (Nat.le_of_not_lt fits)

theorem started_remove (order : List BookingId) (now : Timestamp) (id : EventId) :
    Started l t order now (.remove id) (l.start t (fun _ => order) now (.remove id)) := by
  simp only [start, openRemoval]
  obtain ⟨absent, refused⟩ | ⟨cell, found, ⟨_, refused⟩ | ⟨free, opened⟩⟩ :=
    openTransaction_cases l t id fun _ => .ok (.removal order)
  · rw [refused]
    refine .answered ?_
    simp [Books.outcomes, Books.remove, row?_of_absent absent]
  · rw [refused]
    exact .passing rfl
  · rw [opened]
    exact .removing found free

theorem started_book (order : List BookingId) (now : Timestamp) (r : Booking.Request) :
    Started l t order now (.book r) (l.start t (fun _ => order) now (.book r)) := by
  simp only [start, openBooking]
  obtain ⟨absent, refused⟩ | ⟨cell, found, ⟨_, refused⟩ | ⟨free, opened⟩⟩ :=
    openTransaction_cases l t r.eventId fun row =>
      if row.availableSeats < r.seats then
        .error (.seatsUnavailable r.seats row.availableSeats)
      else .ok (.booking r)
  · rw [refused]
    refine .answered ?_
    simp [Books.outcomes, Books.book, row?_of_absent absent]
  · rw [refused]
    exact .passing rfl
  · rw [opened]
    by_cases few : cell.row.availableSeats < r.seats
    · rw [if_pos few]
      refine .answered ?_
      simp [Books.outcomes, Books.book, row?_of_presentCell? found, few]
    · rw [if_neg few]
      exact .booking found free (Nat.le_of_not_lt few)

theorem started_settle (order : List BookingId) (now : Timestamp) (d : Payment.Draft) :
    Started l t order now (.settle d) (l.start t (fun _ => order) now (.settle d)) := by
  simp only [start]
  cases found : l.bookingCell? d.bookingId with
  | none =>
      have refused : l.settle d now = .error (.bookingNotFound d.bookingId) := by
        simp [settle, found]
      rw [refused]
      refine .answered ?_
      simp [Books.outcomes, Books.settle, booking?_books, found]
  | some cell =>
      cases free : cell.lock.isFree with
      | false =>
          have refused : l.settle d now = .error .lockContention := by simp [settle, found, free]
          rw [refused]
          exact .passing rfl
      | true =>
          cases may : cell.row.status.mayBecome d.status.settles with
          | false =>
              have refused : l.settle d now =
                  .error (.alreadySettled cell.row.id cell.row.status) := by
                simp [settle, found, free, may]
              rw [refused]
              refine .answered ?_
              simp [Books.outcomes, Books.settle, booking?_books, found, may]
          | true =>
              have done : l.settle d now = .ok (l.books.newPayment d now,
                  { l.setBookingCell d.bookingId
                      { cell with row := { cell.row with status := d.status.settles } } with
                    payments := l.payments ++ [l.books.newPayment d now] }) := by
                simp [settle, found, free, may, Books.newPayment, books, setBookingCell]
              rw [done]
              refine .settled found ?_ rfl
              simp only [Booking.Status.mayBecome, Bool.and_eq_true, beq_iff_eq] at may
              exact may.1

/-- The first step of a call comes to one of the listed cases. -/
theorem started (l : Ledger) (t : Ticket) (order : List BookingId) (now : Timestamp)
    {k : Call.Kind} (call : Call k) :
    Started l t order now call (l.start t (fun _ => order) now call) := by
  cases call with
  | register d => exact .registered d
  | revise id r => exact started_revise order now id r
  | remove id => exact started_remove order now id
  | book r => exact started_book order now r
  | findEvent id =>
      simp only [start]
      cases found : l.presentCell? id with
      | none =>
          refine .answered ?_
          simp [Books.outcomes, row?_of_absent found]
      | some cell => exact .reading found
  | findBooking wanted => exact .scanning
  | settle d => exact started_settle order now d

/-! ### A further step -/

theorem transactionOf?_eq_some {id : EventId} {cell : EventCell} {tr : Transaction} :
    l.transactionOf? t id = some (cell, tr) ↔
      l.eventCell? id = some cell ∧ cell.lock.holder = some t ∧ cell.transaction = some tr := by
  unfold transactionOf?
  cases l.eventCell? id with
  | none => simp
  | some found =>
      by_cases held : found.lock.holder = some t
      · cases transaction : found.transaction with
        | none =>
            simp only [held, if_true, transaction, Option.map_none, reduceCtorEq, false_iff]
            rintro ⟨same, -, open_⟩
            cases same
            cases transaction.symm.trans open_
        | some tr' =>
            simp only [held, if_true, transaction, Option.map_some, Option.some.injEq,
              Prod.mk.injEq]
            constructor
            · rintro ⟨rfl, rfl⟩
              exact ⟨rfl, held, transaction⟩
            · rintro ⟨rfl, -, open_⟩
              exact ⟨rfl, Option.some.inj (transaction.symm.trans open_)⟩
      · simp only [held, if_false, reduceCtorEq, Option.some.injEq, false_iff]
        rintro ⟨rfl, now, -⟩
        exact held now

/-- What a further step of a call may come to. -/
inductive Resumed (l : Ledger) (t : Ticket) (now : Timestamp) :
    {k : Call.Kind} → Stage k → Progress k × Ledger → Prop
  /-- Nothing happens. -/
  | idle {k : Call.Kind} (stage : Stage k) : Resumed l t now stage (.further stage, l)
  /-- The booking that was to be looked at next does not exist. -/
  | unknown {id : EventId} {cell : EventCell} {b : BookingId} {rest : List BookingId}
      (held : l.transactionOf? t id = some (cell, .removal (b :: rest)))
      (absent : l.bookingCell? b = none) :
      Resumed l t now (.removing id) (.further (.removing id),
        l.setEventCell id { cell with transaction := some (.removal rest) })
  /-- The removal waits for a booking's row. -/
  | waiting {id : EventId} {cell : EventCell} {b : BookingId} {rest : List BookingId}
      {booking : BookingCell} (held : l.transactionOf? t id = some (cell, .removal (b :: rest)))
      (found : l.bookingCell? b = some booking) :
      Resumed l t now (.removing id) (.further (.removing id),
        l.setBookingCell b { booking with lock := (booking.lock.visit t).2 })
  /-- The removal has met a booking of the event. -/
  | inUse {id : EventId} {cell : EventCell} {b : BookingId} {rest : List BookingId}
      {booking : BookingCell} (held : l.transactionOf? t id = some (cell, .removal (b :: rest)))
      (found : l.bookingCell? b = some booking) (uses : booking.row.eventId = id) :
      Resumed l t now (.removing id) (.done (.error (.eventInUse id)),
        (l.setEventCell id (cell.closed cell.row)).setBookingCell b
          { booking with lock := (booking.lock.visit t).2 })
  /-- The removal has seen that a booking is for another event. -/
  | passed {id : EventId} {cell : EventCell} {b : BookingId} {rest : List BookingId}
      {booking : BookingCell} (held : l.transactionOf? t id = some (cell, .removal (b :: rest)))
      (found : l.bookingCell? b = some booking) (other : booking.row.eventId ≠ id) :
      Resumed l t now (.removing id) (.further (.removing id),
        (l.setEventCell id { cell with transaction := some (.removal rest) }).setBookingCell b
          { booking with lock := (booking.lock.visit t).2 })
  /-- The removal has looked at all bookings and takes the event out. -/
  | removed {id : EventId} {cell : EventCell}
      (held : l.transactionOf? t id = some (cell, .removal [])) :
      Resumed l t now (.removing id) (.done (.ok cell.row),
        l.setEventCell id { cell.closed cell.row with present := false })
  /-- The booking is not stored, as it was told to fail. -/
  | failed {id : EventId} {cell : EventCell} {r : Booking.Request}
      (held : l.transactionOf? t id = some (cell, .booking r)) :
      Resumed l t now (.booking id) (.done (.error (.storage "injected insert failure")),
        { l.setEventCell id (cell.closed cell.row) with failNextInsert := false })
  /-- The booking is stored and its seats are taken. -/
  | committed {id : EventId} {cell : EventCell} {r : Booking.Request}
      (held : l.transactionOf? t id = some (cell, .booking r)) :
      Resumed l t now (.booking id)
        (.done (.ok ⟨l.bookingOf r cell.row now, (cell.row.withSeatsTaken r.seats).availableSeats,
            (cell.row.withSeatsTaken r.seats).version⟩),
          { l.setEventCell id (cell.closed (cell.row.withSeatsTaken r.seats)) with
            bookings := l.bookings ++ [⟨l.bookingOf r cell.row now, .free⟩] })
  /-- The look-up has seen the event's row. -/
  | read {id : EventId} {cell : EventCell} (found : l.eventCell? id = some cell) :
      Resumed l t now (.reading id) (.done (some cell.row),
        l.setEventCell id { cell with lock := (cell.lock.visit t).2 })
  /-- The look-up waits for the event's row. -/
  | unread {id : EventId} {cell : EventCell} (found : l.eventCell? id = some cell) :
      Resumed l t now (.reading id) (.further (.reading id),
        l.setEventCell id { cell with lock := (cell.lock.visit t).2 })
  /-- The look-up has seen all bookings. -/
  | exhausted {wanted : PublicId} : Resumed l t now (.scanning wanted []) (.done none, l)
  /-- The look-up has seen the booking that it wants. -/
  | met {wanted : PublicId} {b : BookingId} {rest : List BookingId} {cell : BookingCell}
      (found : l.bookingCell? b = some cell) (same : cell.row.publicId = wanted) :
      Resumed l t now (.scanning wanted (b :: rest)) (.done (some cell.row),
        l.setBookingCell b { cell with lock := (cell.lock.visit t).2 })
  /-- The look-up has seen another booking. -/
  | skipped {wanted : PublicId} {b : BookingId} {rest : List BookingId} {cell : BookingCell}
      (found : l.bookingCell? b = some cell) (other : cell.row.publicId ≠ wanted) :
      Resumed l t now (.scanning wanted (b :: rest)) (.further (.scanning wanted rest),
        l.setBookingCell b { cell with lock := (cell.lock.visit t).2 })
  /-- The look-up waits for a booking's row. -/
  | unseen {wanted : PublicId} {b : BookingId} {rest : List BookingId} {cell : BookingCell}
      (found : l.bookingCell? b = some cell) :
      Resumed l t now (.scanning wanted (b :: rest)) (.further (.scanning wanted (b :: rest)),
        l.setBookingCell b { cell with lock := (cell.lock.visit t).2 })

theorem resumed_removing (now : Timestamp) (id : EventId) :
    Resumed l t now (.removing id) (l.resume t now (.removing id)) := by
  simp only [resume, stepRemoval]
  cases held : l.transactionOf? t id with
  | none => exact .idle _
  | some open_ =>
      obtain ⟨cell, tr⟩ := open_
      cases tr with
      | booking r => exact .idle _
      | removal unchecked =>
          cases unchecked with
          | nil => exact .removed held
          | cons b rest =>
              cases found : l.bookingCell? b with
              | none => simpa [found] using Resumed.unknown held found
              | some booking =>
                  cases seen : (booking.lock.visit t).1 with
                  | false => simpa [found, seen] using Resumed.waiting held found
                  | true =>
                      by_cases uses : booking.row.eventId = id
                      · simpa [found, seen, uses] using Resumed.inUse held found uses
                      · simpa [found, seen, uses] using Resumed.passed held found uses

theorem resumed_booking (now : Timestamp) (id : EventId) :
    Resumed l t now (.booking id) (l.resume t now (.booking id)) := by
  simp only [resume, commitBooking]
  cases held : l.transactionOf? t id with
  | none => exact .idle _
  | some open_ =>
      obtain ⟨cell, tr⟩ := open_
      cases tr with
      | removal unchecked => exact .idle _
      | booking r =>
          cases fails : l.failNextInsert with
          | true => simpa [fails] using Resumed.failed held
          | false =>
              simp only [Bool.false_eq_true, if_false]
              exact .committed held

theorem resumed_scanning (now : Timestamp) (wanted : PublicId) (rest : List BookingId) :
    Resumed l t now (.scanning wanted rest) (l.resume t now (.scanning wanted rest)) := by
  cases rest with
  | nil => exact .exhausted
  | cons b rest =>
      simp only [resume, visitBooking]
      cases found : l.bookingCell? b with
      | none => exact .idle _
      | some cell =>
          cases seen : (cell.lock.visit t).1 with
          | false => simpa [seen] using Resumed.unseen found
          | true =>
              by_cases same : cell.row.publicId = wanted
              · simpa [seen, same] using Resumed.met found same
              · simpa [seen, same] using Resumed.skipped found same

/-- A further step of a call comes to one of the listed cases. -/
theorem resumed (l : Ledger) (t : Ticket) (now : Timestamp) {k : Call.Kind} (stage : Stage k) :
    Resumed l t now stage (l.resume t now stage) := by
  cases stage with
  | removing id => exact resumed_removing now id
  | booking id => exact resumed_booking now id
  | reading id =>
      simp only [resume, visitEvent]
      cases found : l.eventCell? id with
      | none => exact .idle _
      | some cell =>
          cases seen : (cell.lock.visit t).1 with
          | false => simpa [seen] using Resumed.unread found
          | true => simpa [seen] using Resumed.read found
  | scanning wanted rest => exact resumed_scanning now wanted rest

end BoxOffice.Ledger
