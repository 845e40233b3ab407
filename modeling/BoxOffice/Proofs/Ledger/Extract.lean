import BoxOffice.Proofs.Ledger.Custody
import BoxOffice.Proofs.Ledger.Renumbering

/-!
# The ledger of one event

An extract of a ledger for an event has the event's cell, the bookings of that
event and the payments for them, under the numbers that they have when all
others are left out, and as many events. Of the other events it may have other
rows.

While nobody outside holds the row of a booking and no booking is told to fail,
a step that is about the event comes to the same on the ledger and on the
extract, and makes an extract of what it makes of the ledger. A step that is
about another event leaves the extract one.
-/

namespace BoxOffice.Ledger

/-- Nobody holds the row of a booking, and the next booking will not fail. -/
structure IsCalm (l : Ledger) : Prop where
  free : l.HasFreeBookings
  storing : l.failNextInsert = false

/-- The booking that a call looks at next. -/
def next? (l : Ledger) (t : Ticket) : {k : Call.Kind} → Stage k → Option BookingId
  | _, .removing id =>
    match l.transactionOf? t id with
    | some (_, .removal (b :: _)) => some b
    | _ => none
  | _, .scanning _ rest => rest.head?
  | _, _ => none

/-- Whether a look-up has met a booking of another event. -/
def Call.Kind.isElsewhere (event : EventId) : {k : Call.Kind} → k.Answer → Bool
  | .booking, some found => found.eventId ≠ event
  | _, _ => false

/-- What a ledger has of one event. -/
structure Extracts (m : Marks) (event : EventId) (l l' : Ledger) : Prop where
  events : l'.events.length = l.events.length
  cell : l'.eventCell? event = (l.eventCell? event).map m.eventCell
  bookings : l'.bookings = (l.bookings.filter (·.row.eventId = event)).map m.bookingCell
  payments : l'.payments = (l.payments.filter fun p => m.keeps p.bookingId).map m.payment
  storing : l'.failNextInsert = l.failNextInsert

namespace Extracts

variable {m : Marks} {event id : EventId} {l l₂ l' : Ledger} {t : Ticket} {now : Timestamp}
  {k : Call.Kind}

theorem empty (m : Marks) (event : EventId) : Extracts m event .empty .empty where
  events := rfl
  cell := by simp [eventCell?, Ledger.empty, Numbered.get?]
  bookings := rfl
  payments := rfl
  storing := rfl

theorem free (x : Extracts m event l l') (free : l.HasFreeBookings) : l'.HasFreeBookings := by
  intro cell member
  rw [x.bookings] at member
  obtain ⟨old, kept, rfl⟩ := List.mem_map.mp member
  exact free old (List.mem_of_mem_filter kept)

/-! ### Rows -/

theorem presentCell? (x : Extracts m event l l') :
    l'.presentCell? event = (l.presentCell? event).map m.eventCell := by
  simp only [Ledger.presentCell?, x.cell]
  cases l.eventCell? event with
  | none => rfl
  | some cell => cases shown : cell.present <;> simp [Option.filter, Marks.eventCell, shown]

theorem transactionOf? (x : Extracts m event l l') (t : Ticket) :
    l'.transactionOf? t event =
      (l.transactionOf? t event).map fun (cell, tr) => (m.eventCell cell, m.transaction tr) := by
  simp only [Ledger.transactionOf?, x.cell]
  cases l.eventCell? event with
  | none => rfl
  | some cell =>
      by_cases held : cell.lock.holder = some t
      · simp [Marks.eventCell, held, Function.comp_def]
      · simp [Marks.eventCell, held]

theorem bookingCell? (x : Extracts m event l l') (covers : m.Covers event l.books)
    {b : BookingId} (spared : m.spares b = true) :
    l'.bookingCell? (m.bookingId b) = (l.bookingCell? b).map m.bookingCell := by
  simp only [Ledger.bookingCell?, x.bookings, Numbered.get?_map]
  rw [← Numbered.get?_filter covers.cells spared]
  rfl

/-! ### Changed rows -/

/-- Only the rows of the event matter. -/
theorem congr (x : Extracts m event l l') (events : l₂.events.length = l.events.length)
    (cell : l₂.eventCell? event = l.eventCell? event)
    (bookings : l₂.bookings.filter (·.row.eventId = event) =
      l.bookings.filter (·.row.eventId = event))
    (payments : (l₂.payments.filter fun p => m.keeps p.bookingId) =
      l.payments.filter fun p => m.keeps p.bookingId)
    (storing : l₂.failNextInsert = l.failNextInsert) : Extracts m event l₂ l' where
  events := x.events.trans events.symm
  cell := by rw [cell, x.cell]
  bookings := by rw [bookings, x.bookings]
  payments := by rw [payments, x.payments]
  storing := x.storing.trans storing.symm

/-- The row of another event does not matter. -/
theorem setOther (x : Extracts m event l l') (other : id ≠ event) (cell : EventCell) :
    Extracts m event (l.setEventCell id cell) l' := by
  refine x.congr (by simp [setEventCell]) ?_ rfl rfl rfl
  have apart : event.number ≠ id.number := fun same => other (EventId.ext same.symm)
  simp [eventCell?, setEventCell, Numbered.get?_set, apart]

theorem setEvent (x : Extracts m event l l') {old : EventCell}
    (found : l.eventCell? event = some old) (cell : EventCell) :
    Extracts m event (l.setEventCell event cell) (l'.setEventCell event (m.eventCell cell)) := by
  have found' : l'.eventCell? event = some (m.eventCell old) := by
    rw [x.cell, found]
    rfl
  constructor
  · simpa [setEventCell] using x.events
  · rw [eventCell?_setEventCell found, eventCell?_setEventCell found', if_pos rfl, if_pos rfl]
    rfl
  · exact x.bookings
  · exact x.payments
  · exact x.storing

/-- The cell of the event may change as long as it is written the same in the
extract. -/
theorem setSame (x : Extracts m event l l') {old cell : EventCell}
    (found : l.eventCell? event = some old) (same : m.eventCell cell = m.eventCell old) :
    Extracts m event (l.setEventCell event cell) l' := by
  constructor
  · simpa [setEventCell] using x.events
  · rw [eventCell?_setEventCell found, if_pos rfl, Option.map_some, same, x.cell, found]
    rfl
  · exact x.bookings
  · exact x.payments
  · exact x.storing

theorem setBooking (x : Extracts m event l l') (covers : m.Covers event l.books) {b : BookingId}
    {old : BookingCell} (found : l.bookingCell? b = some old) (own : old.row.eventId = event)
    (cell : BookingCell) (same : cell.row.eventId = old.row.eventId) :
    Extracts m event (l.setBookingCell b cell)
      (l'.setBookingCell (m.bookingId b) (m.bookingCell cell)) where
  events := x.events
  cell := x.cell
  bookings := by
    have kept := Numbered.filter_set (x := cell) covers.cells found (decide_eq_true own)
      (decide_eq_true (same.trans own))
    simp only [setBookingCell, x.bookings, kept, Numbered.map_set]
    rfl
  payments := x.payments
  storing := x.storing

/-- A booking of another event does not matter. -/
theorem setOtherBooking (x : Extracts m event l l') {b : BookingId} {old : BookingCell}
    (found : l.bookingCell? b = some old) (other : old.row.eventId ≠ event) (cell : BookingCell)
    (same : cell.row.eventId = old.row.eventId) :
    Extracts m event (l.setBookingCell b cell) l' :=
  x.congr rfl rfl
    (Numbered.filter_set_of_not found (decide_eq_false other)
      (decide_eq_false (same.symm ▸ other))) rfl rfl

theorem store (x : Extracts m event l l') (cell : BookingCell) (own : cell.row.eventId = event) :
    Extracts m event { l with bookings := l.bookings ++ [cell] }
      { l' with bookings := l'.bookings ++ [m.bookingCell cell] } where
  events := x.events
  cell := x.cell
  bookings := by simp [x.bookings, List.filter_append, own]
  payments := x.payments
  storing := x.storing

theorem pay (x : Extracts m event l l') {p : Payment} (kept : m.keeps p.bookingId = true) :
    Extracts m event { l with payments := l.payments ++ [p] }
      { l' with payments := l'.payments ++ [m.payment p] } where
  events := x.events
  cell := x.cell
  bookings := x.bookings
  payments := by simp [x.payments, List.filter_append, kept]
  storing := x.storing

/-! ### New rows -/

/-- The next booking is numbered as it will be written. -/
theorem next_bookings (x : Extracts m event l l') (cell : BookingCell)
    (own : cell.row.eventId = event)
    (covers : m.Covers event (books { l with bookings := l.bookings ++ [cell] })) :
    Numbered.next l'.bookings = (m.bookingId ⟨Numbered.next l.bookings⟩).number := by
  have ahead := covers.cells
  rw [List.map_append, List.map_singleton, decide_eq_true own] at ahead
  rw [x.bookings, Numbered.next_map]
  exact (Numbered.place_next (p := fun cell : BookingCell => decide (cell.row.eventId = event))
    ahead).symm

theorem next_payments (x : Extracts m event l l') {p : Payment} (kept : m.keeps p.bookingId = true)
    (covers : m.Covers event (books { l with payments := l.payments ++ [p] })) :
    Numbered.next l'.payments = (m.paymentId ⟨Numbered.next l.payments⟩).number := by
  have ahead := covers.payments
  simp only [books, List.map_append, List.map_singleton, kept] at ahead
  rw [x.payments, Numbered.next_map]
  exact (Numbered.place_next ahead).symm

/-! ### Locks of the event -/

theorem leaveEvent (x : Extracts m event l l') (t : Ticket) :
    Extracts m event (l.leaveEvent t event) (l'.leaveEvent t event) := by
  unfold Ledger.leaveEvent
  rw [x.cell]
  cases found : l.eventCell? event with
  | none => exact x
  | some cell =>
      have left := x.setEvent found { cell with
        lock := cell.lock.without t
        transaction := if cell.lock.holder = some t then none else cell.transaction }
      by_cases held : cell.lock.holder = some t
      · simpa [Marks.eventCell, held] using left
      · simpa [Marks.eventCell, held] using left

theorem leaveOther (x : Extracts m event l l') (other : id ≠ event) (t : Ticket) :
    Extracts m event (l.leaveEvent t id) l' := by
  unfold Ledger.leaveEvent
  split
  · exact x
  · exact x.setOther other _

theorem acquireEvent (x : Extracts m event l l') (t : Ticket) :
    Extracts m event (l.acquireEvent t event).2 (l'.acquireEvent t event).2 := by
  unfold Ledger.acquireEvent
  rw [x.cell]
  cases found : l.eventCell? event with
  | none => exact x
  | some cell => exact x.setEvent found _

theorem acquireOther (x : Extracts m event l l') (other : id ≠ event) (t : Ticket) :
    Extracts m event (l.acquireEvent t id).2 l' := by
  unfold Ledger.acquireEvent
  split
  · exact x
  · exact x.setOther other _

/-! ### The first step of a call -/

/-- Two results of a step are one under the new numbers. -/
def Agrees (m : Marks) (event : EventId) (result result' : Progress k × Ledger) : Prop :=
  result'.1 = m.progress result.1 ∧ Extracts m event result.2 result'.2

theorem start_register (x : Extracts m event l l') (order order' : List BookingId → List BookingId)
    (d : EventDraft) :
    Agrees m event (l.start t order now (.register d)) (l'.start t order' now (.register d)) := by
  have next : Numbered.next l'.events = Numbered.next l.events := by
    simp [Numbered.next, x.events]
  constructor
  · simp only [start, Ledger.register, next]
    rfl
  · simp only [start, Ledger.register, next]
    constructor
    · simpa using x.events
    · have cell := x.cell
      unfold eventCell? at cell
      simp only [eventCell?, Numbered.get?_append, next, cell]
      split <;> rfl
    · exact x.bookings
    · exact x.payments
    · exact x.storing

theorem start_revise (x : Extracts m event l l') (order order' : List BookingId → List BookingId)
    (r : EventRevision) :
    Agrees m event (l.start t order now (.revise event r))
      (l'.start t order' now (.revise event r)) := by
  simp only [start, Ledger.revise, x.presentCell?]
  cases present : l.presentCell? event with
  | none => exact ⟨rfl, x⟩
  | some cell =>
      have found := (presentCell?_eq_some.mp present).1
      simp only [Option.map_some, Marks.eventCell]
      by_cases held : cell.lock.isFree = false
      · simp only [held, if_true]
        exact ⟨rfl, x⟩
      · by_cases few : r.totalSeats < cell.row.reservedSeats
        · simp only [held, few, if_true]
          exact ⟨rfl, x⟩
        · simp only [held, few, if_false]
          exact ⟨rfl, x.setEvent found _⟩

/-- A transaction on the event is refused for the same cause, or opened. -/
theorem openTransaction (x : Extracts m event l l') (t : Ticket)
    (begins begins' : EventRow → Except Error Transaction)
    (same : ∀ row, begins' row = (begins row).map m.transaction) :
    (∃ e, l.openTransaction t event begins = .error e ∧
      l'.openTransaction t event begins' = .error e) ∨
    ∃ l₁ l₁', l.openTransaction t event begins = .ok l₁ ∧
      l'.openTransaction t event begins' = .ok l₁' ∧ Extracts m event l₁ l₁' := by
  simp only [Ledger.openTransaction, x.presentCell?]
  cases present : l.presentCell? event with
  | none => exact .inl ⟨_, rfl, rfl⟩
  | some cell =>
      have found := (presentCell?_eq_some.mp present).1
      simp only [Option.map_some, Marks.eventCell, same]
      by_cases held : cell.lock.isFree = false
      · simp only [held, if_true]
        exact .inl ⟨_, rfl, rfl⟩
      · simp only [held]
        cases begun : begins cell.row with
        | error e => exact .inl ⟨e, rfl, rfl⟩
        | ok tr => exact .inr ⟨_, _, rfl, rfl, x.setEvent found _⟩

theorem start_remove (x : Extracts m event l l') (order : List BookingId) :
    Agrees m event (l.start t (fun _ => order) now (.remove event))
      (l'.start t (fun _ => m.ids order) now (.remove event)) := by
  simp only [start, openRemoval]
  obtain ⟨e, refused, refused'⟩ | ⟨l₁, l₁', opened, opened', x₁⟩ :=
    x.openTransaction t (fun _ => .ok (.removal order)) (fun _ => .ok (.removal (m.ids order)))
      fun _ => rfl
  · rw [refused, refused']
    exact ⟨rfl, x⟩
  · rw [opened, opened']
    exact ⟨rfl, x₁⟩

theorem start_book (x : Extracts m event l l') (order order' : List BookingId → List BookingId)
    {r : Booking.Request} (own : r.eventId = event) :
    Agrees m event (l.start t order now (.book r)) (l'.start t order' now (.book r)) := by
  subst own
  simp only [start, openBooking]
  let checks (row : EventRow) : Except Error Transaction :=
    if row.availableSeats < r.seats then .error (.seatsUnavailable r.seats row.availableSeats)
    else .ok (.booking r)
  have same (row : EventRow) : checks row = (checks row).map m.transaction := by
    simp only [checks]
    split <;> rfl
  obtain ⟨e, refused, refused'⟩ | ⟨l₁, l₁', opened, opened', x₁⟩ :=
    x.openTransaction t checks checks same
  · rw [refused, refused']
    exact ⟨rfl, x⟩
  · rw [opened, opened']
    exact ⟨rfl, x₁⟩

theorem start_findEvent (x : Extracts m event l l')
    (order order' : List BookingId → List BookingId) :
    Agrees m event (l.start t order now (.findEvent event))
      (l'.start t order' now (.findEvent event)) := by
  simp only [start, x.presentCell?]
  cases l.presentCell? event with
  | none => exact ⟨rfl, x⟩
  | some cell => exact ⟨rfl, x⟩

/-- A settlement of a booking that is not left out finds the booking under its new
number, and its payment has the next of the numbers that are kept. -/
theorem start_settle (x : Extracts m event l l') (order order' : List BookingId → List BookingId)
    {d : Payment.Draft} (spared : m.spares d.bookingId = true) (before : m.Covers event l.books)
    (covers : m.Covers event (l.start t order now (.settle d)).2.books) :
    Agrees m event (l.start t order now (.settle d))
      (l'.start t order' now (m.call (.settle d))) := by
  simp only [start, Ledger.settle] at covers
  simp only [start, Ledger.settle, Marks.call, x.bookingCell? before spared]
  cases found : l.bookingCell? d.bookingId with
  | none => exact ⟨rfl, x⟩
  | some cell =>
      have kept : m.keeps d.bookingId = true := by
        rw [before.keeps_eq found, ← before.spares_eq found, spared]
      have own : cell.row.eventId = event := by
        simpa [before.keeps_eq found] using kept
      simp only [found, Option.map_some, Marks.bookingCell, Marks.booking] at covers ⊢
      by_cases held : cell.lock.isFree = false
      · simp only [held, if_true]
        exact ⟨rfl, x⟩
      · by_cases may : cell.row.status.mayBecome d.status.settles = false
        · simp only [held, may, if_true]
          exact ⟨rfl, x⟩
        · simp only [held, may] at covers ⊢
          have settled := x.setBooking before found own
            { cell with row := { cell.row with status := d.status.settles } } rfl
          have next := settled.next_payments kept covers
          simp only [setBookingCell] at next
          refine ⟨?_, ?_⟩
          · simp only [next]
            rfl
          · simp only [next]
            exact settled.pay (p := ⟨⟨Numbered.next l.payments⟩, d.publicId, d.bookingId, d.userId,
              d.amount, d.status, now⟩) kept

/-- The first step of a call that is about the event. -/
theorem start (x : Extracts m event l l') {order : List BookingId} {call : Call k}
    (concerned : m.concerns event call = true) (before : m.Covers event l.books)
    (covers : m.Covers event (l.start t (fun _ => order) now call).2.books) :
    Agrees m event (l.start t (fun _ => order) now call)
      (l'.start t (fun _ => m.ids order) now (m.call call)) := by
  cases call with
  | register d => exact x.start_register _ _ d
  | revise id r =>
      obtain rfl := of_decide_eq_true concerned
      exact x.start_revise _ _ r
  | remove id =>
      obtain rfl := of_decide_eq_true concerned
      exact x.start_remove order
  | book r => exact x.start_book _ _ (of_decide_eq_true concerned)
  | findEvent id =>
      obtain rfl := of_decide_eq_true concerned
      exact x.start_findEvent _ _
  | findBooking wanted => exact ⟨rfl, x⟩
  | settle d => exact x.start_settle _ _ concerned before covers

/-- The first step of a call has not met a booking. -/
theorem start_not_elsewhere {order : List BookingId → List BookingId} {call : Call k}
    {answer : k.Answer} (done : (l.start t order now call).1 = .done answer) :
    Call.Kind.isElsewhere event answer = false := by
  cases call with
  | findBooking wanted => cases done
  | _ => rfl

/-- The first step of a call that is about another event. -/
theorem start_other (x : Extracts m event l l') {order : List BookingId} {call : Call k}
    (other : m.concerns event call = false) (before : m.Covers event l.books) :
    Extracts m event (l.start t (fun _ => order) now call).2 l' := by
  have step := started l t order now call
  generalize l.start t (fun _ => order) now call = result at step
  cases step with
  | registered d => cases other
  | answered outcome => exact x
  | passing => exact x
  | revised => exact x.setOther (of_decide_eq_false other) _
  | removing => exact x.setOther (of_decide_eq_false other) _
  | booking => exact x.setOther (of_decide_eq_false other) _
  | reading => exact x
  | scanning => exact x
  | @settled d cell payment found _ stored =>
      have out : m.spares d.bookingId = false := other
      rw [before.spares_eq found] at out
      have left := x.setOtherBooking found (of_decide_eq_false out)
        { cell with row := { cell.row with status := d.status.settles } } rfl
      refine left.congr rfl rfl rfl ?_ rfl
      have unpaid : m.keeps payment.bookingId = false := by
        rw [stored]
        exact (before.keeps_eq found).trans out
      simp [setBookingCell, List.filter_append, unpaid]

/-! ### Further steps -/

theorem bookingIds (x : Extracts m event l l') (covers : m.Covers event l.books)
    (numbered : l.books.IsNumbered) : l'.bookingIds = m.ids l.bookingIds := by
  have marked : ∀ cell ∈ l.bookings, m.keeps cell.row.id = decide (cell.row.eventId = event) := by
    intro cell member
    have found := numbered.booking?_id (List.mem_map_of_mem member : cell.row ∈ l.books.bookings)
    rw [booking?_books] at found
    obtain ⟨cell', there, same⟩ := Option.map_eq_some_iff.mp found
    rw [covers.keeps_eq there, same]
  simp only [Ledger.bookingIds, Marks.ids, x.bookings, List.filter_map, List.map_map]
  rw [← List.filter_congr (q := m.keeps ∘ fun cell => cell.row.id) fun cell member =>
    (marked cell member).symm]
  rfl

theorem resume_reading (x : Extracts m event l l') :
    Agrees m event (l.resume t now (.reading event)) (l'.resume t now (.reading event)) := by
  simp only [resume, visitEvent, x.cell]
  cases found : l.eventCell? event with
  | none => exact ⟨rfl, x⟩
  | some cell =>
      simp only [Option.map_some, Marks.eventCell]
      cases seen : (cell.lock.visit t).1 with
      | false => exact ⟨rfl, x.setEvent found _⟩
      | true => exact ⟨rfl, x.setEvent found _⟩

theorem resume_booking (x : Extracts m event l l') (storing : l.failNextInsert = false)
    (own : ∀ cell r, l.transactionOf? t event = some (cell, .booking r) → r.eventId = event)
    (covers : m.Covers event (l.resume t now (.booking event)).2.books) :
    Agrees m event (l.resume t now (.booking event)) (l'.resume t now (.booking event)) := by
  simp only [resume, commitBooking] at covers
  simp only [resume, commitBooking, x.transactionOf?, x.storing]
  cases held : l.transactionOf? t event with
  | none => exact ⟨rfl, x⟩
  | some found =>
      obtain ⟨cell, tr⟩ := found
      cases tr with
      | removal unchecked => exact ⟨rfl, x⟩
      | booking r =>
          have own := own cell r held
          have there := (transactionOf?_eq_some.mp held).1
          simp only [held, storing] at covers
          simp only [Option.map_some, Marks.transaction, storing]
          have taken := x.setEvent there (cell.closed (cell.row.withSeatsTaken r.seats))
          have next := taken.next_bookings ⟨l.bookingOf r cell.row now, .free⟩ own covers
          have stored := taken.store ⟨l.bookingOf r cell.row now, .free⟩ own
          have written : l'.bookingOf r cell.row now = m.booking (l.bookingOf r cell.row now) := by
            simp only [setEventCell] at next
            simp only [bookingOf, Marks.booking, next]
          constructor
          · simp only [Marks.eventCell, written]
            rfl
          · simp only [Marks.eventCell, written]
            exact stored

theorem resume_removing (x : Extracts m event l l') (free : l.HasFreeBookings)
    (covers : m.Covers event l.books)
    (next : (l.next? t (.removing event)).all m.keeps = true) :
    Agrees m event (l.resume t now (.removing event)) (l'.resume t now (.removing event)) := by
  simp only [resume]
  cases held : l.transactionOf? t event with
  | none =>
      simp only [stepRemoval, x.transactionOf?, held, Option.map_none]
      exact ⟨rfl, x⟩
  | some found =>
      obtain ⟨cell, tr⟩ := found
      have held' := x.transactionOf? t
      rw [held] at held'
      have there := (transactionOf?_eq_some.mp held).1
      cases tr with
      | booking r =>
          simp only [stepRemoval, held, held']
          exact ⟨rfl, x⟩
      | removal unchecked =>
          cases unchecked with
          | nil =>
              simp only [stepRemoval, held, held']
              exact ⟨rfl, x.setEvent there _⟩
          | cons b rest =>
              have kept : m.keeps b = true := by simpa [next?, held] using next
              simp only [Option.map_some, Marks.transaction, Marks.ids_cons_of_keeps kept] at held'
              have same : (l'.bookingCell? (m.bookingId b)).any (·.row.eventId = event) =
                  (l.bookingCell? b).any (·.row.eventId = event) := by
                rw [x.bookingCell? covers (Marks.spares_of_keeps kept), Option.any_map]
                rfl
              rw [free.stepRemoval_eq held, (x.free free).stepRemoval_eq held', same]
              cases (l.bookingCell? b).any (·.row.eventId = event) with
              | true => exact ⟨rfl, x.setEvent there _⟩
              | false => exact ⟨rfl, x.setEvent there _⟩

theorem resume_scanning (x : Extracts m event l l') (free : l.HasFreeBookings)
    (covers : m.Covers event l.books) {wanted : PublicId} {rest : List BookingId}
    (next : (l.next? t (.scanning wanted rest)).all m.keeps = true) :
    Agrees m event (l.resume t now (.scanning wanted rest))
      (l'.resume t now (m.stage (.scanning wanted rest))) := by
  cases rest with
  | nil => exact ⟨rfl, x⟩
  | cons b rest =>
      have kept : m.keeps b = true := next
      simp only [resume, Marks.stage, Marks.ids_cons_of_keeps kept, free.visitBooking_eq,
        (x.free free).visitBooking_eq, x.bookingCell? covers (Marks.spares_of_keeps kept)]
      cases l.bookingCell? b with
      | none => exact ⟨by simp [Marks.progress, Marks.stage, Marks.ids_cons_of_keeps kept], x⟩
      | some cell =>
          simp only [Option.map_some, Marks.bookingCell, Marks.booking]
          by_cases same : cell.row.publicId = wanted
          · simp only [if_pos same]
            exact ⟨rfl, x⟩
          · simp only [if_neg same]
            exact ⟨rfl, x⟩

/-- A further step of a call that is about the event, unless it looks at a booking of
another one. -/
theorem resume (x : Extracts m event l l') (calm : l.IsCalm) {call : Call k} {stage : Stage k}
    (fits : Fits l call stage) (concerned : m.concerns event call = true)
    (own : ∀ cell r, l.transactionOf? t event = some (cell, .booking r) → r.eventId = event)
    (next : (l.next? t stage).all m.keeps = true) (before : m.Covers event l.books)
    (covers : m.Covers event (l.resume t now stage).2.books) :
    Agrees m event (l.resume t now stage) (l'.resume t now (m.stage stage)) := by
  cases fits with
  | removing id =>
      obtain rfl := of_decide_eq_true concerned
      exact x.resume_removing calm.free before next
  | booking r =>
      obtain rfl := of_decide_eq_true concerned
      exact x.resume_booking calm.storing own covers
  | reading known =>
      obtain rfl := of_decide_eq_true concerned
      exact x.resume_reading
  | scanning known => exact x.resume_scanning calm.free before next

/-- A look-up of a booking that is kept has not met another one. -/
theorem resume_not_elsewhere (free : l.HasFreeBookings) (covers : m.Covers event l.books)
    {stage : Stage k} {answer : k.Answer} (next : (l.next? t stage).all m.keeps = true)
    (done : (l.resume t now stage).1 = .done answer) :
    Call.Kind.isElsewhere event answer = false := by
  cases stage with
  | removing id => rfl
  | booking id => rfl
  | reading id => rfl
  | scanning wanted rest =>
      cases rest with
      | nil =>
          cases done
          rfl
      | cons b rest =>
          simp only [Ledger.resume, free.visitBooking_eq] at done
          cases found : l.bookingCell? b with
          | none =>
              rw [found] at done
              cases done
          | some cell =>
              rw [found] at done
              simp only [Option.map_some] at done
              split at done
              · cases done
                have own := (covers.keeps_eq found).symm.trans next
                simpa [Call.Kind.isElsewhere] using own
              · cases done

/-! ### Passing the bookings of other events -/

/-- What a step comes to with which a call passes the booking of another event: a
look-up ends with that booking, or the call stands where it stood when only the
bookings of the event are counted. -/
inductive Passes (m : Marks) (event : EventId) (stage : Stage k) : Progress k → Prop
  | met {answer : k.Answer} (elsewhere : Call.Kind.isElsewhere event answer = true) :
      Passes m event stage (.done answer)
  | on {stage' : Stage k} (same : m.stage stage' = m.stage stage) :
      Passes m event stage (.further stage')

theorem pass_removing (x : Extracts m event l l') (free : l.HasFreeBookings)
    (covers : m.Covers event l.books) {cell : EventCell} {b : BookingId} {rest : List BookingId}
    (held : l.transactionOf? t event = some (cell, .removal (b :: rest)))
    (out : m.keeps b = false) :
    Passes m event (.removing event) (l.resume t now (.removing event)).1 ∧
      Extracts m event (l.resume t now (.removing event)).2 l' := by
  have unused : (l.bookingCell? b).any (·.row.eventId = event) = false := by
    cases found : l.bookingCell? b with
    | none => rfl
    | some booking =>
        rw [Option.any_some, ← covers.keeps_eq found]
        exact out
  obtain ⟨there, -, open_⟩ := transactionOf?_eq_some.mp held
  have passed : l.resume t now (.removing event) = (.further (.removing event),
      l.setEventCell event { cell with transaction := some (.removal rest) }) := by
    simp only [Ledger.resume, free.stepRemoval_eq held, unused, Bool.false_eq_true, if_false]
  rw [passed]
  refine ⟨.on rfl, x.setSame there ?_⟩
  simp [Marks.eventCell, open_, Marks.transaction, Marks.ids_cons_of_not_keeps out]

theorem pass_scanning (x : Extracts m event l l') (free : l.HasFreeBookings)
    (covers : m.Covers event l.books) (wanted : PublicId) {b : BookingId} (rest : List BookingId)
    (out : m.keeps b = false) :
    Passes m event (.scanning wanted (b :: rest))
        (l.resume t now (.scanning wanted (b :: rest))).1 ∧
      Extracts m event (l.resume t now (.scanning wanted (b :: rest))).2 l' := by
  simp only [Ledger.resume, free.visitBooking_eq]
  cases found : l.bookingCell? b with
  | none => exact ⟨.on rfl, x⟩
  | some cell =>
      have other : cell.row.eventId ≠ event :=
        of_decide_eq_false ((covers.keeps_eq found).symm.trans out)
      by_cases same : cell.row.publicId = wanted
      · simp only [Option.map_some, if_pos same]
        exact ⟨.met (decide_eq_true other), x⟩
      · simp only [Option.map_some, if_neg same]
        refine ⟨.on ?_, x⟩
        simp [Marks.stage, Marks.ids_cons_of_not_keeps out]

/-- A step with which a call passes the booking of another event leaves the extract
one. -/
theorem pass (x : Extracts m event l l') (free : l.HasFreeBookings) (now : Timestamp)
    {call : Call k} {stage : Stage k} (fits : Fits l call stage)
    (concerned : m.concerns event call = true)
    (covers : m.Covers event l.books) (next : (l.next? t stage).all m.keeps = false) :
    Passes m event stage (l.resume t now stage).1 ∧
      Extracts m event (l.resume t now stage).2 l' := by
  cases fits with
  | removing id =>
      obtain rfl := of_decide_eq_true concerned
      simp only [next?] at next
      split at next
      · rename_i held
        exact x.pass_removing free covers held next
      · cases next
  | booking r => cases next
  | reading known => cases next
  | scanning known =>
      rename_i wanted rest
      cases rest with
      | nil => cases next
      | cons b rest => exact x.pass_scanning free covers wanted rest next

/-! ### Other calls -/

theorem resume_removing_other (x : Extracts m event l l') (free : l.HasFreeBookings)
    (other : id ≠ event) : Extracts m event (l.resume t now (.removing id)).2 l' := by
  cases held : l.transactionOf? t id with
  | none =>
      simp only [Ledger.resume, stepRemoval, held]
      exact x
  | some found =>
      obtain ⟨cell, tr⟩ := found
      cases tr with
      | booking r =>
          simp only [Ledger.resume, stepRemoval, held]
          exact x
      | removal unchecked =>
          cases unchecked with
          | nil =>
              simp only [Ledger.resume, stepRemoval, held]
              exact x.setOther other _
          | cons b rest =>
              simp only [Ledger.resume, free.stepRemoval_eq held]
              cases (l.bookingCell? b).any (·.row.eventId = id) with
              | true => exact x.setOther other _
              | false => exact x.setOther other _

theorem resume_booking_other (x : Extracts m event l l') (storing : l.failNextInsert = false)
    (own : ∀ cell r, l.transactionOf? t id = some (cell, .booking r) → r.eventId = id)
    (other : id ≠ event) : Extracts m event (l.resume t now (.booking id)).2 l' := by
  have step := resumed l t now (.booking id)
  generalize l.resume t now (.booking id) = result at step
  cases step with
  | idle => exact x
  | failed held => exact (x.setOther other _).congr rfl rfl rfl rfl storing.symm
  | @committed _ cell r held =>
      refine (x.setOther other (cell.closed (cell.row.withSeatsTaken r.seats))).congr
        rfl rfl ?_ rfl rfl
      have apart : r.eventId ≠ event := by rwa [own cell r held]
      simp [setEventCell, List.filter_append, bookingOf, apart]

theorem resume_reading_other (x : Extracts m event l l') (other : id ≠ event) :
    Extracts m event (l.resume t now (.reading id)).2 l' := by
  have step := resumed l t now (.reading id)
  generalize l.resume t now (.reading id) = result at step
  cases step with
  | idle => exact x
  | read found => exact x.setOther other _
  | unread found => exact x.setOther other _

/-- A further step of a call that is about another event. -/
theorem resume_other (x : Extracts m event l l') (calm : l.IsCalm) {call : Call k}
    {stage : Stage k} (fits : Fits l call stage) (other : m.concerns event call = false)
    (own : ∀ id cell r, l.transactionOf? t id = some (cell, .booking r) → r.eventId = id) :
    Extracts m event (l.resume t now stage).2 l' := by
  cases fits with
  | removing id => exact x.resume_removing_other calm.free (of_decide_eq_false other)
  | booking r => exact x.resume_booking_other calm.storing (own _) (of_decide_eq_false other)
  | reading known => exact x.resume_reading_other (of_decide_eq_false other)
  | scanning known => cases other

/-! ### Calls that are given up -/

theorem abandon (x : Extracts m event l l') (free : l.HasFreeBookings) {call : Call k}
    {stage : Stage k} (fits : Fits l call stage) (concerned : m.concerns event call = true) :
    Extracts m event (l.abandon t stage) (l'.abandon t (m.stage stage)) := by
  cases fits with
  | removing id =>
      obtain rfl := of_decide_eq_true concerned
      simp only [Marks.stage, free.abandon_removing, (x.free free).abandon_removing]
      exact x.leaveEvent t
  | booking r =>
      obtain rfl := of_decide_eq_true concerned
      exact x.leaveEvent t
  | reading known =>
      obtain rfl := of_decide_eq_true concerned
      exact x.leaveEvent t
  | scanning known =>
      simp only [Marks.stage, free.abandon_scanning, (x.free free).abandon_scanning]
      exact x

theorem abandon_other (x : Extracts m event l l') (free : l.HasFreeBookings) {call : Call k}
    {stage : Stage k} (fits : Fits l call stage) (other : m.concerns event call = false) :
    Extracts m event (l.abandon t stage) l' := by
  cases fits with
  | removing id =>
      rw [free.abandon_removing]
      exact x.leaveOther (of_decide_eq_false other) t
  | booking r => exact x.leaveOther (of_decide_eq_false other) t
  | reading known => exact x.leaveOther (of_decide_eq_false other) t
  | scanning known => cases other

end Extracts

/-! ### Calm ledgers -/

namespace IsCalm

variable {l : Ledger} {t : Ticket} {now : Timestamp} {k : Call.Kind}

theorem empty : Ledger.empty.IsCalm where
  free _ member := by cases member
  storing := rfl

theorem start (calm : l.IsCalm) (order : List BookingId) (call : Call k) :
    (l.start t (fun _ => order) now call).2.IsCalm where
  free := calm.free.start _ call
  storing := by
    have step := started l t order now call
    generalize l.start t (fun _ => order) now call = result at step
    cases step <;> exact calm.storing

theorem resume (calm : l.IsCalm) (stage : Stage k) : (l.resume t now stage).2.IsCalm where
  free := calm.free.resume stage
  storing := by
    have step := resumed l t now stage
    generalize l.resume t now stage = result at step
    cases step <;> first | exact calm.storing | rfl

theorem leaveEvent (calm : l.IsCalm) (t : Ticket) (id : EventId) : (l.leaveEvent t id).IsCalm where
  free := calm.free.leaveEvent id
  storing := by
    unfold Ledger.leaveEvent
    split <;> exact calm.storing

/-- Whoever leaves a row leaves the ledger calm. -/
theorem left (calm : l.IsCalm) (key : Office.RowKey) : (l.left t key).IsCalm := by
  cases key with
  | event id => exact calm.leaveEvent t id
  | booking id =>
      rw [Ledger.left, calm.free.leaveBooking_eq]
      exact calm

theorem acquireEvent (calm : l.IsCalm) (t : Ticket) (id : EventId) :
    (l.acquireEvent t id).2.IsCalm := by
  unfold Ledger.acquireEvent
  split
  · exact calm
  · exact ⟨calm.free, calm.storing⟩

theorem abandon (calm : l.IsCalm) (stage : Stage k) : (l.abandon t stage).IsCalm := by
  cases stage with
  | removing id =>
      rw [calm.free.abandon_removing]
      exact calm.leaveEvent t id
  | booking id => exact calm.leaveEvent t id
  | reading id => exact calm.leaveEvent t id
  | scanning wanted rest =>
      rw [calm.free.abandon_scanning]
      exact calm

end IsCalm

end BoxOffice.Ledger
