import BoxOffice.Proofs.Ledger.Conservation
import BoxOffice.Proofs.Ledger.FreeRows
import BoxOffice.Proofs.Ledger.Places

/-!
# Bookings and payments under other numbers

When the bookings of all events but one are left out of a ledger, and the
payments for them, the rows that are kept move up and have other numbers.
`Marks` says which rows are kept, and its functions write a row, a call, a stage
or an answer with the numbers that the kept rows have then. Nothing else in
them is changed.

The marks of a run are those of its last ledger. They cover every ledger on the
way, so a row has one new number from the first step to the last, and a number
that is asked for before there is a row under it has one as well.
-/

namespace BoxOffice.Ledger

/-- Which bookings and which payments are kept, by number. -/
structure Marks where
  bookings : List Bool
  payments : List Bool

/-- Of one event the bookings are kept and the payments for them. -/
def Books.marks (b : Books) (event : EventId) : Marks :=
  let bookings := b.bookings.map fun booking => decide (booking.eventId = event)
  ⟨bookings, b.payments.map fun p => Numbered.get? p.bookingId.number bookings == some true⟩

namespace Marks

variable (m : Marks)

/-- Whether a number is that of a booking that is kept. -/
def keeps (b : BookingId) : Bool := Numbered.get? b.number m.bookings == some true

/-- Whether a number is not that of a booking that is left out. -/
def spares (b : BookingId) : Bool := Numbered.isKept m.bookings b.number

/-- Whether a call is about the event. A new event is about every event, and a look-up
of a booking may meet any. -/
def concerns (event : EventId) : {k : Call.Kind} → Call k → Bool
  | _, .register _ => true
  | _, .revise id _ => id = event
  | _, .remove id => id = event
  | _, .book r => r.eventId = event
  | _, .findEvent id => id = event
  | _, .findBooking _ => true
  | _, .settle d => m.spares d.bookingId

/-! ### New numbers -/

def bookingId (b : BookingId) : BookingId := ⟨Numbered.place m.bookings b.number⟩

def paymentId (p : PaymentId) : PaymentId := ⟨Numbered.place m.payments p.number⟩

/-- The bookings that are kept, in the same order. -/
def ids (bs : List BookingId) : List BookingId := (bs.filter m.keeps).map m.bookingId

def booking (b : Booking) : Booking := { b with id := m.bookingId b.id }

def payment (p : Payment) : Payment :=
  { p with id := m.paymentId p.id, bookingId := m.bookingId p.bookingId }

def bookingCell (cell : BookingCell) : BookingCell := { cell with row := m.booking cell.row }

def transaction : Transaction → Transaction
  | .booking r => .booking r
  | .removal unchecked => .removal (m.ids unchecked)

def eventCell (cell : EventCell) : EventCell :=
  { cell with transaction := cell.transaction.map m.transaction }

def call : {k : Call.Kind} → Call k → Call k
  | _, .settle d => .settle { d with bookingId := m.bookingId d.bookingId }
  | _, c => c

def stage : {k : Call.Kind} → Stage k → Stage k
  | _, .scanning wanted rest => .scanning wanted (m.ids rest)
  | _, s => s

def receipt (r : Booking.Receipt) : Booking.Receipt := { r with booking := m.booking r.booking }

def refusal : Settlement.Error → Settlement.Error
  | .bookingNotFound id => .bookingNotFound (m.bookingId id)
  | .alreadySettled id status => .alreadySettled (m.bookingId id) status
  | e => e

def answer : {k : Call.Kind} → k.Answer → k.Answer
  | .row, x => x
  | .receipt, x => x.map m.receipt
  | .event, x => x
  | .booking, x => x.map m.booking
  | .payment, x => (x.map m.payment).mapError m.refusal

def progress {k : Call.Kind} : Progress k → Progress k
  | .done x => .done (m.answer x)
  | .further s => .further (m.stage s)

/-! ### Which numbers are kept -/

variable {m}

theorem spares_of_keeps {b : BookingId} (kept : m.keeps b = true) : m.spares b = true := by
  simp only [keeps, beq_iff_eq] at kept
  simp [spares, Numbered.isKept, kept]

/-- No two numbers that are not left out become the same. -/
theorem bookingId_injective {b c : BookingId} (kept : m.spares b = true)
    (kept' : m.spares c = true) (same : m.bookingId b = m.bookingId c) : b = c :=
  BookingId.ext (Numbered.place_injective kept kept' (congrArg BookingId.number same))

theorem paymentId_injective {p q : PaymentId} (kept : Numbered.isKept m.payments p.number = true)
    (kept' : Numbered.isKept m.payments q.number = true) (same : m.paymentId p = m.paymentId q) :
    p = q :=
  PaymentId.ext (Numbered.place_injective kept kept' (congrArg PaymentId.number same))

theorem ids_cons_of_keeps {b : BookingId} {bs : List BookingId} (kept : m.keeps b = true) :
    m.ids (b :: bs) = m.bookingId b :: m.ids bs := by
  simp [ids, kept]

theorem ids_cons_of_not_keeps {b : BookingId} {bs : List BookingId} (out : m.keeps b = false) :
    m.ids (b :: bs) = m.ids bs := by
  simp [ids, out]

/-! ### Ledgers on the way -/

variable {event : EventId} {b b' : Books}

/-- The marks say of every row of the books whether it is kept. -/
structure Covers (m : Marks) (event : EventId) (b : Books) : Prop where
  bookings : (b.bookings.map fun booking => decide (booking.eventId = event)) <+: m.bookings
  payments : (b.payments.map fun p => m.keeps p.bookingId) <+: m.payments

theorem covers_marks (b : Books) (event : EventId) : (b.marks event).Covers event b where
  bookings := List.prefix_rfl
  payments := List.prefix_rfl

/-- What a call writes comes after all that was written before. -/
theorem Covers.of_change (covers : m.Covers event b') (change : Books.Change b b') :
    m.Covers event b := by
  cases change with
  | unchanged => exact covers
  | registered d => exact ⟨covers.bookings, covers.payments⟩
  | revised => exact ⟨covers.bookings, covers.payments⟩
  | removed => exact ⟨covers.bookings, covers.payments⟩
  | @booked row r now _ _ =>
      refine ⟨List.IsPrefix.trans ?_ covers.bookings, covers.payments⟩
      exact (List.prefix_append b.bookings [b.newBooking r row now]).map _
  | @settled booking d now found _ =>
      constructor
      · rw [← Books.map_settled (p := b.newPayment d now) found _ rfl]
        exact covers.bookings
      · exact ((List.prefix_append b.payments [b.newPayment d now]).map _).trans covers.payments

section Cells

variable {l : Ledger} {id : BookingId} {cell : BookingCell}

theorem Covers.cells (covers : m.Covers event l.books) :
    (l.bookings.map fun cell => decide (cell.row.eventId = event)) <+: m.bookings := by
  have rows := covers.bookings
  simp only [books, List.map_map] at rows
  exact rows

/-- A booking is kept when it is for the event. -/
theorem Covers.keeps_eq (covers : m.Covers event l.books) (found : l.bookingCell? id = some cell) :
    m.keeps id = decide (cell.row.eventId = event) := by
  simp [keeps, Numbered.mark_eq covers.cells found]

theorem Covers.spares_eq (covers : m.Covers event l.books)
    (found : l.bookingCell? id = some cell) :
    m.spares id = decide (cell.row.eventId = event) :=
  Numbered.isKept_eq (p := fun cell : BookingCell => decide (cell.row.eventId = event))
    covers.cells found

end Cells

end Marks

end BoxOffice.Ledger
