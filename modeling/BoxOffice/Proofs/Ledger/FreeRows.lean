import BoxOffice.Proofs.Ledger.Traffic

/-!
# Rows of bookings that nobody holds

Only somebody from outside keeps the row of a booking. A settlement changes such a row
in one step, and a call that looks at it waits only for one who keeps it. So as long as
nobody outside asks for the row of a booking, nobody holds one or waits for one:
`HasFreeBookings` is kept by every step of every call.
-/

namespace BoxOffice.Ledger

/-- Nobody holds the row of a booking or waits for one. -/
def HasFreeBookings (l : Ledger) : Prop := ∀ cell ∈ l.bookings, cell.lock = .free

namespace HasFreeBookings

variable {l l' : Ledger} {t : Ticket} {now : Timestamp}

theorem congr (free : l.HasFreeBookings) (same : l'.bookings = l.bookings) :
    l'.HasFreeBookings := by
  unfold HasFreeBookings
  rw [same]
  exact free

theorem lock (free : l.HasFreeBookings) {id : BookingId} {cell : BookingCell}
    (found : l.bookingCell? id = some cell) : cell.lock = .free :=
  free cell (Numbered.mem_of_get? found)

theorem setBookingCell (free : l.HasFreeBookings) (id : BookingId) {cell : BookingCell}
    (lock : cell.lock = .free) : (l.setBookingCell id cell).HasFreeBookings := by
  intro other member
  have member : other ∈ Numbered.set id.number cell l.bookings := member
  unfold Numbered.set at member
  split at member
  · rcases List.mem_or_eq_of_mem_set member with there | rfl
    · exact free other there
    · exact lock
  · exact free other member

/-- A row put in its own place changes nothing. -/
theorem setBookingCell_self {id : BookingId} {cell : BookingCell}
    (found : l.bookingCell? id = some cell) : Ledger.setBookingCell l id cell = l := by
  unfold Ledger.bookingCell? at found
  unfold Ledger.setBookingCell
  rw [Numbered.set_get?_self found]

/-- Whoever looks at a row that nobody holds sees it and leaves it so. -/
theorem visitBooking_eq (free : l.HasFreeBookings) (t : Ticket) (id : BookingId) :
    l.visitBooking t id = ((l.bookingCell? id).map (·.row), l) := by
  unfold Ledger.visitBooking
  cases found : l.bookingCell? id with
  | none => rfl
  | some cell =>
      have seen : cell.lock.visit t = (true, cell.lock) := by
        rw [free.lock found]
        rfl
      simp only [seen, if_true, Option.map_some]
      rw [setBookingCell_self found]

theorem leaveBooking_eq (free : l.HasFreeBookings) (t : Ticket) (id : BookingId) :
    l.leaveBooking t id = l := by
  unfold Ledger.leaveBooking
  cases found : l.bookingCell? id with
  | none => rfl
  | some cell =>
      have same : cell.lock.without t = cell.lock := by
        rw [free.lock found]
        rfl
      simp only [same]
      exact setBookingCell_self found

/-- A removal does not wait for bookings. -/
theorem stepRemoval_eq (free : l.HasFreeBookings) {id : EventId} {cell : EventCell} {b : BookingId}
    {rest : List BookingId}
    (held : l.transactionOf? t id = some (cell, .removal (b :: rest))) :
    l.stepRemoval t id =
      if (l.bookingCell? b).any (·.row.eventId = id) then
        some (.finished (.error (.eventInUse id)), l.setEventCell id (cell.closed cell.row))
      else some (.unfinished, l.setEventCell id { cell with transaction := some (.removal rest) }) := by
  simp only [Ledger.stepRemoval, held]
  cases found : l.bookingCell? b with
  | none => rfl
  | some booking =>
      have seen : booking.lock.visit t = (true, booking.lock) := by
        rw [free.lock found]
        rfl
      have same (cell : EventCell) :
          Ledger.setBookingCell (l.setEventCell id cell) b booking = l.setEventCell id cell :=
        setBookingCell_self found
      simp only [seen, Bool.true_eq_false, if_false, Option.any_some, decide_eq_true_eq, same]

theorem visitBooking (free : l.HasFreeBookings) (id : BookingId) :
    (l.visitBooking t id).2.HasFreeBookings := by
  rw [free.visitBooking_eq]
  exact free

theorem leaveBooking (free : l.HasFreeBookings) (id : BookingId) :
    (l.leaveBooking t id).HasFreeBookings := by
  rw [free.leaveBooking_eq]
  exact free

theorem settle (free : l.HasFreeBookings) {d : Payment.Draft} {payment : Payment}
    (settled : l.settle d now = .ok (payment, l')) : l'.HasFreeBookings := by
  unfold Ledger.settle at settled
  split at settled
  · cases settled
  · rename_i cell found
    split at settled
    · cases settled
    · split at settled <;> cases settled
      have lock := free.lock found
      refine HasFreeBookings.congr (l := l.setBookingCell d.bookingId
        { cell with row := { cell.row with status := d.status.settles } }) ?_ rfl
      exact free.setBookingCell d.bookingId lock

theorem openTransaction (free : l.HasFreeBookings) {id : EventId}
    {transaction : EventRow → Except Error Transaction}
    (opened : l.openTransaction t id transaction = .ok l') : l'.HasFreeBookings := by
  unfold Ledger.openTransaction at opened
  split at opened
  · cases opened
  · rename_i cell _
    split at opened
    · cases opened
    · cases begun : transaction cell.row <;> rw [begun] at opened <;> cases opened
      exact free

theorem commitBooking (free : l.HasFreeBookings) {id : EventId}
    {result : Except Error Booking.Receipt}
    (committed : l.commitBooking t id now = some (result, l')) : l'.HasFreeBookings := by
  unfold Ledger.commitBooking at committed
  split at committed
  · split at committed <;> cases committed
    · exact free
    · intro cell member
      rcases List.mem_append.mp member with there | new
      · exact free cell there
      · rw [List.mem_singleton.mp new]
  · cases committed

theorem stepRemoval (free : l.HasFreeBookings) {id : EventId} {step : RemovalStep}
    (stepped : l.stepRemoval t id = some (step, l')) : l'.HasFreeBookings := by
  cases held : l.transactionOf? t id with
  | none => simp [Ledger.stepRemoval, held] at stepped
  | some open_ =>
      obtain ⟨cell, tr⟩ := open_
      cases tr with
      | booking r => simp [Ledger.stepRemoval, held] at stepped
      | removal unchecked =>
          cases unchecked with
          | nil =>
              simp only [Ledger.stepRemoval, held, Option.some.injEq, Prod.mk.injEq] at stepped
              obtain ⟨-, rfl⟩ := stepped
              exact free
          | cons b rest =>
              rw [free.stepRemoval_eq held] at stepped
              split at stepped <;> cases stepped <;> exact free

theorem visitEvent (free : l.HasFreeBookings) (id : EventId) :
    (l.visitEvent t id).2.HasFreeBookings := by
  unfold Ledger.visitEvent
  split <;> exact free

theorem leaveEvent (free : l.HasFreeBookings) (id : EventId) :
    (l.leaveEvent t id).HasFreeBookings := by
  unfold Ledger.leaveEvent
  split <;> exact free

/-! ### Calls -/

variable {k : Call.Kind}

theorem start (free : l.HasFreeBookings) (order : List BookingId → List BookingId) (call : Call k) :
    (l.start t order now call).2.HasFreeBookings := by
  cases call with
  | register d => exact free
  | revise id r =>
      simp only [Ledger.start]
      split <;> rename_i revised
      · exact free
      · unfold Ledger.revise at revised
        split at revised
        · cases revised
        · split at revised
          · cases revised
          · split at revised <;> cases revised
            exact free
  | remove id =>
      simp only [Ledger.start]
      split <;> rename_i opened
      · exact free
      · exact free.openTransaction opened
  | book r =>
      simp only [Ledger.start]
      split <;> rename_i opened
      · exact free
      · exact free.openTransaction opened
  | findEvent id =>
      simp only [Ledger.start]
      split <;> exact free
  | findBooking publicId => exact free
  | settle d =>
      simp only [Ledger.start]
      split <;> rename_i settled
      · exact free
      · exact free.settle settled

theorem resume (free : l.HasFreeBookings) (stage : Stage k) :
    (l.resume t now stage).2.HasFreeBookings := by
  cases stage with
  | removing id =>
      simp only [Ledger.resume]
      split <;> rename_i stepped
      · exact free.stepRemoval stepped
      · exact free.stepRemoval stepped
      · exact free
  | booking id =>
      simp only [Ledger.resume]
      split <;> rename_i committed
      · exact free.commitBooking committed
      · exact free
  | reading id =>
      have visited := free.visitEvent (t := t) id
      simp only [Ledger.resume]
      split <;> rename_i result <;> rw [result] at visited <;> exact visited
  | scanning wanted rest =>
      cases rest with
      | nil => exact free
      | cons b rest =>
          have visited := free.visitBooking (t := t) b
          simp only [Ledger.resume]
          split <;> rename_i result <;> rw [result] at visited
          · split <;> exact visited
          · exact visited

/-- A removal that is given up gives up the event's row. -/
theorem abandon_removing (free : l.HasFreeBookings) (t : Ticket) (id : EventId) :
    l.abandon t (.removing id) = l.leaveEvent t id := by
  simp only [Ledger.abandon]
  split
  · rw [free.leaveBooking_eq]
  · rfl

/-- A look-up of a booking that is given up leaves nothing. -/
theorem abandon_scanning (free : l.HasFreeBookings) (t : Ticket) (wanted : PublicId)
    (rest : List BookingId) : l.abandon t (.scanning wanted rest) = l := by
  cases rest with
  | nil => rfl
  | cons b rest => exact free.leaveBooking_eq t b

theorem abandon (free : l.HasFreeBookings) (stage : Stage k) :
    (l.abandon t stage).HasFreeBookings := by
  cases stage with
  | removing id =>
      rw [free.abandon_removing]
      exact free.leaveEvent id
  | booking id => exact free.leaveEvent id
  | reading id => exact free.leaveEvent id
  | scanning wanted rest =>
      rw [free.abandon_scanning]
      exact free

/-- Whoever leaves a row leaves the bookings free. -/
theorem left (free : l.HasFreeBookings) (key : Office.RowKey) :
    (l.left t key).HasFreeBookings := by
  cases key with
  | event id => exact free.leaveEvent id
  | booking id => exact free.leaveBooking id

end HasFreeBookings

end BoxOffice.Ledger
