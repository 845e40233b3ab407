import BoxOffice.Proofs.Ledger.Steps

/-!
# Whom an open transaction belongs to

The row of an event carries what the holder of its lock has left to do.
`Custody` says whose business that is: a transaction is open only on an event
that is not removed, the holder of the lock is a call that is not over, and the
transaction is the rest of that very call. What the call checked before it
locked the row still holds: enough seats are left for an open booking, and an
open removal has still to look at every booking of the event.

Nothing is said about rows that are held without a transaction, so everybody
may take such a row, let it go or wait for it. Custody is therefore kept by a
change of a lock when the holder of a transaction stays the holder, and by a
change among the calls when the one that changes has no transaction open.
-/

namespace BoxOffice.Ledger

/-! ### Locks -/

namespace Lock

variable {lock : Lock} {t u : Ticket}

theorem not_isFree (held : lock.holder = some t) : lock.isFree = false := by
  simp [isFree, held]

@[simp]
theorem holder_queuedBy : (lock.queuedBy t).holder = lock.holder := by
  unfold queuedBy
  split <;> rfl

/-- Whoever looks leaves the lock with another who holds it. -/
theorem holder_visit (held : lock.holder = some t) (other : t ≠ u) :
    (lock.visit u).2.holder = some t := by
  simp [visit, held, other, not_isFree held]

/-- Whoever asks leaves the lock with another who holds it. -/
theorem holder_acquire (held : lock.holder = some t) (other : t ≠ u) :
    (lock.acquire u).2.holder = some t := by
  simp [acquire, held, other, not_isFree held]

/-- Whoever goes leaves the lock with another who holds it. -/
theorem holder_without (held : lock.holder = some t) (other : t ≠ u) :
    (lock.without u).holder = some t := by
  simp [without, held, other]

end Lock

/-! ### Custody -/

/-- The event whose row a call keeps locked between its steps. -/
def Pending.keeps? : Pending → Option EventId
  | ⟨_, .removing id, _⟩ => some id
  | ⟨_, .booking id, _⟩ => some id
  | _ => none

/-- A transaction on an event is the rest of a call, and what that call checked
of the event's row and of the bookings still holds. -/
inductive OwnedBy (l : Ledger) (id : EventId) (row : EventRow) : Transaction → Pending → Prop
  /-- A booking for which enough seats are left. -/
  | booking {r : Booking.Request} {began : Nat} (same : r.eventId = id)
      (enough : r.seats ≤ row.availableSeats) :
      OwnedBy l id row (.booking r) ⟨.book r, .booking id, began⟩
  /-- A removal that has still to look at every booking of the event. -/
  | removal {unchecked : List BookingId} {began : Nat}
      (ahead : ∀ b cell, l.bookingCell? b = some cell → cell.row.eventId = id → b ∈ unchecked) :
      OwnedBy l id row (.removal unchecked) ⟨.remove id, .removing id, began⟩

/-- The transaction on an event that is not removed is the rest of the call that
holds the event's row. -/
structure Guarded (l : Ledger) (calls : Ticket → Option Pending) (id : EventId) (cell : EventCell)
    (tr : Transaction) : Prop where
  present : cell.present = true
  owner : ∃ t p, cell.lock.holder = some t ∧ calls t = some p ∧ OwnedBy l id cell.row tr p

/-- Every open transaction is the rest of a call. -/
def Custody (l : Ledger) (calls : Ticket → Option Pending) : Prop :=
  ∀ id cell tr, l.eventCell? id = some cell → cell.transaction = some tr →
    Guarded l calls id cell tr

/-- A ticket has no transaction open. -/
def HasNone (l : Ledger) (t : Ticket) : Prop :=
  ∀ id cell, l.eventCell? id = some cell → cell.lock.holder = some t → cell.transaction = none

variable {l l' : Ledger} {calls calls' : Ticket → Option Pending} {t : Ticket}

theorem OwnedBy.keeps {id : EventId} {row : EventRow} {tr : Transaction} {p : Pending}
    (owned : OwnedBy l id row tr p) : p.keeps? = some id := by
  cases owned <;> rfl

/-- A call keeps one row at most. -/
theorem keeps_unique {p : Pending} {id : EventId} (pending : calls t = some p)
    (keeps : p.keeps? = some id) :
    ∀ p' id', calls t = some p' → p'.keeps? = some id' → id' = id := by
  intro p' id' pending' keeps'
  cases pending.symm.trans pending'
  exact Option.some.inj (keeps'.symm.trans keeps)

/-- Who owns a transaction is not changed by a change that neither takes seats
of the event nor adds bookings of it. -/
theorem OwnedBy.mono {id : EventId} {row row' : EventRow} {tr : Transaction} {p : Pending}
    (owned : OwnedBy l id row tr p) (seats : row.availableSeats ≤ row'.availableSeats)
    (bookings : ∀ b cell, l'.bookingCell? b = some cell → cell.row.eventId = id →
      ∃ old, l.bookingCell? b = some old ∧ old.row.eventId = id) :
    OwnedBy l' id row' tr p := by
  cases owned with
  | booking same enough => exact .booking same (Nat.le_trans enough seats)
  | removal ahead =>
      refine .removal fun b cell found uses => ?_
      obtain ⟨old, before, used⟩ := bookings b cell found uses
      exact ahead b old before used

namespace Custody

/-- The holder of a row with a transaction keeps that row. -/
theorem keeps_of_holder (kept : Custody l calls) {id : EventId} {cell : EventCell}
    {tr : Transaction} (found : l.eventCell? id = some cell) (open_ : cell.transaction = some tr)
    (held : cell.lock.holder = some t) :
    ∃ p, calls t = some p ∧ OwnedBy l id cell.row tr p ∧ p.keeps? = some id := by
  obtain ⟨u, p, holds, pending, owned⟩ := (kept id cell tr found open_).owner
  obtain rfl : u = t := Option.some.inj (holds.symm.trans held)
  exact ⟨p, pending, owned, owned.keeps⟩

/-- An open booking is for the event whose row is locked for it. -/
theorem eventId_eq (kept : Custody l calls) {id : EventId} {cell : EventCell}
    {r : Booking.Request} (held : l.transactionOf? t id = some (cell, .booking r)) :
    r.eventId = id := by
  obtain ⟨found, -, open_⟩ := transactionOf?_eq_some.mp held
  obtain ⟨-, _, _, -, -, owned⟩ := kept id cell _ found open_
  cases owned
  assumption

/-- A call that keeps no row has no transaction open. -/
theorem hasNone (kept : Custody l calls) (keeps : ∀ p, calls t = some p → p.keeps? = none) :
    HasNone l t := by
  intro id cell found held
  cases open_ : cell.transaction with
  | none => rfl
  | some tr =>
      obtain ⟨p, pending, -, keeps'⟩ := kept.keeps_of_holder found open_ held
      rw [keeps p pending] at keeps'
      cases keeps'

theorem hasNone_of_pending (kept : Custody l calls) {p : Pending} (pending : calls t = some p)
    (keeps : p.keeps? = none) : HasNone l t :=
  kept.hasNone fun p' pending' => by
    cases pending.symm.trans pending'
    exact keeps

/-- A row that nobody holds has no transaction. -/
theorem closed_of_free (kept : Custody l calls) {id : EventId} {cell : EventCell}
    (found : l.eventCell? id = some cell) (free : cell.lock.isFree = true) :
    cell.transaction = none := by
  cases open_ : cell.transaction with
  | none => rfl
  | some tr =>
      obtain ⟨t, _, held, -⟩ := (kept id cell tr found open_).owner
      rw [Lock.not_isFree held] at free
      cases free

/-- The calls of a ticket without transactions do not matter. -/
theorem elsewhere (kept : Custody l calls) (none_ : HasNone l t)
    (others : ∀ u, u ≠ t → calls' u = calls u) : Custody l calls' := by
  intro id cell tr found open_
  obtain ⟨present, u, p, held, pending, owned⟩ := kept id cell tr found open_
  refine ⟨present, u, p, held, ?_, owned⟩
  rw [others u, pending]
  rintro rfl
  rw [none_ id cell found held] at open_
  cases open_

/-! ### Changed cells -/

/-- Only the cells of events and bookings matter. -/
theorem of_cells (kept : Custody l calls) (events : l'.events = l.events)
    (bookings : l'.bookings = l.bookings) : Custody l' calls := by
  have same_event (id : EventId) : l'.eventCell? id = l.eventCell? id := by
    simp only [eventCell?, events]
  have same_booking (id : BookingId) : l'.bookingCell? id = l.bookingCell? id := by
    simp only [bookingCell?, bookings]
  intro id cell tr found open_
  rw [same_event] at found
  obtain ⟨present, t, p, held, pending, owned⟩ := kept id cell tr found open_
  refine ⟨present, t, p, held, pending, owned.mono (Nat.le_refl _) fun b cell at_ uses => ?_⟩
  rw [same_booking] at at_
  exact ⟨cell, at_, uses⟩

theorem setEvent (kept : Custody l calls) {id : EventId} {old cell : EventCell}
    (found : l.eventCell? id = some old)
    (guarded : ∀ tr, cell.transaction = some tr → Guarded l calls id cell tr) :
    Custody (l.setEventCell id cell) calls := by
  intro id' cell' tr found' open_
  rw [eventCell?_setEventCell found] at found'
  split at found'
  · rename_i same
    subst same
    cases found'
    obtain ⟨present, t, p, held, pending, owned⟩ := guarded tr open_
    exact ⟨present, t, p, held, pending, owned.mono (Nat.le_refl _) fun b cell at_ uses =>
      ⟨cell, at_, uses⟩⟩
  · obtain ⟨present, t, p, held, pending, owned⟩ := kept id' cell' tr found' open_
    exact ⟨present, t, p, held, pending, owned.mono (Nat.le_refl _) fun b cell at_ uses =>
      ⟨cell, at_, uses⟩⟩

/-- The row is let go, and its transaction is over. -/
theorem close (kept : Custody l calls) {id : EventId} {old cell : EventCell}
    (found : l.eventCell? id = some old) (closed : cell.transaction = none) :
    Custody (l.setEventCell id cell) calls :=
  kept.setEvent found fun tr open_ => by
    rw [closed] at open_
    cases open_

/-- Whoever has no transaction may do to a lock what leaves it with another who
holds it. -/
theorem relock (kept : Custody l calls) (none_ : HasNone l t) {id : EventId} {cell : EventCell}
    {lock : Lock} (found : l.eventCell? id = some cell)
    (held : ∀ u, cell.lock.holder = some u → u ≠ t → lock.holder = some u) :
    Custody (l.setEventCell id { cell with lock := lock }) calls := by
  refine kept.setEvent found fun tr open_ => ?_
  obtain ⟨present, u, p, holds, pending, owned⟩ := kept id cell tr found open_
  refine ⟨present, u, p, held u holds ?_, pending, owned⟩
  rintro rfl
  cases (none_ id cell found holds).symm.trans open_

theorem setBooking (kept : Custody l calls) {id : BookingId} {old cell : BookingCell}
    (found : l.bookingCell? id = some old) (same : cell.row.eventId = old.row.eventId) :
    Custody (l.setBookingCell id cell) calls := by
  intro id' cell' tr found' open_
  obtain ⟨present, t, p, held, pending, owned⟩ := kept id' cell' tr found' open_
  refine ⟨present, t, p, held, pending, owned.mono (Nat.le_refl _) fun b now at_ uses => ?_⟩
  rw [bookingCell?_setBookingCell found] at at_
  split at at_
  · rename_i own
    subst own
    cases at_
    exact ⟨old, found, same.symm.trans uses⟩
  · exact ⟨now, at_, uses⟩

/-- A booking is added to an event that has no transaction. -/
theorem store (kept : Custody l calls) {booking : BookingCell}
    (closed : ∀ cell, l.eventCell? booking.row.eventId = some cell → cell.transaction = none) :
    Custody { l with bookings := l.bookings ++ [booking] } calls := by
  intro id cell tr found open_
  obtain ⟨present, t, p, held, pending, owned⟩ := kept id cell tr found open_
  refine ⟨present, t, p, held, pending, owned.mono (Nat.le_refl _) fun b now at_ uses => ?_⟩
  unfold bookingCell? at at_
  rw [Numbered.get?_append] at at_
  split at at_
  · cases at_
    rw [closed cell (uses ▸ found)] at open_
    cases open_
  · exact ⟨now, at_, uses⟩

theorem register (kept : Custody l calls) (d : EventDraft) :
    Custody (l.register d).2 calls := by
  intro id cell tr found open_
  unfold Ledger.register eventCell? at found
  simp only [Numbered.get?_append] at found
  split at found
  · cases found
    cases open_
  · obtain ⟨present, t, p, held, pending, owned⟩ := kept id cell tr found open_
    exact ⟨present, t, p, held, pending, owned.mono (Nat.le_refl _) fun b cell at_ uses =>
      ⟨cell, at_, uses⟩⟩

/-! ### Rows that are given up or asked for -/

/-- A call that lets the one row go that it keeps has no transaction left. -/
theorem hasNone_of_closed (kept : Custody l calls) {id : EventId} {old cell : EventCell}
    (found : l.eventCell? id = some old)
    (keeps : ∀ p id', calls t = some p → p.keeps? = some id' → id' = id)
    (closed : cell.lock.holder = some t → cell.transaction = none) :
    HasNone (l.setEventCell id cell) t := by
  intro id' cell' found' held
  rw [eventCell?_setEventCell found] at found'
  split at found'
  · cases found'
    exact closed held
  · rename_i other
    cases open_ : cell'.transaction with
    | none => rfl
    | some tr =>
        obtain ⟨p, pending, -, keeps'⟩ := kept.keeps_of_holder found' open_ held
        exact absurd (keeps p id' pending keeps') other

theorem leaveEvent (kept : Custody l calls) (t : Ticket) (id : EventId) :
    Custody (l.leaveEvent t id) calls := by
  unfold Ledger.leaveEvent
  split
  · exact kept
  · rename_i cell found
    refine kept.setEvent found fun tr open_ => ?_
    by_cases own : cell.lock.holder = some t
    · simp [own] at open_
    · simp only [own, if_false] at open_
      obtain ⟨present, u, p, held, pending, owned⟩ := kept id cell tr found open_
      refine ⟨present, u, p, Lock.holder_without held ?_, pending, owned⟩
      rintro rfl
      exact own held

theorem hasNone_leaveEvent (kept : Custody l calls) {id : EventId}
    (keeps : ∀ p id', calls t = some p → p.keeps? = some id' → id' = id) :
    HasNone (l.leaveEvent t id) t := by
  unfold Ledger.leaveEvent
  split
  · rename_i absent
    intro id' cell found held
    cases open_ : cell.transaction with
    | none => rfl
    | some tr =>
        obtain ⟨p, pending, -, keeps'⟩ := kept.keeps_of_holder found open_ held
        rw [keeps p id' pending keeps', absent] at found
        cases found
  · rename_i cell found
    refine kept.hasNone_of_closed found keeps fun held => ?_
    by_cases own : cell.lock.holder = some t
    · simp [own]
    · -- Another holds the row, and still does.
      simp only [own, if_false]
      cases open_ : cell.transaction with
      | none => rfl
      | some tr =>
          obtain ⟨_, u, p, holds, -⟩ := kept id cell tr found open_
          have other : u ≠ t := fun same => own (same ▸ holds)
          cases other (Option.some.inj ((Lock.holder_without holds other).symm.trans held))

theorem leaveBooking (kept : Custody l calls) (t : Ticket) (id : BookingId) :
    Custody (l.leaveBooking t id) calls := by
  unfold Ledger.leaveBooking
  split
  · exact kept
  · rename_i cell found
    exact kept.setBooking found rfl

theorem asked (kept : Custody l calls) (none_ : HasNone l t) (key : Office.RowKey) :
    Custody (l.asked t key) calls := by
  cases key with
  | event id =>
      simp only [Ledger.asked, acquireEvent]
      split
      · exact kept
      · rename_i cell found
        exact kept.relock none_ found fun u held other => Lock.holder_acquire held other
  | booking id =>
      simp only [Ledger.asked, acquireBooking]
      split
      · exact kept
      · rename_i cell found
        exact kept.setBooking found rfl

theorem left (kept : Custody l calls) (t : Ticket) (key : Office.RowKey) :
    Custody (l.left t key) calls := by
  cases key with
  | event id => exact kept.leaveEvent t id
  | booking id => exact kept.leaveBooking t id

/-! ### Steps of calls -/

open Traffic (callsAfter callsAfter_of_ne callsAfter_same)

/-- The first step of a call keeps custody: a transaction that it opens is the
rest of the call. -/
theorem started (kept : Custody l calls) {order : List BookingId} {now : Timestamp} {k : Call.Kind}
    {call : Call k} {result : Progress k × Ledger} (step : Started l t order now call result)
    (fresh : calls t = none) (all : ∀ b cell, l.bookingCell? b = some cell → b ∈ order)
    (began : Nat) : Custody result.2 (callsAfter calls t call began result.1) := by
  have none_ : HasNone l t := kept.hasNone fun p pending => by
    rw [fresh] at pending
    cases pending
  have kept' (progress : Progress k) : Custody l (callsAfter calls t call began progress) :=
    kept.elsewhere none_ fun u other => callsAfter_of_ne other
  cases step with
  | registered d => exact (kept' _).register d
  | answered outcome => exact kept' _
  | passing => exact kept' _
  | revised found free fits =>
      obtain ⟨found, -⟩ := presentCell?_eq_some.mp found
      have closed := kept.closed_of_free found free
      exact (kept' _).close found closed
  | @removing id cell found free =>
      obtain ⟨found, present⟩ := presentCell?_eq_some.mp found
      refine (kept' _).setEvent found fun tr open_ => ?_
      cases open_
      exact ⟨present, t, _, rfl, if_pos rfl, .removal fun b cell at_ _ => all b cell at_⟩
  | @booking r cell found free enough =>
      obtain ⟨found, present⟩ := presentCell?_eq_some.mp found
      refine (kept' _).setEvent found fun tr open_ => ?_
      cases open_
      exact ⟨present, t, _, rfl, if_pos rfl, .booking rfl enough⟩
  | reading found => exact kept' _
  | scanning => exact kept' _
  | settled found _ _ =>
      refine of_cells ((kept' _).setBooking found ?_) rfl rfl
      rfl

section Further

variable {now : Timestamp} {began : Nat}

/-- A removal has one booking less to look at, which is not for its event. -/
theorem looksOn (kept : Custody l calls) {id : EventId} {cell : EventCell} {b : BookingId}
    {rest : List BookingId} (held : l.transactionOf? t id = some (cell, .removal (b :: rest)))
    (other : ∀ booking, l.bookingCell? b = some booking → booking.row.eventId ≠ id) :
    Custody (l.setEventCell id { cell with transaction := some (.removal rest) }) calls := by
  obtain ⟨found, -, open_⟩ := transactionOf?_eq_some.mp held
  obtain ⟨present, u, p, holds, pending, owned⟩ := kept id cell _ found open_
  refine kept.setEvent found fun tr open_ => ?_
  cases open_
  refine ⟨present, u, p, holds, pending, ?_⟩
  cases owned with
  | removal ahead =>
      refine .removal fun b' booking at_ uses => ?_
      rcases List.mem_cons.mp (ahead b' booking at_ uses) with rfl | later
      · exact absurd uses (other booking at_)
      · exact later

theorem resumed_removing (kept : Custody l calls) {call : Call .row} {id : EventId}
    {result : Progress .row × Ledger} (step : Resumed l t now (.removing id) result)
    (pending : calls t = some ⟨call, .removing id, began⟩) :
    Custody result.2 (callsAfter calls t call began result.1) := by
  have only := keeps_unique pending rfl
  cases step with
  | idle => rwa [callsAfter_same pending]
  | unknown held absent =>
      rw [callsAfter_same pending]
      refine kept.looksOn held fun booking found => ?_
      cases absent.symm.trans found
  | waiting held found =>
      rw [callsAfter_same pending]
      exact kept.setBooking found rfl
  | @inUse _ cell b rest booking held found uses =>
      obtain ⟨at_, -, -⟩ := transactionOf?_eq_some.mp held
      have closed : Custody (l.setEventCell id (cell.closed cell.row)) calls := kept.close at_ rfl
      refine elsewhere (closed.setBooking found rfl) ?_ fun u other => callsAfter_of_ne other
      exact kept.hasNone_of_closed at_ only fun _ => rfl
  | passed held found other =>
      rw [callsAfter_same pending]
      refine setBooking (kept.looksOn held fun booking at_ => ?_) found rfl
      cases found.symm.trans at_
      exact other
  | removed held =>
      obtain ⟨at_, -, -⟩ := transactionOf?_eq_some.mp held
      refine elsewhere (kept.close at_ rfl) ?_ fun u other => callsAfter_of_ne other
      exact kept.hasNone_of_closed at_ only fun _ => rfl

theorem resumed_booking (kept : Custody l calls) {call : Call .receipt} {id : EventId}
    {result : Progress .receipt × Ledger} (step : Resumed l t now (.booking id) result)
    (pending : calls t = some ⟨call, .booking id, began⟩) :
    Custody result.2 (callsAfter calls t call began result.1) := by
  have only := keeps_unique pending rfl
  cases step with
  | idle => rwa [callsAfter_same pending]
  | @failed _ cell r held =>
      obtain ⟨at_, -, -⟩ := transactionOf?_eq_some.mp held
      have closed : Custody (l.setEventCell id (cell.closed cell.row)) calls := kept.close at_ rfl
      have closed : Custody { l.setEventCell id (cell.closed cell.row) with failNextInsert := false }
          calls := closed.of_cells rfl rfl
      refine elsewhere closed ?_ fun u other => callsAfter_of_ne other
      exact kept.hasNone_of_closed at_ only fun _ => rfl
  | @committed _ cell r held =>
      obtain ⟨at_, -, -⟩ := transactionOf?_eq_some.mp held
      have same := kept.eventId_eq held
      have closed : Custody (l.setEventCell id (cell.closed (cell.row.withSeatsTaken r.seats)))
          calls := kept.close at_ rfl
      refine elsewhere (closed.store fun now found => ?_) ?_ fun u other => callsAfter_of_ne other
      · have found : (l.setEventCell id (cell.closed (cell.row.withSeatsTaken r.seats))).eventCell?
            r.eventId = some now := found
        rw [eventCell?_setEventCell at_, if_pos same] at found
        cases found
        rfl
      · exact kept.hasNone_of_closed at_ only fun _ => rfl

theorem resumed_reading (kept : Custody l calls) {call : Call .event} {id : EventId}
    {result : Progress .event × Ledger} (step : Resumed l t now (.reading id) result)
    (pending : calls t = some ⟨call, .reading id, began⟩) :
    Custody result.2 (callsAfter calls t call began result.1) := by
  have none_ := kept.hasNone_of_pending pending rfl
  cases step with
  | idle => rwa [callsAfter_same pending]
  | read found =>
      have relocked := kept.relock none_ found fun u held other => Lock.holder_visit held other
      exact relocked.elsewhere (relocked.hasNone_of_pending pending rfl)
        fun u other => callsAfter_of_ne other
  | unread found =>
      rw [callsAfter_same pending]
      exact kept.relock none_ found fun u held other => Lock.holder_visit held other

theorem resumed_scanning (kept : Custody l calls) {call : Call .booking} {wanted : PublicId}
    {rest : List BookingId} {result : Progress .booking × Ledger}
    (step : Resumed l t now (.scanning wanted rest) result)
    (pending : calls t = some ⟨call, .scanning wanted rest, began⟩) :
    Custody result.2 (callsAfter calls t call began result.1) := by
  have none_ := kept.hasNone_of_pending pending rfl
  cases step with
  | idle => rwa [callsAfter_same pending]
  | exhausted => exact kept.elsewhere none_ fun u other => callsAfter_of_ne other
  | met found same =>
      exact elsewhere (kept.setBooking found rfl) none_ fun u other => callsAfter_of_ne other
  | skipped found other =>
      exact elsewhere (kept.setBooking found rfl) none_ fun u other => callsAfter_of_ne other
  | unseen found =>
      rw [callsAfter_same pending]
      exact kept.setBooking found rfl

end Further

/-- A further step of a call keeps custody: it works off its own transaction, and
what it does to the rows of others leaves theirs open. -/
theorem resumed (kept : Custody l calls) {now : Timestamp} {k : Call.Kind} {call : Call k}
    {stage : Stage k} {began : Nat} {result : Progress k × Ledger}
    (step : Resumed l t now stage result) (pending : calls t = some ⟨call, stage, began⟩) :
    Custody result.2 (callsAfter calls t call began result.1) := by
  cases stage with
  | removing id => exact kept.resumed_removing step pending
  | booking id => exact kept.resumed_booking step pending
  | reading id => exact kept.resumed_reading step pending
  | scanning wanted rest => exact kept.resumed_scanning step pending

/-- A call that is given up leaves no transaction open. -/
theorem abandoned (kept : Custody l calls) {p : Pending} (pending : calls t = some p)
    (gone : ∀ u, u ≠ t → calls' u = calls u) : Custody (l.abandon t p.stage) calls' := by
  obtain ⟨call, stage, began⟩ := p
  cases stage with
  | removing id =>
      simp only [abandon]
      split
      · rename_i b rest _
        have left_ := kept.leaveBooking t b
        have none_ := left_.hasNone_leaveEvent (keeps_unique pending rfl)
        exact elsewhere (left_.leaveEvent t id) none_ gone
      · have none_ := kept.hasNone_leaveEvent (keeps_unique pending rfl)
        exact elsewhere (kept.leaveEvent t id) none_ gone
  | booking id =>
      have none_ := kept.hasNone_leaveEvent (keeps_unique pending rfl)
      exact elsewhere (kept.leaveEvent t id) none_ gone
  | reading id =>
      have left_ := kept.leaveEvent t id
      exact left_.elsewhere (left_.hasNone_of_pending pending rfl) gone
  | scanning wanted rest =>
      cases rest with
      | nil => exact kept.elsewhere (kept.hasNone_of_pending pending rfl) gone
      | cons b rest =>
          have left_ := kept.leaveBooking t b
          exact left_.elsewhere (left_.hasNone_of_pending pending rfl) gone

end Custody

end BoxOffice.Ledger
