import BoxOffice.Proofs.Ledger.Steps
import Mathlib.Data.List.Basic

/-!
# A ledger under a veil

The veil hides what settlements do: the statuses of bookings and all payments. Under
it, callers may go by other tickets. Every operation but a settlement does the same to
a ledger under the veil as to the ledger itself, and a settlement does nothing there.
So two ledgers that look the same under their veils go on to look the same, whatever is
settled in them.
-/

namespace BoxOffice

/-- A booking without what has become of it. -/
def Booking.veiled (b : Booking) : Booking := { b with status := .pending }

namespace Ledger

variable {ρ : Ticket → Ticket} {t : Ticket}

/-! ### Locks -/

namespace Lock

/-- A lock whose holder and waiters go by other tickets. -/
def renamed (ρ : Ticket → Ticket) (lock : Lock) : Lock := ⟨lock.holder.map ρ, lock.waiting.map ρ⟩

variable {lock : Lock}

@[simp]
theorem isFree_renamed (ρ : Ticket → Ticket) (lock : Lock) :
    (lock.renamed ρ).isFree = lock.isFree := by
  simp [isFree, renamed]

theorem holder_renamed (inj : Function.Injective ρ) :
    (lock.renamed ρ).holder = some (ρ t) ↔ lock.holder = some t := by
  unfold renamed
  cases lock.holder with
  | none => simp
  | some u => simp [inj.eq_iff]

theorem mem_waiting_renamed (inj : Function.Injective ρ) :
    ρ t ∈ (lock.renamed ρ).waiting ↔ t ∈ lock.waiting :=
  List.mem_map_of_injective inj

theorem released_renamed (ρ : Ticket → Ticket) (lock : Lock) :
    (lock.renamed ρ).released = lock.released.renamed ρ := by
  obtain ⟨holder, waiting⟩ := lock
  cases waiting <;> rfl

theorem queuedBy_renamed (inj : Function.Injective ρ) :
    (lock.renamed ρ).queuedBy (ρ t) = (lock.queuedBy t).renamed ρ := by
  unfold queuedBy
  simp only [mem_waiting_renamed inj]
  split
  · rfl
  · simp [renamed]

theorem without_renamed (inj : Function.Injective ρ) :
    (lock.renamed ρ).without (ρ t) = (lock.without t).renamed ρ := by
  unfold without
  simp only [holder_renamed inj]
  split
  · exact released_renamed ρ lock
  · simp [renamed, List.map_erase inj]

theorem acquire_renamed (inj : Function.Injective ρ) :
    (lock.renamed ρ).acquire (ρ t) = ((lock.acquire t).1, (lock.acquire t).2.renamed ρ) := by
  unfold acquire
  simp only [holder_renamed inj, isFree_renamed, queuedBy_renamed inj]
  split
  · rfl
  · split <;> rfl

theorem visit_renamed (inj : Function.Injective ρ) :
    (lock.renamed ρ).visit (ρ t) = ((lock.visit t).1, (lock.visit t).2.renamed ρ) := by
  unfold visit
  simp only [holder_renamed inj, isFree_renamed, queuedBy_renamed inj, released_renamed]
  split
  · rfl
  · split <;> rfl

theorem letsOn_renamed (inj : Function.Injective ρ) :
    (lock.renamed ρ).letsOn (ρ t) = lock.letsOn t := by
  unfold letsOn
  simp only [holder_renamed inj, isFree_renamed, List.contains_eq_mem, mem_waiting_renamed inj]

end Lock

/-! ### Cells -/

def EventCell.renamed (ρ : Ticket → Ticket) (cell : EventCell) : EventCell :=
  { cell with lock := cell.lock.renamed ρ }

theorem EventCell.closed_renamed (ρ : Ticket → Ticket) (cell : EventCell) (row : EventRow) :
    (cell.renamed ρ).closed row = (cell.closed row).renamed ρ := by
  simp [EventCell.closed, EventCell.renamed, Lock.released_renamed]

def BookingCell.veiled (ρ : Ticket → Ticket) (cell : BookingCell) : BookingCell :=
  ⟨cell.row.veiled, cell.lock.renamed ρ⟩

/-- The ledger under the veil. -/
def veiled (ρ : Ticket → Ticket) (l : Ledger) : Ledger :=
  { l with
    events := l.events.map (·.renamed ρ)
    bookings := l.bookings.map (·.veiled ρ)
    payments := [] }

/-- What is seen of an answer. -/
def Call.Kind.veiled : {k : Call.Kind} → k.Answer → k.Answer
  | .row, x => x
  | .receipt, x => x
  | .event, x => x
  | .booking, x => x.map Booking.veiled
  | .payment, x => x

def Progress.veiled {k : Call.Kind} : Progress k → Progress k
  | .done x => .done (Call.Kind.veiled x)
  | .further stage => .further stage

/-- What is seen of a step of a call. -/
def veiledStep {k : Call.Kind} (ρ : Ticket → Ticket) (result : Progress k × Ledger) :
    Progress k × Ledger :=
  (result.1.veiled, result.2.veiled ρ)

/-- Two steps that look the same end both or go on both. -/
theorem cases_of_veiledStep {k : Call.Kind} {result result' : Progress k × Ledger}
    (same : veiledStep id result' = veiledStep ρ result) :
    (∃ x x' l l', result = (.done x, l) ∧ result' = (.done x', l') ∧
      Call.Kind.veiled x' = Call.Kind.veiled x ∧ l'.veiled id = l.veiled ρ) ∨
    ∃ stage l l', result = (.further stage, l) ∧ result' = (.further stage, l') ∧
      l'.veiled id = l.veiled ρ := by
  obtain ⟨progress, l⟩ := result
  obtain ⟨progress', l'⟩ := result'
  obtain ⟨progress_, ledger⟩ := Prod.mk.inj same
  cases progress with
  | done x =>
      cases progress' with
      | done x' => exact .inl ⟨x, x', l, l', rfl, rfl, Progress.done.inj progress_, ledger⟩
      | further stage' => cases progress_
  | further stage =>
      cases progress' with
      | done x' => cases progress_
      | further stage' =>
          obtain rfl : stage' = stage := Progress.further.inj progress_
          exact .inr ⟨stage', l, l', rfl, rfl, ledger⟩

section Cells

variable (ρ : Ticket → Ticket) (l : Ledger)

theorem eventCell?_veiled (id : EventId) :
    (l.veiled ρ).eventCell? id = (l.eventCell? id).map (·.renamed ρ) :=
  Numbered.get?_map _ _ _

theorem presentCell?_veiled (id : EventId) :
    (l.veiled ρ).presentCell? id = (l.presentCell? id).map (·.renamed ρ) := by
  simp only [presentCell?, eventCell?_veiled]
  cases l.eventCell? id with
  | none => rfl
  | some cell => cases shown : cell.present <;> simp [Option.filter, EventCell.renamed, shown]

theorem bookingCell?_veiled (id : BookingId) :
    (l.veiled ρ).bookingCell? id = (l.bookingCell? id).map (·.veiled ρ) :=
  Numbered.get?_map _ _ _

theorem setEventCell_veiled (id : EventId) (cell : EventCell) :
    (l.veiled ρ).setEventCell id (cell.renamed ρ) = (l.setEventCell id cell).veiled ρ := by
  simp only [setEventCell, veiled, Numbered.map_set]

theorem setBookingCell_veiled (id : BookingId) (cell : BookingCell) :
    (l.veiled ρ).setBookingCell id (cell.veiled ρ) = (l.setBookingCell id cell).veiled ρ := by
  simp only [setBookingCell, veiled, Numbered.map_set]

theorem events_veiled : (l.veiled ρ).books.events = l.books.events := by
  simp [books, veiled, EventCell.renamed, EventCell.shown]

theorem bookings_veiled :
    (l.veiled ρ).books.bookings = l.books.bookings.map Booking.veiled := by
  simp [books, veiled, BookingCell.veiled]

theorem bookingIds_veiled : (l.veiled ρ).bookingIds = l.bookingIds := by
  simp [bookingIds, veiled, BookingCell.veiled, Booking.veiled]

end Cells

variable {l : Ledger}

theorem transactionOf?_veiled (inj : Function.Injective ρ) (id : EventId) :
    (l.veiled ρ).transactionOf? (ρ t) id =
      (l.transactionOf? t id).map fun (cell, tr) => (cell.renamed ρ, tr) := by
  simp only [transactionOf?, eventCell?_veiled]
  cases l.eventCell? id with
  | none => rfl
  | some cell =>
      simp only [Option.map_some, EventCell.renamed, Lock.holder_renamed inj]
      split
      · rw [Option.map_map]
        rfl
      · rfl

/-! ### Waiting for rows -/

theorem visitEvent_veiled (inj : Function.Injective ρ) (id : EventId) :
    (l.veiled ρ).visitEvent (ρ t) id = ((l.visitEvent t id).1, (l.visitEvent t id).2.veiled ρ) := by
  simp only [visitEvent, eventCell?_veiled]
  cases l.eventCell? id with
  | none => rfl
  | some cell =>
      simp only [Option.map_some, EventCell.renamed, Lock.visit_renamed inj]
      rw [← setEventCell_veiled]
      rfl

theorem visitBooking_veiled (inj : Function.Injective ρ) (id : BookingId) :
    (l.veiled ρ).visitBooking (ρ t) id =
      ((l.visitBooking t id).1.map Booking.veiled, (l.visitBooking t id).2.veiled ρ) := by
  simp only [visitBooking, bookingCell?_veiled]
  cases l.bookingCell? id with
  | none => rfl
  | some cell =>
      simp only [Option.map_some, BookingCell.veiled, Lock.visit_renamed inj]
      rw [← setBookingCell_veiled]
      cases (cell.lock.visit t).1 <;> rfl

theorem acquireEvent_veiled (inj : Function.Injective ρ) (id : EventId) :
    (l.veiled ρ).acquireEvent (ρ t) id =
      ((l.acquireEvent t id).1, (l.acquireEvent t id).2.veiled ρ) := by
  simp only [acquireEvent, eventCell?_veiled]
  cases l.eventCell? id with
  | none => rfl
  | some cell =>
      simp only [Option.map_some, EventCell.renamed, Lock.acquire_renamed inj]
      rw [← setEventCell_veiled]
      rfl

theorem acquireBooking_veiled (inj : Function.Injective ρ) (id : BookingId) :
    (l.veiled ρ).acquireBooking (ρ t) id =
      ((l.acquireBooking t id).1, (l.acquireBooking t id).2.veiled ρ) := by
  simp only [acquireBooking, bookingCell?_veiled]
  cases l.bookingCell? id with
  | none => rfl
  | some cell =>
      simp only [Option.map_some, BookingCell.veiled, Lock.acquire_renamed inj]
      rw [← setBookingCell_veiled]
      rfl

theorem leaveEvent_veiled (inj : Function.Injective ρ) (id : EventId) :
    (l.veiled ρ).leaveEvent (ρ t) id = (l.leaveEvent t id).veiled ρ := by
  simp only [leaveEvent, eventCell?_veiled]
  cases l.eventCell? id with
  | none => rfl
  | some cell =>
      simp only [Option.map_some, EventCell.renamed, Lock.without_renamed inj,
        Lock.holder_renamed inj]
      rw [← setEventCell_veiled]
      rfl

theorem leaveBooking_veiled (inj : Function.Injective ρ) (id : BookingId) :
    (l.veiled ρ).leaveBooking (ρ t) id = (l.leaveBooking t id).veiled ρ := by
  simp only [leaveBooking, bookingCell?_veiled]
  cases l.bookingCell? id with
  | none => rfl
  | some cell =>
      simp only [Option.map_some, BookingCell.veiled, Lock.without_renamed inj]
      rw [← setBookingCell_veiled]
      rfl

/-! ### Operations -/

theorem register_veiled (d : EventDraft) :
    (l.veiled ρ).register d = ((l.register d).1, (l.register d).2.veiled ρ) := by
  have next : Numbered.next (l.veiled ρ).events = Numbered.next l.events :=
    Numbered.next_map _ _
  simp only [register, next]
  simp [veiled, EventCell.renamed, Lock.renamed, Lock.free]

theorem revise_veiled (id : EventId) (r : EventRevision) :
    (l.veiled ρ).revise id r = (l.revise id r).map fun (row, l) => (row, l.veiled ρ) := by
  simp only [revise, presentCell?_veiled]
  cases l.presentCell? id with
  | none => rfl
  | some cell =>
      simp only [Option.map_some, EventCell.renamed, Lock.isFree_renamed]
      split
      · rfl
      · split
        · rfl
        · simp only [Except.map]
          rw [← setEventCell_veiled]
          rfl

theorem openTransaction_veiled (id : EventId) (begins : EventRow → Except Error Transaction) :
    (l.veiled ρ).openTransaction (ρ t) id begins =
      (l.openTransaction t id begins).map (·.veiled ρ) := by
  simp only [openTransaction, presentCell?_veiled]
  cases l.presentCell? id with
  | none => rfl
  | some cell =>
      simp only [Option.map_some, EventCell.renamed, Lock.isFree_renamed]
      split
      · rfl
      · cases begins cell.row with
        | error e => rfl
        | ok tr =>
            exact congrArg Except.ok (setEventCell_veiled ρ l id
              { cell with lock := cell.lock.takenBy t, transaction := some tr })

theorem bookingOf_veiled (r : Booking.Request) (row : EventRow) (now : Timestamp) :
    (l.veiled ρ).bookingOf r row now = l.bookingOf r row now := by
  have next : Numbered.next (l.veiled ρ).bookings = Numbered.next l.bookings :=
    Numbered.next_map _ _
  simp only [bookingOf, next]

theorem commitBooking_veiled (inj : Function.Injective ρ) (id : EventId) (now : Timestamp) :
    (l.veiled ρ).commitBooking (ρ t) id now =
      (l.commitBooking t id now).map fun (result, l) => (result, l.veiled ρ) := by
  simp only [commitBooking, transactionOf?_veiled inj]
  cases l.transactionOf? t id with
  | none => rfl
  | some found =>
      obtain ⟨cell, tr⟩ := found
      cases tr with
      | removal unchecked => rfl
      | booking r =>
          have fails : (l.veiled ρ).failNextInsert = l.failNextInsert := rfl
          simp only [Option.map_some, fails, EventCell.closed_renamed, bookingOf_veiled,
            setEventCell_veiled]
          split
          · rfl
          · simp [veiled, setEventCell, BookingCell.veiled, Booking.veiled, bookingOf, Lock.renamed,
              Lock.free, EventCell.renamed]

/-- A removal that has a booking to check next. -/
theorem stepRemoval_veiled_of_unchecked (inj : Function.Injective ρ) {id : EventId}
    {cell : EventCell} {b : BookingId} {rest : List BookingId}
    (held : l.transactionOf? t id = some (cell, .removal (b :: rest))) :
    (l.veiled ρ).stepRemoval (ρ t) id =
      (l.stepRemoval t id).map fun (step, l) => (step, l.veiled ρ) := by
  simp only [stepRemoval, transactionOf?_veiled inj, held, Option.map_some, bookingCell?_veiled]
  cases l.bookingCell? b with
  | none =>
      simp only [Option.map_some, Option.map_none]
      rw [← setEventCell_veiled]
      rfl
  | some booking =>
      have visited (l : Ledger) :=
        setBookingCell_veiled ρ l b ⟨booking.row, (booking.lock.visit t).2⟩
      have passed := setEventCell_veiled ρ l id
        { cell with transaction := some (.removal rest) }
      have given := setEventCell_veiled ρ l id (cell.closed cell.row)
      rw [← EventCell.closed_renamed] at given
      have same : (cell.renamed ρ).row = cell.row := rfl
      simp only [Option.map_some, BookingCell.veiled, Lock.visit_renamed inj, same, given]
      cases (booking.lock.visit t).1 with
      | false => exact congrArg (fun l => some (RemovalStep.unfinished, l)) (visited l)
      | true =>
          by_cases uses : booking.row.eventId = id
          · have uses' : booking.row.veiled.eventId = id := uses
            rw [if_neg Bool.noConfusion, if_pos uses, if_pos uses']
            exact congrArg
              (fun l => some (RemovalStep.finished (.error (.eventInUse id)), l))
              (visited (l.setEventCell id (cell.closed cell.row)))
          · have uses' : ¬ booking.row.veiled.eventId = id := uses
            rw [if_neg Bool.noConfusion, if_neg uses, if_neg uses']
            refine congrArg (fun l => some (RemovalStep.unfinished, l)) ?_
            rw [← visited, ← passed]
            rfl

theorem stepRemoval_veiled (inj : Function.Injective ρ) (id : EventId) :
    (l.veiled ρ).stepRemoval (ρ t) id =
      (l.stepRemoval t id).map fun (step, l) => (step, l.veiled ρ) := by
  rcases held : l.transactionOf? t id with _ | ⟨cell, r | (_ | ⟨b, rest⟩)⟩
  · simp only [stepRemoval, transactionOf?_veiled inj, held, Option.map_none]
  · simp only [stepRemoval, transactionOf?_veiled inj, held, Option.map_some, Option.map_none]
  · simp only [stepRemoval, transactionOf?_veiled inj, held, Option.map_some,
      EventCell.closed_renamed]
    rw [← setEventCell_veiled]
    rfl
  · exact stepRemoval_veiled_of_unchecked inj held

/-- A settlement does nothing under the veil. -/
theorem veiled_of_settle {d : Payment.Draft} {now : Timestamp} {payment : Payment} {l' : Ledger}
    (ρ : Ticket → Ticket) (settled : l.settle d now = .ok (payment, l')) :
    l'.veiled ρ = l.veiled ρ := by
  unfold settle at settled
  split at settled
  · cases settled
  · rename_i cell found
    split at settled
    · cases settled
    · split at settled <;> cases settled
      have same : Numbered.get? d.bookingId.number (l.bookings.map (·.veiled ρ)) =
          some (cell.veiled ρ) := by
        rw [Numbered.get?_map]
        exact congrArg (Option.map _) found
      have unseen (status : Booking.Status) :
          BookingCell.veiled ρ { cell with row := { cell.row with status := status } } =
            cell.veiled ρ := rfl
      simp only [veiled, setBookingCell, Numbered.map_set, unseen, Numbered.set_get?_self same]

/-! ### Calls -/

/-- The first step of a call that is no settlement. -/
theorem start_veiled (ρ : Ticket → Ticket) {k : Call.Kind} (unpaid : k ≠ .payment)
    (order : List BookingId → List BookingId) (now : Timestamp) (call : Call k) :
    (l.veiled ρ).start (ρ t) order now call = veiledStep ρ (l.start t order now call) := by
  cases call with
  | register d => simp only [start, register_veiled]; rfl
  | revise id r =>
      simp only [start, revise_veiled]
      cases l.revise id r <;> rfl
  | remove id =>
      simp only [start, openRemoval, openTransaction_veiled, bookingIds_veiled]
      cases l.openTransaction t id fun _ => .ok (.removal (order l.bookingIds)) <;> rfl
  | book r =>
      simp only [start, openBooking, openTransaction_veiled]
      generalize l.openTransaction t r.eventId _ = opened
      cases opened <;> rfl
  | findEvent id =>
      simp only [start, presentCell?_veiled]
      cases l.presentCell? id <;> rfl
  | findBooking wanted =>
      simp only [start, bookingIds_veiled]
      rfl
  | settle d => exact absurd rfl unpaid

/-- A further step of a call. -/
theorem resume_veiled (inj : Function.Injective ρ) {k : Call.Kind} (now : Timestamp)
    (stage : Stage k) :
    (l.veiled ρ).resume (ρ t) now stage = veiledStep ρ (l.resume t now stage) := by
  cases stage with
  | removing id =>
      simp only [resume, stepRemoval_veiled inj]
      rcases l.stepRemoval t id with _ | ⟨_ | _, _⟩ <;> rfl
  | booking id =>
      simp only [resume, commitBooking_veiled inj]
      cases l.commitBooking t id now <;> rfl
  | reading id =>
      simp only [resume, visitEvent_veiled inj]
      rcases l.visitEvent t id with ⟨_ | _, _⟩ <;> rfl
  | scanning wanted rest =>
      cases rest with
      | nil => rfl
      | cons b rest =>
          simp only [resume, visitBooking_veiled inj]
          rcases l.visitBooking t b with ⟨_ | row, _⟩
          · rfl
          · by_cases same : row.publicId = wanted
            · simp only [Option.map_some, Booking.veiled, if_pos same]
              rfl
            · simp only [Option.map_some, Booking.veiled, if_neg same]
              rfl

theorem canResume_veiled (inj : Function.Injective ρ) {k : Call.Kind} (stage : Stage k) :
    (l.veiled ρ).canResume (ρ t) stage = l.canResume t stage := by
  cases stage with
  | removing id =>
      simp only [canResume, transactionOf?_veiled inj]
      rcases l.transactionOf? t id with _ | ⟨_, _ | (_ | ⟨b, _⟩)⟩
      · rfl
      · rfl
      · rfl
      · simp only [Option.map_some, bookingCell?_veiled]
        cases l.bookingCell? b with
        | none => rfl
        | some cell => exact Lock.letsOn_renamed inj
  | booking id =>
      simp only [canResume, transactionOf?_veiled inj]
      rcases l.transactionOf? t id with _ | ⟨_, _ | _⟩ <;> rfl
  | reading id =>
      simp only [canResume, eventCell?_veiled]
      cases l.eventCell? id with
      | none => rfl
      | some cell => exact Lock.letsOn_renamed inj
  | scanning wanted rest =>
      cases rest with
      | nil => rfl
      | cons b rest =>
          simp only [canResume, bookingCell?_veiled]
          cases l.bookingCell? b with
          | none => rfl
          | some cell => exact Lock.letsOn_renamed inj

theorem abandon_veiled (inj : Function.Injective ρ) {k : Call.Kind} (stage : Stage k) :
    (l.veiled ρ).abandon (ρ t) stage = (l.abandon t stage).veiled ρ := by
  cases stage with
  | removing id =>
      simp only [abandon, transactionOf?_veiled inj]
      rcases l.transactionOf? t id with _ | ⟨_, _ | (_ | ⟨b, _⟩)⟩
      · exact leaveEvent_veiled inj id
      · exact leaveEvent_veiled inj id
      · exact leaveEvent_veiled inj id
      · simp only [Option.map_some, leaveBooking_veiled inj, leaveEvent_veiled inj]
  | booking id => exact leaveEvent_veiled inj id
  | reading id => exact leaveEvent_veiled inj id
  | scanning wanted rest =>
      cases rest with
      | nil => rfl
      | cons b rest => exact leaveBooking_veiled inj b

/-! ### One veil over another -/

theorem Lock.renamed_id (lock : Lock) : lock.renamed id = lock := by
  simp [Lock.renamed]

/-- What looks the same under one veil does so under every other. -/
theorem veiled_congr {l' : Ledger} (ρ : Ticket → Ticket) (same : l'.veiled id = l.veiled id) :
    l'.veiled ρ = l.veiled ρ := by
  have twice (l : Ledger) : (l.veiled id).veiled ρ = l.veiled ρ := by
    simp [veiled, EventCell.renamed, BookingCell.veiled, Lock.renamed, Booking.veiled,
      Function.comp_def]
  rw [← twice l', same, twice]

end Ledger

end BoxOffice
