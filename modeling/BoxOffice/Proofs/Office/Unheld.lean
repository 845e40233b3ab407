import BoxOffice.Proofs.Ledger.FreeRows
import BoxOffice.Proofs.Office.Speaking

/-!
# Bookings that nobody holds

As long as nobody in the office has asked to hold the row of a booking, nobody holds
one or waits for one, however the steps of all requests fall between each other.
`IsUnheld` is what every move keeps: the locks are free, and no request is about to ask
for one.
-/

namespace BoxOffice.Office

open Ledger (Ticket HasFreeBookings)

/-- The row that a request asks for or waits for from outside. -/
def Task.row? : Task → Option RowKey
  | .asked (.hold key) | .holding key => some key
  | _ => none

/-- Whether a request is not about to hold the row of a booking. -/
def Task.sparesBookings (task : Task) : Bool :=
  match task.row? with
  | some (.booking _) => false
  | _ => true

/-- Nobody holds the row of a booking, waits for one or is about to ask for one. -/
structure IsUnheld (o : Office) : Prop where
  free : o.ledger.HasFreeBookings
  spares : ∀ {t task}, o.task? t = some task → task.sparesBookings = true

namespace IsUnheld

variable {o o' : Office} {t : Ticket} {k : Ledger.Call.Kind}

theorem retain (unheld : o.IsUnheld) (free : o'.ledger.HasFreeBookings)
    (tasks : o'.tasks = o.tasks) : o'.IsUnheld where
  free := free
  spares {u task} at_ := by
    unfold task? at at_
    rw [tasks] at at_
    exact unheld.spares at_

theorem congr (unheld : o.IsUnheld) (same : o'.core = o.core) : o'.IsUnheld := by
  have ledger : o'.ledger = o.ledger := congrArg Core.ledger same
  exact unheld.retain (ledger ▸ unheld.free) (congrArg Core.tasks same)

theorem withLedger (unheld : o.IsUnheld) {l : Ledger} (free : l.HasFreeBookings) :
    ({ o with ledger := l } : Office).IsUnheld :=
  ⟨free, unheld.spares⟩

theorem setTask (unheld : o.IsUnheld) {task : Task} (spares : task.sparesBookings = true) :
    (o.setTask t task).IsUnheld where
  free := unheld.free
  spares {u task'} at_ := by
    have at_ : Keyed.get? u (Keyed.put t task o.tasks) = some task' := at_
    rw [Keyed.get?_put] at at_
    split at at_
    · cases at_
      exact spares
    · exact unheld.spares at_

theorem erase (unheld : o.IsUnheld) (t : Ticket) :
    ({ o with tasks := Keyed.erase t o.tasks } : Office).IsUnheld where
  free := unheld.free
  spares {u task} at_ := by
    have at_ : Keyed.get? u (Keyed.erase t o.tasks) = some task := at_
    rw [Keyed.get?_erase] at at_
    split at at_
    · cases at_
    · exact unheld.spares at_

theorem finish (unheld : o.IsUnheld) (t : Ticket) (answer : Answer) :
    (o.finish t answer).IsUnheld :=
  ⟨unheld.free, (unheld.erase t).spares⟩

theorem finishBooking (unheld : o.IsUnheld) (t : Ticket) (seats : Nat)
    (result : Except Booking.Error Booking.View) : (o.finishBooking t seats result).IsUnheld :=
  ⟨unheld.free, (unheld.erase t).spares⟩

/-! ### Calls -/

theorem deliver (unheld : o.IsUnheld) (answer : k.Answer) (purpose : Purpose k) :
    (o.deliver t answer purpose).IsUnheld := by
  have view {o : Office} (unheld : o.IsUnheld) (b : Booking) (row : Option EventRow) :
      (deliver.view t o b row).IsUnheld := by
    cases row <;> exact unheld.finish t _
  cases purpose with
  | answer => exact unheld.finish t (.ledger k answer)
  | announce a =>
      cases answer with
      | error e => exact unheld.finish t _
      | ok row => exact unheld.setTask rfl
  | attempt event request retries =>
      simp only [Office.deliver]
      split
      · exact unheld.setTask rfl
      · exact unheld.finishBooking t _ _
      · exact unheld.finish t _
      · exact unheld.setTask rfl
  | lookUp id =>
      cases answer with
      | none => exact unheld.finish t _
      | some b =>
          have free : (o.ledger.start t o.setup.scan o.clock
              (.findEvent b.eventId)).2.HasFreeBookings := unheld.free.start o.setup.scan _
          simp only [Office.deliver]
          split <;> rename_i result <;> rw [result] at free
          · exact view (unheld.withLedger free) b _
          · exact (unheld.withLedger free).setTask rfl
  | view b => exact view unheld b answer

theorem carriedOn (unheld : o.IsUnheld) {result : Ledger.Progress k × Ledger}
    (free : result.2.HasFreeBookings) (purpose : Purpose k) (due : Ledger.Stage k → Nat) :
    (o.carriedOn t purpose due result).IsUnheld := by
  obtain ⟨progress, l⟩ := result
  cases progress with
  | done answer => exact (unheld.withLedger free).deliver answer purpose
  | further stage => exact (unheld.withLedger free).setTask rfl

theorem call (unheld : o.IsUnheld) (c : Ledger.Call k) (purpose : Purpose k) :
    (o.call t c purpose).IsUnheld := by
  rw [call_eq]
  exact unheld.carriedOn (unheld.free.start o.setup.scan c) purpose o.dueOf

/-! ### Steps -/

theorem holdRow (unheld : o.IsUnheld) (id : EventId) : (o.holdRow t (.event id)).IsUnheld := by
  have free : (o.ledger.asked t (.event id)).HasFreeBookings := by
    show (o.ledger.acquireEvent t id).2.HasFreeBookings
    unfold Ledger.acquireEvent
    split <;> exact unheld.free
  have asked := unheld.withLedger free
  unfold Office.holdRow
  rw [acquire_eq]
  cases (o.acquire t (.event id)).1 with
  | true => exact ⟨free, (asked.finish t (.held true)).spares⟩
  | false => exact asked.setTask rfl

theorem chooseUser (unheld : o.IsUnheld) (event : EventSnapshot) (user : PublicId) (seats : Nat) :
    (o.chooseUser t event user seats).IsUnheld := by
  unfold Office.chooseUser
  split
  · exact unheld.finishBooking t _ _
  · split
    · exact unheld.finishBooking t _ _
    · have drawn : o.drawId.2.IsUnheld := unheld.congr rfl
      simp only
      split
      · exact drawn.finish t _
      · exact drawn.setTask rfl

theorem begin (unheld : o.IsUnheld) {r : Request} (spares : (Task.asked r).sparesBookings = true) :
    (o.begin t r).IsUnheld := by
  cases r with
  | ledger kind c => exact unheld.call c .answer
  | register draft => exact unheld.call _ _
  | revise id revision => exact unheld.call _ _
  | remove id => exact unheld.call _ _
  | create event user seats =>
      simp only [Office.begin, beginBooking]
      split
      · exact unheld.finishBooking t _ _
      · split
        · exact unheld.finishBooking t _ _
        · exact unheld.setTask rfl
  | find booking => exact unheld.call _ _
  | settle job => exact unheld.setTask rfl
  | hold key =>
      simp only [Office.begin]
      split
      · cases key with
        | event id => exact unheld.holdRow id
        | booking id => cases spares
      · exact unheld.finish t _
  | wait span => exact unheld.setTask rfl
  | closePool grace =>
      have closed := unheld.congr (alike_closePool o grace).core
      simp only [Office.begin]
      split <;> rename_i result <;> rw [result] at closed
      · exact closed.finish t _
      · exact closed.setTask rfl
  | stopConsumers =>
      simp only [Office.begin]
      split
      · exact unheld.finish t _
      · exact (unheld.setTask rfl).congr rfl
  | stopApplication =>
      simp only [Office.begin]
      split
      · split
        · exact (unheld.setTask rfl).congr rfl
        · exact unheld.finish t _
      · exact unheld.finish t _

/-- A step of a request that is not about to hold the row of a booking. -/
theorem stepTask (unheld : o.IsUnheld) {task : Task} (spares : task.sparesBookings = true)
    (step : o.stepTask t task = some o') : o'.IsUnheld := by
  cases task with
  | asked r =>
      cases step
      exact unheld.begin spares
  | atLedger kind stage due purpose =>
      rw [stepTask_atLedger step]
      exact unheld.carriedOn (unheld.free.resume stage) purpose _
  | announcing row change =>
      cases step
      exact (unheld.congr (alike_announce o change).core).finish t _
  | choosing event user seats =>
      cases step
      exact unheld.chooseUser event user seats
  | attempting event request retries =>
      cases step
      exact unheld.call _ _
  | pausing event request retries due =>
      simp only [Office.stepTask] at step
      split at step <;> cases step
      exact unheld.setTask rfl
  | announcingSeats event receipt =>
      cases step
      exact (unheld.congr (alike_announce o _).core).setTask rfl
  | handingOver event receipt =>
      cases step
      exact (unheld.congr (alike_handOver o _).core).finishBooking t _ _
  | settling run =>
      simp only [Office.stepTask] at step
      obtain ⟨⟨progress, o₁⟩, settled, rfl⟩ := Option.map_eq_some_iff.mp step
      have unheld : o₁.IsUnheld := by
        cases settles_of_step settled with
        | goesOn core => exact unheld.congr core
        | ends core => exact unheld.congr core
        | records recorded => exact unheld.withLedger (unheld.free.settle recorded)
      simp only
      split
      · exact unheld.setTask rfl
      · exact unheld.finish t _
      · exact unheld.finish t _
  | holding key =>
      simp only [Office.stepTask] at step
      split at step <;> cases step
      cases key with
      | event id => exact unheld.holdRow id
      | booking id => cases spares
  | waiting due =>
      simp only [Office.stepTask] at step
      split at step <;> cases step
      exact unheld.finish t _
  | closingPool deadline =>
      simp only [Office.stepTask] at step
      split at step <;> cases step
      exact unheld.finish t _
  | stoppingConsumers told =>
      simp only [Office.stepTask] at step
      split at step <;> cases step
      exact unheld.finish t _
  | stoppingApplication =>
      simp only [Office.stepTask] at step
      split at step <;> cases step
      exact unheld.finish t _

/-! ### Moves and runs -/

theorem abandon (unheld : o.IsUnheld) (t : Ticket) : (o.abandon t).IsUnheld := by
  unfold Office.abandon
  split
  · exact (unheld.withLedger (unheld.free.abandon _)).erase t
  · exact (unheld.congr (alike_cancelSettlement o _ _).core).erase t
  · rename_i key _
    have left : (o.leave t key).IsUnheld := by
      cases key with
      | event id => exact unheld.withLedger (unheld.free.left (.event id))
      | booking id => exact unheld.withLedger (unheld.free.left (.booking id))
    exact left.erase t
  · exact unheld.erase t

/-- Everything but asking to hold the row of a booking keeps the bookings free. -/
theorem move (unheld : o.IsUnheld) (backed : IsBacked o) {m : Move}
    (spares : ∀ id, m ≠ .ask (.hold (.booking id))) (moved : m.apply o = some o') :
    o'.IsUnheld := by
  cases moves_of_apply moved with
  | alike _ alike => exact unheld.congr alike.core
  | step at_ step => exact unheld.stepTask (unheld.spares at_) step
  | hurried => exact (unheld.congr (alike_abortPool o).core).finish _ _
  | worked step =>
      rcases step.core with same | ⟨_, _, _, _, l, _, recorded, same⟩
      · exact unheld.congr same
      · exact (unheld.withLedger (unheld.free.settle recorded)).congr same
  | unlocked _ alike key =>
      have unheld := unheld.congr alike.core
      rcases core_unlock _ key with same | ⟨t, _, same⟩
      · exact unheld.congr same
      · refine unheld.retain ?_ (congrArg Core.tasks same)
        have ledger : (Office.unlock _ key).2.ledger = _ := congrArg Core.ledger same
        rw [ledger]
        exact unheld.free.left key
  | ask r =>
      refine ⟨unheld.free, fun {u task} at_ => ?_⟩
      by_cases new : u = o.tickets
      · subst new
        cases (task?_ask r (backed.fresh (Nat.le_refl _))).symm.trans at_
        cases r with
        | hold key =>
            cases key with
            | event id => rfl
            | booking id => exact absurd rfl (spares id)
        | _ => rfl
      · exact unheld.spares ((task?_ask_of_ne o r new).symm.trans at_)
  | abandon t => exact unheld.abandon t
  | take => exact ⟨unheld.free, unheld.spares⟩
  | later key span => exact ⟨unheld.free, unheld.spares⟩
  | failInsert => exact ⟨unheld.free, unheld.spares⟩
  | setHold hold => exact ⟨unheld.free, unheld.spares⟩

end IsUnheld

/-- As long as nobody has asked to hold the row of a booking, nobody holds one or waits for
one. -/
theorem Run.isUnheld {first o : Office} {turns : List Turn} (run : Run first turns o)
    (new : IsNew first) (spares : ∀ x ∈ turns, ∀ id, x.move ≠ .ask (.hold (.booking id))) :
    o.IsUnheld := by
  induction run with
  | start =>
      cases new
      exact ⟨fun _ member => (by cases member), fun found => (by cases found)⟩
  | @next turns o o' m run moved ih =>
      refine (ih fun x member => spares x (List.mem_append_left _ member)).move
        (run.isBacked new.isBacked).1 ?_ moved
      exact spares _ List.mem_concat_self

end BoxOffice.Office
