import BoxOffice.Proofs.Office.News

/-!
# Who uses the bus and the pool

Change messages go from requests that owe them over the bus to consumers, and from
there into the snapshots. `Wires` is that part of an office. A step of a request
that owes no change leaves it alone, and so do workers, the application and
whoever holds rows. What is left is a short list: requests that make a change
known, consumers, and the outside.

Jobs go from requests that hand a booking over into the pool, and workers and
shutdowns take them out. `Stock` is that part of an office, and the list of those
who touch it is as short. Most steps touch neither, so both are followed at once,
as the `Backdrop` of an office.
-/

namespace BoxOffice

/-- Whether an application waits for the workers. -/
def Application.isDraining (a : Application) : Bool :=
  match a.stage with
  | .draining .. => true
  | _ => false

namespace Office

open Ledger (Ticket)

/-- The bus, the snapshots of events and the consumers, whether they are told to
stop or not. -/
structure Wires where
  bus : Bus
  events : Snapshot.EventTable
  consumers : List Consumer

def wires (o : Office) : Wires :=
  ⟨o.bus, o.events, o.consumers.map fun c => { c with told := false }⟩

/-- The pool, how many identifiers were drawn, and whether the application waits for
the workers. -/
structure Stock where
  pool : Pool Settlement.Job Settlement.Run
  idsDrawn : Nat
  draining : Bool

def stock (o : Office) : Stock := ⟨o.pool, o.idsDrawn, o.application.any (·.isDraining)⟩

structure Backdrop where
  wires : Wires
  stock : Stock

def backdrop (o : Office) : Backdrop := ⟨o.wires, o.stock⟩

/-- The change that a request has made and not yet made known. -/
def Task.owes : Task → Option EventChange
  | .announcing _ change => some change
  | .announcingSeats event receipt =>
    some (.seatsUpdated ⟨event.id, event.publicId, receipt.availableSeats, receipt.version⟩)
  | _ => none

/-- The change that is to be made known under a ticket. -/
def owes (o : Office) (t : Ticket) : Option EventChange := (o.task? t).bind Task.owes

section Parts

variable (o : Office)

theorem backdrop_told (told : Bool) :
    backdrop { o with consumers := o.consumers.map fun c => { c with told := told } } =
      o.backdrop := by
  unfold backdrop wires
  simp only [List.map_map]
  rfl

theorem backdrop_cancelSettlement (a : Actor) (run : Settlement.Run) :
    (o.cancelSettlement a run).backdrop = o.backdrop := by
  unfold cancelSettlement
  split <;> rfl

theorem backdrop_decide (own : Bool) : (o.decide own).2.backdrop = o.backdrop := by
  unfold decide
  split <;> rfl

theorem wires_submit (job : Settlement.Job) : (o.submit job).2.wires = o.wires := by
  unfold submit
  simp only
  split <;> rfl

theorem wires_handOver (b : Booking) : (o.handOver b).wires = o.wires := by
  rw [handOver_eq]
  exact wires_submit o.drawId.2 _

theorem backdrop_abort (p : Pool Settlement.Job Settlement.Run) :
    (Pool.abort poolHandler p o).2.backdrop = o.backdrop := by
  unfold Pool.abort
  generalize p.workers.zipIdx = l
  induction l generalizing o with
  | nil => rfl
  | cons entry l ih =>
      obtain ⟨w, i⟩ := entry
      cases w with
      | idle => exact ih o
      | running job run deadline => exact (ih _).trans (backdrop_cancelSettlement o (.worker i) run)
      | gone => exact ih o

theorem wires_abortPool : o.abortPool.wires = o.wires :=
  congrArg Backdrop.wires (backdrop_abort o o.pool)

theorem wires_closePool (grace : Span) : (o.closePool grace).2.wires = o.wires := by
  show (Pool.close poolHandler o.now grace o.pool o).2.2.wires = o.wires
  unfold Pool.close
  split
  · rfl
  · split
    · exact congrArg Backdrop.wires (backdrop_abort o _)
    · rfl

theorem backdrop_unlock (key : RowKey) : (o.unlock key).2.backdrop = o.backdrop := by
  unfold unlock
  split <;> rfl

/-- What is made known goes to the bus alone. -/
theorem wires_announce (c : EventChange) :
    (o.announce c).2.wires = { o.wires with bus := (o.announce c).2.bus } := by
  unfold announce publish
  simp only
  split <;> rfl

theorem wires_announceUser (c : UserChange) :
    (o.announceUser c).2.wires = { o.wires with bus := (o.announceUser c).2.bus } := by
  unfold announceUser publish
  simp only
  split <;> rfl

/-- What is made known is nothing to the pool. -/
theorem stock_announce (c : EventChange) : (o.announce c).2.stock = o.stock := by
  unfold announce publish
  simp only
  split <;> rfl

theorem stock_announceUser (c : UserChange) : (o.announceUser c).2.stock = o.stock := by
  unfold announceUser publish
  simp only
  split <;> rfl

end Parts

/-! ### Attendants -/

section Attendants

variable {o o' : Office}

/-- Consumers have nothing to do with the pool. -/
theorem stock_acts {i : Nat} {c : Consumer} (acts : Acts o i c o') : o'.stock = o.stock := by
  cases acts with
  | opens at_ =>
      unfold openQueue
      split <;> rfl
  | @handles d due deadline at_ ready =>
      show (o.handle c d.message).2.stock = o.stock
      unfold handle
      split <;> rfl
  | _ => rfl

theorem backdrop_stepSettlement {own : Bool} {a : Actor} {run : Settlement.Run}
    {step : Settlement.Step} (stepped : o.stepSettlement own a run = some (step, o')) :
    o'.backdrop = o.backdrop := by
  cases run with
  | deciding job =>
      have kept := backdrop_decide o own
      simp only [stepSettlement] at stepped
      split at stepped <;> rename_i decided <;> rw [decided] at kept <;> cases stepped <;> exact kept
  | charging job status due =>
      simp only [stepSettlement] at stepped
      split at stepped <;> cases stepped
      rfl
  | atGate job status =>
      simp only [stepSettlement] at stepped
      split at stepped <;> cases stepped
      rfl
  | stuck job => cases stepped
  | recording draft retries =>
      simp only [stepSettlement] at stepped
      split at stepped
      · cases stepped
        rfl
      · split at stepped <;> cases stepped <;> rfl
  | pausing draft retries due =>
      simp only [stepSettlement] at stepped
      split at stepped <;> cases stepped
      rfl

theorem wires_stepWorker {i : Nat} (step : o.stepWorker i = some o') : o'.wires = o.wires := by
  unfold stepWorker at step
  obtain ⟨⟨event, pool, o₁⟩, worked, rfl⟩ := Option.map_eq_some_iff.mp step
  show o₁.wires = o.wires
  unfold Pool.work at worked
  split at worked
  · cases worked
  · split at worked
    · split at worked <;> cases worked
      rfl
    · cases worked
      rfl
  · rename_i job run deadline _
    cases stepped : o.stepSettlement false (.worker i) run with
    | none =>
        have blocked : poolHandler.advance i o.now run o = none := by simp [poolHandler, stepped]
        rw [blocked] at worked
        simp only at worked
        split at worked <;> cases worked
        exact congrArg Backdrop.wires (backdrop_cancelSettlement o (.worker i) run)
    | some result =>
        obtain ⟨step, o₂⟩ := result
        have kept := congrArg Backdrop.wires (backdrop_stepSettlement stepped)
        simp only [poolHandler, stepped, Option.map_some] at worked
        rcases step with result | run
        · cases result <;> cases worked <;> exact kept
        · cases worked
          exact kept

theorem wires_drainPool (o : Office) (a : Application) (deadline : Nat) (clean : Bool) :
    (o.drainPool a deadline clean).wires = o.wires := by
  have closed := wires_closePool o (.ofMillis (deadline - o.now))
  unfold drainPool
  split <;> rename_i result <;> rw [result] at closed <;> exact closed

theorem wires_stepApplication (step : o.stepApplication = some o') : o'.wires = o.wires := by
  unfold stepApplication at step
  obtain ⟨a, _, step⟩ := Option.bind_eq_some_iff.mp step
  have told : o.tellConsumers.wires = o.wires := congrArg Backdrop.wires (backdrop_told o true)
  split at step
  · cases step
  · cases step
  · cases step
    split
    · exact (wires_drainPool _ a _ _).trans told
    · exact told
  · split at step
    · cases step
      exact wires_drainPool o a _ _
    · split at step <;> cases step
      rfl
  · split at step <;> cases step
    rfl

theorem wires_hurryApplication (step : o.hurryApplication = some o') : o'.wires = o.wires := by
  unfold hurryApplication at step
  obtain ⟨a, _, step⟩ := Option.bind_eq_some_iff.mp step
  split at step
  · split at step <;> cases step
    rfl
  · split at step <;> cases step
    exact wires_abortPool o
  · cases step

end Attendants

/-! ### Requests -/

section Callers

variable {o o' : Office} {t : Ticket}

theorem backdrop_view (o : Office) (t : Ticket) (b : Booking) (row : Option EventRow) :
    (deliver.view t o b row).backdrop = o.backdrop := by
  cases row <;> rfl

theorem backdrop_deliver (o : Office) (t : Ticket) {k : Ledger.Call.Kind} (answer : k.Answer)
    (purpose : Purpose k) : (o.deliver t answer purpose).backdrop = o.backdrop := by
  cases purpose with
  | answer => rfl
  | announce a => cases answer <;> rfl
  | attempt event request retries =>
      simp only [deliver]
      split <;> rfl
  | lookUp id =>
      cases answer with
      | none => rfl
      | some b =>
          simp only [deliver]
          split
          · exact backdrop_view _ t b _
          · rfl
  | view b => exact backdrop_view o t b answer

theorem backdrop_call (o : Office) (t : Ticket) {k : Ledger.Call.Kind} (c : Ledger.Call k)
    (purpose : Purpose k) : (o.call t c purpose).backdrop = o.backdrop := by
  unfold call proceed
  split
  · exact backdrop_deliver _ t _ purpose
  · rfl

theorem backdrop_holdRow (o : Office) (t : Ticket) (key : RowKey) :
    (o.holdRow t key).backdrop = o.backdrop := by
  unfold holdRow
  rw [acquire_eq]
  cases (o.acquire t key).1 <;> rfl

theorem backdrop_beginBooking (o : Office) (t : Ticket) (event user : PublicId) (seats : Nat) :
    (o.beginBooking t event user seats).backdrop = o.backdrop := by
  unfold beginBooking
  split
  · rfl
  · split <;> rfl

theorem wires_chooseUser (o : Office) (t : Ticket) (event : EventSnapshot) (user : PublicId)
    (seats : Nat) : (o.chooseUser t event user seats).wires = o.wires := by
  unfold chooseUser
  split
  · rfl
  · split
    · rfl
    · simp only
      split <;> rfl

/-- A request to shut the pool down is the only one that touches it when it begins. -/
theorem backdrop_begin (o : Office) (t : Ticket) {r : Request}
    (other : ∀ grace, r ≠ .closePool grace) : (o.begin t r).backdrop = o.backdrop := by
  cases r with
  | ledger kind c => exact backdrop_call o t c .answer
  | register draft => exact backdrop_call o t _ _
  | revise id revision => exact backdrop_call o t _ _
  | remove id => exact backdrop_call o t _ _
  | create event user seats => exact backdrop_beginBooking o t event user seats
  | find booking => exact backdrop_call o t _ _
  | settle job => rfl
  | hold key =>
      simp only [begin]
      split
      · exact backdrop_holdRow o t key
      · rfl
  | wait span => rfl
  | closePool grace => exact absurd rfl (other grace)
  | stopConsumers =>
      simp only [begin]
      split
      · rfl
      · exact backdrop_told o true
  | stopApplication =>
      simp only [begin]
      split
      · rename_i a runs
        split
        · rename_i running
          unfold backdrop stock
          simp only [runs, Option.any_some, Application.isDraining, running]
          rfl
        · rfl
      · rfl

theorem wires_begin (o : Office) (t : Ticket) (r : Request) : (o.begin t r).wires = o.wires := by
  cases r with
  | closePool grace =>
      have closed := wires_closePool o grace
      simp only [begin]
      split <;> rename_i result <;> rw [result] at closed <;> exact closed
  | _ => exact congrArg Backdrop.wires (backdrop_begin o t (by rintro grace ⟨⟩))

/-- Whether a step of a request draws an identifier or touches the pool. -/
def Task.deals : Task → Bool
  | .asked (.closePool _) | .choosing .. | .handingOver .. => true
  | _ => false

/-- A request that neither owes a change nor deals with the pool leaves both parts
alone. -/
theorem backdrop_stepTask {task : Task} (silent : task.owes = none) (plain : task.deals = false)
    (step : o.stepTask t task = some o') : o'.backdrop = o.backdrop := by
  cases task with
  | asked r =>
      cases step
      refine backdrop_begin o t ?_
      rintro grace rfl
      cases plain
  | atLedger kind stage due purpose =>
      simp only [stepTask] at step
      split at step
      · cases step
        split
        · exact backdrop_deliver _ t _ purpose
        · rfl
      · cases step
  | announcing row change => cases silent
  | choosing event user seats => cases plain
  | attempting event request retries =>
      cases step
      exact backdrop_call o t _ _
  | announcingSeats event receipt => cases silent
  | handingOver event receipt => cases plain
  | settling run =>
      simp only [stepTask] at step
      obtain ⟨⟨progress, o₁⟩, settled, rfl⟩ := Option.map_eq_some_iff.mp step
      have kept := backdrop_stepSettlement settled
      simp only
      split <;> exact kept
  | holding key =>
      simp only [stepTask] at step
      split at step <;> cases step
      exact backdrop_holdRow o t key
  | stoppingApplication =>
      simp only [stepTask] at step
      split at step <;> cases step
      rfl
  | _ =>
      simp only [stepTask] at step
      split at step <;> cases step
      rfl

/-- A request that owes no change leaves the wires alone. -/
theorem wires_stepTask {task : Task} (silent : task.owes = none)
    (step : o.stepTask t task = some o') : o'.wires = o.wires := by
  cases deals : task.deals with
  | false => exact congrArg Backdrop.wires (backdrop_stepTask silent deals step)
  | true =>
      cases task with
      | asked r =>
          cases step
          exact wires_begin o t r
      | choosing event user seats =>
          cases step
          exact wires_chooseUser o t event user seats
      | handingOver event receipt =>
          cases step
          exact wires_handOver o receipt.booking
      | _ => cases deals

/-- A request that makes a change known leaves all else of the wires alone. -/
theorem wires_announcing {task : Task} {c : EventChange} (owed : task.owes = some c)
    (step : o.stepTask t task = some o') :
    o'.wires = { o.wires with bus := (o.announce c).2.bus } := by
  cases task with
  | announcing row change =>
      cases owed
      cases step
      exact wires_announce o _
  | announcingSeats event receipt =>
      cases owed
      cases step
      exact wires_announce o _
  | _ => cases owed

theorem backdrop_abandon (o : Office) (t : Ticket) : (o.abandon t).backdrop = o.backdrop := by
  unfold abandon
  split
  · rfl
  · exact backdrop_cancelSettlement o _ _
  · rfl
  · rfl

end Callers

end Office

end BoxOffice
