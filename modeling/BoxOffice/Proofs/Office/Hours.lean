import BoxOffice.Proofs.Office.Frame

/-!
# Time, and who is told to go

Time is moved by the schedule alone. The application is told to end by a request, and
goes on by itself; the consumers are told to stop by a request or by the application,
and each goes on by itself. `Hours` is that part of an office. Everybody else leaves it
alone: requests other than those two, workers, whoever holds rows, and the outside.
-/

namespace BoxOffice.Office

open Ledger (Ticket)

/-- The present instant, the application and the consumers. -/
structure Hours where
  now : Nat
  application : Option Application
  consumers : List Consumer

def hours (o : Office) : Hours := ⟨o.now, o.application, o.consumers⟩

section Parts

variable (o : Office)

theorem hours_cancelSettlement (a : Actor) (run : Settlement.Run) :
    (o.cancelSettlement a run).hours = o.hours := by
  unfold cancelSettlement
  split <;> rfl

theorem hours_decide (own : Bool) : (o.decide own).2.hours = o.hours := by
  unfold decide
  split <;> rfl

theorem hours_submit (job : Settlement.Job) : (o.submit job).2.hours = o.hours := by
  unfold submit
  cases o.pool.submit job <;> rfl

theorem hours_handOver (b : Booking) : (o.handOver b).hours = o.hours := by
  rw [handOver_eq]
  exact hours_submit o.drawId.2 _

theorem hours_abort (p : Pool Settlement.Job Settlement.Run) :
    (Pool.abort poolHandler p o).2.hours = o.hours := by
  unfold Pool.abort
  generalize p.workers.zipIdx = l
  induction l generalizing o with
  | nil => rfl
  | cons entry l ih =>
      obtain ⟨w, i⟩ := entry
      cases w with
      | idle => exact ih o
      | running job run deadline => exact (ih _).trans (hours_cancelSettlement o (.worker i) run)
      | gone => exact ih o

theorem hours_abortPool : o.abortPool.hours = o.hours := hours_abort o o.pool

theorem hours_closePool (grace : Span) : (o.closePool grace).2.hours = o.hours := by
  show (Pool.close poolHandler o.now grace o.pool o).2.2.hours = o.hours
  unfold Pool.close
  split
  · rfl
  · split
    · exact hours_abort o _
    · rfl

theorem hours_unlock (key : RowKey) : (o.unlock key).2.hours = o.hours := by
  unfold unlock
  split <;> rfl

theorem hours_announce (c : EventChange) : (o.announce c).2.hours = o.hours := by
  unfold announce publish
  simp only
  split <;> rfl

theorem hours_announceUser (c : UserChange) : (o.announceUser c).2.hours = o.hours := by
  unfold announceUser publish
  simp only
  split <;> rfl

end Parts

section Steps

variable {o o' : Office} {t : Ticket}

/-! ### Workers and requests -/

theorem hours_stepSettlement {own : Bool} {a : Actor} {run : Settlement.Run}
    {step : Settlement.Step} (stepped : o.stepSettlement own a run = some (step, o')) :
    o'.hours = o.hours := by
  cases run with
  | deciding job =>
      have kept := hours_decide o own
      simp only [stepSettlement] at stepped
      split at stepped <;> rename_i decided <;> rw [decided] at kept <;> cases stepped <;>
        exact kept
  | stuck job => cases stepped
  | recording draft retries =>
      simp only [stepSettlement] at stepped
      split at stepped
      · cases stepped
        rfl
      · split at stepped <;> cases stepped <;> rfl
  | _ =>
      simp only [stepSettlement] at stepped
      split at stepped <;> cases stepped
      rfl

theorem hours_stepWorker {i : Nat} (step : o.stepWorker i = some o') : o'.hours = o.hours := by
  unfold stepWorker at step
  obtain ⟨⟨event, pool, o₁⟩, worked, rfl⟩ := Option.map_eq_some_iff.mp step
  show o₁.hours = o.hours
  unfold Pool.work at worked
  split at worked
  · cases worked
  · split at worked
    · split at worked <;> cases worked
      rfl
    · cases worked
      rfl
  · rename_i job run deadline _
    cases stepped : o.stepSettlement false (.worker i) run with
    | none =>
        have blocked : poolHandler.advance i o.now run o = none := by simp [poolHandler, stepped]
        rw [blocked] at worked
        simp only at worked
        split at worked <;> cases worked
        exact hours_cancelSettlement o (.worker i) run
    | some result =>
        obtain ⟨step, o₂⟩ := result
        have kept := hours_stepSettlement stepped
        simp only [poolHandler, stepped, Option.map_some] at worked
        rcases step with result | run
        · cases result <;> cases worked <;> exact kept
        · cases worked
          exact kept

theorem hours_view (o : Office) (t : Ticket) (b : Booking) (row : Option EventRow) :
    (deliver.view t o b row).hours = o.hours := by
  cases row <;> rfl

theorem hours_deliver (o : Office) (t : Ticket) {k : Ledger.Call.Kind} (answer : k.Answer)
    (purpose : Purpose k) : (o.deliver t answer purpose).hours = o.hours := by
  cases purpose with
  | answer => rfl
  | announce a => cases answer <;> rfl
  | attempt event request retries =>
      simp only [deliver]
      split <;> rfl
  | lookUp id =>
      cases answer with
      | none => rfl
      | some b =>
          simp only [deliver]
          split
          · exact hours_view _ t b _
          · rfl
  | view b => exact hours_view o t b answer

theorem hours_call (o : Office) (t : Ticket) {k : Ledger.Call.Kind} (c : Ledger.Call k)
    (purpose : Purpose k) : (o.call t c purpose).hours = o.hours := by
  unfold call proceed
  split
  · exact hours_deliver _ t _ purpose
  · rfl

theorem hours_holdRow (o : Office) (t : Ticket) (key : RowKey) :
    (o.holdRow t key).hours = o.hours := by
  unfold holdRow
  rw [acquire_eq]
  cases (o.acquire t key).1 <;> rfl

theorem hours_beginBooking (o : Office) (t : Ticket) (event user : PublicId) (seats : Nat) :
    (o.beginBooking t event user seats).hours = o.hours := by
  unfold beginBooking
  split
  · rfl
  · split <;> rfl

theorem hours_chooseUser (o : Office) (t : Ticket) (event : EventSnapshot) (user : PublicId)
    (seats : Nat) : (o.chooseUser t event user seats).hours = o.hours := by
  unfold chooseUser
  split
  · rfl
  · split
    · rfl
    · simp only
      split <;> rfl

/-- Whether somebody is asked to go: the consumers or the application. -/
def Request.dismisses : Request → Bool
  | .stopConsumers | .stopApplication => true
  | _ => false

theorem hours_begin (o : Office) (t : Ticket) {r : Request} (stays : r.dismisses = false) :
    (o.begin t r).hours = o.hours := by
  cases r with
  | ledger kind c => exact hours_call o t c .answer
  | register draft => exact hours_call o t _ _
  | revise id revision => exact hours_call o t _ _
  | remove id => exact hours_call o t _ _
  | create event user seats => exact hours_beginBooking o t event user seats
  | find booking => exact hours_call o t _ _
  | settle job => rfl
  | hold key =>
      simp only [begin]
      split
      · exact hours_holdRow o t key
      · rfl
  | wait span => rfl
  | closePool grace =>
      have closed := hours_closePool o grace
      simp only [begin]
      split <;> rename_i result <;> rw [result] at closed <;> exact closed
  | stopConsumers => cases stays
  | stopApplication => cases stays

/-- Whether a request is about to ask somebody to go. -/
def Task.dismisses : Task → Bool
  | .asked r => r.dismisses
  | _ => false

theorem hours_stepTask {task : Task} (stays : task.dismisses = false)
    (step : o.stepTask t task = some o') : o'.hours = o.hours := by
  cases task with
  | asked r =>
      cases step
      exact hours_begin o t stays
  | atLedger kind stage due purpose =>
      simp only [stepTask] at step
      split at step
      · cases step
        split
        · exact hours_deliver _ t _ purpose
        · rfl
      · cases step
  | announcing row change =>
      cases step
      exact hours_announce o change
  | choosing event user seats =>
      cases step
      exact hours_chooseUser o t event user seats
  | attempting event request retries =>
      cases step
      exact hours_call o t _ _
  | announcingSeats event receipt =>
      cases step
      exact hours_announce o _
  | handingOver event receipt =>
      cases step
      exact hours_handOver o receipt.booking
  | settling run =>
      simp only [stepTask] at step
      obtain ⟨⟨progress, o₁⟩, settled, rfl⟩ := Option.map_eq_some_iff.mp step
      have kept := hours_stepSettlement settled
      simp only
      split <;> exact kept
  | holding key =>
      simp only [stepTask] at step
      split at step <;> cases step
      exact hours_holdRow o t key
  | stoppingApplication =>
      simp only [stepTask] at step
      split at step <;> cases step
      rfl
  | _ =>
      simp only [stepTask] at step
      split at step <;> cases step
      rfl

theorem hours_abandon (o : Office) (t : Ticket) : (o.abandon t).hours = o.hours := by
  unfold abandon
  split
  · rfl
  · exact hours_cancelSettlement o _ _
  · rfl
  · rfl

/-! ### Those who go -/

theorem now_acts {i : Nat} {c : Consumer} (acts : Acts o i c o') :
    o'.now = o.now ∧ o'.application = o.application := by
  cases acts with
  | opens at_ =>
      unfold openQueue
      split <;> exact ⟨rfl, rfl⟩
  | @handles d due deadline at_ ready =>
      show (o.handle c d.message).2.now = o.now ∧
        (o.handle c d.message).2.application = o.application
      unfold handle
      split <;> exact ⟨rfl, rfl⟩
  | _ => exact ⟨rfl, rfl⟩

theorem hours_setApplication (same : o'.hours = o.hours) (a : Application)
    (stage : Application.Stage) : (o'.setApplication a stage).hours =
      { o.hours with application := some { a with stage := stage } } := by
  rw [← same]
  rfl

theorem hours_drainPool (o : Office) (a : Application) (deadline : Nat) (clean : Bool) :
    ∃ application, (o.drainPool a deadline clean).hours =
      { o.hours with application := application } := by
  have closed := hours_closePool o (.ofMillis (deadline - o.now))
  unfold drainPool
  split <;> rename_i result <;> rw [result] at closed <;>
    exact ⟨_, hours_setApplication closed a _⟩

/-- A turn of the application takes no time, and the consumers are told to stop at most. -/
theorem hours_stepApplication (step : o.stepApplication = some o') : ∃ application,
    o'.hours = { o.hours with application := application } ∨
      o'.hours = { o.tellConsumers.hours with application := application } := by
  unfold stepApplication at step
  obtain ⟨a, _, step⟩ := Option.bind_eq_some_iff.mp step
  split at step
  · cases step
  · cases step
  · cases step
    split
    · obtain ⟨application, hours⟩ := hours_drainPool o.tellConsumers a _ _
      exact ⟨application, .inr hours⟩
    · exact ⟨_, .inr rfl⟩
  · split at step
    · cases step
      obtain ⟨application, hours⟩ := hours_drainPool o a _ _
      exact ⟨application, .inl hours⟩
    · split at step <;> cases step
      exact ⟨_, .inl rfl⟩
  · split at step <;> cases step
    exact ⟨_, .inl rfl⟩

theorem hours_hurryApplication (step : o.hurryApplication = some o') : ∃ application,
    o'.hours = { o.hours with application := application } := by
  unfold hurryApplication at step
  obtain ⟨a, _, step⟩ := Option.bind_eq_some_iff.mp step
  split at step
  · split at step <;> cases step
    exact ⟨_, rfl⟩
  · split at step <;> cases step
    exact ⟨_, hours_setApplication (hours_abortPool o) a _⟩
  · cases step

theorem now_stepApplication (step : o.stepApplication = some o') : o'.now = o.now := by
  obtain ⟨_, hours | hours⟩ := hours_stepApplication step <;> exact congrArg Hours.now hours

theorem now_hurryApplication (step : o.hurryApplication = some o') : o'.now = o.now := by
  obtain ⟨_, hours⟩ := hours_hurryApplication step
  exact congrArg Hours.now hours

/-! ### Moves -/

/-- What a move does to time, to the application and to the consumers. -/
inductive Paces (o : Office) : Move → Office → Prop
  | rests {m : Move} {o' : Office} (same : o'.hours = o.hours) : Paces o m o'
  | passes {later : Nat} (forward : o.now ≤ later) : Paces o (.pass later) { o with now := later }
  | consumes {i : Nat} {c : Consumer} {o' : Office} (found : o.consumers[i]? = some c)
      (acts : Acts o i c o') : Paces o (.turn (.consumer i)) o'
  | overlooks {i : Nat} {c : Consumer} {o' : Office} (found : o.consumers[i]? = some c)
      (free : c.stage.message? = none) (acts : Acts o i c o') : Paces o (.overlook i) o'
  | governs {o' : Office} (step : o.stepApplication = some o') : Paces o (.turn .application) o'
  | hurries {o' : Office} (step : o.hurryApplication = some o') : Paces o (.hurry .application) o'
  /-- A request tells the consumers to stop, which no application owns. -/
  | tells {m : Move} {o' : Office} (unowned : o.application = none)
      (hours : o'.hours = { o.hours with consumers := o.tellConsumers.consumers }) : Paces o m o'
  /-- A request tells the application to end. -/
  | signals {m : Move} {o' : Office} {a : Application} (owned : o.application = some a)
      (running : a.stage = .running)
      (hours : o'.hours = { o.hours with application := some { a with stage := .signalled } }) :
      Paces o m o'

theorem paces_of_stepTask {task : Task} {m : Move} (step : o.stepTask t task = some o') :
    Paces o m o' := by
  cases goes : task.dismisses with
  | false => exact .rests (hours_stepTask goes step)
  | true =>
      cases task with
      | asked r =>
          cases step
          cases r with
          | stopConsumers =>
              simp only [begin]
              split
              · exact .rests rfl
              · rename_i idle
                refine .tells ?_ rfl
                cases owned : o.application with
                | none => rfl
                | some a => simp [owned] at idle
          | stopApplication =>
              simp only [begin]
              split
              · rename_i a owned
                split
                · rename_i running
                  exact .signals owned running rfl
                · exact .rests rfl
              · exact .rests rfl
          | _ => cases goes
      | _ => cases goes

theorem paces_of_move {m : Move} (moved : m.apply o = some o') : Paces o m o' := by
  cases m with
  | turn a =>
      cases a with
      | caller t =>
          obtain ⟨task, -, step⟩ := Option.bind_eq_some_iff.mp moved
          exact paces_of_stepTask step
      | worker i => exact .rests (hours_stepWorker moved)
      | consumer i =>
          obtain ⟨c, found, acts⟩ := acts_of_step moved
          exact .consumes found acts
      | application => exact .governs moved
      | unlocking t =>
          obtain ⟨u, _, _, rfl⟩ := stepUnlock_eq_some moved
          exact .rests (hours_unlock _ u.key)
  | hurry a =>
      cases a with
      | caller t =>
          obtain ⟨_, -, rfl⟩ := hurried_of_move moved
          exact .rests (hours_abortPool o)
      | application => exact .hurries moved
      | worker i => cases moved
      | consumer i => cases moved
      | unlocking t => cases moved
  | overlook i =>
      obtain ⟨c, found, free, acts⟩ := acts_of_overlook moved
      exact .overlooks found free acts
  | abandon t =>
      cases moved
      exact .rests (hours_abandon o t)
  | pass later =>
      simp only [Move.apply] at moved
      split at moved <;> cases moved
      rename_i forward
      exact .passes forward
  | submit job =>
      cases moved
      exact .rests (hours_submit o job)
  | unlock key =>
      cases moved
      exact .rests (hours_unlock o key)
  | announce c =>
      cases moved
      exact .rests (hours_announce o c)
  | announceUser c =>
      cases moved
      exact .rests (hours_announceUser o c)
  | _ =>
      cases moved
      exact .rests rfl

/-- Time does not go back. -/
theorem now_le_of_move {m : Move} (moved : m.apply o = some o') : o.now ≤ o'.now := by
  cases paces_of_move moved with
  | rests same => exact Nat.le_of_eq (congrArg Hours.now same).symm
  | passes forward => exact forward
  | consumes _ acts => exact Nat.le_of_eq (now_acts acts).1.symm
  | overlooks _ _ acts => exact Nat.le_of_eq (now_acts acts).1.symm
  | governs step => exact Nat.le_of_eq (now_stepApplication step).symm
  | hurries step => exact Nat.le_of_eq (now_hurryApplication step).symm
  | tells _ hours => exact Nat.le_of_eq (congrArg Hours.now hours).symm
  | signals _ _ hours => exact Nat.le_of_eq (congrArg Hours.now hours).symm

end Steps

end BoxOffice.Office
