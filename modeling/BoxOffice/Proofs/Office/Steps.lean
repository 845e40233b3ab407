import BoxOffice.Proofs.Consumer.Turns
import BoxOffice.Proofs.Ledger.Traffic
import BoxOffice.Proofs.Office.Run

/-!
# What one step of an actor does

For every actor this module says what its step leaves alone: which requests it
touches, what becomes of the rows, and how the workers of the pool get on. A
consumer and the application touch neither requests nor rows. A worker touches a
row only when it records a payment, and then it has run a job whose payment that
is. A caller touches no request but its own.
-/

namespace BoxOffice

/-- A run settles a job: it charges for it or records a payment of it. -/
def Settlement.Run.IsOf (job : Settlement.Job) : Settlement.Run → Prop
  | .deciding j => j = job
  | .charging j _ _ => j = job
  | .atGate j _ => j = job
  | .stuck j => j = job
  | .recording p _ => ∃ status, p = job.payment status
  | .pausing p _ _ => ∃ status, p = job.payment status

namespace Office

open Ledger (Ticket)

/-! ### Consumers and the application -/

section Attendants

variable {o o' : Office}

theorem alike_setStage (o : Office) (i : Nat) (stage : Consumer.Stage) : Alike o (o.setStage i stage) :=
  .of_pool rfl rfl

theorem alike_openQueue (o : Office) (i : Nat) (c : Consumer) : Alike o (o.openQueue i c) := by
  unfold openQueue
  split <;> exact .of_pool rfl rfl

theorem alike_handle (o : Office) (c : Consumer) (m : Message) : Alike o (o.handle c m).2 := by
  unfold handle
  split <;> exact .of_pool rfl rfl

theorem alike_settleDelivery (o : Office) (c : Consumer) (d : Bus.Delivery)
    (outcome : Consumer.Outcome) : Alike o (o.settleDelivery c d outcome) := by
  unfold settleDelivery
  split
  exact .of_pool rfl rfl

theorem alike_acts {i : Nat} {c : Consumer} (acts : Acts o i c o') : Alike o o' := by
  cases acts with
  | opens at_ => exact alike_openQueue o i c
  | @handles d due deadline at_ ready =>
      exact ((alike_handle o c d.message).trans (alike_settleDelivery _ c d _)).trans
        (alike_setStage _ i _)
  | @expires d due deadline at_ busy late =>
      exact (alike_settleDelivery o c d .timedOut).trans (alike_setStage _ i _)
  | _ => exact .of_pool rfl rfl

theorem alike_stepConsumer {i : Nat} (step : o.stepConsumer i = some o') : Alike o o' := by
  obtain ⟨c, _, acts⟩ := acts_of_step step
  exact alike_acts acts

theorem alike_overlook {i : Nat} (overlooked : o.overlook i = some o') : Alike o o' := by
  obtain ⟨c, _, _, acts⟩ := acts_of_overlook overlooked
  exact alike_acts acts

theorem alike_drainPool (o : Office) (a : Application) (deadline : Nat) (clean : Bool) :
    Alike o (o.drainPool a deadline clean) := by
  have closed := alike_closePool o (.ofMillis (deadline - o.now))
  unfold drainPool
  split
  · rename_i inTime o' result
    rw [result] at closed
    exact closed.trans (.of_pool rfl rfl)
  · rename_i later o' result
    rw [result] at closed
    exact closed.trans (.of_pool rfl rfl)

theorem alike_stepApplication (step : o.stepApplication = some o') : Alike o o' := by
  unfold stepApplication at step
  obtain ⟨a, _, step⟩ := Option.bind_eq_some_iff.mp step
  split at step
  · cases step
  · cases step
  · cases step
    have told : Alike o o.tellConsumers := .of_pool rfl rfl
    split
    · exact told.trans (alike_drainPool _ a _ _)
    · exact told.trans (.of_pool rfl rfl)
  · split at step
    · cases step
      exact alike_drainPool o a _ _
    · split at step
      · cases step
        exact .of_pool rfl rfl
      · cases step
  · split at step
    · cases step
      exact .of_pool rfl rfl
    · cases step

theorem alike_hurryApplication (step : o.hurryApplication = some o') : Alike o o' := by
  unfold hurryApplication at step
  obtain ⟨a, _, step⟩ := Option.bind_eq_some_iff.mp step
  split at step
  · split at step
    · cases step
      exact .of_pool rfl rfl
    · cases step
  · split at step
    · cases step
      exact (alike_abortPool o).trans (.of_pool rfl rfl)
    · cases step
  · cases step

end Attendants

/-! ### Settlements -/

/-- What a step of a settlement comes to: it leaves rows alone and stays with its
job, or it records its payment. -/
inductive Settles (o : Office) : Settlement.Run → Settlement.Step → Office → Prop
  | goesOn {run run' : Settlement.Run} {o' : Office} (core : o'.core = o.core)
      (pool : o'.pool = o.pool) (same : ∀ job, run.IsOf job → run'.IsOf job) :
      Settles o run (.on run') o'
  | ends {run : Settlement.Run} {result : Settlement.Result} {o' : Office}
      (core : o'.core = o.core) (pool : o'.pool = o.pool) : Settles o run (.over result) o'
  | records {draft : Payment.Draft} {retries : Nat} {payment : Payment} {ledger : Ledger}
      (recorded : o.ledger.settle draft o.clock = .ok (payment, ledger)) :
      Settles o (.recording draft retries) (.over (.ended (.ok payment.status)))
        { o with ledger := ledger }

theorem settles_of_step {o o' : Office} {own : Bool} {a : Actor} {run : Settlement.Run}
    {step : Settlement.Step} (stepped : o.stepSettlement own a run = some (step, o')) :
    Settles o run step o' := by
  cases run with
  | deciding job =>
      have kept := alike_decide o own
      have pool : (o.decide own).2.pool = o.pool := by
        unfold decide
        split <;> rfl
      simp only [stepSettlement] at stepped
      split at stepped <;> rename_i decided <;> rw [decided] at kept pool <;> cases stepped
      · exact .goesOn kept.core pool fun _ same => same
      · exact .goesOn kept.core pool fun _ same => same
      · exact .ends kept.core pool
      · exact .goesOn kept.core pool fun _ same => same
  | charging job status due =>
      simp only [stepSettlement] at stepped
      split at stepped
      · cases stepped
        exact .goesOn rfl rfl fun _ same => ⟨status, same ▸ rfl⟩
      · cases stepped
  | atGate job status =>
      simp only [stepSettlement] at stepped
      split at stepped
      · cases stepped
        exact .goesOn rfl rfl fun _ same => ⟨status, same ▸ rfl⟩
      · cases stepped
  | stuck job => cases stepped
  | recording draft retries =>
      simp only [stepSettlement] at stepped
      split at stepped
      · rename_i recorded
        cases stepped
        exact .records recorded
      · split at stepped
        · cases stepped
          exact .ends rfl rfl
        · cases stepped
          exact .ends rfl rfl
        · cases stepped
          exact .goesOn rfl rfl fun _ same => same
  | pausing draft retries due =>
      simp only [stepSettlement] at stepped
      split at stepped
      · cases stepped
        exact .goesOn rfl rfl fun _ same => same
      · cases stepped

/-! ### Workers -/

section Workers

variable {o o' : Office} {i k : Nat} {job job' : Settlement.Job} {run run' : Settlement.Run}

/-- Only the worker whose doing is set may have got on. -/
theorem worker_setWorker {p : Pool Settlement.Job Settlement.Run}
    {w : Pool.Worker Settlement.Job Settlement.Run} {deadline : Option Nat}
    (works : (p.setWorker i w).worker k = .running job run deadline) :
    (k = i ∧ w = .running job run deadline) ∨ p.worker k = .running job run deadline := by
  have workers : (p.setWorker i w).workers = p.workers.set i w := by
    unfold Pool.setWorker Pool.settled
    split <;> rfl
  unfold Pool.worker at works ⊢
  rw [workers, List.getElem?_set] at works
  split at works
  · rename_i own
    split at works
    · exact .inl ⟨own.symm, works⟩
    · cases works
  · exact .inr works

/-- What a step of a worker comes to. -/
structure WorkerStep (o : Office) (i : Nat) (o' : Office) : Prop where
  /-- Requests and rows are as they were, or a payment of the worker's job was
  recorded. -/
  core : o'.core = o.core ∨
    ∃ job draft retries payment ledger, o.Works i job (.recording draft retries) ∧
      o.ledger.settle draft o.clock = .ok (payment, ledger) ∧
      o'.core = { o.core with ledger := ledger }
  /-- Whoever works has taken a job from the queue or goes on with its own. -/
  works : ∀ {k job run}, o'.Works k job run → run = .deciding job ∨
    ∃ run', o.Works k job run' ∧ (run'.IsOf job → run.IsOf job)

theorem workerStep_of_step (step : o.stepWorker i = some o') : WorkerStep o i o' := by
  unfold stepWorker at step
  obtain ⟨⟨event, pool, s⟩, worked, rfl⟩ := Option.map_eq_some_iff.mp step
  unfold Pool.work at worked
  split at worked
  · cases worked
  · split at worked
    · split at worked
      · cases worked
      · cases worked
        refine ⟨.inl rfl, fun {k job run} works => .inr ⟨run, ?_, id⟩⟩
        obtain ⟨deadline, works⟩ := works
        rcases worker_setWorker works with ⟨_, busy⟩ | before
        · cases busy
        · exact ⟨deadline, before⟩
    · cases worked
      refine ⟨.inl rfl, fun {k job run} works => ?_⟩
      obtain ⟨deadline, works⟩ := works
      rcases worker_setWorker works with ⟨_, busy⟩ | before
      · cases busy
        exact .inl rfl
      · exact .inr ⟨run, ⟨deadline, before⟩, id⟩
  · rename_i job run deadline busy
    have other {w : Pool.Worker Settlement.Job Settlement.Run}
        (rest : ∀ job' run' deadline', w ≠ .running job' run' deadline') {k : Nat}
        {job' : Settlement.Job} {run' : Settlement.Run}
        (works : ∃ deadline', (o.pool.setWorker i w).worker k = .running job' run' deadline') :
        run' = .deciding job' ∨
          ∃ run, o.Works k job' run ∧ (run.IsOf job' → run'.IsOf job') := by
      obtain ⟨deadline', works⟩ := works
      rcases worker_setWorker works with ⟨_, busy⟩ | before
      · exact absurd busy (rest _ _ _)
      · exact .inr ⟨run', ⟨deadline', before⟩, id⟩
    cases stepped : o.stepSettlement false (.worker i) run with
    | none =>
        have blocked : poolHandler.advance i o.now run o = none := by simp [poolHandler, stepped]
        rw [blocked] at worked
        simp only at worked
        split at worked
        · cases worked
          exact ⟨.inl (alike_cancelSettlement o (.worker i) run).core, other fun _ _ _ busy => by cases busy⟩
        · cases worked
    | some result =>
        obtain ⟨step, o₁⟩ := result
        have settles := settles_of_step stepped
        simp only [poolHandler, stepped, Option.map_some] at worked
        cases settles with
        | goesOn core _ same =>
            cases worked
            refine ⟨.inl core, fun {k job run} works => ?_⟩
            obtain ⟨deadline', works⟩ := works
            rcases worker_setWorker works with ⟨own, goes⟩ | before
            · cases goes
              exact .inr ⟨_, ⟨deadline, own ▸ busy⟩, same _⟩
            · exact .inr ⟨run, ⟨deadline', before⟩, id⟩
        | @ends _ result _ core _ =>
            cases result <;> cases worked <;> exact ⟨.inl core, other fun _ _ _ busy => by cases busy⟩
        | @records draft retries payment ledger recorded =>
            cases worked
            refine ⟨.inr ?_, other fun _ _ _ busy => by cases busy⟩
            exact ⟨job, draft, retries, payment, ledger, ⟨deadline, busy⟩, recorded, rfl⟩

end Workers

/-! ### Rows held from outside -/

/-- The rows are as they were, or one that was held is let go. -/
theorem core_unlock (o : Office) (key : RowKey) :
    (o.unlock key).2.core = o.core ∨
      ∃ t, Keyed.get? key o.held = some t ∧ (o.unlock key).2.core =
        { o.core with ledger := o.ledger.left t key, held := Keyed.erase key o.held } := by
  unfold unlock
  split
  · exact .inl rfl
  · rename_i t held
    refine .inr ⟨t, held, ?_⟩
    cases key <;> rfl

theorem pool_unlock (o : Office) (key : RowKey) : (o.unlock key).2.pool = o.pool := by
  unfold unlock
  split <;> rfl

theorem setup_unlock (o : Office) (key : RowKey) : (o.unlock key).2.setup = o.setup := by
  unfold unlock
  split <;> rfl

theorem stepUnlock_eq_some {o o' : Office} {t : Ticket} (step : o.stepUnlock t = some o') :
    ∃ u, Keyed.get? t o.unlocks = some u ∧ u.due ≤ o.now ∧
      o' = ({ o with unlocks := Keyed.erase t o.unlocks }.unlock u.key).2 := by
  unfold stepUnlock at step
  obtain ⟨u, found, step⟩ := Option.bind_eq_some_iff.mp step
  split at step
  · rename_i due
    exact ⟨u, found, due, (Option.some.inj step).symm⟩
  · cases step

/-! ### Callers -/

/-- Only one request may have got on, and no worker. -/
structure Apart (t : Ticket) (o o' : Office) : Prop where
  setup : o'.setup = o.setup
  tickets : o'.tickets = o.tickets
  tasks : ∀ u, u ≠ t → o'.task? u = o.task? u
  answers : ∀ u, u ≠ t → Keyed.get? u o'.answers = Keyed.get? u o.answers
  works : ∀ {i job run}, o'.Works i job run → o.Works i job run

section Callers

variable {o o' o'' : Office} {t : Ticket}

theorem Alike.apart (alike : Alike o o') : Apart t o o' where
  setup := alike.setup
  tickets := congrArg Core.tickets alike.core
  tasks u _ := alike.task? u
  answers u _ := by rw [alike.answers]
  works := alike.works

theorem Apart.trans (first : Apart t o o') (second : Apart t o' o'') : Apart t o o'' where
  setup := second.setup.trans first.setup
  tickets := second.tickets.trans first.tickets
  tasks u other := (second.tasks u other).trans (first.tasks u other)
  answers u other := (second.answers u other).trans (first.answers u other)
  works works := first.works (second.works works)

theorem apart_setTask (o : Office) (t : Ticket) (task : Task) : Apart t o (o.setTask t task) :=
  ⟨rfl, rfl, fun _ other => Keyed.get?_put_of_ne other task o.tasks, fun _ _ => rfl, id⟩

theorem apart_erase (o : Office) (t : Ticket) :
    Apart t o { o with tasks := Keyed.erase t o.tasks } :=
  ⟨rfl, rfl, fun u other => (Keyed.get?_erase t u o.tasks).trans (if_neg other), fun _ _ => rfl, id⟩

theorem apart_finish (o : Office) (t : Ticket) (answer : Answer) :
    Apart t o (o.finish t answer) :=
  (apart_erase o t).trans
    ⟨rfl, rfl, fun _ _ => rfl, fun _ other => Keyed.get?_put_of_ne other answer o.answers, id⟩

theorem apart_finishBooking (o : Office) (t : Ticket) (seats : Nat)
    (result : Except Booking.Error Booking.View) : Apart t o (o.finishBooking t seats result) := by
  refine (apart_finish o t (.booking result)).trans (Alike.apart ?_)
  exact .of_pool rfl rfl

theorem apart_ledger (o : Office) (l : Ledger) : Apart t o { o with ledger := l } :=
  ⟨rfl, rfl, fun _ _ => rfl, fun _ _ => rfl, id⟩

theorem apart_view (o : Office) (t : Ticket) (b : Booking) (row : Option EventRow) :
    Apart t o (deliver.view t o b row) := by
  cases row <;> exact apart_finish o t _

theorem apart_deliver (o : Office) (t : Ticket) {k : Ledger.Call.Kind} (answer : k.Answer)
    (purpose : Purpose k) : Apart t o (o.deliver t answer purpose) := by
  cases purpose with
  | answer => exact apart_finish o t (.ledger k answer)
  | announce a =>
      cases answer with
      | error e => exact apart_finish o t _
      | ok row => exact apart_setTask o t _
  | attempt event request retries =>
      simp only [deliver]
      split
      · exact apart_setTask o t _
      · exact apart_finishBooking o t _ _
      · exact apart_finish o t _
      · exact apart_setTask o t _
  | lookUp id =>
      cases answer with
      | none => exact apart_finish o t _
      | some b =>
          simp only [deliver]
          split
          · exact (apart_ledger o _).trans (apart_view _ t b _)
          · exact (apart_ledger o _).trans (apart_setTask _ t _)
  | view b => exact apart_view o t b answer

theorem apart_proceed (o : Office) (t : Ticket) {k : Ledger.Call.Kind} (purpose : Purpose k)
    (result : Ledger.Progress k × Ledger) : Apart t o (o.proceed t purpose result) := by
  obtain ⟨progress, l⟩ := result
  cases progress with
  | done answer => exact (apart_ledger o l).trans (apart_deliver _ t answer purpose)
  | further stage => exact (apart_ledger o l).trans (apart_setTask _ t _)

theorem apart_call (o : Office) (t : Ticket) {k : Ledger.Call.Kind} (c : Ledger.Call k)
    (purpose : Purpose k) : Apart t o (o.call t c purpose) :=
  apart_proceed o t purpose _

theorem acquire_eq (o : Office) (t : Ticket) (key : RowKey) :
    o.acquire t key = ((o.acquire t key).1, { o with ledger := o.ledger.asked t key }) := by
  cases key <;> rfl

theorem apart_holdRow (o : Office) (t : Ticket) (key : RowKey) : Apart t o (o.holdRow t key) := by
  have asked : Apart t o { o with ledger := o.ledger.asked t key } := apart_ledger o _
  unfold holdRow
  rw [acquire_eq]
  cases (o.acquire t key).1 with
  | true =>
      refine asked.trans ((apart_finish _ t (.held true)).trans ?_)
      exact ⟨rfl, rfl, fun _ _ => rfl, fun _ _ => rfl, id⟩
  | false => exact asked.trans (apart_setTask _ t _)

theorem apart_beginBooking (o : Office) (t : Ticket) (event user : PublicId) (seats : Nat) :
    Apart t o (o.beginBooking t event user seats) := by
  unfold beginBooking
  split
  · exact apart_finishBooking o t _ _
  · split
    · exact apart_finishBooking o t _ _
    · exact apart_setTask o t _

theorem apart_chooseUser (o : Office) (t : Ticket) (event : EventSnapshot) (user : PublicId)
    (seats : Nat) : Apart t o (o.chooseUser t event user seats) := by
  unfold chooseUser
  split
  · exact apart_finishBooking o t _ _
  · split
    · exact apart_finishBooking o t _ _
    · have drawn : Apart t o o.drawId.2 := (alike_drawId o).apart
      simp only
      split
      · exact drawn.trans (apart_finish _ t _)
      · exact drawn.trans (apart_setTask _ t _)

theorem apart_begin (o : Office) (t : Ticket) (r : Request) : Apart t o (o.begin t r) := by
  cases r with
  | ledger kind c => exact apart_call o t c .answer
  | register draft => exact apart_call o t _ _
  | revise id revision => exact apart_call o t _ _
  | remove id => exact apart_call o t _ _
  | create event user seats => exact apart_beginBooking o t event user seats
  | find booking => exact apart_call o t _ _
  | settle job => exact apart_setTask o t _
  | hold key =>
      simp only [begin]
      split
      · exact apart_holdRow o t key
      · exact apart_finish o t _
  | wait span => exact apart_setTask o t _
  | closePool grace =>
      have closed := alike_closePool o grace
      simp only [begin]
      split <;> rename_i result <;> rw [result] at closed
      · exact closed.apart.trans (apart_finish _ t _)
      · exact closed.apart.trans (apart_setTask _ t _)
  | stopConsumers =>
      simp only [begin]
      split
      · exact apart_finish o t _
      · refine (apart_setTask o t (.stoppingConsumers !o.consumers.isEmpty)).trans (Alike.apart ?_)
        exact .of_pool rfl rfl
  | stopApplication =>
      simp only [begin]
      split
      · split
        · refine (apart_setTask o t .stoppingApplication).trans (Alike.apart ?_)
          exact .of_pool rfl rfl
        · exact apart_finish o t _
      · exact apart_finish o t _

/-- A step of a request touches no other request. -/
theorem apart_stepTask {task : Task} (step : o.stepTask t task = some o') : Apart t o o' := by
  cases task with
  | asked r =>
      cases step
      exact apart_begin o t r
  | atLedger kind stage due purpose =>
      simp only [stepTask] at step
      split at step
      · cases step
        split
        · exact (apart_ledger o _).trans (apart_deliver _ t _ purpose)
        · exact (apart_ledger o _).trans (apart_setTask _ t _)
      · cases step
  | announcing row change =>
      cases step
      exact (alike_announce o change).apart.trans (apart_finish _ t _)
  | choosing event user seats =>
      cases step
      exact apart_chooseUser o t event user seats
  | attempting event request retries =>
      cases step
      exact apart_call o t _ _
  | pausing event request retries due =>
      simp only [stepTask] at step
      split at step
      · cases step
        exact apart_setTask o t _
      · cases step
  | announcingSeats event receipt =>
      cases step
      exact (alike_announce o _).apart.trans (apart_setTask _ t _)
  | handingOver event receipt =>
      cases step
      exact (alike_handOver o _).apart.trans (apart_finishBooking _ t _ _)
  | settling run =>
      simp only [stepTask] at step
      obtain ⟨⟨progress, o₁⟩, settled, rfl⟩ := Option.map_eq_some_iff.mp step
      have kept : Apart t o o₁ := by
        cases settles_of_step settled with
        | goesOn core pool => exact (Alike.of_pool core pool).apart
        | ends core pool => exact (Alike.of_pool core pool).apart
        | records => exact apart_ledger o _
      simp only
      split
      · exact kept.trans (apart_setTask _ t _)
      · exact kept.trans (apart_finish _ t _)
      · exact kept.trans (apart_finish _ t _)
  | holding key =>
      simp only [stepTask] at step
      split at step
      · cases step
        exact apart_holdRow o t key
      · cases step
  | waiting due =>
      simp only [stepTask] at step
      split at step
      · cases step
        exact apart_finish o t _
      · cases step
  | closingPool deadline =>
      simp only [stepTask] at step
      split at step
      · cases step
        exact apart_finish o t _
      · cases step
  | stoppingConsumers told =>
      simp only [stepTask] at step
      split at step
      · cases step
        exact apart_finish o t _
      · cases step
  | stoppingApplication =>
      simp only [stepTask] at step
      split at step
      · cases step
        exact apart_finish o t _
      · cases step

theorem task?_ask (r : Request) (fresh : o.task? o.tickets = none) :
    (o.ask r).2.task? o.tickets = some (.asked r) := by
  unfold task? at fresh
  unfold task? ask
  rw [Keyed.get?_append, fresh]
  exact if_pos rfl

theorem task?_ask_of_ne (o : Office) (r : Request) {u : Ticket} (other : u ≠ o.tickets) :
    (o.ask r).2.task? u = o.task? u := by
  unfold task? ask
  rw [Keyed.get?_append, if_neg (Ne.symm other)]
  cases Keyed.get? u o.tasks <;> rfl

/-- A request that is given up touches no other request. -/
theorem apart_abandon (o : Office) (t : Ticket) : Apart t o (o.abandon t) := by
  unfold abandon
  split
  · exact (apart_ledger o _).trans (apart_erase _ t)
  · exact (alike_cancelSettlement o _ _).apart.trans (apart_erase _ t)
  · exact (apart_ledger o _).trans (apart_erase _ t)
  · exact apart_erase o t

end Callers

/-! ### Moves -/

/-- What a move comes to: most leave requests and rows alone; of the others each
has a case of its own. -/
inductive Moves (o : Office) : Move → Office → Prop
  | alike {m : Move} {o' : Office} (other : ∀ t, m.isBy t = false) (alike : Alike o o') :
      Moves o m o'
  | step {t : Ticket} {task : Task} {o' : Office} (at_ : o.task? t = some task)
      (step : o.stepTask t task = some o') : Moves o (.turn (.caller t)) o'
  | hurried {t : Ticket} {deadline : Nat} (at_ : o.task? t = some (.closingPool deadline)) :
      Moves o (.hurry (.caller t)) (o.abortPool.finish t (.drained false))
  | worked {i : Nat} {o' : Office} (step : WorkerStep o i o') : Moves o (.turn (.worker i)) o'
  | unlocked {m : Move} {o₁ : Office} (other : ∀ t, m.isBy t = false) (alike : Alike o o₁)
      (key : RowKey) : Moves o m (o₁.unlock key).2
  | ask (r : Request) : Moves o (.ask r) (o.ask r).2
  | abandon (t : Ticket) : Moves o (.abandon t) (o.abandon t)
  | take : Moves o .take { o with answers := [] }
  | later (key : RowKey) (span : Span) : Moves o (.unlockAfter key span) (o.unlockAfter key span)
  | failInsert : Moves o .failInsert { o with ledger := o.ledger.failInsert }
  | setHold (hold : Span) : Moves o (.setHold hold) { o with ledger := o.ledger.setHold hold }

theorem moves_of_step {o o' : Office} {a : Actor} (step : Office.step a o = some o') :
    Moves o (.turn a) o' := by
  cases a with
  | caller t =>
      obtain ⟨task, at_, step⟩ := Option.bind_eq_some_iff.mp step
      exact .step at_ step
  | worker i => exact .worked (workerStep_of_step step)
  | consumer i => exact .alike (fun _ => rfl) (alike_stepConsumer step)
  | application => exact .alike (fun _ => rfl) (alike_stepApplication step)
  | unlocking t =>
      obtain ⟨u, _, _, rfl⟩ := stepUnlock_eq_some step
      have alike : Alike o { o with unlocks := Keyed.erase t o.unlocks } := .of_pool rfl rfl
      exact .unlocked (fun _ => rfl) alike u.key

theorem moves_of_hurry {o o' : Office} {a : Actor} (step : Office.hurry a o = some o') :
    Moves o (.hurry a) o' := by
  cases a with
  | caller t =>
      simp only [hurry] at step
      split at step
      · rename_i deadline at_
        split at step
        · cases step
          exact .hurried at_
        · cases step
      · cases step
  | application => exact .alike (fun _ => rfl) (alike_hurryApplication step)
  | worker i => cases step
  | consumer i => cases step
  | unlocking t => cases step

theorem moves_of_apply {o o' : Office} {m : Move} (moved : m.apply o = some o') : Moves o m o' := by
  cases m with
  | turn a => exact moves_of_step moved
  | hurry a => exact moves_of_hurry moved
  | overlook i => exact .alike (fun _ => rfl) (alike_overlook moved)
  | pass now =>
      simp only [Move.apply] at moved
      split at moved
      · cases moved
        exact .alike (fun _ => rfl) (.of_pool rfl rfl)
      · cases moved
  | ask r =>
      cases moved
      exact .ask r
  | abandon t =>
      cases moved
      exact .abandon t
  | take =>
      cases moved
      exact .take
  | unlock key =>
      cases moved
      exact .unlocked (fun _ => rfl) (.refl o) key
  | unlockAfter key span =>
      cases moved
      exact .later key span
  | failInsert =>
      cases moved
      exact .failInsert
  | setHold hold =>
      cases moved
      exact .setHold hold
  | submit job =>
      cases moved
      exact .alike (fun _ => rfl) (alike_submit o job)
  | announce c =>
      cases moved
      exact .alike (fun _ => rfl) (alike_announce o c)
  | announceUser c =>
      cases moved
      exact .alike (fun _ => rfl) (alike_announceUser o c)
  | _ =>
      cases moved
      exact .alike (fun _ => rfl) (.of_pool rfl rfl)

end Office

end BoxOffice
