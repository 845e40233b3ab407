import BoxOffice.Proofs.Office.Stakes
import BoxOffice.Proofs.Pool.Jobs

/-!
# Workers and those who see them off

What a step of a worker comes to, and what a shutdown does to the pool, whether a
request or the application begins it. A worker asks for one decision about each job
that it takes and brings it to the ledger; it gives a job up only when the decision
does not come in time. Whoever shuts the pool down first is in charge of the
workers, and nobody else sends them away.
-/

namespace BoxOffice

/-! ### Jobs and verdicts -/

/-- The job that a payment was recorded for. -/
def Payment.job (p : Payment) : Settlement.Job := ⟨p.bookingId, p.userId, p.amount, p.publicId⟩

def Payment.Draft.job (d : Payment.Draft) : Settlement.Job :=
  ⟨d.bookingId, d.userId, d.amount, d.publicId⟩

/-- What was decided about a job that is run. -/
def Settlement.Run.verdict? : Settlement.Run → Option (Settlement.Job × Payment.Status)
  | .charging job status _ | .atGate job status => some (job, status)
  | .recording p _ | .pausing p _ _ => some (p.job, p.status)
  | .deciding _ | .stuck _ => none

/-- What a decision says about a job, when it says anything. -/
def Settlement.Decision.status? : Settlement.Decision → Option Payment.Status
  | .settles _ status | .passesGate status => some status
  | .panics | .hangs => none

namespace Pool

variable {J R σ : Type}

/-- How far a shutdown gets at once, and the pool after it. -/
inductive Closes (p : Pool J R) : Closing → Pool J R → Prop
  | past (done : p.claimed = true ∨ p.isDeserted = true) : Closes p (.ended true) p.closing
  | sends (first : p.claimed = false) : Closes p (.ended false) p.closing.aborted
  | waits (first : p.claimed = false) (deadline : Nat) : Closes p (.waiting deadline) p.closing

theorem closes_of_close (h : Handler J R σ) (now : Nat) (grace : Span) (p : Pool J R) (s : σ) :
    Closes p (close h now grace p s).1 (close h now grace p s).2.1 := by
  unfold close
  split
  · rename_i done
    exact .past (by simpa using done)
  · rename_i first
    have first : p.claimed = false := by
      cases claimed : p.claimed with
      | false => rfl
      | true => simp [claimed] at first
    split
    · exact .sends first
    · exact .waits first _

end Pool

namespace Office

open Ledger (Ticket)

/-- What was decided about the job of a worker. -/
def verdict? : Pool.Worker Settlement.Job Settlement.Run → Option (Settlement.Job × Payment.Status)
  | .running _ run _ => run.verdict?
  | _ => none

/-! ### Shutdowns -/

section Shutdowns

variable {o o' : Office}

theorem stock_abortPool (o : Office) :
    o.abortPool.stock = { o.stock with pool := o.pool.aborted } := by
  have kept : (Pool.abort poolHandler o.pool o).2.stock = o.stock :=
    congrArg Backdrop.stock (backdrop_abort o o.pool)
  exact congrArg (fun s : Stock => Stock.mk o.pool.aborted s.idsDrawn s.draining) kept

/-- A shutdown does nothing but what it does to the pool. -/
theorem stock_closePool (o : Office) (grace : Span) :
    (o.closePool grace).2.stock = { o.stock with pool := (o.closePool grace).2.pool } := by
  have kept : (Pool.close poolHandler o.now grace o.pool o).2.2.stock = o.stock := by
    unfold Pool.close
    split
    · rfl
    · split
      · exact congrArg Backdrop.stock (backdrop_abort o _)
      · rfl
  exact congrArg (fun s : Stock => Stock.mk _ s.idsDrawn s.draining) kept

theorem closes_of_closePool (o : Office) (grace : Span) :
    o.pool.Closes (o.closePool grace).1 (o.closePool grace).2.pool :=
  Pool.closes_of_close poolHandler o.now grace o.pool o

/-- What a step of the application does to the pool, or its end of waiting. -/
inductive Governs (o o' : Office) : Prop
  | rests (stock : o'.stock = o.stock)
  /-- It begins a shutdown, and is done unless it has to wait for the workers. -/
  | closes {closing : Pool.Closing} {p : Pool Settlement.Job Settlement.Run} {waits : Bool}
      (closes : o.pool.Closes closing p) (stock : o'.stock = ⟨p, o.idsDrawn, waits⟩)
      (waiting : waits = true → ∃ deadline, closing = .waiting deadline)
  | leaves (waited : o.stock.draining = true) (deserted : o.pool.isDeserted = true)
      (stock : o'.stock = { o.stock with draining := false })
  | aborts (waited : o.stock.draining = true)
      (stock : o'.stock = { o.stock with pool := o.pool.aborted, draining := false })

theorem governs_drainPool (o : Office) (a : Application) (deadline : Nat) (clean : Bool) :
    Governs o (o.drainPool a deadline clean) := by
  have closes := closes_of_closePool o (.ofMillis (deadline - o.now))
  have stock := stock_closePool o (.ofMillis (deadline - o.now))
  unfold drainPool
  split <;> rename_i result <;> rw [result] at closes stock
  · have ids := congrArg Stock.idsDrawn stock
    exact .closes closes (congrArg (Stock.mk _ · false) ids) (by rintro ⟨⟩)
  · have ids := congrArg Stock.idsDrawn stock
    exact .closes closes (congrArg (Stock.mk _ · true) ids) fun _ => ⟨_, rfl⟩

/-- An application that turns to something else, where it neither began nor begins to
wait for the workers. -/
theorem Governs.turns {a : Application} {stage : Application.Stage}
    (runs : o.application = some a) (before : a.isDraining = false)
    (after : Application.isDraining { a with stage := stage } = false) :
    Governs o (o.setApplication a stage) := by
  refine .rests ?_
  unfold stock setApplication
  simp only [runs, Option.any_some, before, after]

/-- Telling the consumers to stop is nothing to the pool. -/
theorem Governs.told (governs : Governs o.tellConsumers o') : Governs o o' := by
  cases governs with
  | rests stock => exact .rests stock
  | closes closes stock waiting => exact .closes closes stock waiting
  | leaves waited deserted stock => exact .leaves waited deserted stock
  | aborts waited stock => exact .aborts waited stock

/-- The application draws no identifier. -/
theorem Governs.idsDrawn (governs : Governs o o') : o'.idsDrawn = o.idsDrawn := by
  cases governs with
  | rests stock => exact congrArg Stock.idsDrawn stock
  | closes _ stock _ => exact congrArg Stock.idsDrawn stock
  | leaves _ _ stock => exact congrArg Stock.idsDrawn stock
  | aborts _ stock => exact congrArg Stock.idsDrawn stock

theorem governs_stepApplication (step : o.stepApplication = some o') : Governs o o' := by
  unfold stepApplication at step
  obtain ⟨a, runs, step⟩ := Option.bind_eq_some_iff.mp step
  split at step
  · cases step
  · cases step
  · rename_i stage
    have idle : a.isDraining = false := by rw [Application.isDraining, stage]
    cases step
    split
    · exact .told (governs_drainPool _ a _ _)
    · exact .told (.turns (o := o.tellConsumers) runs idle rfl)
  · rename_i i deadline clean stage
    have idle : a.isDraining = false := by rw [Application.isDraining, stage]
    split at step
    · cases step
      exact governs_drainPool o a deadline clean
    · split at step <;> cases step
      exact .turns runs idle rfl
  · rename_i deadline clean stage
    have waited : o.stock.draining = true := by
      unfold stock
      simp only [runs, Option.any_some, Application.isDraining, stage]
    split at step <;> cases step
    rename_i deserted
    exact .leaves waited deserted rfl

theorem governs_hurryApplication (step : o.hurryApplication = some o') : Governs o o' := by
  unfold hurryApplication at step
  obtain ⟨a, runs, step⟩ := Option.bind_eq_some_iff.mp step
  split at step
  · rename_i i deadline clean stage
    have idle : a.isDraining = false := by rw [Application.isDraining, stage]
    split at step <;> cases step
    exact .turns runs idle rfl
  · rename_i deadline clean stage
    have waited : o.stock.draining = true := by
      unfold stock
      simp only [runs, Option.any_some, Application.isDraining, stage]
    split at step <;> cases step
    refine .aborts waited ?_
    have aborted := stock_abortPool o
    exact congrArg (fun s : Stock => Stock.mk s.pool s.idsDrawn false) aborted
  · cases step

end Shutdowns

/-! ### Workers -/

section Workers

variable {o o' : Office} {i : Nat}

/-- Whether a worker gets its decision, when it asks for one and when its time is up. -/
def decidesInTime (o : Office) (i : Nat) : Bool :=
  match o.pool.worker i with
  | .running _ (.deciding _) _ => (o.decide false).1 != .panics
  | .running _ run deadline =>
    !deadline.any (· ≤ o.now) || (o.stepSettlement false (.worker i) run).isSome
  | _ => true

/-- What a step of a worker that gets its decisions in time comes to, by the pool and
the ledger after it. -/
inductive Toils (o : Office) (i : Nat) : Pool Settlement.Job Settlement.Run → Ledger → Prop
  | retires (idle : o.pool.workers[i]? = some .idle) (empty : o.pool.queue = [])
      (closed : o.pool.accepting = false) :
      Toils o i { o.pool with workers := o.pool.workers.set i .gone } o.ledger
  | starts {job : Settlement.Job} {rest : List Settlement.Job} {deadline : Option Nat}
      (idle : o.pool.workers[i]? = some .idle) (waits : o.pool.queue = job :: rest) :
      Toils o i { o.pool with
        queue := rest
        workers := o.pool.workers.set i (.running job (.deciding job) deadline) } o.ledger
  | decides {job asked : Settlement.Job} {run : Settlement.Run} {deadline : Option Nat}
      (busy : o.pool.workers[i]? = some (.running job (.deciding asked) deadline))
      (decided : run.verdict? = (o.decide false).1.status?.map fun status => (asked, status)) :
      Toils o i { o.pool with workers := o.pool.workers.set i (.running job run deadline) } o.ledger
  | goesOn {job : Settlement.Job} {run run' : Settlement.Run} {deadline : Option Nat}
      (busy : o.pool.workers[i]? = some (.running job run deadline))
      (unasked : ∀ asked, run ≠ .deciding asked) (same : run'.verdict? = run.verdict?) :
      Toils o i { o.pool with workers := o.pool.workers.set i (.running job run' deadline) } o.ledger
  | records {job : Settlement.Job} {d : Payment.Draft} {retries : Nat} {deadline : Option Nat}
      {p : Payment} {l : Ledger}
      (busy : o.pool.workers[i]? = some (.running job (.recording d retries) deadline))
      (recorded : o.ledger.settle d o.clock = .ok (p, l)) :
      Toils o i { o.pool with workers := o.pool.workers.set i .idle } l
  /-- The ledger does not take the payment. -/
  | fails {job : Settlement.Job} {d : Payment.Draft} {retries : Nat} {deadline : Option Nat}
      {e : Settlement.Error} {w : Pool.Worker Settlement.Job Settlement.Run}
      (busy : o.pool.workers[i]? = some (.running job (.recording d retries) deadline))
      (refused : o.ledger.settle d o.clock = .error e) (stays : w.isGone = false) :
      Toils o i { o.pool with workers := o.pool.workers.set i w } o.ledger

/-- What a step of a run comes to that is not given up. -/
theorem toils_of_stepSettlement {job : Settlement.Job} {run : Settlement.Run}
    {deadline : Option Nat} {result : Settlement.Step} {o₁ : Office}
    (busy : o.pool.workers[i]? = some (.running job run deadline))
    (calm : ∀ asked, run = .deciding asked → (o.decide false).1 ≠ .panics)
    (stepped : o.stepSettlement false (.worker i) run = some (result, o₁)) :
    match result with
    | .on run' =>
      Toils o i { o.pool with workers := o.pool.workers.set i (.running job run' deadline) } o₁.ledger
    | .over _ => Toils o i { o.pool with workers := o.pool.workers.set i .idle } o₁.ledger := by
  cases run with
  | deciding asked =>
      have kept := (alike_decide o false).ledger
      have calm := calm asked rfl
      simp only [stepSettlement] at stepped
      have decides {run' : Settlement.Run} (decided : run'.verdict? =
          (o.decide false).1.status?.map fun status => (asked, status)) :
          Toils o i { o.pool with workers := o.pool.workers.set i (.running job run' deadline) }
            (o.decide false).2.ledger := by
        rw [kept]
        exact .decides busy decided
      split at stepped <;> rename_i decided <;> rw [decided] at decides calm <;> cases stepped
      · exact decides rfl
      · exact decides rfl
      · exact absurd rfl calm
      · exact decides rfl
  | charging asked status due =>
      simp only [stepSettlement] at stepped
      split at stepped <;> cases stepped
      exact .goesOn busy (by rintro _ ⟨⟩) rfl
  | atGate asked status =>
      simp only [stepSettlement] at stepped
      split at stepped <;> cases stepped
      exact .goesOn busy (by rintro _ ⟨⟩) rfl
  | stuck asked => cases stepped
  | recording d retries =>
      simp only [stepSettlement] at stepped
      split at stepped
      · rename_i recorded
        cases stepped
        exact .records busy recorded
      · rename_i refused
        split at stepped <;> cases stepped <;> exact .fails busy refused rfl
  | pausing d retries due =>
      simp only [stepSettlement] at stepped
      split at stepped <;> cases stepped
      exact .goesOn busy (by rintro _ ⟨⟩) rfl

/-- A decision that is asked for is there at once, even if it is to panic. -/
theorem isSome_deciding (o : Office) (own : Bool) (a : Actor) (asked : Settlement.Job) :
    (o.stepSettlement own a (.deciding asked)).isSome = true := by
  simp only [stepSettlement]
  split <;> rfl

/-- A worker that gets its decisions in time gives no job up. -/
theorem toils_of_step (timely : o.decidesInTime i = true) (step : o.stepWorker i = some o') :
    Toils o i o'.pool o'.ledger ∧ o'.stock = { o.stock with pool := o'.pool } := by
  unfold stepWorker at step
  obtain ⟨⟨event, pool, o₁⟩, worked, rfl⟩ := Option.map_eq_some_iff.mp step
  unfold Pool.work at worked
  split at worked
  · cases worked
  · rename_i idle
    have idle := Pool.worker_eq idle (by simp)
    split at worked
    · rename_i empty
      split at worked
      · cases worked
      · rename_i closed
        cases worked
        have after : o.pool.setWorker i .gone = _ := Pool.setWorker_eq idle (.inl empty)
        exact ⟨after ▸ .retires idle empty (Bool.eq_false_iff.mpr closed), rfl⟩
    · rename_i job rest waits
      cases worked
      have after : o.pool.dequeued.setWorker i
          (.running job (.deciding job) (o.pool.deadline o.now)) = _ :=
        Pool.setWorker_eq (p := o.pool.dequeued) idle (.inr rfl)
      have toils : Toils o i (o.pool.dequeued.setWorker i
          (.running job (.deciding job) (o.pool.deadline o.now))) o.ledger := by
        rw [after, Pool.dequeued, waits]
        exact .starts idle waits
      exact ⟨toils, rfl⟩
  · rename_i job run deadline busy
    unfold decidesInTime at timely
    rw [busy] at timely
    have busy := Pool.worker_eq busy (by simp)
    cases stepped : o.stepSettlement false (.worker i) run with
    | none =>
        -- The time is not up, since the decision is not there.
        have blocked : poolHandler.advance i o.now run o = none := by simp [poolHandler, stepped]
        rw [blocked] at worked
        simp only at worked
        split at worked
        · rename_i late
          cases run with
          | deciding asked =>
              have there := isSome_deciding o false (.worker i) asked
              rw [stepped] at there
              cases there
          | _ => simp [late, stepped] at timely
        · cases worked
    | some result =>
        obtain ⟨progress, o₂⟩ := result
        have kept : o₂.stock = o.stock := congrArg Backdrop.stock (backdrop_stepSettlement stepped)
        have calm (asked : Settlement.Job) (asks : run = .deciding asked) :
            (o.decide false).1 ≠ .panics := by
          subst asks
          simpa using timely
        have toils := toils_of_stepSettlement busy calm stepped
        simp only [poolHandler, stepped, Option.map_some] at worked
        have after (w : Pool.Worker Settlement.Job Settlement.Run) (there : w.isGone = false) :
            o.pool.setWorker i w = { o.pool with workers := o.pool.workers.set i w } :=
          Pool.setWorker_eq busy (.inr there)
        have stock (p : Pool Settlement.Job Settlement.Run) :
            Stock.mk p o₂.stock.idsDrawn o₂.stock.draining = { o.stock with pool := p } := by
          rw [kept]
        rcases progress with outcome | run'
        · cases outcome <;> cases worked <;> exact ⟨after .idle rfl ▸ toils, stock _⟩
        · cases worked
          exact ⟨after (.running job run' deadline) rfl ▸ toils, stock _⟩

namespace Toils

variable {p : Pool Settlement.Job Settlement.Run} {l : Ledger}

theorem present (toils : Toils o i p l) :
    ∃ w, o.pool.workers[i]? = some w ∧ w.isGone = false := by
  cases toils with
  | retires idle => exact ⟨_, idle, rfl⟩
  | starts idle => exact ⟨_, idle, rfl⟩
  | decides busy => exact ⟨_, busy, rfl⟩
  | goesOn busy => exact ⟨_, busy, rfl⟩
  | records busy => exact ⟨_, busy, rfl⟩
  | fails busy => exact ⟨_, busy, rfl⟩

theorem claimed_eq (toils : Toils o i p l) : p.claimed = o.pool.claimed := by
  cases toils <;> rfl

/-- A worker goes only when nothing waits. -/
theorem empty (toils : Toils o i p l) (deserted : p.isDeserted = true) : p.queue = [] := by
  obtain ⟨w, found, -⟩ := toils.present
  have lt : i < o.pool.workers.length := (List.getElem?_eq_some_iff.mp found).1
  have stays {w : Pool.Worker Settlement.Job Settlement.Run} (there : w.isGone = false)
      {q : List Settlement.Job}
      (deserted : Pool.isDeserted
        { o.pool with queue := q, workers := o.pool.workers.set i w } = true) : False := by
    have occupied := Pool.isDeserted_eq_false
      (p := { o.pool with queue := q, workers := o.pool.workers.set i w }) (List.mem_set lt w) there
    cases occupied.symm.trans deserted
  cases toils with
  | retires idle empty => exact empty
  | starts => exact (stays rfl deserted).elim
  | decides => exact (stays rfl deserted).elim
  | goesOn => exact (stays rfl deserted).elim
  | records => exact (stays rfl deserted).elim
  | fails _ _ there => exact (stays there deserted).elim

end Toils

end Workers

end Office

end BoxOffice
