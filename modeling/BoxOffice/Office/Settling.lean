import BoxOffice.Office

/-!
# Settling in the office

How a settlement gets on, in a worker of the pool or by itself, and how jobs come into the pool.
-/

namespace BoxOffice.Office

/-- Asks for the next decision about a charge. A settlement outside the pool has a decider of its own. -/
def decide (o : Office) (own : Bool) : Settlement.Decision × Office :=
  if own then
    let (decision, decider) := o.ownDecider.decide o.setup.charge
    (decision, { o with ownDecider := decider })
  else
    let (decision, decider) := o.decider.decide o.setup.charge
    (decision, { o with decider := decider })

/-- The next step of a settlement in the hands of an actor, when it can get on. -/
def stepSettlement (own : Bool) (a : Actor) (run : Settlement.Run) (o : Office) :
    Option (Settlement.Step × Office) :=
  match run with
  | .deciding job =>
    match o.decide own with
    | (.settles after status, o) => some (.on (.charging job status (o.now + after.ticks)), o)
    | (.passesGate status, o) =>
      some (.on (.atGate job status), { o with gate := o.gate.enter a })
    | (.panics, o) => some (.over (.panicked none), o)
    | (.hangs, o) => some (.on (.stuck job), o)
  | .charging job status due =>
    if due ≤ o.now then some (.on (.recording (job.payment status) 0), o) else none
  | .atGate job status =>
    if o.gate.admits a then
      some (.on (.recording (job.payment status) 0), { o with gate := o.gate.pass a })
    else none
  | .stuck _ => none
  | .recording payment retries =>
    match o.ledger.settle payment o.clock with
    | .ok (recorded, ledger) =>
      some (.over (.ended (.ok recorded.status)), { o with ledger := ledger })
    | .error e =>
      match Retry.verdict o.setup.settleRetry Settlement.Error.isTransient o.setup.spread retries
        (.error e) with
      | .stop (.ended result) => some (.over (.ended result), o)
      | .stop (.panicked fault) => some (.over (.panicked (some fault)), o)
      | .again wait => some (.on (.pausing payment retries (o.now + wait.ticks)), o)
  | .pausing payment retries due =>
    if due ≤ o.now then some (.on (.recording payment (retries + 1)), o) else none

/-- Gives a settlement up. -/
def cancelSettlement (a : Actor) (run : Settlement.Run) (o : Office) : Office :=
  match run with
  | .atGate .. => { o with gate := o.gate.leave a }
  | _ => o

/-! ### The pool -/

/-- The name of the pool in the metrics. -/
def poolName : String := "settlement"

/-- What the jobs of the pool do to the office. The end of each settlement is counted. -/
def poolHandler : Pool.Handler Settlement.Job Settlement.Run Office where
  begin job o := (some (.deciding job), o)
  advance i _ run o :=
    (o.stepSettlement false (.worker i) run).map fun (step, o) =>
      match step with
      | .on run => (.on run, o)
      | .over (.panicked _) => (.panicked, o)
      | .over (.ended result) =>
        (.finished, { o with metrics := o.metrics.settlement (Settlement.outcome result) })
  cancel i run o := o.cancelSettlement (.worker i) run

/-- The next step of a worker. -/
def stepWorker (i : Nat) (o : Office) : Option Office :=
  (Pool.work poolHandler o.now i o.pool o).map fun (event, pool, o) =>
    { o with pool := pool, metrics := event.record o.metrics poolName }

/-- Gives the pool a job. -/
def submit (o : Office) (job : Settlement.Job) :
    Except (Pool.Refusal Settlement.Job) Unit × Office :=
  let result := o.pool.submit job
  let o := { o with metrics := Pool.recordSubmission o.metrics poolName result }
  match result with
  | .ok pool => (.ok (), { o with pool := pool })
  | .error refusal => (.error refusal, o)

/-- Gives the pool jobs, one after another. -/
def submitAll (o : Office) :
    List Settlement.Job → List (Except (Pool.Refusal Settlement.Job) Unit) × Office
  | [] => ([], o)
  | job :: rest =>
    let (result, o) := o.submit job
    let (results, o) := o.submitAll rest
    (result :: results, o)

/-- Gives the pool the job of settling a booking that was just made. A booking whose job is refused stays
pending. -/
def handOver (o : Office) (b : Booking) : Office :=
  let (paymentId, o) := o.drawId
  match o.submit (.ofBooking b paymentId) with
  | (.ok (), o) => { o with metrics := o.metrics.settlement "submitted" }
  | (.error _, o) => { o with metrics := o.metrics.settlement "rejected" }

/-- Begins to shut the pool down. -/
def closePool (o : Office) (grace : Span) : Pool.Closing × Office :=
  let (closing, pool, o) := Pool.close poolHandler o.now grace o.pool o
  (closing, { o with pool := pool })

/-- Sends the workers of the pool away. -/
def abortPool (o : Office) : Office :=
  let (pool, o) := Pool.abort poolHandler o.pool o
  { o with pool := pool }

end BoxOffice.Office
