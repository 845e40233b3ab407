import BoxOffice.Gate
import BoxOffice.Pool.Shift
import BoxOffice.Schedule
import BoxOffice.Text.Directive

/-!
# Trying a pool out

A trial gives a pool jobs that behave as told, and notes which were started and which came to their end.
It has a single caller, who waits, or shuts the pool down, one thing after the other.
-/

namespace BoxOffice.Pool.Trial

/-- How a job behaves. -/
inductive Behaviour
  | ends
  | panics
  /-- It panics while its run is being set up. -/
  | breaks
  | sleeps (span : Span)
  /-- It has to pass the gate. -/
  | passesGate
  | hangs
  deriving DecidableEq, Repr

/-- How the job behaves that a directive stands for. Every unknown directive stands for a panic. -/
def Behaviour.ofDirective (s : String) : Behaviour :=
  if s = "ok" then .ends
  else if s = "gate" then .passesGate
  else if s = "hang" then .hangs
  else if s = "panic_now" then .breaks
  else (Text.numberArgument? "sleep" s).elim .panics fun ms => .sleeps (.ofMillis ms)

/-- A job. -/
structure Job where
  /-- The number it is noted under. -/
  id : Int
  behaviour : Behaviour
  deriving DecidableEq, Repr

/-- How far a job got. -/
inductive Stage
  | begun
  | asleep (due : Nat)
  | atGate
  | stuck
  deriving DecidableEq, Repr

/-- A job in the hands of a worker. -/
structure Run where
  job : Job
  stage : Stage
  deriving DecidableEq, Repr

/-- What the caller does. -/
inductive Task
  | none
  | waiting (due : Nat)
  /-- It waits for the workers of the pool to go. -/
  | closing (deadline : Nat)
  /-- It has shut the pool down. -/
  | closed (drained : Bool)
  deriving DecidableEq, Repr

/-- The actors of a trial. -/
inductive Actor
  | caller
  | worker (i : Nat)
  deriving DecidableEq, Repr

end Trial

/-- A pool that is tried out. -/
structure Trial where
  /-- The name of the pool in the metrics. -/
  name : String
  now : Nat
  pool : Pool Trial.Job Trial.Run
  /-- The gate, where workers wait. -/
  gate : Gate Nat
  /-- The jobs that were started since the last look. -/
  started : List Int
  /-- The jobs that came to their end since the last look. -/
  finished : List Int
  metrics : Metrics
  task : Trial.Task
  deriving Repr

namespace Trial

/-- A trial of a pool. -/
def ofSizing (name : String) (s : Sizing) : Trial :=
  ⟨name, 0, .ofSizing s, .shut, [], [], .empty, .none⟩

/-- The next step of a job in the hands of a worker. -/
def advance (worker now : Nat) (r : Run) (x : Trial) : Option (Progress Run × Trial) :=
  let finished : Option (Progress Run × Trial) :=
    some (.finished, { x with finished := x.finished ++ [r.job.id] })
  let on (stage : Stage) (x : Trial) : Option (Progress Run × Trial) :=
    some (.on { r with stage := stage }, x)
  match r.stage with
  | .begun =>
    match r.job.behaviour with
    | .ends => finished
    | .panics | .breaks => some (.panicked, x)
    | .sleeps span => on (.asleep (now + span.ticks)) x
    | .passesGate => on .atGate { x with gate := x.gate.enter worker }
    | .hangs => on .stuck x
  | .asleep due => if due ≤ now then finished else none
  | .atGate =>
    if x.gate.admits worker then
      some (.finished, { x with finished := x.finished ++ [r.job.id], gate := x.gate.pass worker })
    else none
  | .stuck => none

/-- What jobs do to a trial. -/
def handler : Handler Job Run Trial where
  begin job x :=
    (if job.behaviour = .breaks then none else some ⟨job, .begun⟩,
      { x with started := x.started ++ [job.id] })
  advance := advance
  cancel worker r x :=
    if r.stage = .atGate then { x with gate := x.gate.leave worker } else x

/-- Gives the pool a job. -/
def submit (x : Trial) (job : Job) : Except (Refusal Job) Unit × Trial :=
  let result := x.pool.submit job
  let x := { x with metrics := recordSubmission x.metrics x.name result }
  match result with
  | .ok pool => (.ok (), { x with pool := pool })
  | .error e => (.error e, x)

/-- Gives the pool jobs, one after another. -/
def submitAll (x : Trial) : List Job → List (Except (Refusal Job) Unit) × Trial
  | [] => ([], x)
  | job :: rest =>
    let (result, x) := x.submit job
    let (results, x) := x.submitAll rest
    (result :: results, x)

/-- Adds permits to the gate. -/
def release (x : Trial) (n : Nat) : Trial := { x with gate := x.gate.release n }

/-- Lets the caller wait. -/
def wait (x : Trial) (span : Span) : Trial := { x with task := .waiting (x.now + span.ticks) }

/-- Lets the caller shut the pool down. -/
def close (x : Trial) (grace : Span) : Trial :=
  let (closing, pool, x) := Pool.close handler x.now grace x.pool x
  let task :=
    match closing with
    | .ended drained => .closed drained
    | .waiting deadline => .closing deadline
  { x with pool := pool, task := task }

/-- The next step of an actor. -/
def run (a : Actor) (x : Trial) : Option Trial :=
  match a with
  | .caller =>
    match x.task with
    | .waiting due => if due ≤ x.now then some { x with task := .none } else none
    | .closing _ => if x.pool.isDeserted then some { x with task := .closed true } else none
    | _ => none
  | .worker i =>
    (work handler x.now i x.pool x).map fun (event, pool, x) =>
      { x with pool := pool, metrics := event.record x.metrics x.name }

/-- The caller gives up waiting for the workers. -/
def giveUp (a : Actor) (x : Trial) : Option Trial :=
  match a, x.task with
  | .caller, .closing deadline =>
    if deadline ≤ x.now then
      let (pool, x) := abort handler x.pool x
      some { x with pool := pool, task := .closed false }
    else none
  | _, _ => none

/-- The instants that somebody waits for. -/
def dues (x : Trial) : List Nat :=
  let caller :=
    match x.task with
    | .waiting due | .closing due => [due]
    | _ => []
  caller ++ x.pool.workers.flatMap fun w =>
    match w with
    | .running _ run deadline =>
      deadline.toList ++ match run.stage with | .asleep due => [due] | _ => []
    | _ => []

/-- A trial as a system of actors. -/
def system : Schedule.System Trial Actor where
  callers _ := [.caller]
  others x := (List.range x.pool.workers.length).map .worker
  run := run
  giveUp := giveUp
  dues := dues
  now := Trial.now
  setNow n x := { x with now := n }

/-- Whether the caller has nothing left to wait for. -/
def isDone (x : Trial) : Bool :=
  match x.task with
  | .waiting _ | .closing _ => false
  | _ => true

/-- The trial without notes and without a result of the caller. -/
def looked (x : Trial) : Trial := { x with started := [], finished := [], task := .none }

/-- A trial and the turns of its actors. -/
abbrev Session := Schedule.Session Trial Actor

/-- Goes on from another state of the trial, until the caller has nothing left to wait for. -/
def Session.proceed (x : Session) (t : Trial) : Session :=
  Schedule.Session.await system isDone { x with state := t }

/-- A trial whose workers wait for jobs. -/
def begin (name : String) (s : Sizing) : Session :=
  Session.proceed ⟨ofSizing name s, []⟩ (ofSizing name s)

end Trial

end BoxOffice.Pool
