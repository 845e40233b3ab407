import BoxOffice.Metrics
import BoxOffice.Pool

/-!
# The work of a pool

How a worker gets on: it takes a job, brings its run forward, and gives it up at the deadline. What jobs
do is told by a `Handler` over a state of its own. A job that panics while it runs costs the worker
nothing; one that panics while its run is being set up takes the worker with it.

A shutdown waits for the workers for a while, unless somebody else has taken charge of them. It answers
whether they went in time; those that did not are sent away.
-/

namespace BoxOffice.Pool

/-- How far a run got. -/
inductive Progress (R : Type)
  | finished
  | panicked
  /-- It has to be brought forward again. -/
  | on (run : R)
  deriving DecidableEq, Repr

/-- What jobs do to a state. A worker is known by its number. -/
structure Handler (J R σ : Type) where
  /-- Sets up the run of a job, or panics. -/
  begin : J → σ → Option R × σ
  /-- Brings the run of a worker's job forward at an instant, when that is possible. -/
  advance : Nat → Nat → R → σ → Option (Progress R × σ)
  /-- Ends a run that is given up. -/
  cancel : Nat → R → σ → σ

/-- What a worker did. -/
inductive Event
  | started
  /-- It took a job that took the worker with it. -/
  | broke
  | went
  | completed
  | panicked
  /-- It gave its job up at the deadline. -/
  | timedOut
  /-- It went because the pool closes. -/
  | retired
  deriving DecidableEq, Repr

/-- Counts what a worker did, under the name of the pool. -/
def Event.record (m : Metrics) (pool : String) : Event → Metrics
  | started | broke => m.poolDepth pool (-1)
  | completed => m.poolJob pool "completed"
  | panicked => m.poolJob pool "panicked"
  | timedOut => m.poolJob pool "timed_out"
  | went | retired => m

/-- Counts what became of a job that was given to a pool. -/
def recordSubmission {J α : Type} (m : Metrics) (pool : String) : Except (Refusal J) α → Metrics
  | .ok _ => (m.poolJob pool "accepted").poolDepth pool 1
  | .error (.busy _) => m.poolJob pool "busy"
  | .error (.closed _) => m

variable {J R σ : Type}

/-- The next thing that a worker does at an instant. A run that can be brought forward is, even at its
deadline. -/
def work (h : Handler J R σ) (now i : Nat) (p : Pool J R) (s : σ) :
    Option (Event × Pool J R × σ) :=
  match p.worker i with
  | .gone => none
  | .idle =>
    match p.queue with
    | [] => if p.accepting then none else some (.retired, p.setWorker i .gone, s)
    | job :: _ =>
      match h.begin job s with
      | (none, s) => some (.broke, p.dequeued.setWorker i .gone, s)
      | (some run, s) =>
        some (.started, p.dequeued.setWorker i (.running job run (p.deadline now)), s)
  | .running job run deadline =>
    match h.advance i now run s with
    | some (.finished, s) => some (.completed, p.setWorker i .idle, s)
    | some (.panicked, s) => some (.panicked, p.setWorker i .idle, s)
    | some (.on run, s) => some (.went, p.setWorker i (.running job run deadline), s)
    | none =>
      if deadline.any (· ≤ now) then some (.timedOut, p.setWorker i .idle, h.cancel i run s)
      else none

/-- Sends all workers away and ends the runs they are in. -/
def abort (h : Handler J R σ) (p : Pool J R) (s : σ) : Pool J R × σ :=
  (p.aborted, p.workers.zipIdx.foldl (fun s (w, i) =>
    match w with
    | .running _ run _ => h.cancel i run s
    | _ => s) s)

/-- How far a shutdown got. -/
inductive Closing
  /-- It is over: whether all workers that it waited for went in time. -/
  | ended (drained : Bool)
  /-- It waits for the workers until an instant. -/
  | waiting (deadline : Nat)
  deriving DecidableEq, Repr

/-- Begins a shutdown. Without time to wait it is over at once. -/
def close (h : Handler J R σ) (now : Nat) (grace : Span) (p : Pool J R) (s : σ) :
    Closing × Pool J R × σ :=
  if p.claimed || p.isDeserted then (.ended true, p.closing, s)
  else if grace.ticks = 0 then (.ended false, abort h p.closing s)
  else (.waiting (now + grace.ticks), p.closing, s)

end BoxOffice.Pool
