import BoxOffice.Pool.Refusal
import BoxOffice.Pool.Sizing

/-!
# Worker pools

A pool has a queue of bounded length and a fixed number of workers. A job that is accepted waits at the
end of the queue until an idle worker takes it. `J` is the type of jobs and `R` that of the runs they are
in while a worker is busy with them.

Shutting down has two sides. The pool accepts nothing from then on, and each worker goes once the queue is
empty and its own job has ended. The first one to shut the pool down takes charge of the workers: it
learns when all of them are gone, and may send them away before that. Jobs that wait when no worker is
left are lost.
-/

namespace BoxOffice

namespace Pool

/-- What a worker does. -/
inductive Worker (J R : Type)
  | idle
  /-- It runs a job, until a deadline when there is one. -/
  | running (job : J) (run : R) (deadline : Option Nat)
  /-- It does nothing any more. -/
  | gone
  deriving DecidableEq, Repr

/-- Whether a worker is gone. -/
def Worker.isGone {J R : Type} : Worker J R → Bool
  | gone => true
  | _ => false

end Pool

/-- A pool of workers. -/
structure Pool (J R : Type) where
  sizing : Pool.Sizing
  /-- The jobs that wait, the first one first. -/
  queue : List J
  /-- Whether no shutdown has begun. -/
  accepting : Bool
  /-- Whether somebody has taken charge of the workers to see them off. -/
  claimed : Bool
  workers : List (Pool.Worker J R)
  deriving DecidableEq, Repr

namespace Pool

variable {J R : Type}

/-- A pool whose workers wait for jobs. -/
def ofSizing (s : Sizing) : Pool J R := ⟨s, [], true, false, List.replicate s.workers .idle⟩

/-- Whether no worker is left. -/
def isDeserted (p : Pool J R) : Bool := p.workers.all (·.isGone)

/-- Whether jobs may be accepted. -/
def isOpen (p : Pool J R) : Bool := p.accepting && !p.isDeserted

/-- How many jobs wait, as far as those outside can tell. -/
def depth (p : Pool J R) : Nat := if p.isOpen then p.queue.length else 0

/-- Gives the pool a job. -/
def submit (p : Pool J R) (job : J) : Except (Refusal J) (Pool J R) :=
  if p.isOpen then
    if p.queue.length < p.sizing.capacity then .ok { p with queue := p.queue ++ [job] }
    else .error (.busy job)
  else .error (.closed job)

/-- What a worker does. A number without a worker stands for one that is gone. -/
def worker (p : Pool J R) (i : Nat) : Worker J R := (p.workers[i]?).getD .gone

/-- The pool after what waits was lost, when no worker is left. -/
def settled (p : Pool J R) : Pool J R := if p.isDeserted then { p with queue := [] } else p

/-- The pool with a worker doing something else. -/
def setWorker (p : Pool J R) (i : Nat) (w : Worker J R) : Pool J R :=
  settled { p with workers := p.workers.set i w }

/-- The pool after its first job was taken out of the queue. -/
def dequeued (p : Pool J R) : Pool J R := { p with queue := p.queue.tail }

/-- The instant by which a job that is taken now has to end. -/
def deadline (p : Pool J R) (now : Nat) : Option Nat :=
  p.sizing.jobTimeout.map fun timeout => now + timeout.ticks

/-- The pool from the begin of a shutdown on. -/
def closing (p : Pool J R) : Pool J R := { p with accepting := false, claimed := true }

/-- The pool after all workers were sent away. -/
def aborted (p : Pool J R) : Pool J R :=
  settled { p with workers := p.workers.map fun _ => .gone }

end Pool

end BoxOffice
