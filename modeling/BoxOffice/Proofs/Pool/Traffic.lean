import BoxOffice.Pool.Shift

/-!
# A pool in use

`Traffic` is a pool with all that has gone on at it since it was opened: the jobs
it took, in the order in which it took them, the ones it handed back, the jobs
that workers started, and those that ended, each with its outcome. It also tells
how far the first shutdown got.

The steps are those of the pool itself. Jobs are given to it, its workers get on
one at a time and in any order, time goes by, and somebody shuts it down. What a
job does is up to a handler over a state of its own, and whatever is around the
pool may change that state between two steps. So every order in which jobs come,
are taken, end, panic and run out of time is the order of some run.
-/

namespace BoxOffice.Pool

variable {J R σ : Type}

/-- How a job ended. -/
inductive Outcome
  | completed
  | panicked
  | timedOut
  deriving DecidableEq, Repr

/-- The job that a worker runs. -/
def Worker.job? : Worker J R → Option J
  | running job _ _ => some job
  | _ => none

/-- The jobs that run. -/
def running (p : Pool J R) : List J := p.workers.filterMap (·.job?)

namespace Event

/-- How the job ended that a worker had, if it did. -/
def outcome? : Event → Option Outcome
  | completed => some .completed
  | panicked => some .panicked
  | timedOut => some .timedOut
  | _ => none

/-- What a worker took out of the queue. -/
def taken (queue : List J) : Event → List J
  | started | broke => queue.take 1
  | _ => []

/-- The job that a worker had, when it ended, with its outcome. -/
def endings (worker : Worker J R) (e : Event) : List (J × Outcome) :=
  match worker.job?, e.outcome? with
  | some job, some outcome => [(job, outcome)]
  | _, _ => []

end Event

/-- A pool with all that went on at it. -/
structure Traffic (J R σ : Type) where
  pool : Pool J R
  /-- What jobs act on. -/
  state : σ
  now : Nat
  /-- How far the first shutdown got, once it has begun. -/
  closing : Option Closing
  /-- The jobs that were taken, the first one first. -/
  accepted : List J
  /-- What was answered to those whose jobs were not taken. -/
  refused : List (Refusal J)
  /-- The jobs that workers started, the first one first. -/
  started : List J
  /-- The jobs that ended, each with its outcome. -/
  ended : List (J × Outcome)

namespace Traffic

/-- A pool that has just been opened. -/
def opened (s : Sizing) (state : σ) (now : Nat) : Traffic J R σ :=
  ⟨.ofSizing s, state, now, none, [], [], [], []⟩

/-- No time that a shutdown gave the workers has run out. -/
def IsKept (w : Traffic J R σ) : Prop := w.closing ≠ some (.ended false)

/-- The traffic after a job was taken. -/
def took (w : Traffic J R σ) (job : J) (pool : Pool J R) : Traffic J R σ :=
  { w with pool := pool, accepted := w.accepted ++ [job] }

/-- The traffic after a job was handed back. -/
def handedBack (w : Traffic J R σ) (e : Refusal J) : Traffic J R σ :=
  { w with refused := w.refused ++ [e] }

/-- The traffic after a worker got on. -/
def worked (w : Traffic J R σ) (i : Nat) (event : Event) (pool : Pool J R) (state : σ) :
    Traffic J R σ :=
  { w with
    pool := pool
    state := state
    started := w.started ++ event.taken w.pool.queue
    ended := w.ended ++ event.endings (w.pool.worker i) }

/-- The traffic after somebody began to shut the pool down for the first time. -/
def closed (w : Traffic J R σ) : Closing × Pool J R × σ → Traffic J R σ
  | (closing, pool, state) => { w with pool := pool, state := state, closing := some closing }

/-- The traffic after somebody shut the pool down once more. -/
def shutAgain (w : Traffic J R σ) : Closing × Pool J R × σ → Traffic J R σ
  | (_, pool, state) => { w with pool := pool, state := state }

/-- One step at a pool. -/
inductive Step (h : Handler J R σ) (w : Traffic J R σ) : Traffic J R σ → Prop
  | take {job : J} {pool : Pool J R} (answer : w.pool.submit job = .ok pool) :
      Step h w (w.took job pool)
  | refuse {job : J} {e : Refusal J} (answer : w.pool.submit job = .error e) :
      Step h w (w.handedBack e)
  | work {i : Nat} {event : Event} {pool : Pool J R} {state : σ}
      (gets : work h w.now i w.pool w.state = some (event, pool, state)) :
      Step h w (w.worked i event pool state)
  /-- The first shutdown begins. -/
  | close {grace : Span} (first : w.closing = none) :
      Step h w (w.closed (close h w.now grace w.pool w.state))
  /-- All workers went in time. -/
  | drain {deadline : Nat} (waits : w.closing = some (.waiting deadline))
      (gone : w.pool.isDeserted) : Step h w { w with closing := some (.ended true) }
  /-- The time is over, and the workers that are left are sent away. -/
  | sendAway {deadline : Nat} (waits : w.closing = some (.waiting deadline))
      (late : deadline ≤ w.now) :
      Step h w (w.closed (.ended false, abort h w.pool w.state))
  /-- Somebody shuts the pool down once more. -/
  | closeAgain {grace : Span} (begun : w.closing ≠ none) :
      Step h w (w.shutAgain (Pool.close h w.now grace w.pool w.state))
  | pass {later : Nat} (future : w.now ≤ later) : Step h w { w with now := later }
  /-- What jobs act on changes by itself. -/
  | elsewhere {state : σ} : Step h w { w with state := state }

/-- What may come of a pool of a size. -/
inductive Reachable (h : Handler J R σ) (s : Sizing) : Traffic J R σ → Prop
  | opened (state : σ) (now : Nat) : Reachable h s (opened s state now)
  | step {w w' : Traffic J R σ} (reachable : Reachable h s w) (step : Step h w w') :
      Reachable h s w'

end Traffic

/-- Whether jobs panic only once they run. -/
def Handler.SetsUp (h : Handler J R σ) : Prop := ∀ job state, (h.begin job state).1.isSome

end BoxOffice.Pool
