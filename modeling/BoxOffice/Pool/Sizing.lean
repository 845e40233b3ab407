import BoxOffice.Span

/-!
# The size of a worker pool

How many workers a pool has, how many jobs may wait, and how long a job may run.
-/

namespace BoxOffice.Pool

/-- The size and deadline of a pool. -/
structure Sizing where
  workers : Nat
  /-- How many jobs may wait. -/
  capacity : Nat
  /-- How long a job may run, if that is limited. -/
  jobTimeout : Option Span
  deriving DecidableEq, Repr

/-- A pool without a deadline, with at least one worker and room for one job. -/
def Sizing.of (workers capacity : Nat) : Sizing := ⟨max 1 workers, max 1 capacity, none⟩

/-- The same size with a deadline. -/
def Sizing.withTimeout (s : Sizing) (timeout : Span) : Sizing := { s with jobTimeout := some timeout }

/-- Five workers, room for a hundred jobs, and thirty seconds for each. -/
def Sizing.standard : Sizing := (Sizing.of 5 100).withTimeout (.ofSeconds 30)

end BoxOffice.Pool
