/-!
# Refused jobs

A pool that does not take a job hands it back with the reason.
-/

namespace BoxOffice.Pool

/-- Why a job is not taken. The job is handed back. -/
inductive Refusal (J : Type)
  /-- As many jobs wait as may. -/
  | busy (job : J)
  /-- The pool takes no more jobs. -/
  | closed (job : J)
  deriving DecidableEq, Repr

namespace Refusal

variable {J : Type}

/-- The report of a refusal. -/
def message : Refusal J → String
  | busy _ => "worker pool is busy"
  | closed _ => "worker pool is closed"

/-- The job that was handed back. -/
def job : Refusal J → J
  | busy job | closed job => job

end Refusal

end BoxOffice.Pool
