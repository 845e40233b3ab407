/-!
# Why a snapshot store fails

A stored value may make no sense, or the storage may fail. Only the second may go away by itself.
-/

namespace BoxOffice.Snapshot

/-- Why a snapshot store fails. -/
inductive Error
  /-- A stored value makes no sense. -/
  | corrupt (reason : String)
  | storage (reason : String)
  deriving DecidableEq, Repr

/-- The report of a cause. -/
def Error.message : Error → String
  | corrupt reason => "Corrupt snapshot row: " ++ reason
  | storage reason => "Storage error: " ++ reason

end BoxOffice.Snapshot
