import BoxOffice.Bus.Error
import BoxOffice.Change

/-!
# Why a change is not published

The change cannot be written, or the bus refuses it.
-/

namespace BoxOffice.Change

/-- Why a change is not published. -/
inductive PublishError
  /-- The change cannot be written. -/
  | encode (cause : Error)
  /-- The bus refuses it. -/
  | bus (cause : Bus.Error)
  deriving DecidableEq, Repr

/-- The report of a cause. -/
def PublishError.message : PublishError → String
  | encode cause => cause.message
  | bus cause => cause.message

end BoxOffice.Change
