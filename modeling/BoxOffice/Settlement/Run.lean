import BoxOffice.Retry.Policy
import BoxOffice.Settlement.Decider
import BoxOffice.Settlement.Error

/-!
# Settling a booking

A settlement first waits for the decision about the charge and then records the payment. Recording is
tried again while the booking's row is locked. `Run` says where a settlement stands.
-/

namespace BoxOffice.Settlement

/-- Where a settlement stands. -/
inductive Run
  /-- A decision has to be asked for. -/
  | deciding (job : Job)
  /-- The charge takes until an instant. -/
  | charging (job : Job) (status : Payment.Status) (due : Nat)
  /-- The charge waits at the gate. -/
  | atGate (job : Job) (status : Payment.Status)
  /-- The charge never ends. -/
  | stuck (job : Job)
  /-- The payment has to be recorded, after a number of vain attempts. -/
  | recording (payment : Payment.Draft) (retries : Nat)
  /-- Recording it is tried again at an instant. -/
  | pausing (payment : Payment.Draft) (retries : Nat) (due : Nat)
  deriving DecidableEq, Repr

/-- The instants that a settlement waits for. -/
def Run.dues : Run → List Nat
  | charging _ _ due | pausing _ _ due => [due]
  | _ => []

/-- What came of a settlement. -/
inductive Result
  /-- The payment was recorded, or recording it was refused for good. -/
  | ended (result : Except Error Payment.Status)
  /-- The charge panicked, or the wait before another attempt, for a fault. -/
  | panicked (fault : Option Retry.Fault)

/-- How far a settlement got. -/
inductive Step
  | over (result : Result)
  | on (run : Run)

/-- The label under which the end of a settlement is counted. -/
def outcome : Except Error Payment.Status → String
  | .ok status => status.word
  | .error (.alreadySettled ..) => "already_settled"
  | .error _ => "error"

end BoxOffice.Settlement
