import BoxOffice.Span

/-!
# The application

The application owns the consumers and the pool. It runs until it is told to end. Then it tells the
consumers to stop and waits for them one after another, and after that for the workers of the pool, all
within one span of time. It ends clean when all of them went in time.
-/

namespace BoxOffice

namespace Application

/-- What an application does. -/
inductive Stage
  | running
  | signalled
  /-- It waits for a consumer until an instant; whether all before it went in time. -/
  | joining (consumer deadline : Nat) (clean : Bool)
  /-- It waits for the workers until an instant; whether all consumers went in time. -/
  | draining (deadline : Nat) (clean : Bool)
  /-- It has ended: whether all went in time. -/
  | ended (clean : Bool)
  deriving DecidableEq, Repr

/-- The instants that an application waits for. -/
def Stage.dues : Stage → List Nat
  | joining _ deadline _ | draining deadline _ => [deadline]
  | _ => []

end Application

/-- An application. -/
structure Application where
  /-- How long it may take to end. -/
  timeout : Span
  stage : Application.Stage
  deriving DecidableEq, Repr

/-- An application that runs. -/
def Application.ofTimeout (timeout : Span) : Application := ⟨timeout, .running⟩

end BoxOffice
