import BoxOffice.Office.Settling

/-!
# The end of the application

How the application sees its consumers off, one after another, and then the workers of the pool. Whoever
has not gone when the time is up is not waited for any longer. Without any time nobody is waited for.
-/

namespace BoxOffice.Office

/-- The office with the application doing something else. -/
def setApplication (o : Office) (a : Application) (stage : Application.Stage) : Office :=
  { o with application := some { a with stage := stage } }

/-- Tells the consumers to stop. -/
def tellConsumers (o : Office) : Office :=
  { o with consumers := o.consumers.map fun c => { c with told := true } }

/-- Begins to see the workers off, in the time that is left. -/
def drainPool (o : Office) (a : Application) (deadline : Nat) (clean : Bool) : Office :=
  match o.closePool (.ofMillis (deadline - o.now)) with
  | (.ended inTime, o) => o.setApplication a (.ended (clean && inTime))
  | (.waiting deadline, o) => o.setApplication a (.draining deadline clean)

/-- The next step of the application, when it can get on. -/
def stepApplication (o : Office) : Option Office :=
  o.application.bind fun a =>
    match a.stage with
    | .running | .ended _ => none
    | .signalled =>
      let deadline := o.now + a.timeout.ticks
      let o := o.tellConsumers
      some (if a.timeout.ticks = 0 then
          o.drainPool a deadline (o.consumers.all (·.isStopped))
        else o.setApplication a (.joining 0 deadline true))
    | .joining i deadline clean =>
      match o.consumers[i]? with
      | none => some (o.drainPool a deadline clean)
      | some c =>
        if c.isStopped then some (o.setApplication a (.joining (i + 1) deadline clean)) else none
    | .draining _ clean => if o.pool.isDeserted then some (o.setApplication a (.ended clean)) else none

/-- The application gives up waiting for a consumer, or for the workers, when the time is up. -/
def hurryApplication (o : Office) : Option Office :=
  o.application.bind fun a =>
    match a.stage with
    | .joining i deadline _ =>
      if deadline ≤ o.now then some (o.setApplication a (.joining (i + 1) deadline false)) else none
    | .draining deadline _ =>
      if deadline ≤ o.now then some (o.abortPool.setApplication a (.ended false)) else none
    | _ => none

end BoxOffice.Office
