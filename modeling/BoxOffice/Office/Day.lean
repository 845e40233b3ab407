import BoxOffice.Office.Calls
import BoxOffice.Office.Consuming
import BoxOffice.Office.Ending
import BoxOffice.Schedule

/-!
# The office at work

The office as a system of actors: who there is, what each does next, and whom time moves for. A `Session`
is an office at work together with the order of the turns so far; `Session.answer` asks for things and
lets everybody work until they are answered.
-/

namespace BoxOffice.Office

/-- Lets a row go for good whose time has come. -/
def stepUnlock (t : Ledger.Ticket) (o : Office) : Option Office :=
  (Keyed.get? t o.unlocks).bind fun u =>
    if u.due ≤ o.now then some ({ o with unlocks := Keyed.erase t o.unlocks }.unlock u.key).2
    else none

/-- The next step of an actor, when it can get on. -/
def step (a : Actor) (o : Office) : Option Office :=
  match a with
  | .caller t => o.stepCaller t
  | .worker i => o.stepWorker i
  | .consumer i => o.stepConsumer i
  | .application => o.stepApplication
  | .unlocking t => o.stepUnlock t

/-- An actor gives up waiting for others, when the time that it had for that is up. -/
def hurry (a : Actor) (o : Office) : Option Office :=
  match a with
  | .caller t =>
    match o.task? t with
    | some (.closingPool deadline) =>
      if deadline ≤ o.now then some (o.abortPool.finish t (.drained false)) else none
    | _ => none
  | .application => o.hurryApplication
  | _ => none

/-- The instants that somebody waits for. -/
def dues (o : Office) : List Nat :=
  let worker : Pool.Worker Settlement.Job Settlement.Run → List Nat
    | .running _ run deadline => run.dues ++ deadline.toList
    | _ => []
  o.tasks.flatMap (fun (_, task) => task.dues) ++ o.pool.workers.flatMap worker ++
    o.consumers.flatMap (·.stage.dues) ++ (o.application.map (·.stage.dues)).getD [] ++
    o.unlocks.map fun (_, u) => u.due

/-- The actors that are not callers. -/
def attendants (o : Office) : List Actor :=
  (List.range o.pool.workers.length).map .worker ++
    (List.range o.consumers.length).map .consumer ++ [.application] ++
    o.unlocks.map fun (t, _) => .unlocking t

/-- The office as a system of actors. -/
def system : Schedule.System Office Actor where
  callers o := o.tasks.map fun (t, _) => .caller t
  others := attendants
  run := step
  giveUp := hurry
  dues := dues
  now := Office.now
  setNow n o := { o with now := n }

/-- An office at work. -/
abbrev Session := Schedule.Session Office Actor

namespace Session

/-- The session with another office, after all work of the instant. -/
def proceed (x : Session) (o : Office) : Session :=
  Schedule.Session.rest system Schedule.bound { x with state := o }

/-- A session that begins with an office. -/
def ofOffice (o : Office) : Session := proceed ⟨o, []⟩ o

/-- Takes requests, one after another. -/
def askAll (o : Office) : List Request → List Ledger.Ticket × Office
  | [] => ([], o)
  | r :: rest =>
    let (t, o) := o.ask r
    let (ts, o) := askAll o rest
    (t :: ts, o)

/-- Asks for things at once and lets everybody work until all of them are answered, for a day at most.
What is not answered then is given up. -/
def answer (x : Session) (rs : List Request) : List (Option Answer) × Session :=
  let (ts, o) := askAll x.state rs
  let isDone (o : Office) : Bool := ts.all fun t => (o.task? t).isNone
  let x := Schedule.Session.await system isDone { x with state := o }
  let answers := ts.map fun t => Keyed.get? t x.state.answers
  let o := ts.foldl abandon x.state
  let o := { o with answers := [] }
  (answers, if isDone x.state then { x with state := o } else proceed x o)

end Session

end BoxOffice.Office
