/-!
# The order of work

A system is a state with actors that can get on. Nobody is interrupted: an actor that has its turn goes on
until it has to wait. At one instant the callers have their turn first, in their order; then the others,
those first that have waited longest, and each that becomes able to get on meanwhile comes last. This
repeats until nobody can get on. Only then do those who have waited in vain for the rest give up. Time
moves when nothing is left to do, and then to the earliest instant that somebody waits for.

`Session` remembers the order in which the others had their turns. Every loop has a bound on the number of
turns, `Schedule.bound`, which a session that comes to rest at all does not reach.
-/

namespace BoxOffice

/-- How the actors of a system get on. -/
structure Schedule.System (σ α : Type) where
  /-- The actors that come first at every instant, in their order. -/
  callers : σ → List α
  /-- All other actors. -/
  others : σ → List α
  /-- An actor's next step, when there is one. -/
  run : α → σ → Option σ
  /-- An actor gives up waiting, when it is time to. -/
  giveUp : α → σ → Option σ
  /-- The instants that somebody waits for. -/
  dues : σ → List Nat
  now : σ → Nat
  /-- The same state at another instant. -/
  setNow : Nat → σ → σ

/-- A state of a system and the order of turns so far. -/
structure Schedule.Session (σ α : Type) where
  state : σ
  /-- The other actors, the one whose last turn is longest ago first. -/
  line : List α

namespace Schedule

/-- The greatest number of turns between two moves of time. -/
def bound : Nat := 1000000

/-- How long the longest thing may take that somebody is waited for, in ticks: one day. -/
def patience : Nat := 86400000

variable {σ α : Type} [DecidableEq α] (y : System σ α)

/-- Whether an actor can get on. -/
def System.canRun (s : σ) (a : α) : Bool := (y.run a s).isSome

/-- The turn of an actor: it goes on until it has to wait. -/
def turn (a : α) : Nat → σ → σ
  | 0, s => s
  | fuel + 1, s =>
    match y.run a s with
    | none => s
    | some s => turn a fuel s

namespace Session

/-- A session at its begin. -/
def ofState (s : σ) : Session σ α := ⟨s, []⟩

/-- The line with every actor there is now, new ones last. -/
def enrolled (x : Session σ α) : Session σ α :=
  let present := y.others x.state
  { x with
    line := x.line.filter (· ∈ present) ++ present.filter fun a => !x.line.contains a }

/-- The turns of the callers, one after another. -/
def callersTurn (x : Session σ α) : Session σ α :=
  { x with state := (y.callers x.state).foldl (fun s a => turn y a bound s) x.state }

/-- The turn of one of the others. -/
def otherTurn (x : Session σ α) (a : α) : Session σ α :=
  let x := enrolled y { x with state := turn y a bound x.state }
  { x with line := x.line.filter (· ≠ a) ++ x.line.filter (· = a) }

/-- The turns of the others that wait for one, and of those that come to wait for one meanwhile. -/
def othersTurns : Nat → List α → Session σ α → Session σ α
  | 0, _, x => x
  | _, [], x => x
  | fuel + 1, a :: rest, x =>
    let x := x.otherTurn y a
    let woken := x.line.filter fun b => y.canRun x.state b && !rest.contains b
    othersTurns fuel (rest ++ woken) x

/-- Whether somebody can get on. -/
def isBusy (x : Session σ α) : Bool :=
  (y.callers x.state ++ y.others x.state).any (y.canRun x.state)

/-- The state after the first actor gave up whose time it is to. -/
def givenUp? (x : Session σ α) : Option (Session σ α) :=
  ((y.callers x.state ++ x.line).findSome? fun a => y.giveUp a x.state).map fun s =>
    { x with state := s }

/-- All work of the present instant. -/
def rest : Nat → Session σ α → Session σ α
  | 0, x => x
  | fuel + 1, x =>
    let x := (enrolled y x).callersTurn y
    let x := enrolled y x
    let x := x.othersTurns y bound (x.line.filter (y.canRun x.state))
    if x.isBusy y then rest fuel x
    else
      match x.givenUp? y with
      | some x => rest fuel x
      | none => x

/-- Rests, and lets time pass, until a condition holds at rest or the limit is reached. -/
def runUntil (isDone : σ → Bool) (limit : Nat) : Nat → Session σ α → Session σ α
  | 0, x => x
  | fuel + 1, x =>
    let x := rest y bound x
    if isDone x.state || limit ≤ y.now x.state then x
    else
      let later := (y.dues x.state).filter (y.now x.state < ·)
      let next := later.foldl min limit
      runUntil isDone limit fuel { x with state := y.setNow next x.state }

/-- Runs until a condition holds at rest, for a day at most. -/
def await (isDone : σ → Bool) (x : Session σ α) : Session σ α :=
  runUntil y isDone (y.now x.state + patience) bound x

end Session

end Schedule

end BoxOffice
