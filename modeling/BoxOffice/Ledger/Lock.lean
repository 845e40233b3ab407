/-!
# Row locks

A lock has at most one holder and a queue. Whoever does not want to wait takes it only when it is free;
whoever waits gets it in the order of arrival, handed on by the one who lets it go. A caller is known by
its ticket.
-/

namespace BoxOffice.Ledger

/-- The name under which a call holds locks. No two calls have the same one. -/
abbrev Ticket := Nat

/-- A lock and those who wait for it. -/
structure Lock where
  /-- Who holds it. -/
  holder : Option Ticket
  /-- Who waits for it, the first one first. -/
  waiting : List Ticket
  deriving DecidableEq, Repr

namespace Lock

/-- A lock that nobody holds. -/
def free : Lock := ⟨none, []⟩

/-- Whether nobody holds the lock. -/
def isFree (l : Lock) : Bool := l.holder.isNone

/-- The lock in the hands of a ticket that found it free. -/
def takenBy (l : Lock) (t : Ticket) : Lock := { l with holder := some t }

/-- The lock after its holder let it go: the first who waits has it. -/
def released (l : Lock) : Lock :=
  match l.waiting with
  | [] => free
  | t :: rest => ⟨some t, rest⟩

/-- The lock with a ticket at the end of the queue, unless it waits already. -/
def queuedBy (l : Lock) (t : Ticket) : Lock :=
  if t ∈ l.waiting then l else { l with waiting := l.waiting ++ [t] }

/-- The lock after a ticket gave up holding it or waiting for it. -/
def without (l : Lock) (t : Ticket) : Lock :=
  if l.holder = some t then l.released else { l with waiting := l.waiting.erase t }

/-- Asks for the lock: whether the ticket has it now, and the lock after that. -/
def acquire (l : Lock) (t : Ticket) : Bool × Lock :=
  if l.holder = some t then (true, l)
  else if l.isFree then (true, l.takenBy t)
  else (false, l.queuedBy t)

/-- Asks for the lock only to look at the row: whether the ticket may look now, and the lock after it has
looked. -/
def visit (l : Lock) (t : Ticket) : Bool × Lock :=
  if l.holder = some t then (true, l.released)
  else if l.isFree then (true, l)
  else (false, l.queuedBy t)

/-- Whether a ticket would get on by asking: it has the lock, it may have it, or it does not wait yet. -/
def letsOn (l : Lock) (t : Ticket) : Bool :=
  l.holder = some t || l.isFree || !l.waiting.contains t

end Lock

end BoxOffice.Ledger
