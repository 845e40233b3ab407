import BoxOffice.Keyed
import BoxOffice.Office.Request

/-!
# Calls that overlap

`Traffic` is a ledger with all that goes on at it: the calls that are not over,
the visitors from outside who hold a row or wait for one, and the calls that are
over, with their answers. Between two steps of one call everybody else may get
on, so a run of a ledger is a sequence of steps, each of some call or visitor,
in any order. The only order there is comes from the clock, which counts the
steps: a call that was over before another one began ended at a lower count.

A call may be given up between any two of its steps. A visitor never changes
the row that it holds. The order in which a call looks at bookings is any
arrangement of all of them.
-/

namespace BoxOffice.Ledger

open Office (RowKey)

/-- A call that is not over: where it stands and when it began. -/
structure Pending where
  {kind : Call.Kind}
  call : Call kind
  stage : Stage kind
  began : Nat

/-- A call with its answer and the time at which it began. -/
structure Answered where
  {kind : Call.Kind}
  call : Call kind
  answer : kind.Answer
  began : Nat

/-- A call that is over. -/
structure Completed extends Answered where
  ended : Nat

/-- Whether an answer is a refusal for a cause that may pass: a row that somebody
else holds, or a storage that fails. -/
def Call.Kind.isPassing : {k : Call.Kind} → k.Answer → Bool
  | .row, .error e => e.isTransient
  | .receipt, .error e => e.isTransient
  | .payment, .error e => e.isTransient
  | _, _ => false

/-- Whether a call was refused for a cause that may pass. -/
def Answered.isPassing (e : Answered) : Bool := Call.Kind.isPassing e.answer

/-! ### Rows held from outside -/

/-- The ledger after a ticket asked for a row to keep. -/
def asked (l : Ledger) (t : Ticket) : RowKey → Ledger
  | .event id => (l.acquireEvent t id).2
  | .booking id => (l.acquireBooking t id).2

/-- The ledger after a ticket gave up a row or its place in the queue. -/
def left (l : Ledger) (t : Ticket) : RowKey → Ledger
  | .event id => l.leaveEvent t id
  | .booking id => l.leaveBooking t id

/-! ### Traffic -/

/-- A ledger with all that goes on at it. -/
structure Traffic where
  ledger : Ledger
  /-- The calls that are not over. -/
  calls : List (Ticket × Pending)
  /-- The visitors, each with the row that it holds or waits for. -/
  visitors : List (Ticket × RowKey)
  /-- The calls that are over, the first one first. -/
  completed : List Completed
  /-- How many steps there have been. -/
  clock : Nat

namespace Traffic

/-- An empty ledger at which nothing has happened. -/
def opened : Traffic := ⟨.empty, [], [], [], 0⟩

/-- The call with a ticket, while it is not over. -/
def call? (w : Traffic) (t : Ticket) : Option Pending := Keyed.get? t w.calls

/-- No call and no visitor has the ticket. -/
def IsFree (w : Traffic) (t : Ticket) : Prop :=
  w.call? t = none ∧ Keyed.get? t w.visitors = none

/-- The traffic with another ledger, one step later. -/
def withLedger (w : Traffic) (l : Ledger) : Traffic :=
  { w with ledger := l, clock := w.clock + 1 }

/-- The traffic after a step of a call. -/
def advanced (w : Traffic) (t : Ticket) {k : Call.Kind} (call : Call k) (began : Nat) :
    Progress k × Ledger → Traffic
  | (.done answer, l) =>
    { w.withLedger l with
      calls := Keyed.erase t w.calls
      completed := w.completed ++ [⟨⟨call, answer, began⟩, w.clock⟩] }
  | (.further stage, l) =>
    { w.withLedger l with calls := Keyed.put t ⟨call, stage, began⟩ w.calls }

/-- The traffic after the first step of a call. -/
def begun (w : Traffic) (t : Ticket) {k : Call.Kind} (call : Call k) (order : List BookingId)
    (now : Timestamp) : Traffic :=
  w.advanced t call w.clock (w.ledger.start t (fun _ => order) now call)

/-- The traffic after a further step of a call. -/
def resumed (w : Traffic) (t : Ticket) (p : Pending) (now : Timestamp) : Traffic :=
  w.advanced t p.call p.began (w.ledger.resume t now p.stage)

/-- The traffic after a call was given up. -/
def dropped (w : Traffic) (t : Ticket) (p : Pending) : Traffic :=
  { w.withLedger (w.ledger.abandon t p.stage) with calls := Keyed.erase t w.calls }

/-- The traffic after a visitor asked for a row. -/
def visited (w : Traffic) (t : Ticket) (key : RowKey) : Traffic :=
  { w.withLedger (w.ledger.asked t key) with visitors := Keyed.put t key w.visitors }

/-- The traffic after a visitor went. -/
def departed (w : Traffic) (t : Ticket) (key : RowKey) : Traffic :=
  { w.withLedger (w.ledger.left t key) with visitors := Keyed.erase t w.visitors }

/-! ### The calls that are not over -/

/-- The calls after a step of one of them. -/
def callsAfter (calls : Ticket → Option Pending) (t : Ticket) {k : Call.Kind} (call : Call k)
    (began : Nat) : Progress k → Ticket → Option Pending
  | .done _, u => if u = t then none else calls u
  | .further stage, u => if u = t then some ⟨call, stage, began⟩ else calls u

section Calls

variable {w : Traffic} {t u : Ticket} {k : Call.Kind} {call : Call k} {began : Nat}

theorem call?_advanced (result : Progress k × Ledger) :
    (w.advanced t call began result).call? = callsAfter w.call? t call began result.1 := by
  funext u
  obtain ⟨progress, l⟩ := result
  cases progress with
  | done answer => exact Keyed.get?_erase t u w.calls
  | further stage => exact Keyed.get?_put t u _ w.calls

@[simp]
theorem ledger_advanced (result : Progress k × Ledger) :
    (w.advanced t call began result).ledger = result.2 := by
  obtain ⟨progress, l⟩ := result
  cases progress <;> rfl

@[simp]
theorem visitors_advanced (result : Progress k × Ledger) :
    (w.advanced t call began result).visitors = w.visitors := by
  obtain ⟨progress, l⟩ := result
  cases progress <;> rfl

@[simp]
theorem clock_advanced (result : Progress k × Ledger) :
    (w.advanced t call began result).clock = w.clock + 1 := by
  obtain ⟨progress, l⟩ := result
  cases progress <;> rfl

theorem call?_dropped (w : Traffic) (t u : Ticket) (p : Pending) :
    (w.dropped t p).call? u = if u = t then none else w.call? u :=
  Keyed.get?_erase t u w.calls

/-- A call that goes on changes nothing for the others. -/
theorem callsAfter_of_ne {calls : Ticket → Option Pending} {progress : Progress k} (other : u ≠ t) :
    callsAfter calls t call began progress u = calls u := by
  cases progress <;> exact if_neg other

theorem callsAfter_same {calls : Ticket → Option Pending} {stage : Stage k}
    (pending : calls t = some ⟨call, stage, began⟩) :
    callsAfter calls t call began (.further stage) = calls := by
  funext u
  by_cases own : u = t
  · subst own
    rw [pending]
    exact if_pos rfl
  · exact callsAfter_of_ne own

end Calls

/-! ### Steps and runs -/

/-- What may happen at a ledger. -/
inductive Action
  | begin (t : Ticket) {k : Call.Kind} (call : Call k) (order : List BookingId) (now : Timestamp)
  | resume (t : Ticket) (now : Timestamp)
  | drop (t : Ticket)
  /-- Somebody outside asks for a row, for the first time or again. -/
  | visit (t : Ticket) (key : RowKey)
  /-- Somebody outside lets go of a row, or does not wait for it any longer. -/
  | depart (t : Ticket)
  /-- The next booking to be stored will fail. -/
  | failInsert
  /-- Bookings will keep the event's row for a while. -/
  | setHold (hold : Span)

/-- One step of the traffic. A call or a visitor that comes has a ticket that
nobody else has. -/
inductive Step (w : Traffic) : Action → Traffic → Prop
  | begin {t : Ticket} {k : Call.Kind} {call : Call k} {order : List BookingId} {now : Timestamp}
      (free : w.IsFree t) (all : order.Perm w.ledger.bookingIds) :
      Step w (.begin t call order now) (w.begun t call order now)
  | resume {t : Ticket} {p : Pending} {now : Timestamp} (pending : w.call? t = some p) :
      Step w (.resume t now) (w.resumed t p now)
  | drop {t : Ticket} {p : Pending} (pending : w.call? t = some p) :
      Step w (.drop t) (w.dropped t p)
  | visit {t : Ticket} {key : RowKey}
      (comes : w.IsFree t ∨ Keyed.get? t w.visitors = some key) :
      Step w (.visit t key) (w.visited t key)
  | depart {t : Ticket} {key : RowKey} (present : Keyed.get? t w.visitors = some key) :
      Step w (.depart t) (w.departed t key)
  | failInsert : Step w .failInsert (w.withLedger w.ledger.failInsert)
  | setHold {hold : Span} : Step w (.setHold hold) (w.withLedger (w.ledger.setHold hold))

/-- A run: what happened, in order, from one traffic to another. -/
inductive Run : Traffic → List Action → Traffic → Prop
  | refl (w : Traffic) : Run w [] w
  | snoc {w w' w'' : Traffic} {as : List Action} {a : Action} (run : Run w as w')
      (step : Step w' a w'') : Run w (as ++ [a]) w''

/-- What may come of an empty ledger. -/
def Reachable (w : Traffic) : Prop := ∃ as, Run opened as w

theorem Reachable.opened : Reachable opened := ⟨[], .refl _⟩

theorem Reachable.step {w w' : Traffic} {a : Action} (reachable : Reachable w)
    (step : Step w a w') : Reachable w' := by
  obtain ⟨as, run⟩ := reachable
  exact ⟨as ++ [a], .snoc run step⟩

/-- What holds at first and is kept by every step of a reachable traffic holds of
every reachable traffic. -/
theorem Reachable.induct {motive : Traffic → Prop} (start : motive Traffic.opened)
    (keeps : ∀ {w a w'}, Reachable w → motive w → Step w a w' → motive w') {w : Traffic}
    (reachable : Reachable w) : motive w := by
  obtain ⟨as, run⟩ := reachable
  induction run with
  | refl => exact start
  | snoc run step ih => exact keeps ⟨_, run⟩ ih step

theorem Run.trans {w w' w'' : Traffic} {as bs : List Action} (first : Run w as w')
    (second : Run w' bs w'') : Run w (as ++ bs) w'' := by
  induction second with
  | refl => simpa using first
  | snoc _ step ih => simpa using Run.snoc ih step

/-- An event of three seats is on sale. -/
def offered : Traffic :=
  opened.begun 0 (.register ⟨.ofNat 1, "Talk", .epoch, .epoch, 3, ⟨2500⟩⟩) [] .epoch

theorem reachable_offered : offered.Reachable :=
  Reachable.opened.step (.begin ⟨rfl, rfl⟩ (.refl _))

end Traffic

end BoxOffice.Ledger
