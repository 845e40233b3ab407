import BoxOffice.Application
import BoxOffice.Change.PublishError
import BoxOffice.Consumer
import BoxOffice.Gate
import BoxOffice.Office.Task
import BoxOffice.Pool.Shift
import BoxOffice.Retry

/-!
# The office

The office is the whole: the ledger, the snapshots, the bus, the settlement pool, the consumers, and the
requests that are not answered yet. It is a value; everything that happens is a function from one office
to the next. Time is a count of ticks that only the schedule moves, and `clock` is what the booking
service takes for the time of day.
-/

namespace BoxOffice

namespace Office

/-- Those who get on by themselves. -/
inductive Actor
  /-- The one who asked for something. -/
  | caller (ticket : Ledger.Ticket)
  | worker (number : Nat)
  | consumer (number : Nat)
  | application
  /-- Whoever lets a row go at an instant. -/
  | unlocking (ticket : Ledger.Ticket)
  deriving DecidableEq, Repr

/-- What is fixed when the office opens. -/
structure Setup where
  eventsTopic : String
  usersTopic : String
  /-- How long seats are held for payment, in nanoseconds of either sign. -/
  hold : Int
  /-- How a booking is tried again. -/
  retry : Retry.Policy
  /-- How recording a payment is tried again. -/
  settleRetry : Retry.Policy
  /-- What is drawn for the spread of each wait between attempts. -/
  spread : Nat → Float
  /-- What is drawn for a simulated charge. -/
  charge : Settlement.Draw
  /-- The order in which bookings are looked at. -/
  scan : List BookingId → List BookingId
  /-- What a handler by script does with a message, after so many decisions on the bus. -/
  script : Nat → Message → Consumer.Conduct

/-- A queue that a consumer opened, or could not open. -/
structure SubscribeRecord where
  /-- What it was to be opened with. -/
  subscription : Subscription
  instant : Nat
  opened : Bool
  deriving DecidableEq, Repr

/-- A row that is to be let go at an instant. -/
structure Unlock where
  key : RowKey
  due : Nat
  deriving DecidableEq, Repr

end Office

/-- The office. -/
structure Office where
  /-- What was fixed when it opened. -/
  setup : Office.Setup
  /-- The present instant, in ticks. -/
  now : Nat
  /-- The time of day. -/
  clock : Timestamp
  ledger : Ledger
  events : Snapshot.EventTable
  users : Snapshot.UserTable
  bus : Bus
  pool : Pool Settlement.Job Settlement.Run
  /-- What the workers of the pool ask for decisions. -/
  decider : Settlement.Decider
  /-- What settlements outside the pool ask for decisions. -/
  ownDecider : Settlement.Decider
  /-- The gate that charges may have to pass. -/
  gate : Gate Office.Actor
  consumers : List Consumer
  /-- Whether somebody has asked for the end of the consumers. -/
  dismissed : Bool
  application : Option Application
  /-- The requests that are not answered, the first one first, with what is left to do for each. -/
  tasks : List (Ledger.Ticket × Office.Task)
  /-- The answers that nobody has taken yet. -/
  answers : List (Ledger.Ticket × Office.Answer)
  /-- How many tickets were given out. -/
  tickets : Nat
  /-- The rows that are held from outside, each with the ticket that it is held under. -/
  held : List (Office.RowKey × Ledger.Ticket)
  /-- The rows that are to be let go later. -/
  unlocks : List (Ledger.Ticket × Office.Unlock)
  /-- How many identifiers of bookings and payments were drawn. -/
  idsDrawn : Nat
  /-- How many identifiers of messages were drawn. -/
  messagesDrawn : Nat
  /-- How many of the coming attempts to open a queue fail. -/
  subscribeFailures : Nat
  /-- The attempts to open queues, in order. -/
  subscribes : List Office.SubscribeRecord
  metrics : Metrics

namespace Office

/-! ### Identifiers -/

/-- Draws an identifier for a booking or a payment. -/
def drawId (o : Office) : PublicId × Office :=
  (.sequential (o.idsDrawn + 1), { o with idsDrawn := o.idsDrawn + 1 })

/-- The identifier of the message that is drawn after `n` others. -/
def messageId (n : Nat) : String := (PublicId.ofNat (Nat.pow 2 127 + n)).text

/-- Draws an identifier for a message. -/
def drawMessageId (o : Office) : String × Office :=
  (messageId o.messagesDrawn, { o with messagesDrawn := o.messagesDrawn + 1 })

/-! ### Requests -/

/-- Takes a request and gives a ticket for it. -/
def ask (o : Office) (r : Request) : Ledger.Ticket × Office :=
  (o.tickets, { o with tickets := o.tickets + 1, tasks := o.tasks ++ [(o.tickets, .asked r)] })

/-- What is left to do for a request. -/
def task? (o : Office) (t : Ledger.Ticket) : Option Task := Keyed.get? t o.tasks

/-- The office with something else left to do for a request. -/
def setTask (o : Office) (t : Ledger.Ticket) (task : Task) : Office :=
  { o with tasks := Keyed.put t task o.tasks }

/-- Answers a request. -/
def finish (o : Office) (t : Ledger.Ticket) (answer : Answer) : Office :=
  { o with tasks := Keyed.erase t o.tasks, answers := Keyed.put t answer o.answers }

/-! ### Making changes known -/

/-- Publishes the message of a change to a topic. -/
def publish (o : Office) (topic : String) (m : Message) : Except Change.PublishError Unit × Office :=
  match o.bus.publish topic m with
  | .ok bus => (.ok (), { o with bus := bus, metrics := o.metrics.published m.routingKey })
  | .error e => (.error (.bus e), { o with metrics := o.metrics.publishFailed m.routingKey })

/-- Makes a change of an event known. -/
def announce (o : Office) (c : EventChange) : Except Change.PublishError Unit × Office :=
  let (id, o) := o.drawMessageId
  o.publish o.setup.eventsTopic (c.toMessage id)

/-- Makes a change of a user known. -/
def announceUser (o : Office) (c : UserChange) : Except Change.PublishError Unit × Office :=
  let (id, o) := o.drawMessageId
  o.publish o.setup.usersTopic (c.toMessage id)

/-! ### Holding rows from outside -/

/-- Asks for a row to hold under a ticket: whether it is held now. -/
def acquire (o : Office) (t : Ledger.Ticket) (key : RowKey) : Bool × Office :=
  let (has, ledger) :=
    match key with
    | .event id => o.ledger.acquireEvent t id
    | .booking id => o.ledger.acquireBooking t id
  (has, { o with ledger := ledger })

/-- Gives up a row that is held or waited for under a ticket. -/
def leave (o : Office) (t : Ledger.Ticket) (key : RowKey) : Office :=
  { o with
    ledger :=
      match key with
      | .event id => o.ledger.leaveEvent t id
      | .booking id => o.ledger.leaveBooking t id }

/-- Whether there is a row that can be held. -/
def hasRow (o : Office) : RowKey → Bool
  | .event id => (o.ledger.presentCell? id).isSome
  | .booking id => (o.ledger.bookingCell? id).isSome

/-- Lets a row go that is held from outside: whether it was held. -/
def unlock (o : Office) (key : RowKey) : Bool × Office :=
  match Keyed.get? key o.held with
  | none => (false, o)
  | some t => (true, { o.leave t key with held := Keyed.erase key o.held })

/-- Has a row let go after a while. -/
def unlockAfter (o : Office) (key : RowKey) (span : Span) : Office :=
  { o with
    tickets := o.tickets + 1
    unlocks := o.unlocks ++ [(o.tickets, ⟨key, o.now + span.ticks⟩)] }

end Office

end BoxOffice
