import BoxOffice.Bus.Error
import BoxOffice.Message
import BoxOffice.Subscription

/-!
# The bus

The bus carries messages from topics to queues. A subscription opens a queue of its own; a message that is
published to the queue's topic and that its bindings take is put at its end. A listener takes messages out
one by one. Each one taken is held until it is settled: acknowledged, put back at the end of its queue
with its count raised, or rejected, which makes it a dead letter and sends a copy to the queue's
dead-letter topic.

A queue is a value with two switches. `live` says that the bus still routes messages to it, until the bus
is closed; `listened` says that its listener is still there. A queue that is no longer live goes on as
long as one of its messages is held, because that one may be put back.
-/

namespace BoxOffice

namespace Bus

/-- What a listener decides about a message. -/
inductive Disposition
  | ack
  /-- The message goes back to the end of its queue. -/
  | requeue
  /-- The message is a dead letter, for a reason. -/
  | reject (reason : String)
  deriving DecidableEq, Repr

/-- The word for a decision. -/
def Disposition.word : Disposition → String
  | ack => "ack"
  | requeue => "requeue"
  | reject _ => "reject"

/-- A queue of one subscription. -/
structure Queue where
  subscription : Subscription
  /-- The messages that wait, the next one first. -/
  waiting : List Message
  /-- The messages that were taken out and are not settled. -/
  held : List Message
  /-- Whether the bus still routes messages to it. -/
  live : Bool
  /-- Whether its listener is still there. -/
  listened : Bool
  deriving DecidableEq, Repr

namespace Queue

/-- A queue that was just opened. -/
def ofSubscription (s : Subscription) : Queue := ⟨s, [], [], true, true⟩

/-- Whether a message that is published to a topic reaches the queue. -/
def takes (q : Queue) (topic : String) (m : Message) : Bool :=
  q.live && q.listened && q.subscription.topic == topic && q.subscription.accepts m.routingKey

/-- The queue with a message at its end. -/
def push (q : Queue) (m : Message) : Queue := { q with waiting := q.waiting ++ [m] }

/-- The queue after one of its messages is no longer held. -/
def release (q : Queue) (m : Message) : Queue := { q with held := q.held.erase m }

/-- Whether a message may still come out of the queue. -/
def isRunning (q : Queue) : Bool := q.listened && (q.live || !q.held.isEmpty)

/-- The queue without a listener. What waited is lost. -/
def abandoned (q : Queue) : Queue := { q with waiting := [], listened := false }

end Queue

/-- A message that was taken out of a queue. -/
structure Delivery where
  queue : Nat
  message : Message
  deriving DecidableEq, Repr

/-- A decision about a message. -/
structure Settled where
  group : String
  message : Message
  disposition : Disposition
  deriving DecidableEq, Repr

/-- A rejected message. -/
structure DeadLetter where
  group : String
  message : Message
  reason : String
  deriving DecidableEq, Repr

/-- What a listener gets when it asks for the next message. -/
inductive Received
  | delivery (d : Delivery)
  | empty
  | ended
  deriving DecidableEq, Repr

end Bus

/-- The topics and queues, and what was decided so far. -/
structure Bus where
  /-- What was published, in order, with the topic of each message. -/
  published : List (String × Message)
  /-- The queues by number, in the order in which they were opened. -/
  queues : List Bus.Queue
  settled : List Bus.Settled
  deadLetters : List Bus.DeadLetter
  /-- Whether nothing can be published. -/
  failPublishes : Bool
  deriving DecidableEq, Repr

namespace Bus

/-- A bus without queues. -/
def empty : Bus := ⟨[], [], [], [], false⟩

/-- Opens a queue. Its number is that of the queues before it. -/
def subscribe (b : Bus) (s : Subscription) : Nat × Bus :=
  (b.queues.length, { b with queues := b.queues ++ [.ofSubscription s] })

/-- Puts a message on a topic and at the end of every queue that takes it. -/
def route (b : Bus) (topic : String) (m : Message) : Bus :=
  { b with
    published := b.published ++ [(topic, m)]
    queues := b.queues.map fun q => if q.takes topic m then q.push m else q }

/-- Publishes a message, unless nothing can be published. -/
def publish (b : Bus) (topic : String) (m : Message) : Except Error Bus :=
  if b.failPublishes then .error (.publishFailed topic "injected publish failure")
  else .ok (b.route topic m)

/-- The messages published to a topic, in order. -/
def publishedTo (b : Bus) (topic : String) : List Message :=
  (b.published.filter (·.1 == topic)).map (·.2)

/-- How many queues of a topic the bus routes messages to. -/
def subscriptions (b : Bus) (topic : String) : Nat :=
  (b.queues.filter fun q => q.live && q.subscription.topic == topic).length

/-- Changes one queue. -/
def modifyQueue (b : Bus) (id : Nat) (f : Queue → Queue) : Bus :=
  { b with queues := b.queues.modify id f }

/-- Takes the next message out of a queue. A queue that has nothing more to come loses its listener. -/
def receive (b : Bus) (id : Nat) : Received × Bus :=
  match b.queues[id]? with
  | none => (.ended, b)
  | some q =>
    if q.isRunning then
      match q.waiting with
      | [] => (.empty, b)
      | m :: rest =>
        (.delivery ⟨id, m⟩,
          b.modifyQueue id fun q => { q with waiting := rest, held := q.held ++ [m] })
    else (.ended, b.modifyQueue id Queue.abandoned)

/-- Settles a message that was taken out of a queue. It cannot go back to a queue that nobody listens to;
the decision is noted all the same. -/
def settle (b : Bus) (d : Delivery) (how : Disposition) : Except Error Unit × Bus :=
  match b.queues[d.queue]? with
  | none => (.error (.ackFailed "subscription closed"), b)
  | some q =>
    let group := q.subscription.group
    let b : Bus := { b with settled := b.settled ++ [⟨group, d.message, how⟩] }
    let b := b.modifyQueue d.queue (·.release d.message)
    match how with
    | .ack => (.ok (), b)
    | .requeue =>
      if q.listened then (.ok (), b.modifyQueue d.queue (·.push d.message.redelivered))
      else (.error (.ackFailed "subscription closed"), b)
    | .reject reason =>
      let b : Bus := { b with deadLetters := b.deadLetters ++ [⟨group, d.message, reason⟩] }
      match q.subscription.deadLetterTopic with
      | none => (.ok (), b)
      | some topic => (.ok (), b.route topic d.message)

/-- Lets a message that was taken out go without a decision. It is lost. -/
def forget (b : Bus) (d : Delivery) : Bus := b.modifyQueue d.queue (·.release d.message)

/-- Takes the listener of a queue away. -/
def unsubscribe (b : Bus) (id : Nat) : Bus := b.modifyQueue id Queue.abandoned

/-- Ends every queue: no message is routed to it from now on. -/
def close (b : Bus) : Bus :=
  { b with queues := b.queues.map fun q => { q with live := false } }

/-- Makes publishing fail, or work again. -/
def setFailing (b : Bus) (fail : Bool) : Bus := { b with failPublishes := fail }

end Bus

end BoxOffice
