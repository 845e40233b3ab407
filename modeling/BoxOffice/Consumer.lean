import BoxOffice.Bus
import BoxOffice.Snapshot.Handler
import BoxOffice.Span

/-!
# Consumers

A consumer listens to one subscription. It hands every message to its handler and settles it by what came
of that: a message that was handled is done with; one whose handling may succeed later, or took too long,
is put back as long as it was not put back too often; every other one is rejected. When its queue ends, or
cannot be opened, it opens one again after a while. It heeds the word to stop when no message is in its
hands.
-/

namespace BoxOffice

namespace Consumer

/-- Who handles the messages. -/
inductive Handler
  | events
  | users
  /-- Whoever the office has for it. -/
  | script
  deriving DecidableEq, Repr

/-- What came of handling a message. -/
inductive Outcome
  /-- The handler came to its end. -/
  | handled (result : Except Snapshot.HandlerError Snapshot.Handled)
  /-- The handler panicked with a text. -/
  | panicked (text : String)
  | timedOut

/-- What a handler does with a message. -/
structure Conduct where
  /-- How long it takes. -/
  stall : Span
  outcome : Outcome

/-- The decision about a message whose handling may succeed later, and the label it is counted under. -/
def redeliver (maxRedeliveries : Nat) (m : Message) (reason : String) : Bus.Disposition × String :=
  if m.redeliveries < maxRedeliveries then (.requeue, "requeued")
  else
    (.reject (reason ++ " after " ++ Decimal.natText m.redeliveries ++ " redeliveries"),
      "dead_lettered")

/-- The decision about a message by what came of handling it, and the label it is counted under. -/
def verdict (maxRedeliveries : Nat) (m : Message) : Outcome → Bus.Disposition × String
  | .handled (.ok handled) => (.ack, handled.word)
  | .handled (.error e) =>
    if e.isTransient then redeliver maxRedeliveries m e.message
    else (.reject e.message, "dead_lettered")
  | .panicked text => (.reject ("handler panicked: " ++ text), "dead_lettered")
  | .timedOut => redeliver maxRedeliveries m "handler timed out"

/-- What a consumer does. -/
inductive Stage
  /-- It is about to open its queue. -/
  | subscribing
  /-- It waits for the next message of a queue. -/
  | listening (queue : Nat)
  /-- Its handler has a message, is ready with it at an instant, and has to be by another one. -/
  | handling (delivery : Bus.Delivery) (due deadline : Nat)
  /-- It opens its queue again at an instant. -/
  | pausing (due : Nat)
  | stopped
  deriving DecidableEq, Repr

/-- The instants that a consumer waits for. -/
def Stage.dues : Stage → List Nat
  | handling _ due deadline => [due, deadline]
  | pausing due => [due]
  | _ => []

end Consumer

/-- A consumer of one subscription. -/
structure Consumer where
  name : String
  /-- What it opens its queue with. -/
  subscription : Subscription
  handler : Consumer.Handler
  /-- How long handling a message may take. -/
  timeout : Span
  /-- How often a message may be put back. -/
  maxRedeliveries : Nat
  /-- How long it waits before it opens its queue again. -/
  retryDelay : Span
  told : Bool
  stage : Consumer.Stage
  deriving DecidableEq, Repr

namespace Consumer

/-- A consumer that handles each message within ten seconds, puts it back five times at most, and waits
five seconds before it opens its queue again. -/
def standard (name : String) (subscription : Subscription) (handler : Handler) : Consumer :=
  ⟨name, subscription, handler, .ofSeconds 10, 5, .ofSeconds 5, false, .subscribing⟩

/-- Whether a consumer has stopped. -/
def isStopped (c : Consumer) : Bool := c.stage = .stopped

end Consumer

end BoxOffice
