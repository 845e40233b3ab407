import BoxOffice.Office

/-!
# Consuming in the office

How a consumer gets on: it opens its queue, takes messages, has them handled and settles them.
-/

namespace BoxOffice.Office

/-- The office with a consumer doing something else. -/
def setStage (o : Office) (i : Nat) (stage : Consumer.Stage) : Office :=
  { o with consumers := o.consumers.modify i fun c => { c with stage := stage } }

/-- Has a consumer open its queue, unless that fails. -/
def openQueue (o : Office) (i : Nat) (c : Consumer) : Office :=
  let record (opened : Bool) : List SubscribeRecord :=
    o.subscribes ++ [⟨c.subscription, o.now, opened⟩]
  match o.subscribeFailures with
  | n + 1 =>
    { o with subscribeFailures := n, subscribes := record false }.setStage i
      (.pausing (o.now + c.retryDelay.ticks))
  | 0 =>
    let (queue, bus) := o.bus.subscribe c.subscription
    { o with bus := bus, subscribes := record true }.setStage i (.listening queue)

/-- What a handler by script does with a message now. -/
def conduct (o : Office) (m : Message) : Consumer.Conduct := o.setup.script o.bus.settled.length m

/-- How long handling a message takes. Only a script takes any time. -/
def stall (o : Office) (c : Consumer) (m : Message) : Span :=
  match c.handler with
  | .script => (o.conduct m).stall
  | _ => ⟨0⟩

/-- Has the handler of a consumer handle a message. -/
def handle (o : Office) (c : Consumer) (m : Message) : Consumer.Outcome × Office :=
  match c.handler with
  | .events =>
    let (result, events) := Snapshot.handleEvent o.events m
    (.handled result, { o with events := events })
  | .users =>
    let (result, users) := Snapshot.handleUser o.users m
    (.handled result, { o with users := users })
  | .script => ((o.conduct m).outcome, o)

/-- Settles a message by what came of handling it. That it cannot be settled is of no consequence. -/
def settleDelivery (o : Office) (c : Consumer) (d : Bus.Delivery) (outcome : Consumer.Outcome) :
    Office :=
  let (disposition, label) := Consumer.verdict c.maxRedeliveries d.message outcome
  { o with
    bus := (o.bus.settle d disposition).2
    metrics := o.metrics.consumed c.name label }

/-- Has a consumer take the next message of its queue, when there is news. -/
def takeMessage (o : Office) (i : Nat) (c : Consumer) (queue : Nat) : Option Office :=
  match o.bus.receive queue with
  | (.empty, _) => none
  | (.ended, bus) =>
    some ({ o with bus := bus }.setStage i (.pausing (o.now + c.retryDelay.ticks)))
  | (.delivery d, bus) =>
    some ({ o with bus := bus }.setStage i
      (.handling d (o.now + (o.stall c d.message).ticks) (o.now + c.timeout.ticks)))

/-- Has a consumer settle the message that it has in hand, when its handler is ready with it or has taken
too long. -/
def concludeDelivery (o : Office) (i : Nat) (c : Consumer) (d : Bus.Delivery) (due deadline : Nat) :
    Option Office :=
  if due ≤ o.now then
    let (outcome, o) := o.handle c d.message
    some ((o.settleDelivery c d outcome).setStage i (.listening d.queue))
  else if deadline ≤ o.now then
    some ((o.settleDelivery c d .timedOut).setStage i (.listening d.queue))
  else none

/-- Has a consumer that has nothing in hand look for a message, when there is something to look at. -/
def lookOut (o : Office) (i : Nat) (c : Consumer) : Option Office :=
  match c.stage with
  | .subscribing => some (o.openQueue i c)
  | .listening queue => o.takeMessage i c queue
  | .pausing due => if due ≤ o.now then some (o.setStage i .subscribing) else none
  | .handling .. | .stopped => none

/-- Has a consumer stop that has nothing in hand. -/
def stopConsumer (o : Office) (i : Nat) (c : Consumer) : Option Office :=
  match c.stage with
  | .listening queue => some ({ o with bus := o.bus.unsubscribe queue }.setStage i .stopped)
  | .subscribing | .pausing _ => some (o.setStage i .stopped)
  | .handling .. | .stopped => none

/-- The next step of a consumer, when it can get on. It stops as soon as it can when it is told to. -/
def stepConsumer (i : Nat) (o : Office) : Option Office :=
  o.consumers[i]?.bind fun c =>
    match c.stage with
    | .handling d due deadline => o.concludeDelivery i c d due deadline
    | _ => if c.told then o.stopConsumer i c else o.lookOut i c

/-- The other step of a consumer that is told to stop: of two things that it waits for and that have both
come, it may take up either. -/
def overlook (i : Nat) (o : Office) : Option Office :=
  o.consumers[i]?.bind fun c => if c.told then o.lookOut i c else none

end BoxOffice.Office
