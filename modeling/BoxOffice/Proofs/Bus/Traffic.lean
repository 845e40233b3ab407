import BoxOffice.Bus

/-!
# A bus in use

`Traffic` is a bus with all that has gone on at it since it was empty. For every
queue there is a `Lane`, which follows each message that was put on the queue
from there to its end. A message keeps its number on the way, so that two equal
messages are told apart, and the number of times that it was put back.

Publishers publish, listeners come, take messages out, settle them and go, in
any order, and publishing may be made to fail. A message that was taken out is
settled at some time and once; the bus is not closed.
-/

namespace BoxOffice.Bus

/-- Whether a message is done with after a decision. -/
def Disposition.isFinal : Disposition → Bool
  | ack => true
  | requeue => false
  | reject _ => true

/-- What becomes of a decision among the dead letters. -/
def Settled.deadLetter? (s : Settled) : Option DeadLetter :=
  match s.disposition with
  | .reject reason => some ⟨s.group, s.message, reason⟩
  | _ => none

/-- A message on its way through a queue. -/
structure Copy where
  /-- How many messages were put on the queue before it. -/
  number : Nat
  /-- The message as it was when it was put on the queue. -/
  original : Message
  /-- How often it was put back. -/
  times : Nat
  deriving DecidableEq, Repr

namespace Copy

/-- The message as it is now. -/
def message (c : Copy) : Message := c.original.redeliveredTimes c.times

/-- The message after it was put back once more. -/
def putBack (c : Copy) : Copy := { c with times := c.times + 1 }

/-- The message after a decision. -/
def after (c : Copy) (how : Disposition) : Copy := if how = .requeue then c.putBack else c

end Copy

/-- All that has gone on at a queue. -/
structure Lane where
  subscription : Subscription
  /-- How many messages were published before it was opened. -/
  opened : Nat
  /-- How many messages were published before its listener went, if it has gone. -/
  ended : Option Nat
  /-- The messages that were published to it, in order. -/
  routed : List Message
  /-- The messages that came to its end, published or put back, in order. -/
  entered : List Message
  /-- The messages that were taken out, in order. -/
  taken : List Message
  waiting : List Copy
  /-- The messages that were taken out and are not settled. -/
  held : List Copy
  /-- The decisions, in order. -/
  settled : List (Copy × Disposition)
  /-- The messages that no listener was left for. -/
  lost : List Copy
  deriving DecidableEq, Repr

namespace Lane

/-- The lane of a queue that is opened after a number of messages were published. -/
def ofSubscription (s : Subscription) (published : Nat) : Lane :=
  ⟨s, published, none, [], [], [], [], [], [], []⟩

/-- Whether a queue is open on a topic and takes messages with a routing key. -/
def takes (l : Lane) (topic : String) (m : Message) : Bool :=
  l.ended.isNone && l.subscription.topic == topic && l.subscription.accepts m.routingKey

/-- The lane after a message came to the end of the queue. -/
def enter (l : Lane) (c : Copy) : Lane :=
  { l with entered := l.entered ++ [c.message], waiting := l.waiting ++ [c] }

/-- The lane after a message was published to a topic. -/
def route (l : Lane) (topic : String) (m : Message) : Lane :=
  if l.takes topic m then { l with routed := l.routed ++ [m] }.enter ⟨l.routed.length, m, 0⟩ else l

/-- The lane after the queue has handed a message out. -/
def take (l : Lane) (m : Message) : Lane :=
  match l.waiting with
  | [] => l
  | c :: rest => { l with taken := l.taken ++ [m], waiting := rest, held := l.held ++ [c] }

/-- The lane after a decision is noted. -/
def note (l : Lane) (c : Copy) (how : Disposition) : Lane :=
  { l with held := l.held.erase c, settled := l.settled ++ [(c, how)] }

/-- The lane after a message is settled. -/
def settle (l : Lane) (c : Copy) (how : Disposition) : Lane :=
  match how, l.ended with
  | .requeue, none => (l.note c how).enter c.putBack
  | .requeue, some _ => { l.note c how with lost := l.lost ++ [c.putBack] }
  | _, _ => l.note c how

/-- The lane after the listener went. -/
def leave (l : Lane) (published : Nat) : Lane :=
  match l.ended with
  | none => { l with ended := some published, waiting := [], lost := l.lost ++ l.waiting }
  | some _ => l

/-! ### What a lane tells -/

/-- The messages that were acknowledged or rejected. -/
def done (l : Lane) : List Copy :=
  (l.settled.filter fun (_, how) => how.isFinal).map (·.1)

/-- All messages that were published to the queue, where they are now. -/
def copies (l : Lane) : List Copy := l.done ++ l.waiting ++ l.held ++ l.lost

/-- How often a message was put back. -/
def requeues (l : Lane) (number : Nat) : Nat :=
  l.settled.countP fun (c, how) => c.number = number && how = .requeue

/-- What is noted of a decision. -/
def noted (l : Lane) (c : Copy) (how : Disposition) : Settled :=
  ⟨l.subscription.group, c.message, how⟩

/-- Where a message goes after a decision. -/
def forwards (l : Lane) (c : Copy) : Disposition → Option (String × Message)
  | .reject _ => l.subscription.deadLetterTopic.map fun topic => (topic, c.message)
  | _ => none

/-- The copies of rejected messages, with the topic that each was sent to. -/
def forwarded (l : Lane) : List (String × Message) :=
  l.settled.filterMap fun (c, how) => l.forwards c how

/-- The messages that were published to the topic while the queue was open and that
the bindings take. -/
def due (l : Lane) (published : List (String × Message)) : List Message :=
  (((published.take (l.ended.getD published.length)).drop l.opened).filter fun (topic, m) =>
    l.subscription.topic == topic && l.subscription.accepts m.routingKey).map (·.2)

end Lane

/-- A bus with all that went on at it. -/
structure Traffic where
  bus : Bus
  /-- What publishers have published, each message with its topic, in order. -/
  sent : List (String × Message)
  /-- The lanes of the queues, by number. -/
  lanes : List Lane

namespace Traffic

/-- A bus that nobody has used. -/
def empty : Traffic := ⟨.empty, [], []⟩

/-- What may happen at a bus. -/
inductive Move
  | subscribe (s : Subscription)
  | publish (topic : String) (m : Message)
  | receive (queue : Nat)
  | settle (queue : Nat) (c : Copy) (how : Disposition)
  | unsubscribe (queue : Nat)
  | setFailing (fail : Bool)
  deriving DecidableEq, Repr

/-- The lanes after a message was published to a topic, if there is one. -/
def routed (lanes : List Lane) : Option (String × Message) → List Lane
  | none => lanes
  | some (topic, m) => lanes.map (·.route topic m)

/-- The traffic after a message was settled that came from a lane. -/
def settled (w : Traffic) (i : Nat) (l : Lane) (c : Copy) (how : Disposition) : Traffic :=
  { w with
    bus := (w.bus.settle ⟨i, c.message⟩ how).2
    lanes := routed (w.lanes.modify i (·.settle c how)) (l.forwards c how) }

/-- The traffic after a move. -/
def after (w : Traffic) : Move → Traffic
  | .subscribe s =>
    { w with
      bus := (w.bus.subscribe s).2
      lanes := w.lanes ++ [.ofSubscription s w.bus.published.length] }
  | .publish topic m =>
    match w.bus.publish topic m with
    | .error _ => w
    | .ok bus =>
      { bus := bus, sent := w.sent ++ [(topic, m)], lanes := routed w.lanes (some (topic, m)) }
  | .receive i =>
    match w.bus.receive i with
    | (.delivery d, bus) => { w with bus := bus, lanes := w.lanes.modify i (·.take d.message) }
    | (_, bus) => { w with bus := bus }
  | .settle i c how => (w.lanes[i]?).elim w fun l => w.settled i l c how
  | .unsubscribe i =>
    { w with
      bus := w.bus.unsubscribe i
      lanes := w.lanes.modify i (·.leave w.bus.published.length) }
  | .setFailing fail => { w with bus := w.bus.setFailing fail }

/-- Whether a move can be made: only a message that was taken out can be settled. -/
def Allows (w : Traffic) : Move → Prop
  | .settle i c _ => ∃ l, w.lanes[i]? = some l ∧ c ∈ l.held
  | _ => True

instance (w : Traffic) (move : Move) : Decidable (w.Allows move) :=
  match move with
  | .settle i c _ =>
    decidable_of_iff ((w.lanes[i]?).any fun l => decide (c ∈ l.held))
      (by simp [Allows, Option.any_eq_true])
  | .subscribe _ | .publish .. | .receive _ | .unsubscribe _ | .setFailing _ => .isTrue trivial

/-- What may come of an empty bus. -/
inductive Reachable : Traffic → Prop
  | empty : Reachable empty
  | step {w : Traffic} (reachable : Reachable w) (move : Move) (allowed : w.Allows move) :
      Reachable (w.after move)

/-- Makes moves one after the other, as long as they can be made. -/
def play (w : Traffic) : List Move → Traffic
  | [] => w
  | move :: moves => if w.Allows move then (w.after move).play moves else w

theorem Reachable.play {w : Traffic} (reachable : w.Reachable) (moves : List Move) :
    (w.play moves).Reachable := by
  induction moves generalizing w with
  | nil => exact reachable
  | cons move moves ih =>
      unfold Traffic.play
      split
      · exact ih (reachable.step move ‹_›)
      · exact reachable

end Traffic

end BoxOffice.Bus
