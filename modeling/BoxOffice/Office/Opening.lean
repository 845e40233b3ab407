import BoxOffice.Consumer.Script
import BoxOffice.Office
import BoxOffice.Settings

/-!
# Opening the office

An office opens with nothing in it. `ofSettings` wires it as the settings say: a pool that simulates
charges, a consumer for the snapshots of events and one for those of users, and an application that owns
all three.
-/

namespace BoxOffice.Office

namespace Setup

/-- The usual names of the topics, five minutes for payment, and the usual retries. Draws lie in the
middle, a simulated charge takes as long as it may, and the key of a message says what comes of handling
it by script. -/
def standard : Setup where
  eventsTopic := "events"
  usersTopic := "users"
  hold := 300000000000
  retry := .standard
  settleRetry := .standard
  spread _ := 0.5
  charge := ⟨.ofMillis Settings.max64, 0.5⟩
  scan := id
  script _ := Consumer.Script.conduct

/-- The set-up that settings ask for, when the payment hold can be told. -/
def ofSettings? (s : Settings) : Option Setup :=
  s.booking.hold?.map fun seconds =>
    { standard with
      eventsTopic := s.broker.eventsTopic
      usersTopic := s.broker.usersTopic
      hold := seconds * 1000000000
      retry := s.booking.retryPolicy
      settleRetry := s.booking.retryPolicy }

end Setup

/-- An office with nothing in it. Settlements in the pool and outside it ask equal deciders. -/
def opened (setup : Setup) (clock : Timestamp) (sizing : Pool.Sizing) (decider : Settlement.Decider)
    (consumers : List Consumer) (application : Option Application) : Office where
  setup := setup
  now := 0
  clock := clock
  ledger := .empty
  events := .empty
  users := .empty
  bus := .empty
  pool := .ofSizing sizing
  decider := decider
  ownDecider := decider
  gate := .shut
  consumers := consumers
  dismissed := false
  application := application
  tasks := []
  answers := []
  tickets := 0
  held := []
  unlocks := []
  idsDrawn := 0
  messagesDrawn := 0
  subscribeFailures := 0
  subscribes := []
  metrics := .empty

/-- The consumer of a domain as the settings ask for. Its name ends the name of its group. -/
def consumerOf (s : Settings) (name topic binding deadLetterTopic : String)
    (handler : Consumer.Handler) : Consumer :=
  let subscription : Subscription :=
    ⟨topic, s.broker.consumerGroup ++ "-" ++ name, [⟨binding⟩], some deadLetterTopic⟩
  { Consumer.standard name subscription handler with
    timeout := .ofMillis s.consumer.handlerTimeoutMs
    maxRedeliveries := s.consumer.maxRedeliveries
    retryDelay := .ofMillis s.consumer.reconnectDelayMs }

/-- The consumers that settings ask for. -/
def consumersOf (s : Settings) : List Consumer :=
  [consumerOf s "event-snapshots" s.broker.eventsTopic "event.#" s.broker.eventsDeadLetterTopic .events,
    consumerOf s "user-snapshots" s.broker.usersTopic "user.#" s.broker.usersDeadLetterTopic .users]

/-- The office that settings ask for, when the payment hold can be told. -/
def ofSettings? (s : Settings) (clock : Timestamp) : Option Office :=
  (Setup.ofSettings? s).map fun setup =>
    opened setup clock s.settlement.sizing (.simulated s.settlement.successRatio s.settlement.latency)
      (consumersOf s) (some (.ofTimeout s.server.shutdownSpan))

end BoxOffice.Office
