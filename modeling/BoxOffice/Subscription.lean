import BoxOffice.Routing

/-!
# Subscriptions

A subscription opens a queue on one topic. It takes the messages whose routing key one of its bindings
matches, or every message when there are no bindings.
-/

namespace BoxOffice

/-- What a queue is opened with. -/
structure Subscription where
  /-- The topic whose messages it takes. -/
  topic : String
  group : String
  /-- The patterns of the routing keys it takes. -/
  bindings : List Routing.Pattern
  /-- Where a copy of a rejected message goes. -/
  deadLetterTopic : Option String
  deriving DecidableEq, Repr

/-- Whether a subscription takes messages with a routing key. -/
def Subscription.accepts (s : Subscription) (key : String) : Bool :=
  s.bindings.isEmpty || s.bindings.any (·.matches key)

end BoxOffice
