/-!
# Why the bus fails

The causes for which the bus does not connect, publish, subscribe or settle, and their reports.
-/

namespace BoxOffice.Bus

/-- Why the bus fails. -/
inductive Error
  | connectionFailed (reason : String)
  | publishFailed (topic reason : String)
  | subscriptionFailed (topic reason : String)
  | ackFailed (reason : String)
  | transportError (reason : String)
  deriving DecidableEq, Repr

/-- The report of a cause. -/
def Error.message : Error → String
  | connectionFailed reason => "Connection failed: " ++ reason
  | publishFailed topic reason => "Publish failed for topic '" ++ topic ++ "': " ++ reason
  | subscriptionFailed topic reason => "Subscription failed for topic '" ++ topic ++ "': " ++ reason
  | ackFailed reason => "Acknowledgement failed: " ++ reason
  | transportError reason => "Transport error: " ++ reason

end BoxOffice.Bus
