import BoxOffice.Consumer
import BoxOffice.Text.Directive

/-!
# Handling by script

For trying consumers out: the key of a message is a directive that says what comes of handling it. Every
unknown key stands for a message that is handled.
-/

namespace BoxOffice.Consumer.Script

open Text (argument? numberArgument?)

/-- How long handling a message takes. -/
def stall (m : Message) : Span :=
  .ofMillis ((numberArgument? "stall" m.key).getD 0)

/-- What comes of handling a message. -/
def outcome (m : Message) : Outcome :=
  let failed (e : Snapshot.HandlerError) : Outcome := .handled (.error e)
  if m.key = "skip" then .handled (.ok .skipped)
  else if m.key = "ignore" then .handled (.ok .ignored)
  else if m.key = "panic" then .panicked "boom"
  else if m.key = "panic_any" then .panicked "non-string panic payload"
  else if let some text := argument? "panic_text" m.key then .panicked ("boom " ++ text)
  else if let some reason := argument? "malformed" m.key then
    failed (.malformed (.malformed m.routingKey reason))
  else if let some reason := argument? "corrupt" m.key then failed (.snapshot (.corrupt reason))
  else if let some reason := argument? "storage" m.key then failed (.snapshot (.storage reason))
  else if let some n := (argument? "flaky" m.key).bind (Decimal.readUnsigned 4294967295) then
    if m.redeliveries < n then failed (.snapshot (.storage "flaky")) else .handled (.ok .applied)
  else .handled (.ok .applied)

/-- What is done with a message. -/
def conduct (m : Message) : Conduct := ⟨stall m, outcome m⟩

end BoxOffice.Consumer.Script
