import BoxOffice.Change
import BoxOffice.Snapshot.Table

/-!
# Handling change messages

A change message is applied to a snapshot table: a creation inserts, an update replaces, a count of seats
sets the seats, and a removal deletes. A routing key of another domain is ignored. A body that does not
fit is an error that handing the message back cannot mend; a failing store may be mended by it.
-/

namespace BoxOffice.Snapshot

/-- What a handler did with a message. -/
inductive Handled
  | applied
  /-- The message was too old, or there was nothing to change. -/
  | skipped
  /-- The routing key is none of the handler's. -/
  | ignored
  deriving DecidableEq, Repr

/-- The word for what a handler did. -/
def Handled.word : Handled → String
  | applied => "applied"
  | skipped => "skipped"
  | ignored => "ignored"

/-- What a handler did, by the effect of its write. -/
def Handled.ofEffect : Effect → Handled
  | .applied => .applied
  | .skipped => .skipped

/-- Why a message was not handled. -/
inductive HandlerError
  /-- The message makes no sense. -/
  | malformed (cause : Change.Error)
  | snapshot (cause : Error)
  deriving DecidableEq, Repr

namespace HandlerError

/-- The report of a cause. -/
def message : HandlerError → String
  | malformed cause => cause.message
  | snapshot cause => cause.message

/-- Whether handing the message back may help. -/
def isTransient : HandlerError → Bool
  | snapshot (.storage _) => true
  | _ => false

end HandlerError

/-- The answer of a handler whose write had a result. -/
def handled {τ : Type} (r : Except Error Effect × τ) : Except HandlerError Handled × τ :=
  (match r.1 with
    | .ok effect => .ok (.ofEffect effect)
    | .error e => .error (.snapshot e),
    r.2)

/-- Applies a change of an event. -/
def applyEventChange (t : EventTable) : EventChange → Except HandlerError Handled × EventTable
  | .created s => handled (t.insert s)
  | .updated s => handled (t.upsert s)
  | .seatsUpdated c => handled (t.updateSeats c.id c.availableSeats c.version)
  | .deleted r => handled (t.delete r.id)

/-- Handles a message about an event. -/
def handleEvent (t : EventTable) (m : Message) : Except HandlerError Handled × EventTable :=
  match EventChange.ofMessage m with
  | .error e => (.error (.malformed e), t)
  | .ok none => (.ok .ignored, t)
  | .ok (some c) => applyEventChange t c

/-- Applies a change of a user. -/
def applyUserChange (t : UserTable) : UserChange → Except HandlerError Handled × UserTable
  | .created s => handled (t.insert s)
  | .updated s => handled (t.upsert s)
  | .deleted r => handled (t.delete r.id)

/-- Handles a message about a user. -/
def handleUser (t : UserTable) (m : Message) : Except HandlerError Handled × UserTable :=
  match UserChange.ofMessage m with
  | .error e => (.error (.malformed e), t)
  | .ok none => (.ok .ignored, t)
  | .ok (some c) => applyUserChange t c

end BoxOffice.Snapshot
