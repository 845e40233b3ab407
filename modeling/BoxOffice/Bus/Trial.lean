import BoxOffice.Bus
import BoxOffice.Keyed

/-!
# Trying a bus out

A trial gives names to the queues that it opens and to the messages that it takes out. A name that is used
again stands for the new thing, and the old one is let go: nobody listens to such a queue any longer, and
such a message is never settled.
-/

namespace BoxOffice.Bus

/-- A bus that is tried out. -/
structure Trial where
  bus : Bus
  /-- The queues that are listened to, by name. -/
  queues : List (String × Nat)
  /-- The messages that were taken out and not settled, by name. -/
  held : List (String × Delivery)
  deriving DecidableEq, Repr

namespace Trial

/-- A trial of an empty bus. -/
def empty : Trial := ⟨.empty, [], []⟩

/-- Opens a queue under a name. -/
def subscribe (t : Trial) (queue : String) (s : Subscription) : Trial :=
  let (id, bus) := t.bus.subscribe s
  { t with
    bus := (Keyed.get? queue t.queues).elim bus bus.unsubscribe
    queues := Keyed.put queue id t.queues }

/-- Listens to a queue no longer: whether there was one with the name. -/
def unsubscribe (t : Trial) (queue : String) : Bool × Trial :=
  match Keyed.get? queue t.queues with
  | none => (false, t)
  | some id =>
    (true, { t with bus := t.bus.unsubscribe id, queues := Keyed.erase queue t.queues })

/-- Takes a message out of a queue and gives it a name, if there is such a queue. -/
def receive (t : Trial) (queue name : String) : Option Received × Trial :=
  match Keyed.get? queue t.queues with
  | none => (none, t)
  | some id =>
    match t.bus.receive id with
    | (.delivery d, bus) =>
      (some (.delivery d),
        { t with
          bus := (Keyed.get? name t.held).elim bus bus.forget
          held := Keyed.put name d t.held })
    | (received, bus) => (some received, { t with bus := bus })

/-- Settles a message, if there is one with the name. -/
def settle (t : Trial) (name : String) (how : Disposition) : Option (Except Error Unit) × Trial :=
  match Keyed.get? name t.held with
  | none => (none, t)
  | some d =>
    let (result, bus) := t.bus.settle d how
    (some result, { t with bus := bus, held := Keyed.erase name t.held })

/-- Lets a message go unsettled: whether there was one with the name. -/
def drop (t : Trial) (name : String) : Bool × Trial :=
  match Keyed.get? name t.held with
  | none => (false, t)
  | some d => (true, { t with bus := t.bus.forget d, held := Keyed.erase name t.held })

end Trial

end BoxOffice.Bus
