import BoxOffice.Proofs.Bus.Messages
import BoxOffice.Proofs.Office.Announcing
import BoxOffice.Proofs.Snapshot.Writing

/-!
# How messages travel

A message about an event is published by the request that owes it. From then on it
is on the bus or in the hands of a consumer, may be copied and handed back, and is
still read as the same change. A snapshot of an event is only written by handling
such a message. `Conveys` says this of a move, whatever else it does, as long as
the outside does not forge messages or snapshots.
-/

namespace BoxOffice

/-- A message has the routing key and the body of another one. -/
structure Message.Repeats (m m' : Message) : Prop where
  routingKey : m.routingKey = m'.routingKey
  body : m.body = m'.body

namespace Message.Repeats

variable {m m' : Message}

theorem refl (m : Message) : m.Repeats m := ⟨rfl, rfl⟩

theorem redelivered (m : Message) : m.redelivered.Repeats m := ⟨rfl, rfl⟩

theorem ofMessage (repeats : m.Repeats m') : EventChange.ofMessage m = EventChange.ofMessage m' := by
  unfold EventChange.ofMessage Message.decodeBody
  rw [repeats.routingKey, repeats.body]

theorem tells {c : EventChange} (repeats : m.Repeats m') (tells : EventChange.Tells m' c) :
    EventChange.Tells m c :=
  ⟨repeats.routingKey.trans tells.routingKey, repeats.body.trans tells.body⟩

end Message.Repeats

theorem EventChange.tells_toMessage (c : EventChange) (id : String) : Tells (c.toMessage id) c :=
  ⟨rfl, rfl⟩

theorem UserChange.routingKey_not_mem (c : UserChange) : c.routingKey ∉ EventChange.keys := by
  cases c <;> simp [routingKey, EventChange.keys]

namespace Office

open Ledger (Ticket)

/-- The messages on the bus and in the hands of consumers. -/
def Wires.messages (w : Wires) : List Message :=
  w.bus.messages ++ w.consumers.filterMap (·.stage.message?)

theorem mem_wires_messages {o : Office} {m : Message} : m ∈ o.wires.messages ↔
    m ∈ o.bus.messages ∨ ∃ c ∈ o.consumers, c.stage.message? = some m := by
  simp [Wires.messages, wires]

/-! ### Turns of consumers -/

/-- What a turn of a consumer comes to. -/
inductive Consumes (o : Office) (i : Nat) (c : Consumer) (o' : Office) : Prop
  /-- It comes to hold no message, or one that was on the bus. -/
  | looks {stage : Consumer.Stage} (held : ∀ m, stage.message? = some m → m ∈ o.bus.messages)
      (consumers : o'.consumers = o.consumers.modify i fun c => { c with stage := stage })
      (messages : ∀ m ∈ o'.bus.messages, m ∈ o.bus.messages)
      (settled : o'.bus.settled = o.bus.settled) (events : o'.events = o.events)
  /-- It has changed the snapshots of events as its message says. -/
  | handles {d : Bus.Delivery} {due deadline : Nat} (at_ : c.stage = .handling d due deadline)
      (handler : c.handler = .events)
      (consumers : o'.consumers = o.consumers.modify i fun c =>
        { c with stage := .listening d.queue })
      (events : o'.events = (Snapshot.handleEvent o.events d.message).2)
      (bus : o'.bus = (o.bus.settle d (Consumer.verdict c.maxRedeliveries d.message
        (.handled (Snapshot.handleEvent o.events d.message).1)).1).2)
  /-- It has not touched the snapshots of events. -/
  | settles {d : Bus.Delivery} {due deadline : Nat} {outcome : Consumer.Outcome}
      (at_ : c.stage = .handling d due deadline)
      (other : c.handler = .events → outcome = .timedOut)
      (consumers : o'.consumers = o.consumers.modify i fun c =>
        { c with stage := .listening d.queue })
      (events : o'.events = o.events)
      (bus : o'.bus = (o.bus.settle d (Consumer.verdict c.maxRedeliveries d.message outcome).1).2)

section Consumers

variable {o o' : Office} {i : Nat} {c : Consumer}

theorem consumes_openQueue (o : Office) (i : Nat) (c : Consumer) :
    Consumes o i c (o.openQueue i c) := by
  unfold openQueue
  split
  · exact .looks (by simp [Consumer.Stage.message?]) rfl (fun _ member => member) rfl rfl
  · exact .looks (by simp [Consumer.Stage.message?]) rfl (fun _ => Bus.mem_subscribe) rfl rfl

theorem settled_receive {queue : Nat} {received : Bus.Received} {bus : Bus}
    (same : o.bus.receive queue = (received, bus)) : bus.settled = o.bus.settled := by
  have kept : (o.bus.receive queue).2.settled = o.bus.settled := by
    unfold Bus.receive
    split
    · rfl
    · split
      · split <;> rfl
      · rfl
  rwa [same] at kept

theorem consumes_handling {d : Bus.Delivery} {due deadline : Nat}
    (at_ : c.stage = .handling d due deadline) :
    Consumes o i c (((o.handle c d.message).2.settleDelivery c d (o.handle c d.message).1).setStage i
      (.listening d.queue)) := by
  unfold handle
  cases handler : c.handler with
  | events => exact .handles at_ handler rfl rfl rfl
  | users => exact .settles at_ (by simp [handler]) rfl rfl rfl
  | script => exact .settles at_ (by simp [handler]) rfl rfl rfl

theorem consumes_of_acts (acts : Acts o i c o') : Consumes o i c o' := by
  cases acts with
  | stops => exact .looks (by simp [Consumer.Stage.message?]) rfl (fun _ member => member) rfl rfl
  | leaves => exact .looks (by simp [Consumer.Stage.message?]) rfl (fun _ => Bus.mem_unsubscribe) rfl rfl
  | opens at_ => exact consumes_openQueue o i c
  | finds at_ received =>
      exact .looks (by simp [Consumer.Stage.message?]) rfl (Bus.mem_receive received).1
        (settled_receive received) rfl
  | @takes queue at_ d bus received =>
      obtain ⟨messages, was⟩ := Bus.mem_receive received
      refine .looks (fun m held => ?_) rfl messages (settled_receive received) rfl
      cases held
      exact was d rfl
  | returns => exact .looks (by simp [Consumer.Stage.message?]) rfl (fun _ member => member) rfl rfl
  | handles at_ ready => exact consumes_handling at_
  | expires at_ => exact .settles at_ (fun _ => rfl) rfl rfl rfl

/-- A message in somebody's hands after a turn was there before, or was taken now. -/
theorem mem_hands {stage : Consumer.Stage} {m : Message}
    (member : ∃ c ∈ o.consumers.modify i fun c => { c with stage := stage }, c.stage.message? = some m) :
    stage.message? = some m ∨ ∃ c ∈ o.consumers, c.stage.message? = some m := by
  obtain ⟨c, member, holds⟩ := member
  obtain ⟨j, at_⟩ := List.mem_iff_getElem?.mp member
  rw [List.getElem?_modify] at at_
  obtain ⟨c', found, same⟩ := Option.map_eq_some_iff.mp at_
  split at same
  · subst same
    exact .inl holds
  · subst same
    exact .inr ⟨c', List.mem_of_getElem? found, holds⟩

end Consumers

/-! ### Moves -/

/-- What a move does to the bus, the snapshots of events and the consumers. -/
inductive Rewires (o : Office) : Move → Office → Prop
  | rests {m : Move} {o' : Office} (same : o'.wires = o.wires) : Rewires o m o'
  /-- A request publishes the message that it owes. -/
  | utters {m : Move} {o' : Office} {t : Ticket} {c : EventChange} (owed : o.owes t = some c)
      (uttered : o'.wires = { o.wires with bus := (o.announce c).2.bus }) : Rewires o m o'
  | consumes {o' : Office} {i : Nat} {c : Consumer} (found : o.consumers[i]? = some c)
      (acts : Acts o i c o') : Rewires o (.turn (.consumer i)) o'
  | overlooks {o' : Office} {i : Nat} {c : Consumer} (found : o.consumers[i]? = some c)
      (free : c.stage.message? = none) (acts : Acts o i c o') : Rewires o (.overlook i) o'
  | written (events : Snapshot.EventTable) (users : Snapshot.UserTable) :
      Rewires o (.write events users) { o with events := events, users := users }
  | wired (bus : Bus) : Rewires o (.wire bus) { o with bus := bus }
  | announced (c : EventChange) : Rewires o (.announce c) (o.announce c).2
  | announcedUser (c : UserChange) : Rewires o (.announceUser c) (o.announceUser c).2

section Rewiring

variable {o o' : Office} {m : Move} {news : Option EventChange}

theorem Talks.rewires {t : Ticket} (talks : Talks o m o' news) (own : m.isBy t = true) :
    Rewires o m o' := by
  cases talks with
  | rests _ _ still => exact .rests (still t own)
  | commits _ _ _ _ _ still => exact .rests still
  | hides _ _ _ _ _ still => exact .rests still
  | utters _ owed _ _ _ utters => exact .utters owed utters

theorem rewires_of_move (talks : Talks o m o' news) (moved : m.apply o = some o') :
    Rewires o m o' := by
  cases m with
  | turn a =>
      cases a with
      | caller t => exact talks.rewires (t := t) (beq_self_eq_true t)
      | worker i => exact .rests (wires_stepWorker moved)
      | consumer i =>
          obtain ⟨c, found, acts⟩ := acts_of_step moved
          exact .consumes found acts
      | application => exact .rests (wires_stepApplication moved)
      | unlocking t =>
          obtain ⟨u, _, _, rfl⟩ := stepUnlock_eq_some moved
          exact .rests (congrArg Backdrop.wires (backdrop_unlock _ u.key))
  | hurry a =>
      cases a with
      | caller t => exact talks.rewires (t := t) (beq_self_eq_true t)
      | application => exact .rests (wires_hurryApplication moved)
      | worker i => cases moved
      | consumer i => cases moved
      | unlocking t => cases moved
  | overlook i =>
      obtain ⟨c, found, free, acts⟩ := acts_of_overlook moved
      exact .overlooks found free acts
  | abandon t =>
      cases moved
      exact .rests (congrArg Backdrop.wires (backdrop_abandon o t))
  | unlock key =>
      cases moved
      exact .rests (congrArg Backdrop.wires (backdrop_unlock o key))
  | submit job =>
      cases moved
      exact .rests (wires_submit o job)
  | pass now =>
      simp only [Move.apply] at moved
      split at moved <;> cases moved
      exact .rests rfl
  | write events users =>
      cases moved
      exact .written events users
  | wire bus =>
      cases moved
      exact .wired bus
  | announce c =>
      cases moved
      exact .announced c
  | announceUser c =>
      cases moved
      exact .announcedUser c
  | _ =>
      cases moved
      exact .rests rfl

end Rewiring

/-- The outside sends no change of an event, but may send and hand in messages again
that are there. -/
def Move.IsGenuine (o : Office) : Move → Prop
  | .announce _ => False
  | .wire bus => ∀ m ∈ bus.messages, m.routingKey ∈ EventChange.keys →
    ∃ m' ∈ o.wires.messages, m.Repeats m'
  | .write events _ => events.rows = o.events.rows ∨
    ∃ m ∈ o.wires.messages, events = (Snapshot.handleEvent o.events m).2
  | _ => True

/-- Messages about events come from such messages or tell of what is owed, and
snapshots of events are written by handling one. -/
structure Conveys (o o' : Office) : Prop where
  messages : ∀ m ∈ o'.wires.messages, m.routingKey ∈ EventChange.keys →
    (∃ m' ∈ o.wires.messages, m.Repeats m') ∨
      ∃ t c, o.owes t = some c ∧ EventChange.Tells m c
  events : o'.events.rows = o.events.rows ∨
    ∃ m ∈ o.wires.messages, o'.events = (Snapshot.handleEvent o.events m).2

section Moves

variable {o o' : Office} {m : Move} {i : Nat}

/-- All messages were there before. -/
theorem Conveys.of_messages
    (messages : ∀ m ∈ o'.wires.messages, ∃ m' ∈ o.wires.messages, m.Repeats m')
    (events : o'.events.rows = o.events.rows ∨
      ∃ m ∈ o.wires.messages, o'.events = (Snapshot.handleEvent o.events m).2) : Conveys o o' :=
  ⟨fun m member _ => .inl (messages m member), events⟩

theorem Conveys.of_wires (same : o'.wires = o.wires) : Conveys o o' := by
  refine .of_messages (fun m member => ⟨m, same ▸ member, .refl m⟩) (.inl ?_)
  exact congrArg (·.events.rows) same

theorem Consumes.conveys {c : Consumer} (consumes : Consumes o i c o')
    (found : o.consumers[i]? = some c) : Conveys o o' := by
  -- Settling brings the message in hand back at most.
  have settled {d : Bus.Delivery} {due deadline : Nat} {how : Bus.Disposition}
      (at_ : c.stage = .handling d due deadline)
      (consumers : o'.consumers = o.consumers.modify i fun c =>
        { c with stage := .listening d.queue })
      (bus : o'.bus = (o.bus.settle d how).2) :
      d.message ∈ o.wires.messages ∧
        ∀ m ∈ o'.wires.messages, ∃ m' ∈ o.wires.messages, m.Repeats m' := by
    have inHand : d.message ∈ o.wires.messages :=
      mem_wires_messages.mpr (.inr ⟨c, List.mem_of_getElem? found, by rw [at_]; rfl⟩)
    refine ⟨inHand, fun m member => ?_⟩
    rw [mem_wires_messages, consumers, bus] at member
    rcases member with onBus | hands
    · rcases Bus.mem_settle onBus with same | rfl | rfl
      · exact ⟨m, mem_wires_messages.mpr (.inl same), .refl m⟩
      · exact ⟨_, inHand, .refl _⟩
      · exact ⟨_, inHand, .redelivered _⟩
    · rcases mem_hands hands with new | old
      · cases new
      · exact ⟨m, mem_wires_messages.mpr (.inr old), .refl m⟩
  cases consumes with
  | looks held consumers messages _ events =>
      refine .of_messages (fun m member => ⟨m, ?_, .refl m⟩) (.inl (congrArg _ events))
      rw [mem_wires_messages, consumers] at member
      refine mem_wires_messages.mpr ?_
      rcases member with onBus | hands
      · exact .inl (messages m onBus)
      · exact (mem_hands hands).imp_left (held m)
  | @handles d due deadline at_ handler consumers events bus =>
      obtain ⟨inHand, messages⟩ := settled at_ consumers bus
      exact .of_messages messages (.inr ⟨d.message, inHand, events⟩)
  | settles at_ _ consumers events bus =>
      exact .of_messages (settled at_ consumers bus).2 (.inl (congrArg _ events))

/-- Publishing adds one message to those there are. -/
theorem mem_wires_published {topic : String} {m' m : Message}
    (published : o'.wires = { o.wires with bus := (o.publish topic m').2.bus })
    (member : m ∈ o'.wires.messages) : m ∈ o.wires.messages ∨ m = m' := by
  rw [published] at member
  rcases List.mem_append.mp member with onBus | hands
  · unfold publish at onBus
    split at onBus
    · rename_i accepted
      exact (Bus.mem_publish accepted onBus).imp_left (List.mem_append_left _)
    · exact .inl (List.mem_append_left _ onBus)
  · exact .inl (List.mem_append_right _ hands)

theorem conveys_of_move {news : Option EventChange} (talks : Talks o m o' news)
    (genuine : m.IsGenuine o) (moved : m.apply o = some o') : Conveys o o' := by
  cases rewires_of_move talks moved with
  | rests same => exact .of_wires same
  | @utters _ _ t c owed uttered =>
      refine ⟨fun m member _ => ?_, .inl (congrArg (·.events.rows) uttered)⟩
      rcases mem_wires_published uttered member with same | rfl
      · exact .inl ⟨m, same, .refl m⟩
      · exact .inr ⟨t, c, owed, c.tells_toMessage _⟩
  | consumes found acts => exact (consumes_of_acts acts).conveys found
  | overlooks found _ acts => exact (consumes_of_acts acts).conveys found
  | written events users => exact .of_messages (fun m member => ⟨m, member, .refl m⟩) genuine
  | wired bus =>
      refine ⟨fun m member event => .inl ?_, .inl rfl⟩
      rcases mem_wires_messages.mp member with onBus | hands
      · exact genuine m onBus event
      · exact ⟨m, mem_wires_messages.mpr (.inr hands), .refl m⟩
  | announced c => cases genuine
  | announcedUser c =>
      have published := wires_announceUser o c
      refine ⟨fun m member event => ?_, .inl (congrArg (·.events.rows) published)⟩
      rcases mem_wires_published published member with same | rfl
      · exact .inl ⟨m, same, .refl m⟩
      · exact absurd event c.routingKey_not_mem

end Moves

end Office

end BoxOffice
