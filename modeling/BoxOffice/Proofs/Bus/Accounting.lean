import BoxOffice.Proofs.Bus.Lanes
import Mathlib

/-!
# The bus accounts for every message

Whatever goes on at a bus, its lanes tell where every message is that was ever put
on one of its queues. A message is put once on each queue that is open on its topic
and takes its routing key. It waits, is held, or is done with there; or its listener
went. What was rejected is a dead letter, and a copy of it was published to the
dead-letter topic of its queue, if there is one.
-/

namespace BoxOffice.Bus

/-! ### A message that was handed back -/

theorem redeliveredTimes_eq (m : Message) (fits : m.redeliveries ≤ Message.maxRedeliveries)
    (n : Nat) : m.redeliveredTimes n =
      { m with redeliveries := min Message.maxRedeliveries (m.redeliveries + n) } := by
  induction n with
  | zero =>
      rw [Nat.add_zero, Nat.min_eq_right fits]
      rfl
  | succ n ih =>
      rw [Message.redeliveredTimes, ih, Message.redelivered]
      congr 1
      simp only
      omega

/-! ### One queue -/

/-- The queue after one of its messages is settled. -/
def Queue.settle (q : Queue) (m : Message) (how : Disposition) : Queue :=
  if how = .requeue ∧ q.listened then (q.release m).push m.redelivered else q.release m

/-- A lane follows a queue. -/
structure Lane.Records (l : Lane) (q : Queue) : Prop where
  subscription : q.subscription = l.subscription
  live : q.live = true
  listened : q.listened = l.ended.isNone
  waiting : q.waiting = l.waiting.map (·.message)
  held : q.held.Perm (l.held.map (·.message))

namespace Lane.Records

variable {l : Lane} {q : Queue} {c : Copy}

theorem ofSubscription (s : Subscription) (published : Nat) :
    (Lane.ofSubscription s published).Records (.ofSubscription s) where
  subscription := rfl
  live := rfl
  listened := rfl
  waiting := rfl
  held := .refl _

theorem takes (records : l.Records q) (topic : String) (m : Message) :
    q.takes topic m = l.takes topic m := by
  simp only [Queue.takes, Lane.takes, records.live, records.listened, records.subscription,
    Bool.true_and]

theorem route (records : l.Records q) (topic : String) (m : Message) :
    (l.route topic m).Records (if q.takes topic m then q.push m else q) := by
  rw [records.takes, Lane.route]
  split
  · exact { records with
      waiting := by simp [Queue.push, Lane.enter, records.waiting, Copy.message,
        Message.redeliveredTimes] }
  · exact records

theorem take (records : l.Records q) {rest : List Copy} (waiting : l.waiting = c :: rest) :
    (l.take c.message).Records
      { q with waiting := rest.map (·.message), held := q.held ++ [c.message] } := by
  have held := records.held.append_right [c.message]
  simp only [Lane.take, waiting]
  exact { records with
    waiting := rfl
    held := by simpa using held }

theorem settle (records : l.Records q) (member : c ∈ l.held) (how : Disposition) :
    (l.settle c how).Records (q.settle c.message how) := by
  have held : (q.held.erase c.message).Perm ((l.held.erase c).map (·.message)) := by
    have split := records.held.trans ((List.perm_cons_erase member).map (·.message))
    have erased := split.erase c.message
    rwa [List.map_cons, List.erase_cons_head] at erased
  have listened : q.listened = true ↔ l.ended = none := by
    rw [records.listened, Option.isNone_iff_eq_none]
  constructor
  case subscription =>
    rw [Lane.settle_subscription, ← records.subscription]
    unfold Queue.settle
    split <;> rfl
  case live =>
    rw [← records.live]
    unfold Queue.settle
    split <;> rfl
  case listened =>
    rw [Lane.settle_ended, ← records.listened]
    unfold Queue.settle
    split <;> rfl
  case waiting =>
    rw [Lane.waiting_settle, List.map_append, ← records.waiting]
    simp only [Queue.settle, listened]
    split
    · rfl
    · exact (List.append_nil _).symm
  case held =>
    rw [Lane.settle_held]
    unfold Queue.settle
    split <;> exact held

theorem leave (records : l.Records q) (left : l.ended ≠ none → l.waiting = []) (published : Nat) :
    (l.leave published).Records q.abandoned := by
  unfold Lane.leave
  split
  · exact { records with
      listened := rfl
      waiting := rfl }
  · rename_i n gone
    have gone' : l.ended ≠ none := by rw [gone]; exact Option.some_ne_none n
    exact { records with
      listened := by rw [gone]; rfl
      waiting := by rw [left gone']; rfl }

end Lane.Records

/-! ### Settling at the bus -/

/-- The bus after a message was published to a topic, if there is one. -/
def routed (b : Bus) : Option (String × Message) → Bus
  | none => b
  | some (topic, m) => b.route topic m

/-- What settling a message does to the bus. -/
theorem settle_eq {b : Bus} {i : Nat} {q : Queue} (found : b.queues[i]? = some q) {l : Lane}
    (records : l.Records q) (c : Copy) (how : Disposition) :
    (b.settle ⟨i, c.message⟩ how).2 =
      Bus.routed { b with
        queues := b.queues.modify i (·.settle c.message how)
        settled := b.settled ++ [l.noted c how]
        deadLetters := b.deadLetters ++ (l.noted c how).deadLetter?.toList }
      (l.forwards c how) := by
  have group : q.subscription.group = l.subscription.group := by rw [records.subscription]
  have topic : q.subscription.deadLetterTopic = l.subscription.deadLetterTopic := by
    rw [records.subscription]
  have same (f g : Queue → Queue) (equal : f q = g q) :
      b.queues.modify i f = b.queues.modify i g := by
    rw [List.modify_eq_set_getElem? f, List.modify_eq_set_getElem? g, found]
    simp [equal]
  unfold settle
  rw [found]
  cases how with
  | ack =>
      simp [Lane.forwards, Bus.routed, Lane.noted, Settled.deadLetter?, modifyQueue, group,
        same (·.settle c.message .ack) (·.release c.message) (by simp [Queue.settle])]
  | requeue =>
      cases listened : q.listened with
      | true =>
          simp [Lane.forwards, Bus.routed, Lane.noted, Settled.deadLetter?, modifyQueue, group,
            listened, List.modify_modify_eq,
            same (·.settle c.message .requeue)
              ((·.push c.message.redelivered) ∘ (·.release c.message))
              (by simp [Queue.settle, listened])]
      | false =>
          simp [Lane.forwards, Bus.routed, Lane.noted, Settled.deadLetter?, modifyQueue, group,
            listened,
            same (·.settle c.message .requeue) (·.release c.message)
              (by simp [Queue.settle, listened])]
  | reject reason =>
      have queues := same (·.settle c.message (.reject reason)) (·.release c.message)
        (by simp [Queue.settle])
      cases letters : l.subscription.deadLetterTopic <;>
        simp [Lane.forwards, Bus.routed, Lane.noted, Settled.deadLetter?, modifyQueue, group,
          topic, letters, queues]

/-- What a queue hands out is what waits first. -/
theorem receive_of_waiting {b : Bus} {i : Nat} {q : Queue} (found : b.queues[i]? = some q) {l : Lane}
    (records : l.Records q) {published : List (String × Message)} (sound : l.IsSound published)
    {c : Copy} {rest : List Copy} (waiting : l.waiting = c :: rest) :
    b.receive i = (.delivery ⟨i, c.message⟩, b.modifyQueue i fun q =>
      { q with waiting := rest.map (·.message), held := q.held ++ [c.message] }) := by
  have staying : l.ended = none := by
    by_contra gone
    rw [sound.left gone] at waiting
    cases waiting
  have running : q.isRunning = true := by
    simp [Queue.isRunning, records.live, records.listened, staying]
  simp [Bus.receive, found, running, records.waiting, waiting]

/-! ### Lists of lanes -/

/-- Related lists stay so when related elements at one place are changed. -/
theorem forall₂_modify {α β : Type} {R : α → β → Prop} {xs : List α} {ys : List β} {f : α → α}
    {g : β → β} (related : List.Forall₂ R xs ys) (i : Nat)
    (step : ∀ x y, xs[i]? = some x → ys[i]? = some y → R x y → R (f x) (g y)) :
    List.Forall₂ R (xs.modify i f) (ys.modify i g) := by
  induction related generalizing i with
  | nil => simp
  | cons first _ ih =>
      cases i with
      | zero => exact .cons (step _ _ rfl rfl first) ‹_›
      | succ i => exact .cons first (ih i step)

/-- What changes when one lane tells more. -/
theorem perm_flatMap_modify {α β : Type} {xs : List α} {i : Nat} {x : α} (found : xs[i]? = some x)
    {f : α → α} {g : α → List β} {more : List β} (tells : g (f x) = g x ++ more) :
    ((xs.modify i f).flatMap g).Perm (xs.flatMap g ++ more) := by
  induction xs generalizing i with
  | nil => cases found
  | cons y xs ih =>
      cases i with
      | zero =>
          obtain rfl : y = x := Option.some.inj found
          simp only [List.modify_zero_cons, List.flatMap_cons, tells, List.append_assoc]
          exact (List.perm_append_comm).append_left _
      | succ i =>
          simp only [List.modify_succ_cons, List.flatMap_cons, List.append_assoc]
          exact (ih found).append_left _

/-- Nothing changes when no lane tells more. -/
theorem flatMap_modify_of_same {α β : Type} {f : α → α} {g : α → List β}
    (same : ∀ x, g (f x) = g x) (xs : List α) (i : Nat) :
    (xs.modify i f).flatMap g = xs.flatMap g := by
  induction xs generalizing i with
  | nil => simp
  | cons x xs ih => cases i <;> simp [same, ih]

/-! ### The whole bus -/

namespace Lane

/-- The decisions that are noted of the messages of a queue. -/
def notes (l : Lane) : List Settled := l.settled.map fun (c, how) => l.noted c how

@[simp] theorem notes_route (l : Lane) (topic : String) (m : Message) :
    (l.route topic m).notes = l.notes := by
  unfold route
  split <;> rfl

@[simp] theorem forwarded_route (l : Lane) (topic : String) (m : Message) :
    (l.route topic m).forwarded = l.forwarded := by
  unfold route
  split <;> rfl

@[simp] theorem notes_take (l : Lane) (m : Message) : (l.take m).notes = l.notes := by
  unfold take
  split <;> rfl

@[simp] theorem forwarded_take (l : Lane) (m : Message) : (l.take m).forwarded = l.forwarded := by
  unfold take
  split <;> rfl

@[simp] theorem notes_leave (l : Lane) (n : Nat) : (l.leave n).notes = l.notes := by
  unfold leave
  split <;> rfl

@[simp] theorem forwarded_leave (l : Lane) (n : Nat) : (l.leave n).forwarded = l.forwarded := by
  unfold leave
  split <;> rfl

theorem notes_settle (l : Lane) (c : Copy) (how : Disposition) :
    (l.settle c how).notes = l.notes ++ [l.noted c how] := by
  simp [notes, noted]

theorem forwarded_settle (l : Lane) (c : Copy) (how : Disposition) :
    (l.settle c how).forwarded = l.forwarded ++ (l.forwards c how).toList := by
  have same (x : Copy) (how' : Disposition) : (l.settle c how).forwards x how' = l.forwards x how' := by
    cases how' <;> simp [forwards]
  cases sent : l.forwards c how <;> simp [forwarded, same, sent]

end Lane

namespace Traffic

variable {w : Traffic}

/-- A bus accounts for every message. -/
structure IsSound (w : Traffic) : Prop where
  lanes : List.Forall₂ (fun q l => l.Records q ∧ l.IsSound w.bus.published) w.bus.queues w.lanes
  published : w.bus.published.Perm (w.sent ++ w.lanes.flatMap (·.forwarded))
  settled : w.bus.settled.Perm (w.lanes.flatMap (·.notes))
  deadLetters : w.bus.deadLetters = w.bus.settled.filterMap (·.deadLetter?)

/-- What a message that is published does to the queues. -/
theorem lanes_route {b : Bus} {lanes : List Lane}
    (related : List.Forall₂ (fun q l => l.Records q ∧ l.IsSound b.published) b.queues lanes)
    (sent : Option (String × Message)) :
    List.Forall₂ (fun q l => l.Records q ∧ l.IsSound (b.routed sent).published)
      (b.routed sent).queues (routed lanes sent) := by
  cases sent with
  | none => exact related
  | some sent =>
      obtain ⟨topic, m⟩ := sent
      refine List.forall₂_map_left_iff.mpr (List.forall₂_map_right_iff.mpr (related.imp ?_))
      rintro q l ⟨records, sound⟩
      exact ⟨records.route topic m, sound.route topic m⟩

theorem flatMap_routed {β : Type} {g : Lane → List β}
    (same : ∀ l topic m, g (l.route topic m) = g l) (lanes : List Lane)
    (sent : Option (String × Message)) :
    (routed lanes sent).flatMap g = lanes.flatMap g := by
  cases sent with
  | none => rfl
  | some sent => simp [routed, List.flatMap_map, same]

theorem published_routed (b : Bus) (sent : Option (String × Message)) :
    (b.routed sent).published = b.published ++ sent.toList := by
  cases sent with
  | none => exact (List.append_nil _).symm
  | some sent => rfl

theorem settled_routed (b : Bus) (sent : Option (String × Message)) :
    (b.routed sent).settled = b.settled := by
  cases sent <;> rfl

theorem deadLetters_routed (b : Bus) (sent : Option (String × Message)) :
    (b.routed sent).deadLetters = b.deadLetters := by
  cases sent <;> rfl

theorem after_publish (w : Traffic) (topic : String) (m : Message) :
    w.after (.publish topic m) = if w.bus.failPublishes then w else
      ⟨w.bus.route topic m, w.sent ++ [(topic, m)], routed w.lanes (some (topic, m))⟩ := by
  unfold Traffic.after Bus.publish
  cases w.bus.failPublishes <;> rfl

namespace IsSound

theorem empty : IsSound .empty := ⟨.nil, .nil, .nil, rfl⟩

/-- Where there is a lane there is a queue. -/
theorem queue (sound : w.IsSound) {i : Nat} {l : Lane} (found : w.lanes[i]? = some l) :
    ∃ q, w.bus.queues[i]? = some q ∧ l.Records q ∧ l.IsSound w.bus.published := by
  obtain ⟨inLanes, rfl⟩ := List.getElem?_eq_some_iff.mp found
  have inQueues := sound.lanes.length_eq ▸ inLanes
  exact ⟨_, List.getElem?_eq_getElem inQueues, sound.lanes.get inQueues inLanes⟩

/-- Where there is a queue there is a lane. -/
theorem lane (sound : w.IsSound) {i : Nat} {q : Queue} (opened : w.bus.queues[i]? = some q) :
    ∃ l, w.lanes[i]? = some l ∧ l.Records q ∧ l.IsSound w.bus.published := by
  obtain ⟨inQueues, rfl⟩ := List.getElem?_eq_some_iff.mp opened
  have inLanes := sound.lanes.length_eq ▸ inQueues
  exact ⟨_, List.getElem?_eq_getElem inLanes, sound.lanes.get inQueues inLanes⟩

/-- A queue whose listener went is as it was left. -/
theorem isRunning_eq (sound : w.IsSound) {i : Nat} {q : Queue} (opened : w.bus.queues[i]? = some q)
    (idle : q.isRunning = false) : q.abandoned = q := by
  obtain ⟨l, -, records, kept⟩ := sound.lane opened
  have gone : q.listened = false := by simpa [Queue.isRunning, records.live] using idle
  have ended : l.ended ≠ none := by
    intro staying
    rw [records.listened, staying] at gone
    cases gone
  have waiting : q.waiting = [] := by rw [records.waiting, kept.left ended]; rfl
  unfold Queue.abandoned
  rw [← waiting, ← gone]

/-- What a queue hands out is what waits first. -/
theorem receive_eq (sound : w.IsSound) {i : Nat} {l : Lane} (found : w.lanes[i]? = some l)
    {c : Copy} {rest : List Copy} (waiting : l.waiting = c :: rest) :
    w.bus.receive i = (.delivery ⟨i, c.message⟩, w.bus.modifyQueue i fun q =>
      { q with waiting := rest.map (·.message), held := q.held ++ [c.message] }) := by
  obtain ⟨q, opened, records, kept⟩ := sound.queue found
  exact receive_of_waiting opened records kept waiting

theorem after_receive_of_waiting (sound : w.IsSound) {i : Nat} {l : Lane}
    (found : w.lanes[i]? = some l) {c : Copy} {rest : List Copy} (waiting : l.waiting = c :: rest) :
    w.after (.receive i) = { w with
      bus := w.bus.modifyQueue i fun q =>
        { q with waiting := rest.map (·.message), held := q.held ++ [c.message] }
      lanes := w.lanes.modify i (·.take c.message) } := by
  simp [Traffic.after, sound.receive_eq found waiting]

/-- Asking a queue for a message takes out the one that waits first, if there is one. -/
theorem after_receive (sound : w.IsSound) (i : Nat) : w.after (.receive i) = w ∨
    ∃ l c rest, w.lanes[i]? = some l ∧ l.waiting = c :: rest ∧
      w.after (.receive i) = { w with
        bus := w.bus.modifyQueue i fun q =>
          { q with waiting := rest.map (·.message), held := q.held ++ [c.message] }
        lanes := w.lanes.modify i (·.take c.message) } := by
  cases opened : w.bus.queues[i]? with
  | none => exact .inl (by simp [Traffic.after, Bus.receive, opened])
  | some q =>
      obtain ⟨l, found, records, -⟩ := sound.lane opened
      cases running : q.isRunning with
      | false =>
          have same : w.bus.queues.set i q = w.bus.queues := by
            obtain ⟨inRange, rfl⟩ := List.getElem?_eq_some_iff.mp opened
            exact List.set_getElem_self inRange
          have left : w.bus.modifyQueue i Queue.abandoned = w.bus := by
            unfold modifyQueue
            rw [List.modify_eq_set_getElem?, opened]
            simp [sound.isRunning_eq opened running, same]
          exact .inl (by simp [Traffic.after, Bus.receive, opened, running, left])
      | true =>
          cases waiting : l.waiting with
          | nil =>
              have empty : q.waiting = [] := by rw [records.waiting, waiting]; rfl
              exact .inl (by simp [Traffic.after, Bus.receive, opened, running, empty])
          | cons c rest =>
              exact .inr ⟨l, c, rest, found, waiting, sound.after_receive_of_waiting found waiting⟩

theorem subscribe (sound : w.IsSound) (s : Subscription) : (w.after (.subscribe s)).IsSound where
  lanes := List.rel_append sound.lanes (.cons ⟨.ofSubscription s _, .ofSubscription s _⟩ .nil)
  published := by
    simpa [Traffic.after, Bus.subscribe, Lane.forwarded, Lane.ofSubscription] using sound.published
  settled := by
    simpa [Traffic.after, Bus.subscribe, Lane.notes, Lane.ofSubscription] using sound.settled
  deadLetters := sound.deadLetters

theorem publish (sound : w.IsSound) (topic : String) (m : Message) :
    (w.after (.publish topic m)).IsSound := by
  rw [after_publish]
  split
  · exact sound
  · constructor
    case lanes => exact lanes_route sound.lanes (some (topic, m))
    case published =>
      have more := sound.published.append_right [(topic, m)]
      rw [flatMap_routed Lane.forwarded_route]
      simp only [List.append_assoc] at more ⊢
      exact more.trans (List.perm_append_comm.append_left _)
    case settled =>
      rw [flatMap_routed Lane.notes_route]
      exact sound.settled
    case deadLetters => exact sound.deadLetters

theorem receive (sound : w.IsSound) (i : Nat) : (w.after (.receive i)).IsSound := by
  rcases sound.after_receive i with same | ⟨l, c, rest, found, waiting, taken⟩
  · rw [same]
    exact sound
  · rw [taken]
    constructor
    case lanes =>
      refine forall₂_modify sound.lanes i ?_
      rintro q l' - here ⟨records, kept⟩
      cases found.symm.trans here
      exact ⟨records.take waiting, kept.take waiting⟩
    case published =>
      rw [flatMap_modify_of_same fun l => Lane.forwarded_take l c.message]
      exact sound.published
    case settled =>
      rw [flatMap_modify_of_same fun l => Lane.notes_take l c.message]
      exact sound.settled
    case deadLetters => exact sound.deadLetters

theorem unsubscribe (sound : w.IsSound) (i : Nat) : (w.after (.unsubscribe i)).IsSound where
  lanes := by
    refine forall₂_modify sound.lanes i ?_
    rintro q l - - ⟨records, kept⟩
    exact ⟨records.leave kept.left _, kept.leave⟩
  published := by
    have same := flatMap_modify_of_same (fun l => Lane.forwarded_leave l w.bus.published.length)
      w.lanes i
    exact same ▸ sound.published
  settled := by
    have same := flatMap_modify_of_same (fun l => Lane.notes_leave l w.bus.published.length)
      w.lanes i
    exact same ▸ sound.settled
  deadLetters := sound.deadLetters

theorem settle (sound : w.IsSound) {i : Nat} {l : Lane} (found : w.lanes[i]? = some l) {c : Copy}
    (member : c ∈ l.held) (how : Disposition) : (w.settled i l c how).IsSound := by
  obtain ⟨q, opened, records, -⟩ := sound.queue found
  have bus := settle_eq opened records c how
  unfold Traffic.settled
  rw [bus]
  constructor
  case lanes =>
    refine lanes_route (b := { w.bus with
      queues := w.bus.queues.modify i (·.settle c.message how), settled := _, deadLetters := _ }) ?_ _
    refine forall₂_modify sound.lanes i ?_
    rintro q' l' - at_ ⟨records, sound⟩
    cases found.symm.trans at_
    exact ⟨records.settle member how, sound.settle member how⟩
  case published =>
    have forwarded := perm_flatMap_modify (f := (·.settle c how)) (g := (·.forwarded)) found
      (l.forwarded_settle c how)
    rw [published_routed, flatMap_routed Lane.forwarded_route]
    refine (sound.published.append_right _).trans ?_
    rw [List.append_assoc]
    exact forwarded.symm.append_left _
  case settled =>
    have notes := perm_flatMap_modify (f := (·.settle c how)) (g := (·.notes)) found
      (l.notes_settle c how)
    rw [settled_routed, flatMap_routed Lane.notes_route]
    exact (sound.settled.append_right _).trans notes.symm
  case deadLetters =>
    rw [deadLetters_routed, settled_routed]
    rw [List.filterMap_append, ← sound.deadLetters]
    cases letter : (l.noted c how).deadLetter? <;> simp [letter]

theorem move (sound : w.IsSound) (move : Move) (allowed : w.Allows move) :
    (w.after move).IsSound := by
  cases move with
  | subscribe s => exact sound.subscribe s
  | publish topic m => exact sound.publish topic m
  | receive i => exact sound.receive i
  | settle i c how =>
      obtain ⟨l, found, member⟩ := allowed
      have settled := sound.settle found member how
      simpa only [Traffic.after, found, Option.elim_some] using settled
  | unsubscribe i => exact sound.unsubscribe i
  | setFailing fail => exact ⟨sound.lanes, sound.published, sound.settled, sound.deadLetters⟩

end IsSound

theorem Reachable.isSound (reachable : w.Reachable) : w.IsSound := by
  induction reachable with
  | empty => exact .empty
  | step _ move allowed sound => exact sound.move move allowed

end Traffic

/-! ### What a bus accounts for -/

/-- What a queue says to a listener who asks for the next message. -/
def Lane.next (l : Lane) (i : Nat) : Received :=
  match l.waiting with
  | c :: _ => .delivery ⟨i, c.message⟩
  | [] => if l.ended.isNone then .empty else .ended

/-- A lane accounts for the messages of its queue. -/
structure Lane.AccountsFor (l : Lane) (q : Queue) (published : List (String × Message)) : Prop where
  subscription : q.subscription = l.subscription
  /-- The messages that were put on the queue are those that were published to its
  topic while it was open and that its bindings take. -/
  routed : l.routed = l.due published
  /-- Each of them is in one place: it is acknowledged or rejected, waits, or is held,
  or it was lost. -/
  placed : l.routed.Perm ((l.done ++ l.waiting ++ l.held ++ l.lost).map (·.original))
  numbered : (l.copies.map (·.number)).Perm (List.range l.routed.length)
  original : ∀ c ∈ l.copies, l.routed[c.number]? = some c.original
  waiting : q.waiting = l.waiting.map (·.message)
  held : q.held.Perm (l.held.map (·.message))
  /-- None is lost as long as its listener is there. -/
  kept : l.ended = none → l.lost = []
  /-- Nothing changes on the way but the count, which tells how often it was put back. -/
  counted : ∀ c ∈ l.copies, c.original.redeliveries ≤ Message.maxRedeliveries → c.message =
    { c.original with
      redeliveries := min Message.maxRedeliveries (c.original.redeliveries + l.requeues c.number) }
  /-- The messages come out in the order in which they came. -/
  inOrder : l.ended = none → l.entered = l.taken ++ q.waiting
  before : l.taken <+: l.entered

/-- The bus has lost nothing and doubled nothing. -/
structure Traffic.LosesNothing (w : Traffic) : Prop where
  lanes : List.Forall₂ (fun q l => l.AccountsFor q w.bus.published) w.bus.queues w.lanes
  /-- A listener gets the message that waits first. -/
  next : ∀ i l, w.lanes[i]? = some l → (w.bus.receive i).1 = l.next i
  /-- Only publishers publish, and rejected messages go on once. -/
  published : w.bus.published.Perm (w.sent ++ w.lanes.flatMap (·.forwarded))
  settled : w.bus.settled.Perm (w.lanes.flatMap (·.notes))
  /-- There is one dead letter for each message that was rejected. -/
  deadLetters : w.bus.deadLetters = w.bus.settled.filterMap (·.deadLetter?)
  /-- Rejecting a message adds one dead letter, and publishes the message as it is to
  the dead-letter topic, if there is one. -/
  rejecting : ∀ i l c reason, w.lanes[i]? = some l → c ∈ l.held →
    (w.after (.settle i c (.reject reason))).bus.deadLetters =
        w.bus.deadLetters ++ [⟨l.subscription.group, c.message, reason⟩] ∧
      (w.after (.settle i c (.reject reason))).bus.published =
        w.bus.published ++
          (l.subscription.deadLetterTopic.map fun topic => (topic, c.message)).toList

namespace Lane

variable {l : Lane} {q : Queue} {published : List (String × Message)}

theorem IsSound.accountsFor (sound : l.IsSound published) (records : l.Records q) :
    l.AccountsFor q published where
  subscription := records.subscription
  routed := sound.routed
  placed := sound.perm_original
  numbered := sound.numbered
  original := sound.original
  waiting := records.waiting
  held := records.held
  kept := sound.kept
  counted := by
    intro c member fits
    rw [Copy.message, redeliveredTimes_eq _ fits, sound.counted c member]
  inOrder := by
    rw [records.waiting]
    exact sound.inOrder
  before := sound.before

end Lane

namespace Traffic

variable {w : Traffic}

theorem IsSound.next (sound : w.IsSound) {i : Nat} {l : Lane} (found : w.lanes[i]? = some l) :
    (w.bus.receive i).1 = l.next i := by
  cases waiting : l.waiting with
  | cons c rest => simp [sound.receive_eq found waiting, Lane.next, waiting]
  | nil =>
      obtain ⟨q, opened, records, -⟩ := sound.queue found
      have empty : q.waiting = [] := by rw [records.waiting, waiting]; rfl
      have running : q.isRunning = l.ended.isNone := by
        simp [Queue.isRunning, records.live, records.listened]
      simp only [Bus.receive, opened, empty, running, Lane.next, waiting]
      split <;> rfl

/-- A bus neither loses nor doubles a message, whatever goes on at it. -/
theorem Reachable.losesNothing (reachable : w.Reachable) : w.LosesNothing where
  lanes := by
    refine reachable.isSound.lanes.imp ?_
    rintro q l ⟨records, sound⟩
    exact sound.accountsFor records
  next _ _ found := reachable.isSound.next found
  published := reachable.isSound.published
  settled := reachable.isSound.settled
  deadLetters := reachable.isSound.deadLetters
  rejecting := by
    intro i l c reason found member
    obtain ⟨q, opened, records, -⟩ := reachable.isSound.queue found
    have bus := settle_eq opened records c (.reject reason)
    simp only [Traffic.after, found, Option.elim_some, Traffic.settled, bus]
    rw [deadLetters_routed, published_routed]
    exact ⟨rfl, rfl⟩

/-! ### A rush hour -/

/-- The queue of a shop, with a topic for what it rejects. -/
def counter : Subscription := ⟨"sales", "counter", [], some "returns"⟩

/-- The queue of what the shop rejects. -/
def backroom : Subscription := ⟨"returns", "backroom", [], none⟩

/-- A message of one byte. -/
def note (id : String) : Message := ⟨"sale.made", id, "1", [0], 0⟩

/-- A message is put back behind another one and then rejected; the other one is taken
out when the listener goes, and handed back too late. -/
def rush : List Move :=
  [.subscribe counter, .subscribe backroom, .publish "sales" (note "a"), .publish "sales" (note "b"),
    .receive 0, .settle 0 ⟨0, note "a", 0⟩ .requeue, .receive 0, .receive 0,
    .settle 0 ⟨0, note "a", 1⟩ (.reject "torn"), .unsubscribe 0, .settle 0 ⟨1, note "b", 0⟩ .requeue,
    .receive 1]

theorem losesNothing_rush : (empty.play rush).Reachable ∧ (empty.play rush).LosesNothing ∧
    (empty.play rush).bus.deadLetters =
      [⟨"counter", { note "a" with redeliveries := 1 }, "torn"⟩] ∧
    (empty.play rush).lanes.map (·.done) = [[⟨0, note "a", 1⟩], []] ∧
    (empty.play rush).lanes.map (·.lost) = [[⟨1, note "b", 1⟩], []] ∧
    (empty.play rush).lanes.map (·.held) =
      [[], [⟨0, { note "a" with redeliveries := 1 }, 0⟩]] :=
  have reachable := Reachable.empty.play rush
  ⟨reachable, reachable.losesNothing, by decide, by decide, by decide, by decide⟩

end Traffic

end BoxOffice.Bus
