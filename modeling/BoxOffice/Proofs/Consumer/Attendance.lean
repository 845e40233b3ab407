import BoxOffice.Proofs.Consumer.Redelivery
import BoxOffice.Proofs.Consumer.Seats

/-!
# A consumer of the office at its queue

From the turn on in which a consumer opens a queue, nobody else takes messages out of
it. The lane of the queue tells what the consumer has taken out and settled, which is
read off its turns: `deliveries` are the messages that it comes to have in hand, and
`settlements` those that it settles, each with what came of handling it. `Attends` ties
the lane to the office and to the turns. Every move keeps it, of the consumer and of
others, as long as the outside uses the bus as others do.
-/

namespace BoxOffice

namespace Consumer

open Bus (Copy Lane)

/-- The message of a queue that is in a consumer's hands. -/
def Stage.messageOf? (i : Nat) : Stage → Option Message
  | .handling d _ _ => if d.queue = i then some d.message else none
  | _ => none

/-- What a consumer does at its queue, as the lane tells it: it takes a message out,
settles the one that it has by its verdict, or leaves when it is told to. -/
inductive Uses (M : Nat) (told : Bool) (l : Lane) (handled : List (Copy × Outcome)) :
    Lane → List (Copy × Outcome) → Prop
  | takes {c : Copy} {rest : List Copy} (waiting : l.waiting = c :: rest) :
      Uses M told l handled (l.take c.message) handled
  | settles {c : Copy} (held : c ∈ l.held) (outcome : Outcome) :
      Uses M told l handled
        ((l.settle c (verdict M c.message outcome).1).routedBy
          (l.forwards c (verdict M c.message outcome).1))
        (handled ++ [(c, outcome)])
  | leaves (left : told = true) (published : Nat) :
      Uses M told l handled (l.leave published) handled

theorem Uses.subscription {M : Nat} {told : Bool} {l l' : Lane}
    {handled handled' : List (Copy × Outcome)} (uses : Uses M told l handled l' handled') :
    l'.subscription = l.subscription := by
  cases uses with
  | takes waiting => simp [Lane.take, waiting]
  | settles held outcome => simp
  | leaves _ published =>
      unfold Lane.leave
      split <;> rfl

theorem Uses.serves {M : Nat} {told : Bool} {l l' : Lane} {handled handled' : List (Copy × Outcome)}
    {published : List (String × Message)} (uses : Uses M told l handled l' handled')
    (serves : Serves M l handled) (sound : l.IsSound published)
    (fits : M ≤ Message.maxRedeliveries) : Serves M l' handled' := by
  cases uses with
  | takes waiting => exact serves.take waiting
  | settles held outcome =>
      exact (serves.settle sound fits held outcome).routedBy (sound.settle held _) _
  | leaves _ published => exact serves.leave published

end Consumer

namespace Office

open Bus (Copy Lane)

/-! ### What is seen of a consumer -/

/-- The message of a queue that a consumer settles when it gets on, with what comes of
handling it: what its handler says when it is ready, or that it has taken too long. -/
def settling? (o : Office) (i : Nat) (c : Consumer) : Option (Message × Consumer.Outcome) :=
  match c.stage with
  | .handling d due _ =>
    if d.queue = i then
      some (d.message, if due ≤ o.now then (o.handle c d.message).1 else .timedOut)
    else none
  | _ => none

/-- The message of a queue that a consumer settles in a turn. -/
def Turn.settlement? (j i : Nat) (x : Turn) : Option (Message × Consumer.Outcome) :=
  if x.move.consumer? = some j then (x.before.consumers[j]?).bind (x.before.settling? i) else none

/-- The message of a queue that a consumer takes out in a turn. -/
def Turn.delivery? (j i : Nat) (x : Turn) : Option Message :=
  if x.move.consumer? = some j then (x.after.stages[j]?).bind (·.messageOf? i) else none

/-- What a consumer has settled of a queue, in order. -/
def settlements (j i : Nat) (turns : List Turn) : List (Message × Consumer.Outcome) :=
  turns.filterMap (Turn.settlement? j i)

/-- What a consumer has taken out of a queue, in order. -/
def deliveries (j i : Nat) (turns : List Turn) : List Message :=
  turns.filterMap (Turn.delivery? j i)

theorem settlements_concat (j i : Nat) (turns : List Turn) (x : Turn) :
    settlements j i (turns ++ [x]) = settlements j i turns ++ (x.settlement? j i).toList := by
  rw [settlements, List.filterMap_append, List.filterMap_cons, List.filterMap_nil]
  cases x.settlement? j i <;> rfl

theorem deliveries_concat (j i : Nat) (turns : List Turn) (x : Turn) :
    deliveries j i (turns ++ [x]) = deliveries j i turns ++ (x.delivery? j i).toList := by
  rw [deliveries, List.filterMap_append, List.filterMap_cons, List.filterMap_nil]
  cases x.delivery? j i <;> rfl

/-- A consumer opens a queue. -/
structure Turn.Opens (x : Turn) (j i : Nat) (c : Consumer) : Prop where
  own : x.move.consumer? = some j
  found : x.before.consumers[j]? = some c
  begins : c.stage = .subscribing
  opened : x.after.stages[j]? = some (.listening i)

/-! ### A consumer at its queue -/

/-- Where a consumer stands that has opened a queue. -/
inductive IsAt (i : Nat) (l : Lane) : Consumer.Stage → Prop
  | listens (free : l.held = []) (staying : l.ended = none) : IsAt i l (.listening i)
  | handles {x : Copy} {due deadline : Nat} (has : l.held = [x]) (staying : l.ended = none) :
      IsAt i l (.handling ⟨i, x.message⟩ due deadline)
  | stopped (free : l.held = []) (left : l.ended ≠ none) : IsAt i l .stopped

/-- A consumer has opened a queue, and since then there were some turns. -/
structure Attends (c : Consumer) (j i : Nat) (turns : List Turn) (o : Office) (l : Lane)
    (handled : List (Copy × Consumer.Outcome)) : Prop where
  subscription : l.subscription = c.subscription
  follows : l.Follows i o.bus
  serves : Consumer.Serves c.maxRedeliveries l handled
  limit : o.limits[j]? = some c.maxRedeliveries
  own : ∃ stage, o.stages[j]? = some stage ∧ IsAt i l stage
  /-- Nobody else is at the queue. -/
  others : ∀ k stage, k ≠ j → o.stages[k]? = some stage → stage.queue? ≠ some i
  settled : handled.map (fun x => (x.1.message, x.2)) = settlements j i turns
  taken : l.taken = deliveries j i turns
  /-- It settles each message that it takes out before it takes the next one. -/
  inTurn : l.taken = handled.map (·.1.message) ++ l.held.map (·.message)
  /-- What it settles, it settles by its verdict. -/
  decided : ∀ x ∈ turns, ∀ m outcome, x.settlement? j i = some (m, outcome) →
    x.after.bus = (x.before.bus.settle ⟨i, m⟩ (Consumer.verdict c.maxRedeliveries m outcome).1).2

theorem IsAt.routedBy {i : Nat} {l : Lane} {stage : Consumer.Stage} (stands : IsAt i l stage)
    (sent : Option (String × Message)) : IsAt i (l.routedBy sent) stage := by
  cases stands with
  | listens free staying => exact .listens (by simpa using free) (by simpa using staying)
  | handles has staying => exact .handles (by simpa using has) (by simpa using staying)
  | stopped free left => exact .stopped (by simpa using free) (by simpa using left)

/-- A consumer does nothing at a queue in a turn of somebody else. -/
theorem Turn.idle {x : Turn} {j i : Nat} (aside : x.move.consumer? ≠ some j) :
    x.settlement? j i = none ∧ x.delivery? j i = none :=
  ⟨if_neg aside, if_neg aside⟩

namespace Attends

variable {c c₁ : Consumer} {j i k : Nat} {turns : List Turn} {o o' : Office} {l l' : Lane}
  {handled handled' : List (Copy × Consumer.Outcome)} {m : Move}

theorem known (attends : Attends c j i turns o l handled) : i < o.bus.queues.length := by
  obtain ⟨q, found, -, -⟩ := attends.follows
  exact (List.getElem?_eq_some_iff.mp found).1

/-! ### Turns of others -/

/-- A turn of somebody else, who leaves the queue to the consumer. -/
theorem rests (attends : Attends c j i turns o l handled) (aside : m.consumer? ≠ some j)
    {sent : Option (String × Message)} (follows : (l.routedBy sent).Follows i o'.bus)
    (limits : o'.limits = o.limits) (own : o'.stages[j]? = o.stages[j]?)
    (others : ∀ k stage, k ≠ j → o'.stages[k]? = some stage → stage.queue? ≠ some i) :
    Attends c j i (turns ++ [⟨m, o, o'⟩]) o' (l.routedBy sent) handled := by
  obtain ⟨settles, takes⟩ := Turn.idle (x := ⟨m, o, o'⟩) (i := i) aside
  obtain ⟨stage, at_, stands⟩ := attends.own
  constructor
  case subscription => rw [Lane.routedBy_subscription, attends.subscription]
  case follows => exact follows
  case serves => exact attends.serves.routedBy attends.follows.isSound sent
  case limit => rw [limits, attends.limit]
  case own => exact ⟨stage, own.trans at_, stands.routedBy sent⟩
  case others => exact others
  case settled =>
    rw [settlements_concat, settles, Option.toList_none, List.append_nil, attends.settled]
  case taken =>
    rw [deliveries_concat, takes, Option.toList_none, List.append_nil, Lane.routedBy_taken,
      attends.taken]
  case inTurn => rw [Lane.routedBy_taken, Lane.routedBy_held, attends.inTurn]
  case decided =>
    intro x member message outcome settled
    rcases List.mem_append.mp member with early | last
    · exact attends.decided x early message outcome settled
    · obtain rfl := List.mem_singleton.mp last
      cases settles.symm.trans settled

/-- Another consumer gets on. -/
theorem besides (attends : Attends c j i turns o l handled) (moves : m.consumer? = some k)
    (apart : k ≠ j) (found : o.consumers[k]? = some c₁) (acts : Acts o k c₁ o') :
    ∃ sent, Attends c j i (turns ++ [⟨m, o, o'⟩]) o' (l.routedBy sent) handled := by
  have at_ : o.stages[k]? = some c₁.stage := by
    rw [stages, List.getElem?_map, found, Option.map_some]
  have elsewhere := attends.others k _ apart at_
  obtain ⟨_, consumers⟩ := acts.consumers
  obtain ⟨stage, seats, seat⟩ := acts.seat
  obtain ⟨sent, follows⟩ := attends.follows.spares (acts.spares elsewhere attends.known)
  refine ⟨sent, attends.rests (by rw [moves]; simpa using apart) follows
    (limits_of_modify consumers) ?_ ?_⟩
  · rw [seats, List.getElem?_set_ne apart]
  · intro n there other sits
    by_cases same : k = n
    · subst same
      have bound := (List.getElem?_eq_some_iff.mp at_).1
      rw [seats, List.getElem?_set_self bound] at sits
      cases sits
      rcases seat with none_ | stays | ⟨new, -⟩
      · rw [none_]
        intro queue
        cases queue
      · rwa [stays]
      · rw [new]
        intro queue
        exact Nat.lt_irrefl i (Option.some.inj queue ▸ attends.known)
    · rw [seats, List.getElem?_set_ne same] at sits
      exact attends.others n there other sits

/-! ### Turns of the consumer -/

section Own

variable (attends : Attends c j i turns o l handled)
  (fits : c.maxRedeliveries ≤ Message.maxRedeliveries) (own : m.consumer? = some j)
  (found : o.consumers[j]? = some c₁)
include attends fits own found

/-- A turn of the consumer in which it uses its queue. -/
theorem uses {stage' : Consumer.Stage}
    (consumers : o'.consumers = o.consumers.modify j fun c => { c with stage := stage' })
    (uses : Consumer.Uses c.maxRedeliveries c₁.told l handled l' handled')
    (follows : l'.Follows i o'.bus) (stands : IsAt i l' stage')
    (settled : handled'.map (fun x => (x.1.message, x.2)) =
      handled.map (fun x => (x.1.message, x.2)) ++ (o.settling? i c₁).toList)
    (taken : l'.taken = l.taken ++ (stage'.messageOf? i).toList)
    (inTurn : l'.taken = handled'.map (·.1.message) ++ l'.held.map (·.message))
    (decided : ∀ message outcome, o.settling? i c₁ = some (message, outcome) → o'.bus =
      (o.bus.settle ⟨i, message⟩ (Consumer.verdict c.maxRedeliveries message outcome).1).2) :
    Attends c j i (turns ++ [⟨m, o, o'⟩]) o' l' handled' := by
  have seats := stages_of_modify consumers
  obtain ⟨stage, at_, -⟩ := attends.own
  have bound := (List.getElem?_eq_some_iff.mp at_).1
  have seat : o'.stages[j]? = some stage' := by rw [seats, List.getElem?_set_self bound]
  have settles : Turn.settlement? j i ⟨m, o, o'⟩ = o.settling? i c₁ := by
    simp [Turn.settlement?, own, found]
  have takes : Turn.delivery? j i ⟨m, o, o'⟩ = stage'.messageOf? i := by
    simp [Turn.delivery?, own, seat]
  constructor
  case subscription => rw [uses.subscription, attends.subscription]
  case follows => exact follows
  case serves => exact uses.serves attends.serves attends.follows.isSound fits
  case limit => rw [limits_of_modify consumers, attends.limit]
  case own => exact ⟨stage', seat, stands⟩
  case others =>
    intro k there apart sits
    rw [seats, List.getElem?_set_ne apart.symm] at sits
    exact attends.others k there apart sits
  case settled => rw [settlements_concat, settles, settled, attends.settled]
  case taken => rw [deliveries_concat, takes, taken, attends.taken]
  case inTurn => exact inTurn
  case decided =>
    intro x member message outcome settled
    rcases List.mem_append.mp member with early | last
    · exact attends.decided x early message outcome settled
    · obtain rfl := List.mem_singleton.mp last
      exact decided message outcome (settles.symm.trans settled)

theorem leaves (told : c₁.told = true) (at_ : c₁.stage = .listening i) (free : l.held = [])
    (staying : l.ended = none) :
    ∃ l' handled', Consumer.Uses c.maxRedeliveries c₁.told l handled l' handled' ∧
      Attends c j i (turns ++ [⟨m, o, { o with bus := o.bus.unsubscribe i }.setStage j .stopped⟩])
        ({ o with bus := o.bus.unsubscribe i }.setStage j .stopped) l' handled' := by
  have left : Consumer.Uses c.maxRedeliveries c₁.told l handled
      (l.leave o.bus.published.length) handled := .leaves told _
  have rest : o.settling? i c₁ = none := by simp [settling?, at_]
  have same : l.leave o.bus.published.length = { l with
      ended := some o.bus.published.length, waiting := [], lost := l.lost ++ l.waiting } := by
    simp [Lane.leave, staying]
  refine ⟨_, _, left, attends.uses fits own found rfl left attends.follows.leave
    (.stopped ?_ ?_) ?_ ?_ ?_ ?_⟩
  · rw [same]
    exact free
  · rw [same]
    exact Option.some_ne_none _
  · rw [rest, Option.toList_none, List.append_nil]
  · rw [same]
    exact (List.append_nil _).symm
  · rw [same]
    exact attends.inTurn
  · intro message outcome settles
    cases rest.symm.trans settles

theorem takes {d : Bus.Delivery} {bus : Bus} {due deadline : Nat}
    (at_ : c₁.stage = .listening i) (free : l.held = []) (staying : l.ended = none)
    (received : o.bus.receive i = (.delivery d, bus)) :
    ∃ l' handled', Consumer.Uses c.maxRedeliveries c₁.told l handled l' handled' ∧
      Attends c j i
        (turns ++ [⟨m, o, { o with bus := bus }.setStage j (.handling d due deadline)⟩])
        ({ o with bus := bus }.setStage j (.handling d due deadline)) l' handled' := by
  have rest : o.settling? i c₁ = none := by simp [settling?, at_]
  cases waiting : l.waiting with
  | nil =>
      rw [attends.follows.receive_empty staying waiting] at received
      cases received
  | cons x others =>
      obtain ⟨bus', handed, follows⟩ := attends.follows.receive waiting
      cases handed.symm.trans received
      have took : Consumer.Uses c.maxRedeliveries c₁.told l handled (l.take x.message) handled :=
        .takes waiting
      refine ⟨_, _, took, attends.uses fits own found rfl took follows (.handles ?_ ?_) ?_ ?_ ?_ ?_⟩
      · simp [Lane.take, waiting, free]
      · simpa [Lane.take, waiting] using staying
      · rw [rest, Option.toList_none, List.append_nil]
      · simp [Lane.take, waiting, Consumer.Stage.messageOf?]
      · simp [Lane.take, waiting, attends.inTurn, free]
      · intro message outcome settles
        cases rest.symm.trans settles

theorem settles {x : Copy} {outcome : Consumer.Outcome} {o₁ : Office} (has : l.held = [x])
    (staying : l.ended = none) (settles : o.settling? i c₁ = some (x.message, outcome))
    (bus : o₁.bus = o.bus) (consumers : o₁.consumers = o.consumers) :
    ∃ l' handled', Consumer.Uses c.maxRedeliveries c₁.told l handled l' handled' ∧
      Attends c j i (turns ++ [⟨m, o,
          (o₁.settleDelivery c₁ ⟨i, x.message⟩ outcome).setStage j (.listening i)⟩])
        ((o₁.settleDelivery c₁ ⟨i, x.message⟩ outcome).setStage j (.listening i)) l' handled' := by
  have held : x ∈ l.held := has ▸ List.mem_singleton_self x
  have settled : Consumer.Uses c.maxRedeliveries c₁.told l handled _ _ := .settles held outcome
  have limit : c₁.maxRedeliveries = c.maxRedeliveries := by
    have same := attends.limit
    rw [limits, List.getElem?_map, found, Option.map_some] at same
    exact Option.some.inj same
  have decided : ((o₁.settleDelivery c₁ ⟨i, x.message⟩ outcome).setStage j (.listening i)).bus =
      (o.bus.settle ⟨i, x.message⟩
        (Consumer.verdict c.maxRedeliveries x.message outcome).1).2 := by
    rw [← bus, ← limit]
    rfl
  have seats : ((o₁.settleDelivery c₁ ⟨i, x.message⟩ outcome).setStage j (.listening i)).consumers =
      o.consumers.modify j fun c => { c with stage := .listening i } := by
    rw [← consumers]
    rfl
  refine ⟨_, _, settled, attends.uses fits own found seats settled
    (decided ▸ attends.follows.settle held _) (.listens ?_ ?_) ?_ ?_ ?_ ?_⟩
  · simp [has]
  · simpa using staying
  · rw [settles, List.map_append]
    rfl
  · simp [Consumer.Stage.messageOf?]
  · simp [attends.inTurn, has]
  · intro message outcome' same
    cases settles.symm.trans same
    exact decided

/-- In a turn of its own the consumer uses its queue. -/
theorem act (acts : Acts o j c₁ o') :
    ∃ l' handled', Consumer.Uses c.maxRedeliveries c₁.told l handled l' handled' ∧
      Attends c j i (turns ++ [⟨m, o, o'⟩]) o' l' handled' := by
  obtain ⟨stage, sits, stands⟩ := attends.own
  rw [stages, List.getElem?_map, found, Option.map_some] at sits
  obtain rfl := Option.some.inj sits
  cases acts with
  | stops told at_ =>
      rcases at_ with at_ | ⟨due, at_⟩ <;> rw [at_] at stands <;> cases stands
  | leaves told at_ =>
      rw [at_] at stands
      cases stands with
      | listens free staying => exact attends.leaves fits own found told at_ free staying
  | opens at_ =>
      rw [at_] at stands
      cases stands
  | finds at_ received =>
      rw [at_] at stands
      cases stands with
      | listens free staying =>
          cases waiting : l.waiting with
          | nil =>
              rw [attends.follows.receive_empty staying waiting] at received
              cases received
          | cons x rest =>
              obtain ⟨_, handed, -⟩ := attends.follows.receive waiting
              cases handed.symm.trans received
  | takes at_ received =>
      rw [at_] at stands
      cases stands with
      | listens free staying => exact attends.takes fits own found at_ free staying received
  | returns at_ past =>
      rw [at_] at stands
      cases stands
  | handles at_ ready =>
      rw [at_] at stands
      cases stands with
      | handles has staying =>
          refine attends.settles fits own found has staying ?_ (bus_handle o c₁ _)
            (consumers_handle o c₁ _)
          simp [settling?, at_, ready]
  | expires at_ busy late =>
      rw [at_] at stands
      cases stands with
      | handles has staying =>
          refine attends.settles fits own found has staying ?_ rfl rfl
          simp [settling?, at_, Nat.not_le_of_lt busy]

end Own

/-! ### Any turn -/

/-- Nobody gets between the consumer and its queue. -/
theorem move {news : Option EventChange} (attends : Attends c j i turns o l handled)
    (fits : c.maxRedeliveries ≤ Message.maxRedeliveries) (talks : Talks o m o' news)
    (moved : m.apply o = some o') (outside : Turn.SparesQueue i ⟨m, o, o'⟩) :
    ∃ l' handled', Attends c j i (turns ++ [⟨m, o, o'⟩]) o' l' handled' := by
  rcases acts_or_isAside talks moved outside with ⟨k, c₁, moves, found, acts⟩ | ⟨aside, quiet⟩
  · by_cases own : k = j
    · subst own
      obtain ⟨l', handled', -, later⟩ := attends.act fits moves found acts
      exact ⟨l', handled', later⟩
    · obtain ⟨sent, later⟩ := attends.besides moves own found acts
      exact ⟨_, _, later⟩
  · obtain ⟨sent, follows⟩ := attends.follows.spares (quiet.spares attends.known)
    exact ⟨_, _, attends.rests (by rw [aside]; exact nofun) follows quiet.limits
      (by rw [quiet.stages]) fun k stage apart sits =>
        attends.others k stage apart (quiet.stages ▸ sits)⟩

end Attends

section Openings

variable {c : Consumer} {j i : Nat} {first o o' : Office} {m : Move}
  {turns before after : List Turn} {x : Turn}

/-- A consumer that opens a queue opens the next one. -/
theorem openQueue_of_opens (acts : Acts o j c o') (begins : c.stage = .subscribing)
    (found : o.consumers[j]? = some c) (opened : o'.stages[j]? = some (.listening i)) :
    i = o.bus.queues.length ∧ o'.bus = (o.bus.subscribe c.subscription).2 ∧
      o'.consumers = o.consumers.modify j fun c => { c with stage := .listening i } := by
  have bound := (List.getElem?_eq_some_iff.mp found).1
  have seat {o₁ : Office} {stage : Consumer.Stage}
      (consumers : o₁.consumers = o.consumers.modify j fun c => { c with stage := stage }) :
      o₁.stages[j]? = some stage := by
    rw [stages_of_modify consumers, List.getElem?_set_self (by simpa [stages] using bound)]
  cases acts with
  | stops => cases (seat rfl).symm.trans opened
  | opens =>
      unfold openQueue at opened ⊢
      split at opened
      · cases (seat rfl).symm.trans opened
      · cases (seat rfl).symm.trans opened
        exact ⟨rfl, rfl, rfl⟩
  | leaves _ at_ | finds at_ | takes at_ | returns at_ | handles at_ | expires at_ =>
      cases begins.symm.trans at_

/-- The consumer begins at an empty queue, and nobody else is there. -/
theorem Attends.opened (seated : o.IsSeated) (acts : Acts o j c o')
    (opens : Turn.Opens ⟨m, o, o'⟩ j i c) :
    Attends c j i [] o' (.ofSubscription c.subscription o.bus.published.length) [] := by
  obtain ⟨rfl, bus, consumers⟩ :=
    openQueue_of_opens acts opens.begins opens.found opens.opened
  constructor
  case subscription => rfl
  case follows =>
    rw [bus]
    exact .subscribe o.bus c.subscription
  case serves => exact .ofSubscription c.subscription _
  case limit =>
    have found : o.consumers[j]? = some c := opens.found
    rw [limits_of_modify consumers, limits, List.getElem?_map, found]
    rfl
  case own => exact ⟨_, opens.opened, .listens rfl rfl⟩
  case others =>
    intro k stage apart sits at_
    rw [stages_of_modify consumers, List.getElem?_set_ne apart.symm] at sits
    exact Nat.lt_irrefl _ (seated stage (List.mem_of_getElem? sits) _ at_)
  case settled => rfl
  case taken => rfl
  case inTurn => rfl
  case decided =>
    intro x member
    cases member

/-- A consumer that has opened a queue is at it ever since. -/
theorem Run.attends (run : Run first (before ++ x :: after) o) (new : IsNew first)
    (idle : ∀ c ∈ first.consumers, c.stage = .subscribing) (opens : x.Opens j i c)
    (fits : c.maxRedeliveries ≤ Message.maxRedeliveries)
    (outside : ∀ y ∈ before ++ x :: after, y.SparesQueue i) :
    ∃ l handled, Attends c j i after o l handled := by
  obtain ⟨reached, moved, -⟩ := run.split
  have seated := reached.isSeated new idle fun y there => outside y (List.mem_append_left _ there)
  have begins : Attends c j i [] x.after
      (.ofSubscription c.subscription x.before.bus.published.length) [] := by
    obtain ⟨_, talks⟩ := reached.talks new moved
    rcases acts_or_isAside talks moved (outside x (by simp)) with
      ⟨k, c', own, found, acts⟩ | ⟨aside, -⟩
    · cases own.symm.trans opens.own
      cases found.symm.trans opens.found
      exact .opened seated acts opens
    · cases aside.symm.trans opens.own
  refine run.since (P := fun turns o => (∀ y ∈ turns, y.SparesQueue i) →
    ∃ l handled, Attends c j i turns o l handled) (fun _ => ⟨_, _, begins⟩) ?_
    fun y there => outside y (by simp [there])
  intro turns o o' m run moved ih spared
  obtain ⟨l, handled, attends⟩ := ih fun y there => spared y (List.mem_append_left _ there)
  obtain ⟨news, talks⟩ := run.talks new moved
  exact attends.move fits talks moved (spared _ List.mem_concat_self)

end Openings

end Office

end BoxOffice
