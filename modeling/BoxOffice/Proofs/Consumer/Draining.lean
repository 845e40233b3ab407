import BoxOffice.Proofs.Consumer.Attendance
import Mathlib

/-!
# A consumer empties its queue

Whatever comes of handling its messages, a consumer makes only so many deliveries of
those that come to its queue, and settles each one once. When it is left alone with its
queue, and what it rejects does not come back, every turn of it brings the end nearer,
until each message is acknowledged or rejected.
-/

namespace BoxOffice

namespace Bus

/-- No message of a queue would come back if it were rejected. -/
def Lane.KeepsOut (l : Lane) : Prop :=
  ∀ topic, l.subscription.deadLetterTopic = some topic →
    ∀ c ∈ l.waiting ++ l.held, l.takes topic c.original = false

theorem Copy.routingKey_message (c : Copy) : c.message.routingKey = c.original.routingKey := by
  unfold Copy.message
  induction c.times with
  | zero => rfl
  | succ n ih => exact ih

/-- A copy goes to the dead-letter topic as it is. -/
theorem Lane.eq_of_forwards {l : Lane} {c : Copy} {how : Disposition} {topic : String} {m : Message}
    (sent : l.forwards c how = some (topic, m)) :
    l.subscription.deadLetterTopic = some topic ∧ m = c.message := by
  cases how with
  | reject reason =>
      obtain ⟨topic', letters, same⟩ := Option.map_eq_some_iff.mp sent
      cases same
      exact ⟨letters, rfl⟩
  | ack => cases sent
  | requeue => cases sent

/-- What is rejected does not come back. -/
theorem Lane.KeepsOut.settle_routedBy {l : Lane} {c : Copy} (keepsOut : l.KeepsOut)
    (held : c ∈ l.held) (how : Disposition) :
    (l.settle c how).routedBy (l.forwards c how) = l.settle c how := by
  rcases sent : l.forwards c how with _ | ⟨topic, m⟩
  · rfl
  · obtain ⟨letters, rfl⟩ := Lane.eq_of_forwards sent
    have kept := keepsOut topic letters c (List.mem_append_right _ held)
    simp only [Lane.takes] at kept
    simp [Lane.routedBy, Lane.route, Lane.takes, c.routingKey_message, kept]

end Bus

namespace Consumer

open Bus (Copy Lane)

section Nearing

variable {M : Nat} {l l' : Lane} {c : Copy} {handled handled' : List (Copy × Outcome)}

/-! ### What is left to do -/

/-- How many turns a consumer has to go at most. -/
def toGo (M : Nat) (l : Lane) : Nat := 2 * budget M l + l.held.length

/-- A turn has brought the end of a queue nearer. -/
structure Nears (M : Nat) (l l' : Lane) : Prop where
  staying : l'.ended = none
  keepsOut : l'.KeepsOut
  routed : l'.routed = l.routed
  spent : l'.taken.length + budget M l' ≤ l.taken.length + budget M l
  nearer : toGo M l' < toGo M l

/-- Settling a message brings the end nearer. -/
theorem nears_settle (fits : M ≤ Message.maxRedeliveries) (staying : l.ended = none)
    (keepsOut : l.KeepsOut) (held : c ∈ l.held) (outcome : Outcome) :
    Nears M l (l.settle c (verdict M c.message outcome).1) where
  staying := (l.settle_ended c _).trans staying
  keepsOut := by
    intro topic letters x placed
    rw [Lane.settle_subscription] at letters
    rw [Lane.waiting_settle, Lane.settle_held] at placed
    have same : (l.settle c (verdict M c.message outcome).1).takes topic x.original =
        l.takes topic x.original := by
      simp [Lane.takes]
    rw [same]
    simp only [List.mem_append] at placed
    rcases placed with (waiting | again) | other
    · exact keepsOut topic letters x (List.mem_append_left _ waiting)
    · split at again
      · rw [List.mem_singleton.mp again]
        exact keepsOut topic letters c (List.mem_append_right _ held)
      · cases again
    · exact keepsOut topic letters x (List.mem_append_right _ (List.mem_of_mem_erase other))
  routed := l.settle_routed c _
  spent := by
    rw [Lane.settle_taken]
    refine Nat.add_le_add_left (budget_settle fits held _ fun again => ?_) _
    exact (verdict_eq_requeue.mp again).2
  nearer := by
    have spent := budget_settle fits held (verdict M c.message outcome).1
      fun again => (verdict_eq_requeue.mp again).2
    have some_ := List.length_pos_of_mem held
    rw [toGo, toGo, Lane.settle_held, List.length_erase_of_mem held]
    omega

/-- Taking a message out brings the end nearer. -/
theorem nears_take (staying : l.ended = none) (keepsOut : l.KeepsOut) {rest : List Copy}
    (waiting : l.waiting = c :: rest) : Nears M l (l.take c.message) := by
  have spent := budget_take (M := M) waiting
  have taken : l.take c.message = { l with
      taken := l.taken ++ [c.message], waiting := rest, held := l.held ++ [c] } := by
    simp [Lane.take, waiting]
  rw [taken] at spent ⊢
  constructor
  case staying => exact staying
  case keepsOut =>
    intro topic letters x placed
    refine keepsOut topic letters x ?_
    simp only [waiting, List.mem_append, List.mem_cons] at placed ⊢
    tauto
  case routed => rfl
  case spent =>
    simp only [List.length_append, List.length_singleton]
    omega
  case nearer =>
    simp only [toGo, List.length_append, List.length_singleton]
    omega

/-- A consumer that is not told to stop brings the end nearer whatever it does. -/
theorem Uses.nears (uses : Uses M false l handled l' handled') (fits : M ≤ Message.maxRedeliveries)
    (staying : l.ended = none) (keepsOut : l.KeepsOut) : Nears M l l' := by
  cases uses with
  | takes waiting => exact nears_take staying keepsOut waiting
  | settles held outcome =>
      rw [keepsOut.settle_routedBy held]
      exact nears_settle fits staying keepsOut held outcome
  | leaves left => cases left

end Nearing

end Consumer

namespace Office

open Bus (Copy Lane)

/-! ### A consumer that is left alone -/

/-- The next move when nobody else does anything: a consumer gets on when it can, and
otherwise time passes up to the first instant that it waits for. -/
def nextMove (j : Nat) (o : Office) : Move :=
  match stepConsumer j o with
  | some _ => .turn (.consumer j)
  | none => .pass (((o.consumers[j]?).bind (·.stage.dues.min?)).getD o.now)

/-- The next moves when nobody else does anything. -/
def nextMoves (j : Nat) : Nat → Office → List Move
  | 0, _ => []
  | n + 1, o => nextMove j o :: nextMoves j n ((nextMove j o).made o)

theorem nextMoves_add (j n n' : Nat) (o : Office) : nextMoves j (n + n') o =
    nextMoves j n o ++ nextMoves j n' (o.played (nextMoves j n o)) := by
  induction n generalizing o with
  | zero => simp [nextMoves, played]
  | succ n ih => simp [Nat.succ_add, nextMoves, played, ih]

/-- A consumer is at its queue, was not told to stop, and what it rejects does not come back. -/
structure Stays (c : Consumer) (j i : Nat) (turns : List Turn) (o : Office) (l : Lane)
    (handled : List (Copy × Consumer.Outcome)) : Prop where
  attends : Attends c j i turns o l handled
  untold : ∃ c₁, o.consumers[j]? = some c₁ ∧ c₁.told = false
  staying : l.ended = none
  keepsOut : l.KeepsOut

namespace Stays

variable {c : Consumer} {j i : Nat} {turns : List Turn} {o o' : Office} {l : Lane}
  {handled : List (Copy × Consumer.Outcome)}

/-- Its own turn brings the end nearer. -/
theorem turn (stays : Stays c j i turns o l handled)
    (fits : c.maxRedeliveries ≤ Message.maxRedeliveries) (moved : stepConsumer j o = some o') :
    ∃ l' handled', Stays c j i (turns ++ [⟨.turn (.consumer j), o, o'⟩]) o' l' handled' ∧
      Consumer.Nears c.maxRedeliveries l l' := by
  obtain ⟨c₁, found, acts⟩ := acts_of_step moved
  obtain ⟨c₂, found', untold⟩ := stays.untold
  cases found.symm.trans found'
  obtain ⟨l', handled', uses, attends⟩ :=
    stays.attends.act fits (m := .turn (.consumer j)) rfl found acts
  rw [untold] at uses
  have nears := uses.nears fits stays.staying stays.keepsOut
  obtain ⟨stage, consumers⟩ := acts.consumers
  have same : o'.consumers[j]? = some { c₁ with stage := stage } := by
    rw [consumers, List.getElem?_modify_eq, found]
    rfl
  exact ⟨l', handled', ⟨attends, ⟨_, same, untold⟩, nears.staying, nears.keepsOut⟩, nears⟩

/-- While time passes nothing changes. -/
theorem pass (stays : Stays c j i turns o l handled) (later : Nat) :
    Stays c j i (turns ++ [⟨.pass later, o, { o with now := later }⟩]) { o with now := later } l
      handled where
  attends := by
    have follows : (l.routedBy none).Follows i { o with now := later }.bus := stays.attends.follows
    exact stays.attends.rests (m := .pass later) (by simp [Move.consumer?]) follows rfl rfl
      stays.attends.others
  untold := stays.untold
  staying := stays.staying
  keepsOut := stays.keepsOut

/-- As long as its queue is not empty, it can get on, or can when the first instant has
come that it waits for. -/
theorem ready (stays : Stays c j i turns o l handled)
    (busy : ¬ (l.waiting = [] ∧ l.held = [])) :
    (stepConsumer j o).isSome ∨ ∃ later, nextMove j o = .pass later ∧ o.now ≤ later ∧
      (stepConsumer j { o with now := later }).isSome := by
  obtain ⟨c₁, found, untold⟩ := stays.untold
  obtain ⟨stage, sits, stands⟩ := stays.attends.own
  rw [stages, List.getElem?_map, found, Option.map_some] at sits
  obtain rfl := Option.some.inj sits
  generalize at_ : c₁.stage = stage at stands
  cases stands with
  | listens free staying =>
      cases waiting : l.waiting with
      | nil => exact absurd ⟨waiting, free⟩ busy
      | cons x rest =>
          obtain ⟨bus, received, -⟩ := stays.attends.follows.receive waiting
          left
          simp [stepConsumer, found, at_, untold, lookOut, takeMessage, received]
  | @handles x due deadline has staying =>
      by_cases past : due ≤ o.now ∨ deadline ≤ o.now
      · left
        simp only [stepConsumer, found, at_, Option.bind_some, concludeDelivery]
        split
        · rfl
        · split
          · rfl
          · omega
      · right
        have waits : stepConsumer j o = none := by
          simp only [stepConsumer, found, at_, Option.bind_some, concludeDelivery]
          rw [if_neg (by omega), if_neg (by omega)]
        refine ⟨min due deadline, ?_, by omega, ?_⟩
        · simp [nextMove, waits, found, at_, Consumer.Stage.dues, List.min?]
        · simp only [stepConsumer, found, at_, Option.bind_some, concludeDelivery]
          split
          · rfl
          · split
            · rfl
            · omega
  | stopped free left => exact absurd stays.staying left

/-- The first move of those that a consumer makes when it is left alone. -/
theorem nextMove_of_step (moved : stepConsumer j o = some o') :
    nextMove j o = .turn (.consumer j) := by
  rw [nextMove, moved]

/-- In one move or two a consumer whose queue is not empty brings the end nearer. -/
theorem nears (stays : Stays c j i turns o l handled)
    (fits : c.maxRedeliveries ≤ Message.maxRedeliveries)
    (busy : ¬ (l.waiting = [] ∧ l.held = [])) : ∃ n l' handled', n ≤ 2 ∧
      o.canPlay (nextMoves j n o) = true ∧
      Stays c j i (turns ++ o.play (nextMoves j n o)) (o.played (nextMoves j n o)) l' handled' ∧
      Consumer.Nears c.maxRedeliveries l l' := by
  rcases stays.ready busy with now | ⟨later, waits, ahead, ready⟩
  · obtain ⟨o', moved⟩ := Option.isSome_iff_exists.mp now
    have first := nextMove_of_step moved
    have applied : (Move.turn (.consumer j)).apply o = some o' := moved
    obtain ⟨l', handled', later, nears⟩ := stays.turn fits moved
    refine ⟨1, l', handled', by omega, ?_, ?_, nears⟩
    · simp [nextMoves, first, canPlay, applied]
    · simpa [nextMoves, first, play, played, made_of_apply applied] using later
  · obtain ⟨o', moved⟩ := Option.isSome_iff_exists.mp ready
    have passed : (Move.pass later).apply o = some { o with now := later } := if_pos ahead
    have second := nextMove_of_step moved
    have applied : (Move.turn (.consumer j)).apply { o with now := later } = some o' := moved
    obtain ⟨l', handled', later, nears⟩ := (stays.pass later).turn fits moved
    refine ⟨2, l', handled', by omega, ?_, ?_, nears⟩
    · simp [nextMoves, waits, second, canPlay, passed, made_of_apply passed, applied]
    · simpa [nextMoves, waits, second, play, played, made_of_apply passed, made_of_apply applied]
        using later

/-- Left alone, a consumer empties its queue. -/
theorem exists_emptied {turns : List Turn} {o : Office} {l : Lane}
    {handled : List (Copy × Consumer.Outcome)} (stays : Stays c j i turns o l handled)
    (fits : c.maxRedeliveries ≤ Message.maxRedeliveries) : ∃ n l' handled',
      n ≤ 2 * Consumer.toGo c.maxRedeliveries l ∧ o.canPlay (nextMoves j n o) = true ∧
      Stays c j i (turns ++ o.play (nextMoves j n o)) (o.played (nextMoves j n o)) l' handled' ∧
      (l'.waiting = [] ∧ l'.held = []) ∧ l'.routed = l.routed ∧
      l'.taken.length ≤ l.taken.length + Consumer.budget c.maxRedeliveries l := by
  by_cases idle : l.waiting = [] ∧ l.held = []
  · refine ⟨0, l, handled, Nat.zero_le _, rfl, ?_, idle, rfl, Nat.le_add_right _ _⟩
    simpa [nextMoves, play, played] using stays
  · obtain ⟨n, l₁, handled₁, few, can, later, nears⟩ := stays.nears fits idle
    obtain ⟨n', l', handled', few', can', later', empty, routed, spent⟩ :=
      later.exists_emptied fits
    refine ⟨n + n', l', handled', ?_, ?_, ?_, empty, routed.trans nears.routed, ?_⟩
    · have := nears.nearer
      omega
    · rw [nextMoves_add, canPlay_append, can, can', Bool.and_self]
    · rwa [nextMoves_add, play_append, played_append, ← List.append_assoc]
    · have := nears.spent
      omega
termination_by Consumer.toGo c.maxRedeliveries l
decreasing_by exact nears.nearer

end Stays

/-! ### What a consumer does to its queue -/

/-- What becomes of the messages of a queue that a consumer has opened, with what it has
handled of them since. -/
structure Redelivers (c : Consumer) (j i : Nat) (turns : List Turn) (o : Office) (l : Lane)
    (handled : List (Copy × Consumer.Outcome)) : Prop where
  /-- The lane accounts for the queue at the bus. -/
  queue : ∃ q, o.bus.queues[i]? = some q ∧ q.subscription = c.subscription ∧
    l.AccountsFor q o.bus.published
  /-- What is taken out of the queue comes into the hands of the consumer. -/
  taken : l.taken = deliveries j i turns
  /-- What is handled is what the consumer settles, with what comes of its handler, or that
  this takes too long. -/
  settled : handled.map (fun x => (x.1.message, x.2)) = settlements j i turns
  /-- Each delivery is settled once and in order, but for the one that is in hand. -/
  once : deliveries j i turns = (settlements j i turns).map (·.1) ++
    ((o.stages[j]?).bind (·.messageOf? i)).toList
  /-- In the turn in which a message is settled, it is settled by its verdict. -/
  decided : ∀ x ∈ turns, ∀ m outcome, x.settlement? j i = some (m, outcome) →
    x.after.bus = (x.before.bus.settle ⟨i, m⟩ (Consumer.verdict c.maxRedeliveries m outcome).1).2
  noted : l.settled =
    handled.map fun x => (x.1, (Consumer.verdict c.maxRedeliveries x.1.message x.2).1)
  /-- Each message is put back a number of times and then acknowledged or rejected. -/
  fates : ∀ n m, l.routed[n]? = some m →
    Consumer.Fate c.maxRedeliveries m (Consumer.attempts handled n) (l.decisions n)
      (∃ x ∈ l.done, x.number = n)
  /-- Only so many deliveries are made of the messages that came in. -/
  bounded : (deliveries j i turns).length ≤ Consumer.allowance c.maxRedeliveries l.routed

/-- A consumer that nobody disturbs for a number of moves empties its queue. -/
structure Drains (c : Consumer) (j i : Nat) (turns : List Turn) (o : Office) (l : Lane) (n : Nat) :
    Prop where
  few : n ≤ 2 * Consumer.toGo c.maxRedeliveries l
  can : o.canPlay (nextMoves j n o) = true
  queue : ∃ q, (o.played (nextMoves j n o)).bus.queues[i]? = some q ∧ q.waiting = [] ∧ q.held = []
  /-- Each message that came in is acknowledged or rejected. -/
  done : ∃ l' handled', Redelivers c j i (turns ++ o.play (nextMoves j n o))
    (o.played (nextMoves j n o)) l' handled' ∧ l'.routed = l.routed ∧
      l.routed.Perm (l'.done.map (·.original))
  /-- Only so many deliveries are made of the messages that are still there. -/
  spent : (deliveries j i (o.play (nextMoves j n o))).length ≤ Consumer.budget c.maxRedeliveries l

section Runs

variable {c : Consumer} {j i : Nat} {first o : Office} {turns before after : List Turn} {x : Turn}
  {l : Lane} {handled : List (Copy × Consumer.Outcome)}

theorem IsAt.messages {stage : Consumer.Stage} (stands : IsAt i l stage) :
    l.held.map (·.message) = (stage.messageOf? i).toList := by
  cases stands with
  | listens free => rw [free]; rfl
  | handles has => simp [has, Consumer.Stage.messageOf?]
  | stopped free => rw [free]; rfl

theorem redelivers_of_attends (attends : Attends c j i turns o l handled)
    (fits : c.maxRedeliveries ≤ Message.maxRedeliveries) :
    Redelivers c j i turns o l handled := by
  obtain ⟨q, found, records, sound⟩ := attends.follows
  constructor
  case queue =>
    exact ⟨q, found, records.subscription.trans attends.subscription, sound.accountsFor records⟩
  case taken => exact attends.taken
  case settled => exact attends.settled
  case once =>
    obtain ⟨stage, sits, stands⟩ := attends.own
    rw [← attends.taken, ← attends.settled, attends.inTurn, stands.messages, sits, List.map_map]
    rfl
  case decided => exact attends.decided
  case noted => exact attends.serves.settled
  case fates => exact fun n m routed => attends.serves.fate sound fits routed
  case bounded =>
    rw [← attends.taken]
    exact Nat.le_trans (Nat.le_add_right _ _) attends.serves.bounded

theorem Stays.drains (stays : Stays c j i turns o l handled)
    (fits : c.maxRedeliveries ≤ Message.maxRedeliveries) : ∃ n, Drains c j i turns o l n := by
  obtain ⟨n, l', handled', few, can, later, empty, routed, spent⟩ := stays.exists_emptied fits
  obtain ⟨q, found, records, sound⟩ := later.attends.follows
  have redelivers := redelivers_of_attends later.attends fits
  refine ⟨n, few, can, ⟨q, found, ?_, ?_⟩, ⟨l', handled', redelivers, routed, ?_⟩, ?_⟩
  · rw [records.waiting, empty.1]
    rfl
  · have held := records.held
    rw [empty.2] at held
    exact held.eq_nil
  · rw [← routed]
    simpa [Lane.copies, empty, sound.kept later.staying] using sound.perm_original
  · rw [later.attends.taken, stays.attends.taken, deliveries, List.filterMap_append,
      List.length_append] at spent
    exact Nat.le_of_add_le_add_left spent

/-- Where a consumer has opened a queue, each delivery is settled once by its verdict,
redelivery is bounded, and each message is settled for good once, whatever its handler
makes of it. When it is left alone at its queue, it empties it. -/
theorem Run.redelivers (run : Run first (before ++ x :: after) o) (new : IsNew first)
    (idle : ∀ c ∈ first.consumers, c.stage = .subscribing) (opens : x.Opens j i c)
    (fits : c.maxRedeliveries ≤ Message.maxRedeliveries)
    (outside : ∀ y ∈ before ++ x :: after, y.SparesQueue i) :
    ∃ l handled, Redelivers c j i after o l handled ∧
      ∀ c₁, o.consumers[j]? = some c₁ → c₁.told = false → c₁.stage ≠ .stopped → l.KeepsOut →
        ∃ n, Drains c j i after o l n := by
  obtain ⟨l, handled, attends⟩ := run.attends new idle opens fits outside
  refine ⟨l, handled, redelivers_of_attends attends fits, fun c₁ found untold stays keepsOut => ?_⟩
  obtain ⟨stage, sits, stands⟩ := attends.own
  rw [stages, List.getElem?_map, found, Option.map_some] at sits
  obtain rfl := Option.some.inj sits
  have staying : l.ended = none := by
    generalize at_ : c₁.stage = stage at stands
    cases stands with
    | listens _ staying => exact staying
    | handles _ staying => exact staying
    | stopped => exact absurd at_ stays
  exact Stays.drains ⟨attends, ⟨c₁, found, untold⟩, staying, keepsOut⟩ fits

end Runs

/-! ### A slow handler -/

/-- After three decisions a message is handled at once. Any other one takes a minute. -/
def slow : Setup :=
  { Setup.standard with
    script := fun decisions _ =>
      ⟨if decisions = 3 then .ofMillis 5 else .ofSeconds 60, .handled (.ok .applied)⟩ }

/-- A consumer that waits ten seconds for its handler, and puts a message back twice at most. -/
def clerk : Consumer :=
  { Consumer.standard "clerk" Bus.Traffic.counter .script with maxRedeliveries := 2 }

/-- An office with that consumer. -/
def manned : Office := opened slow .epoch (.of 1 4) (.fixed .success) [clerk] none

/-- The consumer opens its queue. -/
def arrival : Turn := ⟨.turn (.consumer 0), manned, Move.made manned (.turn (.consumer 0))⟩

/-- Two messages are published from outside. -/
def mail : List Move :=
  let first := arrival.after.bus.route "sales" (Bus.Traffic.note "a")
  [.wire first, .wire (first.route "sales" (Bus.Traffic.note "b"))]

theorem run_mail :
    Run manned ([] ++ arrival :: arrival.after.play mail) (arrival.after.played mail) := by
  have opens : (Move.turn (.consumer 0)).apply manned = some arrival.after := by rfl
  exact (Run.start.next opens).play (show arrival.after.canPlay mail = true by rfl)

theorem spares_mail : ∀ y ∈ [] ++ arrival :: arrival.after.play mail, y.SparesQueue 0 := by
  have published {y : Turn} {topic : String} {m : Message}
      (moved : y.move = .wire (y.before.bus.route topic m)) : y.SparesQueue 0 := by
    intro bus used
    cases moved.symm.trans used
    exact ⟨by simp [Bus.route], fun _ => ⟨some (topic, m), rfl, rfl⟩⟩
  intro y member
  simp only [List.nil_append, List.mem_cons, mail, play, List.not_mem_nil, or_false] at member
  rcases member with rfl | rfl | rfl
  · rintro bus ⟨⟩
  · exact published rfl
  · exact published rfl

/-- The first message is put back twice and rejected. The other one is handled at last. -/
theorem redelivers_mail :
    (∀ c ∈ manned.consumers, c.stage = .subscribing) ∧ arrival.Opens 0 0 clerk ∧
      (∃ l handled,
        Redelivers clerk 0 0 (arrival.after.play mail) (arrival.after.played mail) l handled ∧
        ∃ n, Drains clerk 0 0 (arrival.after.play mail) (arrival.after.played mail) l n) ∧
      ((arrival.after.played mail).played
        (nextMoves 0 15 (arrival.after.played mail))).bus.settled.map
          (fun s => (s.message.messageId, s.message.redeliveries, s.disposition)) =
        [("a", 0, .requeue), ("b", 0, .requeue), ("a", 1, .requeue), ("b", 1, .ack),
          ("a", 2, .reject "handler timed out after 2 redeliveries")] := by
  have idle : ∀ c ∈ manned.consumers, c.stage = .subscribing := by
    intro c member
    rw [List.mem_singleton.mp member]
    rfl
  have opens : arrival.Opens 0 0 clerk := ⟨rfl, rfl, rfl, rfl⟩
  refine ⟨idle, opens, ?_, by decide +kernel⟩
  obtain ⟨l, handled, redelivers, drains⟩ :=
    run_mail.redelivers (.opened (fun _ => .refl _) _ _ _ _ _) idle opens (by decide) spares_mail
  refine ⟨l, handled, redelivers, drains _ rfl rfl nofun ?_⟩
  obtain ⟨q, -, same, accounts⟩ := redelivers.queue
  have subscription := accounts.subscription.symm.trans same
  intro topic letters x _
  rw [subscription] at letters
  cases letters
  simp [Lane.takes, subscription, clerk, Bus.Traffic.counter, Consumer.standard]

end Office

end BoxOffice
