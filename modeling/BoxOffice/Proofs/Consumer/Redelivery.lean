import BoxOffice.Consumer
import BoxOffice.Proofs.Bus.Following
import Mathlib

/-!
# A consumer hands messages back a bounded number of times

Where a consumer serves a queue, each message of the queue is put back as long as its
handling fails in a way that may pass and it was not put back too often, and is then
acknowledged or rejected once. So only so many deliveries can be made of the messages
that come in. `Serves` is what the lane of the queue keeps of this when the consumer
settles a message by its verdict, whatever came of handling it.
-/

namespace BoxOffice

/-- The decisions about one message of a queue, in order. -/
def Bus.Lane.decisions (l : Bus.Lane) (number : Nat) : List Bus.Disposition :=
  (l.settled.filter fun x => x.1.number = number).map (·.2)

namespace Consumer

open Bus (Copy Disposition Lane)

/-! ### Verdicts -/

/-- Whether a failure may pass: the storage failed, or the time was over. -/
def Outcome.mayPass : Outcome → Bool
  | handled (.error (.snapshot (.storage _))) => true
  | timedOut => true
  | _ => false

theorem verdict_eq_requeue {M : Nat} {m : Message} {outcome : Outcome} :
    (verdict M m outcome).1 = .requeue ↔ outcome.mayPass ∧ m.redeliveries < M := by
  have redeliver_ (reason : String) :
      (redeliver M m reason).1 = .requeue ↔ m.redeliveries < M := by
    unfold redeliver
    split <;> simp_all
  cases outcome with
  | handled result =>
      cases result with
      | ok handled => simp [verdict, Outcome.mayPass]
      | error e =>
          cases e with
          | malformed cause =>
              simp [verdict, Outcome.mayPass, Snapshot.HandlerError.isTransient]
          | snapshot cause =>
              cases cause with
              | corrupt reason =>
                  simp [verdict, Outcome.mayPass, Snapshot.HandlerError.isTransient]
              | storage reason =>
                  simp [verdict, Outcome.mayPass, Snapshot.HandlerError.isTransient, redeliver_]
  | panicked text => simp [verdict, Outcome.mayPass]
  | timedOut => simp [verdict, Outcome.mayPass, redeliver_]

theorem verdict_eq_ack {M : Nat} {m : Message} {outcome : Outcome} :
    (verdict M m outcome).1 = .ack ↔ ∃ how, outcome = .handled (.ok how) := by
  have redeliver_ (reason : String) : (redeliver M m reason).1 ≠ .ack := by
    unfold redeliver
    split <;> simp
  cases outcome with
  | handled result =>
      cases result with
      | ok handled => simp [verdict]
      | error e =>
          simp only [verdict]
          split <;> simp [redeliver_]
  | panicked text => simp [verdict]
  | timedOut => simp [verdict, redeliver_]

/-- The deliveries of one message of the queue, in order. -/
def attempts (handled : List (Copy × Outcome)) (number : Nat) : List (Copy × Outcome) :=
  handled.filter fun x => x.1.number = number

section Serving

variable {M : Nat} {c : Copy} {m : Message} {outcome : Outcome}
  {tries handled : List (Copy × Outcome)}

/-! ### One message -/

/-- A message was put back at each attempt. -/
structure IsPending (M : Nat) (c : Copy) (tries : List (Copy × Outcome)) : Prop where
  length : tries.length = c.times
  each : ∀ (j : Nat) (x : Copy × Outcome), tries[j]? = some x →
    x.1 = ⟨c.number, c.original, j⟩ ∧ (verdict M x.1.message x.2).1 = .requeue

/-- A message was put back at each attempt but the last one. -/
def IsOver (M : Nat) (c : Copy) (tries : List (Copy × Outcome)) : Prop :=
  ∃ earlier outcome, tries = earlier ++ [(c, outcome)] ∧ IsPending M c earlier ∧
    (verdict M c.message outcome).1 ≠ .requeue

/-- How often a message is put back, by what comes of handling it each time. -/
def putsBack (M : Nat) (m : Message) (outcomes : List Outcome) : Nat :=
  min (outcomes.findIdx (!·.mayPass)) (M - m.redeliveries)

/-- What the deliveries of a message and the decisions about it come to. -/
structure Fate (M : Nat) (m : Message) (tries : List (Copy × Outcome))
    (decisions : List Disposition) (isDone : Prop) : Prop where
  /-- Each delivery carries the message, with the count of those before. -/
  carried : ∀ (j : Nat) (x : Copy × Outcome), tries[j]? = some x →
    x.1.message = { m with redeliveries := m.redeliveries + j }
  /-- A message that is done with was put back so often, and acknowledged or rejected once. -/
  settled : isDone → ∃ last, last ≠ .requeue ∧
    decisions = List.replicate (putsBack M m (tries.map (·.2))) .requeue ++ [last]
  /-- Any other one was put back after each delivery. -/
  pending : ¬ isDone → tries.length = putsBack M m (tries.map (·.2)) ∧
    decisions = List.replicate tries.length .requeue
  /-- It is acknowledged when it is handled. -/
  acknowledged : decisions.getLast? = some .ack ↔
    ∃ how, (tries.map (·.2)).getLast? = some (.handled (.ok how))

/-- As long as the count is below the limit, it is exact. -/
theorem redeliveredTimes_of_lt (fits : M ≤ Message.maxRedeliveries) {n : Nat}
    (below : ∀ j < n, (m.redeliveredTimes j).redeliveries < M) :
    m.redeliveredTimes n = { m with redeliveries := m.redeliveries + n } := by
  induction n with
  | zero => rfl
  | succ n ih =>
      have before := ih fun j earlier => below j (Nat.lt_succ_of_lt earlier)
      have under := below n (Nat.lt_succ_self n)
      rw [before] at under
      rw [Message.redeliveredTimes, before, Message.redelivered]
      congr 1
      simp only at under ⊢
      omega

/-- What is in a list with one more element. -/
theorem getElem?_concat {α : Type} {xs : List α} {x y : α} {j : Nat}
    (found : (xs ++ [y])[j]? = some x) : xs[j]? = some x ∨ j = xs.length ∧ x = y := by
  rcases Nat.lt_or_ge j xs.length with old | new
  · exact .inl ((List.getElem?_append_left old).symm.trans found)
  · rw [List.getElem?_append_right new, List.getElem?_singleton] at found
    split at found
    · rename_i zero
      exact .inr ⟨Nat.le_antisymm (Nat.sub_eq_zero_iff_le.mp zero) new, (Option.some.inj found).symm⟩
    · cases found

/-- A message is acknowledged when it is handled. -/
theorem acknowledged_iff (tries : List (Copy × Outcome)) :
    (tries.map fun x => (verdict M x.1.message x.2).1).getLast? = some .ack ↔
      ∃ how, (tries.map (·.2)).getLast? = some (.handled (.ok how)) := by
  rw [List.getLast?_map, List.getLast?_map]
  cases tries.getLast? with
  | none => simp
  | some x => simp [verdict_eq_ack]

namespace IsPending

theorem below (pending : IsPending M c tries) :
    ∀ j < tries.length, (c.original.redeliveredTimes j).redeliveries < M := by
  intro j early
  obtain ⟨same, again⟩ := pending.each j _ (List.getElem?_eq_getElem early)
  have under := (verdict_eq_requeue.mp again).2
  rwa [same] at under

theorem times (pending : IsPending M c tries) (fits : M ≤ Message.maxRedeliveries) {j : Nat}
    (early : j ≤ tries.length) :
    c.original.redeliveredTimes j =
      { c.original with redeliveries := c.original.redeliveries + j } :=
  redeliveredTimes_of_lt fits fun j' earlier => pending.below j' (Nat.lt_of_lt_of_le earlier early)

theorem length_le (pending : IsPending M c tries) (fits : M ≤ Message.maxRedeliveries) :
    tries.length ≤ M - c.original.redeliveries := by
  rcases Nat.eq_zero_or_pos tries.length with none_ | some_
  · omega
  · have under := pending.below (tries.length - 1) (by omega)
    rw [pending.times fits (by omega)] at under
    simp only at under
    omega

theorem mayPass (pending : IsPending M c tries) : ∀ x ∈ tries, x.2.mayPass := by
  intro x member
  obtain ⟨j, found⟩ := List.mem_iff_getElem?.mp member
  exact (verdict_eq_requeue.mp (pending.each j x found).2).1

theorem decisions (pending : IsPending M c tries) :
    tries.map (fun x => (verdict M x.1.message x.2).1) =
      List.replicate tries.length .requeue := by
  refine List.eq_replicate_iff.mpr ⟨List.length_map _, ?_⟩
  intro how member
  obtain ⟨x, listed, rfl⟩ := List.mem_map.mp member
  obtain ⟨j, found⟩ := List.mem_iff_getElem?.mp listed
  exact (pending.each j x found).2

theorem findIdx (pending : IsPending M c tries) :
    (tries.map (·.2)).findIdx (!·.mayPass) = tries.length := by
  rw [← List.length_map (f := (·.2)), List.findIdx_eq_length]
  intro outcome member
  obtain ⟨x, listed, rfl⟩ := List.mem_map.mp member
  simp [pending.mayPass x listed]

theorem carried (pending : IsPending M c tries) (fits : M ≤ Message.maxRedeliveries) {j : Nat}
    {x : Copy × Outcome} (found : tries[j]? = some x) : x.1.message =
      { c.original with redeliveries := c.original.redeliveries + j } := by
  have early := (List.getElem?_eq_some_iff.mp found).1
  rw [(pending.each j x found).1]
  exact pending.times fits (Nat.le_of_lt early)

theorem putBack (pending : IsPending M c tries)
    (again : (verdict M c.message outcome).1 = .requeue) :
    IsPending M c.putBack (tries ++ [(c, outcome)]) where
  length := by simp [pending.length, Copy.putBack]
  each := by
    intro j x found
    rcases getElem?_concat found with old | ⟨here, rfl⟩
    · exact pending.each j x old
    · rw [here, pending.length]
      exact ⟨rfl, again⟩

theorem fate (pending : IsPending M c tries) (fits : M ≤ Message.maxRedeliveries)
    {isDone : Prop} (waits : ¬ isDone) :
    Fate M c.original tries (tries.map fun x => (verdict M x.1.message x.2).1) isDone where
  carried _ _ found := pending.carried fits found
  settled done := absurd done waits
  pending _ := by
    refine ⟨?_, pending.decisions⟩
    rw [putsBack, pending.findIdx, Nat.min_eq_left (pending.length_le fits)]
  acknowledged := acknowledged_iff tries

end IsPending

theorem IsOver.fate (over_ : IsOver M c tries) (fits : M ≤ Message.maxRedeliveries)
    {isDone : Prop} (done : isDone) :
    Fate M c.original tries (tries.map fun x => (verdict M x.1.message x.2).1) isDone := by
  obtain ⟨earlier, outcome, rfl, pending, final⟩ := over_
  have count : c.message =
      { c.original with redeliveries := c.original.redeliveries + earlier.length } := by
    rw [Copy.message, ← pending.length]
    exact pending.times fits (Nat.le_refl _)
  have back : putsBack M c.original ((earlier ++ [(c, outcome)]).map (·.2)) = earlier.length := by
    have under := pending.length_le fits
    have first : ((earlier ++ [(c, outcome)]).map (·.2)).findIdx (!·.mayPass) =
        if outcome.mayPass then earlier.length + 1 else earlier.length := by
      rw [List.map_append, List.findIdx_append, pending.findIdx]
      cases passing : outcome.mayPass <;> simp [passing, Nat.add_comm]
    rw [putsBack, first]
    split
    · rename_i passing
      have enough : M ≤ c.message.redeliveries := by
        by_contra below
        exact final (verdict_eq_requeue.mpr ⟨passing, Nat.lt_of_not_le below⟩)
      rw [count] at enough
      simp only at enough
      omega
    · exact Nat.min_eq_left under
  constructor
  case carried =>
    intro j x found
    rcases getElem?_concat found with old | ⟨rfl, rfl⟩
    · exact pending.carried fits old
    · exact count
  case settled =>
    refine fun _ => ⟨_, final, ?_⟩
    rw [back, List.map_append, pending.decisions]
    rfl
  case pending => exact fun waits => absurd done waits
  case acknowledged => exact acknowledged_iff _

/-! ### One queue -/

/-- How many deliveries can be made of messages. -/
def allowance (M : Nat) (ms : List Message) : Nat :=
  (ms.map fun m => M - m.redeliveries + 1).sum

/-- How many deliveries can still be made from a queue. -/
def budget (M : Nat) (l : Lane) : Nat :=
  allowance M (l.waiting.map (·.message)) + (l.held.map fun c => M - c.message.redeliveries).sum

/-- A consumer serves a queue. -/
structure Serves (M : Nat) (l : Lane) (handled : List (Copy × Outcome)) : Prop where
  settled : l.settled = handled.map fun x => (x.1, (verdict M x.1.message x.2).1)
  taken : l.taken.length = handled.length + l.held.length
  pending : ∀ c ∈ l.waiting ++ l.held ++ l.lost, IsPending M c (attempts handled c.number)
  isOver : ∀ c ∈ l.done, IsOver M c (attempts handled c.number)
  bounded : l.taken.length + budget M l ≤ allowance M l.routed

theorem attempts_concat (handled : List (Copy × Outcome)) (x : Copy × Outcome) (n : Nat) :
    attempts (handled ++ [x]) n = attempts handled n ++ if x.1.number = n then [x] else [] := by
  simp only [attempts, List.filter_append, List.append_cancel_left_eq]
  split <;> simp_all

theorem allowance_append (M : Nat) (ms ms' : List Message) :
    allowance M (ms ++ ms') = allowance M ms + allowance M ms' := by
  simp [allowance]

variable {l : Lane} {published : List (String × Message)}

theorem budget_take {rest : List Copy} (waiting : l.waiting = c :: rest) :
    budget M (l.take c.message) + 1 = budget M l := by
  simp only [Lane.take, waiting, budget, allowance, List.map_cons, List.sum_cons, List.map_append,
    List.map_nil, List.sum_append, List.sum_nil]
  omega

theorem budget_held (member : c ∈ l.held) : (l.held.map fun c => M - c.message.redeliveries).sum =
    M - c.message.redeliveries +
      ((l.held.erase c).map fun c => M - c.message.redeliveries).sum := by
  have split := (List.perm_cons_erase member).map fun c => M - c.message.redeliveries
  rw [split.sum_eq, List.map_cons, List.sum_cons]

/-- Putting a message back takes one of the deliveries that can be made of it. -/
theorem budget_settle (fits : M ≤ Message.maxRedeliveries) (member : c ∈ l.held) (how : Disposition)
    (limited : how = .requeue → c.message.redeliveries < M) :
    budget M (l.settle c how) ≤ budget M l := by
  have before := budget_held (M := M) member
  have count : c.putBack.message.redeliveries =
      min Message.maxRedeliveries (c.message.redeliveries + 1) := rfl
  simp only [budget, Lane.waiting_settle, Lane.settle_held, List.map_append, allowance_append]
  split
  · rename_i again
    have under := limited again.1
    have one : allowance M [c.putBack.message] = M - c.message.redeliveries := by
      simp only [allowance, List.map_cons, List.map_nil, List.sum_cons, List.sum_nil, count]
      omega
    rw [List.map_cons, List.map_nil, one]
    omega
  · simp only [List.map_nil, allowance, List.sum_nil]
    omega

namespace Serves

theorem ofSubscription (s : Subscription) (n : Nat) : Serves M (.ofSubscription s n) [] where
  settled := rfl
  taken := rfl
  pending := nofun
  isOver := nofun
  bounded := Nat.le_refl _

/-- No attempt was made at a message that was not there yet. -/
theorem attempts_eq_nil (serves : Serves M l handled) (sound : l.IsSound published) :
    attempts handled l.routed.length = [] := by
  refine List.filter_eq_nil_iff.mpr ?_
  intro x member
  have settled : (x.1, (verdict M x.1.message x.2).1) ∈ l.settled := by
    rw [serves.settled]
    exact List.mem_map_of_mem member
  have known := sound.known _ settled
  simpa using Nat.ne_of_lt known

theorem route (serves : Serves M l handled) (sound : l.IsSound published) (topic : String)
    (m : Message) : Serves M (l.route topic m) handled := by
  unfold Lane.route
  split
  · constructor
    case settled => exact serves.settled
    case taken => exact serves.taken
    case isOver => exact serves.isOver
    case pending =>
      intro x member
      simp only [Lane.enter, List.mem_append, List.mem_singleton] at member
      have old (placed : x ∈ l.waiting ++ l.held ++ l.lost) := serves.pending x placed
      simp only [List.mem_append] at old
      rcases member with ((waiting | rfl) | held) | lost
      · exact old (.inl (.inl waiting))
      · rw [serves.attempts_eq_nil sound]
        exact ⟨rfl, by simp⟩
      · exact old (.inl (.inr held))
      · exact old (.inr lost)
    case bounded =>
      have bounded := serves.bounded
      have fresh : (Copy.mk l.routed.length m 0).message = m := rfl
      simp only [budget, Lane.enter, List.map_append, List.map_cons, List.map_nil, fresh,
        allowance_append] at bounded ⊢
      omega
  · exact serves

theorem take (serves : Serves M l handled) {rest : List Copy} (waiting : l.waiting = c :: rest) :
    Serves M (l.take c.message) handled := by
  have spent := budget_take (M := M) waiting
  have taken : l.take c.message = { l with
      taken := l.taken ++ [c.message], waiting := rest, held := l.held ++ [c] } := by
    simp [Lane.take, waiting]
  rw [taken] at spent ⊢
  constructor
  case settled => exact serves.settled
  case taken =>
    have count := serves.taken
    simp only [List.length_append, List.length_singleton]
    omega
  case isOver => exact serves.isOver
  case pending =>
    intro x member
    refine serves.pending x ?_
    simp only [waiting, List.mem_append, List.mem_cons] at member ⊢
    tauto
  case bounded =>
    have bounded := serves.bounded
    simp only [List.length_append, List.length_singleton] at bounded ⊢
    omega

theorem leave (serves : Serves M l handled) (n : Nat) : Serves M (l.leave n) handled := by
  unfold Lane.leave
  split
  · constructor
    case settled => exact serves.settled
    case taken => exact serves.taken
    case isOver => exact serves.isOver
    case pending =>
      intro x member
      refine serves.pending x ?_
      simp only [List.mem_append, List.not_mem_nil, false_or] at member ⊢
      tauto
    case bounded =>
      have bounded := serves.bounded
      simp only [budget, List.map_nil] at bounded ⊢
      simp only [allowance, List.map_nil, List.sum_nil] at bounded ⊢
      omega
  · exact serves

theorem routedBy (serves : Serves M l handled) (sound : l.IsSound published)
    (sent : Option (String × Message)) : Serves M (l.routedBy sent) handled := by
  cases sent with
  | none => exact serves
  | some sent => exact serves.route sound sent.1 sent.2

/-- A message that is settled leaves the others where they are, and is put back at most. -/
theorem open_of_settle {how : Disposition} {x : Copy}
    (open_ : x ∈ (l.settle c how).waiting ++ (l.settle c how).held ++ (l.settle c how).lost) :
    x ∈ l.waiting ++ l.held.erase c ++ l.lost ∨ how = .requeue ∧ x = c.putBack := by
  rw [Lane.waiting_settle, Lane.settle_held, Lane.lost_settle] at open_
  simp only [List.mem_append] at open_ ⊢
  rcases open_ with ((waiting | again) | held) | (lost | again)
  · exact .inl (.inl (.inl waiting))
  · split at again
    · rename_i back
      exact .inr ⟨back.1, List.mem_singleton.mp again⟩
    · cases again
  · exact .inl (.inl (.inr held))
  · exact .inl (.inr lost)
  · split at again
    · rename_i back
      exact .inr ⟨back.1, List.mem_singleton.mp again⟩
    · cases again

theorem attempts_own (c : Copy) (outcome : Outcome) :
    attempts (handled ++ [(c, outcome)]) c.number =
      attempts handled c.number ++ [(c, outcome)] := by
  rw [attempts_concat, if_pos rfl]

theorem attempts_others (sound : l.IsSound published) (member : c ∈ l.held) (outcome : Outcome)
    {x : Copy} (placed : x ∈ l.others c) :
    attempts (handled ++ [(c, outcome)]) x.number = attempts handled x.number := by
  rw [attempts_concat, if_neg (sound.apart member x placed).symm, List.append_nil]

theorem pending_settle (serves : Serves M l handled) (sound : l.IsSound published)
    (member : c ∈ l.held) (outcome : Outcome) {how : Disposition}
    (decided : (verdict M c.message outcome).1 = how) :
    ∀ x ∈ (l.settle c how).waiting ++ (l.settle c how).held ++ (l.settle c how).lost,
      IsPending M x (attempts (handled ++ [(c, outcome)]) x.number) := by
  intro x open_
  rcases open_of_settle open_ with elsewhere | ⟨rfl, rfl⟩
  · have among : x ∈ l.others c := by
      simp only [Lane.others, List.mem_append] at elsewhere ⊢
      tauto
    rw [attempts_others sound member outcome among]
    refine serves.pending x ?_
    simp only [List.mem_append] at elsewhere ⊢
    exact elsewhere.imp_left (Or.imp_right List.mem_of_mem_erase)
  · have pending := serves.pending c (List.mem_append_left _ (List.mem_append_right _ member))
    rw [show c.putBack.number = c.number from rfl, attempts_own]
    exact pending.putBack decided

theorem isOver_settle (serves : Serves M l handled) (sound : l.IsSound published)
    (member : c ∈ l.held) (outcome : Outcome) {how : Disposition}
    (decided : (verdict M c.message outcome).1 = how) :
    ∀ x ∈ (l.settle c how).done,
      IsOver M x (attempts (handled ++ [(c, outcome)]) x.number) := by
  intro x done
  rw [Lane.done_settle] at done
  rcases List.mem_append.mp done with earlier | now
  · have among : x ∈ l.others c := by simp [Lane.others, earlier]
    rw [attempts_others sound member outcome among]
    exact serves.isOver x earlier
  · split at now
    · rename_i final
      rw [List.mem_singleton.mp now]
      have pending := serves.pending c (List.mem_append_left _ (List.mem_append_right _ member))
      refine ⟨_, outcome, attempts_own c outcome, pending, ?_⟩
      intro again
      rw [← decided, again] at final
      cases final
    · cases now

/-- The consumer settles a message by its verdict. -/
theorem settle (serves : Serves M l handled) (sound : l.IsSound published)
    (fits : M ≤ Message.maxRedeliveries) (member : c ∈ l.held) (outcome : Outcome) :
    Serves M (l.settle c (verdict M c.message outcome).1) (handled ++ [(c, outcome)]) where
  settled := by
    rw [Lane.settle_settled, serves.settled, List.map_append]
    rfl
  taken := by
    have count := serves.taken
    have some_ := List.length_pos_of_mem member
    rw [Lane.settle_taken, Lane.settle_held, List.length_erase_of_mem member, List.length_append,
      List.length_singleton]
    omega
  pending := serves.pending_settle sound member outcome rfl
  isOver := serves.isOver_settle sound member outcome rfl
  bounded := by
    have spent := budget_settle fits member (verdict M c.message outcome).1
      fun again => (verdict_eq_requeue.mp again).2
    have bounded := serves.bounded
    rw [Lane.settle_taken, Lane.settle_routed]
    omega

/-! ### What is known of each message -/

theorem decisions_eq (serves : Serves M l handled) (n : Nat) : l.decisions n =
    (attempts handled n).map fun x => (verdict M x.1.message x.2).1 := by
  simp [Lane.decisions, serves.settled, attempts, List.filter_map, Function.comp_def]

/-- Each message that came in has its fate. -/
theorem fate (serves : Serves M l handled) (sound : l.IsSound published)
    (fits : M ≤ Message.maxRedeliveries) {n : Nat} {m : Message} (routed : l.routed[n]? = some m) :
    Fate M m (attempts handled n) (l.decisions n) (∃ c ∈ l.done, c.number = n) := by
  obtain ⟨c, member, rfl, rfl⟩ := sound.exists_copy routed
  rw [serves.decisions_eq]
  by_cases done : c ∈ l.done
  · exact (serves.isOver c done).fate fits ⟨c, done, rfl⟩
  · have waits : ¬ ∃ x ∈ l.done, x.number = c.number := by
      rintro ⟨x, earlier, same⟩
      have placed : x ∈ l.copies := by simp [Lane.copies, earlier]
      exact done (List.inj_on_of_nodup_map sound.nodup placed member same ▸ earlier)
    refine (serves.pending c ?_).fate fits waits
    simpa [Lane.copies, done, or_assoc] using member

end Serves

end Serving

end Consumer

end BoxOffice
