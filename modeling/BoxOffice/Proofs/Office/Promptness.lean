import BoxOffice.Proofs.Ledger.Possession
import BoxOffice.Proofs.Office.Creation
import BoxOffice.Proofs.Office.Finding

/-!
# A request for seats comes to its end

A request for seats waits for nobody. It takes the row of an event without waiting or not at
all, and once it has the row nobody takes it away; besides that it waits for its time to come
only. So it can always get on when its time has come. How many turns it has is bounded by its
retries: `Ahead` counts those that may be left, and every turn ends the request with an answer or
lowers the count. Hence a request that is not answered is answered when it alone is played on.
-/

namespace BoxOffice.Office

open Ledger (Ticket Stage Progress)

/-- The most turns that a request for seats has: two before the first attempt, three for each
attempt that is made again, two for the last one, and two to make the booking known and hand it
over. -/
def mostTurns (maxRetries : Nat) : Nat := 6 + 3 * maxRetries

/-- The most turns that are left for a request for seats. -/
inductive Ahead (maxRetries : Nat) : Task → Nat → Prop
  | asked (event user : PublicId) (seats : Nat) :
      Ahead maxRetries (.asked (.create event user seats)) (6 + 3 * maxRetries)
  | choosing (known : EventSnapshot) (user : PublicId) (seats : Nat) :
      Ahead maxRetries (.choosing known user seats) (5 + 3 * maxRetries)
  | attempting {known : EventSnapshot} {r : Booking.Request} {retries : Nat}
      (within : retries ≤ maxRetries) :
      Ahead maxRetries (.attempting known r retries) (4 + 3 * (maxRetries - retries))
  | atLedger {known : EventSnapshot} {r : Booking.Request} {stage : Stage .receipt}
      {due retries : Nat} (within : retries ≤ maxRetries) :
      Ahead maxRetries (.atLedger .receipt stage due (.attempt known r retries))
        (3 + 3 * (maxRetries - retries))
  | pausing {known : EventSnapshot} {r : Booking.Request} {due retries : Nat}
      (within : retries < maxRetries) :
      Ahead maxRetries (.pausing known r retries due) (2 + 3 * (maxRetries - retries))
  | announcing (known : EventSnapshot) (receipt : Booking.Receipt) :
      Ahead maxRetries (.announcingSeats known receipt) 2
  | handing (known : EventSnapshot) (receipt : Booking.Receipt) :
      Ahead maxRetries (.handingOver known receipt) 1

/-- A request is answered, or less is left for it than some turns. -/
inductive Nears (t : Ticket) (n : Nat) (o : Office) : Prop
  | answered {answer : Answer} (idle : o.task? t = none)
      (answered : Keyed.get? t o.answers = some answer)
  | ahead {task : Task} {m : Nat} (at_ : o.task? t = some task)
      (ahead : Ahead o.setup.retry.maxRetries task m) (fewer : m < n)

section Steps

variable {o o' : Office} {t : Ticket} {n : Nat} {task : Task}

/-! ### One turn -/

theorem Nears.finish (o : Office) (t : Ticket) (answer : Answer) :
    Nears t n (o.finish t answer) :=
  .answered (task?_finish o t answer) (Keyed.get?_put_self t answer o.answers)

theorem Nears.finishBooking (o : Office) (t : Ticket) (seats : Nat)
    (result : Except Booking.Error Booking.View) : Nears t n (o.finishBooking t seats result) :=
  .answered (task?_finish o t (.booking result)) (Keyed.get?_put_self t _ o.answers)

theorem Nears.setTask {m : Nat} (ahead : Ahead o.setup.retry.maxRetries task m) (fewer : m < n) :
    Nears t n (o.setTask t task) :=
  .ahead (task?_setTask o t task) ahead fewer

theorem Nears.mono {m : Nat} (nears : Nears t m o) (le : m ≤ n) : Nears t n o := by
  cases nears with
  | answered idle answered => exact .answered idle answered
  | ahead at_ ahead fewer => exact .ahead at_ ahead (Nat.lt_of_lt_of_le fewer le)

/-- An attempt is made again only while there are retries left. -/
theorem Nears.deliver (o : Office) (t : Ticket) (answer : Ledger.Call.Kind.receipt.Answer)
    (known : EventSnapshot) (r : Booking.Request) (retries : Nat) :
    Nears t (3 + 3 * (o.setup.retry.maxRetries - retries))
      (o.deliver t answer (.attempt known r retries)) := by
  simp only [Office.deliver]
  split
  · exact .setTask (.announcing known _) (by omega)
  · exact .finishBooking o t _ _
  · exact .finish o t _
  · rename_i wait verdict
    have left : retries < o.setup.retry.maxRetries := Retry.lt_of_again verdict
    exact .setTask (.pausing left) (by omega)

/-- A request with an open booking has it still, whatever others did. -/
theorem IsBacked.booking_open (backed : IsBacked o) {id : EventId} {due retries : Nat}
    {known : EventSnapshot} {r : Booking.Request}
    (at_ : o.task? t = some (.atLedger .receipt (.booking id) due (.attempt known r retries))) :
    ∃ cell, o.ledger.transactionOf? t id = some (cell, .booking r) := by
  obtain ⟨w, reachable, has⟩ := backed.traffic
  obtain ⟨call, began, pending⟩ := has.open_ at_
  obtain ⟨due', purpose, same, serves⟩ := has.pending pending
  cases at_.symm.trans same
  cases serves
  rw [← has.ledger]
  exact reachable.booking_open pending

/-- Every turn of a request for seats answers it or leaves less for it. -/
theorem Ahead.stepTask (ahead : Ahead o.setup.retry.maxRetries task n) (backed : IsBacked o)
    (at_ : o.task? t = some task) (step : o.stepTask t task = some o') : Nears t n o' := by
  cases ahead with
  | asked event user seats =>
      cases step
      simp only [begin, beginBooking]
      split
      · exact .finishBooking o t seats _
      · split
        · exact .finishBooking o t seats _
        · exact .setTask (.choosing _ user seats) (by omega)
  | choosing known user seats =>
      cases step
      simp only [chooseUser]
      split
      · exact .finishBooking o t seats _
      · split
        · exact .finishBooking o t seats _
        · split
          · exact .finish _ t .undated
          · refine .setTask (.attempting (Nat.zero_le _)) ?_
            show 4 + 3 * (o.setup.retry.maxRetries - 0) < 5 + 3 * o.setup.retry.maxRetries
            omega
  | @attempting known r retries within =>
      cases step
      rw [call_eq]
      generalize o.ledger.start t o.setup.scan o.clock (.book r) = result
      obtain ⟨progress, l⟩ := result
      cases progress with
      | done answer =>
          have delivered := Nears.deliver ({ o with ledger := l } : Office) t answer known r retries
          exact delivered.mono (Nat.add_le_add_right (by decide) _)
      | further stage => exact .setTask (.atLedger within) (Nat.add_lt_add_right (by decide) _)
  | @atLedger known r stage due retries =>
      cases stage with
      | booking id =>
          -- The booking is open still, so this step of the call is its last.
          obtain ⟨cell, held⟩ := backed.booking_open at_
          obtain ⟨answer, l, last⟩ := Ledger.resume_of_open o.clock held
          rw [stepTask_atLedger step, last]
          exact .deliver ({ o with ledger := l } : Office) t answer known r retries
  | pausing within =>
      simp only [Office.stepTask] at step
      split at step
      · cases step
        exact .setTask (.attempting within) (by omega)
      · cases step
  | announcing known receipt =>
      cases step
      exact .setTask (.handing known receipt) (by decide)
  | handing known receipt =>
      cases step
      exact .finishBooking _ t _ _

/-- A request for seats can get on as soon as its time has come. -/
theorem Ahead.ready (ahead : Ahead o.setup.retry.maxRetries task n) (backed : IsBacked o)
    (at_ : o.task? t = some task) (past : ∀ due ∈ task.dues, due ≤ o.now) :
    (o.stepTask t task).isSome := by
  cases ahead with
  | asked event user seats => rfl
  | choosing known user seats => rfl
  | attempting _ => rfl
  | @atLedger known r stage due retries _ =>
      cases stage with
      | booking id =>
          obtain ⟨cell, held⟩ := backed.booking_open at_
          have come : due ≤ o.now := past due (List.mem_singleton_self due)
          rw [stepTask_of_canResume come (Ledger.canResume_of_open held)]
          rfl
  | @pausing known r due retries _ =>
      have come : due ≤ o.now := past due (List.mem_singleton_self due)
      simp only [Office.stepTask, come, if_true, Option.isSome_some]
  | announcing known receipt => rfl
  | handing known receipt => rfl

/-! ### All turns -/

/-- A request for seats has had no more turns than it may, and neither will it. -/
structure Paced (t : Ticket) (own : List Turn) (o : Office) : Prop where
  few : own.length ≤ mostTurns o.setup.retry.maxRetries
  ahead : ∀ task, o.task? t = some task → ∃ n, Ahead o.setup.retry.maxRetries task n ∧
    own.length + n ≤ mostTurns o.setup.retry.maxRetries

/-- A request for seats does not wait for the pool. -/
theorem Ahead.unhurried {maxRetries : Nat} (ahead : Ahead maxRetries task n) (deadline : Nat) :
    task ≠ .closingPool deadline := by
  rintro rfl
  cases ahead

/-- What others do leaves a request for seats what it may do. -/
theorem Paced.keep {own : List Turn} (paced : Paced t own o) (known : t < o.tickets)
    (setup : o'.setup = o.setup) (keeps : Keeps t o o') : Paced t own o' := by
  obtain ⟨few, ahead⟩ := paced
  constructor
  · rw [setup]
    exact few
  · intro task at_
    rw [setup]
    rcases keeps.task? known with same | gone
    · exact ahead task (same.symm.trans at_)
    · cases gone.symm.trans at_

theorem Paced.stepTask {own : List Turn} (paced : Paced t own o) (backed : IsBacked o) (m : Move)
    (setup : o'.setup = o.setup) (at_ : o.task? t = some task)
    (step : o.stepTask t task = some o') : Paced t (own ++ [⟨m, o, o'⟩]) o' := by
  obtain ⟨n, left, within⟩ := paced.ahead task at_
  have some_ : 0 < n := by cases left <;> omega
  have length : (own ++ [(⟨m, o, o'⟩ : Turn)]).length = own.length + 1 := List.length_append
  constructor
  · rw [setup, length]
    omega
  · intro task' at_'
    rw [setup, length]
    cases left.stepTask backed at_ step with
    | answered idle _ => cases idle.symm.trans at_'
    | ahead there less fewer =>
        cases there.symm.trans at_'
        rw [setup] at less
        exact ⟨_, less, by omega⟩

/-- Every move, of the request or of others. -/
theorem Paced.move {own : List Turn} {m : Move} (paced : Paced t own o) (backed : IsBacked o)
    (known : t < o.tickets) (moved : m.apply o = some o') :
    Paced t (own ++ if m.isBy t then [⟨m, o, o'⟩] else []) o' := by
  have setup : o'.setup = o.setup := (moves_of_apply moved).setup
  cases own_ : m.isBy t with
  | false =>
      rw [if_neg Bool.false_ne_true, List.append_nil]
      exact paced.keep known setup (keeps_of_move own_ moved)
  | true =>
      rw [if_pos rfl]
      obtain ⟨task, at_, step | ⟨deadline, waits⟩⟩ := step_of_isBy own_ moved
      · exact paced.stepTask backed m setup at_ step
      · obtain ⟨n, left, -⟩ := paced.ahead task at_
        exact absurd waits (left.unhurried deadline)

/-- What a request for seats may still do, at any time after it was made. -/
theorem Run.paced {first : Office} {turns : List Turn} (run : Run first turns o)
    (backed : IsBacked first) (known : t < first.tickets) (paced : Paced t [] first) :
    t < o.tickets ∧ Paced t (ownTurns t turns) o := by
  induction run with
  | start => exact ⟨known, paced⟩
  | next run moved ih =>
      obtain ⟨known', paced'⟩ := ih
      rw [ownTurns_concat]
      exact ⟨Nat.lt_of_lt_of_le known' (tickets_le moved),
        paced'.move (run.isBacked backed).1 known' moved⟩

/-- A request for seats that was just made. -/
theorem Paced.ask (backed : IsBacked o) (event user : PublicId) (seats : Nat) :
    Paced o.tickets [] (o.ask (.create event user seats)).2 := by
  refine ⟨Nat.zero_le _, fun task at_ => ?_⟩
  have fresh := backed.fresh (Nat.le_refl o.tickets)
  cases (task?_ask (.create event user seats) fresh).symm.trans at_
  exact ⟨_, .asked event user seats, by unfold mostTurns; simp⟩

/-! ### Playing a request to its end -/

/-- A request is answered when it alone gets on, and time passes while it waits. -/
def Concludes (o : Office) (t : Ticket) : Prop :=
  ∃ ms : List Move, (∀ m ∈ ms, m = .turn (.caller t) ∨ ∃ now, m = .pass now) ∧
    o.canPlay ms = true ∧ (Keyed.get? t (o.played ms).answers).isSome

theorem Concludes.after {m : Move} (later : o'.Concludes t)
    (alone : m = .turn (.caller t) ∨ ∃ now, m = .pass now) (moved : m.apply o = some o') :
    o.Concludes t := by
  obtain ⟨ms, own, can, answered⟩ := later
  have made : Move.made o m = o' := by rw [Move.made, moved, Option.getD_some]
  refine ⟨m :: ms, ?_, ?_, ?_⟩
  · intro m' member
    rcases List.mem_cons.mp member with rfl | rest
    · exact alone
    · exact own m' rest
  · rw [canPlay, moved, made]
    exact can
  · rw [played, List.foldl_cons, made]
    exact answered

/-- At some time all has come that a task waits for. -/
theorem exists_past (task : Task) (now : Nat) :
    ∃ later, now ≤ later ∧ ∀ due ∈ task.dues, due ≤ later := by
  refine ⟨now + task.dues.sum, Nat.le_add_right now _, fun due member => ?_⟩
  exact Nat.le_trans (List.le_sum_of_mem member) (Nat.le_add_left _ now)

/-- Whatever others have done so far, a request for seats can be played to its answer. -/
theorem Ahead.concludes (ahead : Ahead o.setup.retry.maxRetries task n) (backed : IsBacked o)
    (at_ : o.task? t = some task) : o.Concludes t := by
  -- The induction is on the number of turns that may be left.
  induction n using Nat.strong_induction_on generalizing o task with
  | _ n ih =>
      -- Time passes until the request can get on, and then it has its turn.
      obtain ⟨later, forward, past⟩ := exists_past task o.now
      have passed : Move.apply o (.pass later) = some { o with now := later } := if_pos forward
      have backed' := (backed.move passed).1
      have ready := Ahead.ready (o := { o with now := later }) ahead backed' at_ past
      obtain ⟨o', step⟩ := Option.isSome_iff_exists.mp ready
      have turned : Move.apply ({ o with now := later } : Office) (.turn (.caller t)) = some o' :=
        (congrArg (Option.bind · (Office.stepTask { o with now := later } t)) at_).trans step
      refine Concludes.after (.after ?_ (.inl rfl) turned) (.inr ⟨later, rfl⟩) passed
      cases Ahead.stepTask (o := { o with now := later }) ahead backed' at_ step with
      | answered _ answered =>
          exact ⟨[], by simp, rfl, Option.isSome_iff_exists.mpr ⟨_, answered⟩⟩
      | ahead at_' ahead' fewer => exact ih _ fewer ahead' (backed'.move turned).1 at_'

end Steps

end BoxOffice.Office
