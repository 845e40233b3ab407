import BoxOffice.Proofs.Ledger.Payments
import BoxOffice.Proofs.Office.Creation

/-!
# A booking is settled once

A payment is recorded for a job. Jobs come from the service and from outside,
wait in the pool, are given up at deadlines, are tried again, and several may be
about one booking. The books keep statuses and payments together all the same.
A worker stays with the job that it has taken, so what it records is a payment
of that job, and a job that a request for seats has handed over is that of a
stored booking.
-/

namespace BoxOffice.Office

open Ledger (Ticket Books)

/-! ### Workers and their jobs -/

/-- What every worker runs is its own job. -/
def StaysOn (o : Office) : Prop :=
  ∀ {i : Nat} {job : Settlement.Job} {run : Settlement.Run}, o.Works i job run → run.IsOf job

section Workers

variable {o o' : Office} {i : Nat} {job : Settlement.Job} {run : Settlement.Run}

/-- No move gives a worker the run of another job. -/
theorem StaysOn.move (stays : o.StaysOn) {m : Move} (moved : m.apply o = some o') : o'.StaysOn := by
  intro i job run works
  cases moves_of_apply moved with
  | alike _ alike => exact stays (alike.works works)
  | step _ step => exact stays ((apart_stepTask step).works works)
  | hurried _ => exact stays ((alike_abortPool o).works works)
  | worked step =>
      rcases step.works works with rfl | ⟨run', before, same⟩
      · rfl
      · exact same (stays before)
  | unlocked _ alike key =>
      obtain ⟨deadline, works⟩ := works
      rw [pool_unlock] at works
      exact stays (alike.works ⟨deadline, works⟩)
  | abandon t => exact stays ((apart_abandon o t).works works)
  | _ => exact stays works

theorem IsNew.staysOn (new : IsNew o) : o.StaysOn := by
  intro i job run works
  obtain ⟨deadline, works⟩ := works
  cases new with
  | @opened setup scans clock sizing decider consumers application =>
      have works : (Pool.ofSizing sizing).worker i = .running job run deadline := works
      simp only [Pool.worker, Pool.ofSizing, List.getElem?_replicate] at works
      split at works <;> cases works

theorem Run.staysOn {first : Office} {turns : List Turn} (played : Run first turns o)
    (new : IsNew first) : o.StaysOn := by
  induction played with
  | start => exact new.staysOn
  | next played moved ih => exact ih.move moved

end Workers

/-! ### Payments that are recorded -/

/-- A turn of whoever has the run of a job records a payment: a worker that has
taken the job, or somebody who asked for the settlement. -/
inductive Turn.Records (x : Turn) (job : Settlement.Job) (p : Payment) : Prop
  | worker {i : Nat} {run : Settlement.Run} (moved : x.move = .turn (.worker i))
      (works : x.before.Works i job run)
      (recorded : x.after.ledger.payments = x.before.ledger.payments ++ [p])
  | caller {t : Ticket} {run : Settlement.Run} (moved : x.move = .turn (.caller t))
      (at_ : x.before.task? t = some (.settling run)) (same : run.IsOf job)
      (recorded : x.after.ledger.payments = x.before.ledger.payments ++ [p])

/-- A request for seats hands a booking over as a job. -/
inductive Commissions (turns : List Turn) (job : Settlement.Job) : Prop
  | intro {before between after : List Turn} {event user : PublicId} {seats : Nat}
      {o₁ o₂ : Office} {x : Turn} {known : EventSnapshot} {receipt : Booking.Receipt}
      (asked : turns =
        before ++ ⟨.ask (.create event user seats), o₁, o₂⟩ :: between ++ x :: after)
      (moved : x.move = .turn (.caller o₁.tickets))
      (at_ : x.before.task? o₁.tickets = some (.handingOver known receipt))
      (job : job = .ofBooking receipt.booking x.before.drawId.1)

section Records

variable {o o' : Office} {x : Turn} {job : Settlement.Job} {p : Payment}

/-- A payment that is recorded says what its draft says. -/
theorem settle_eq_ok {l l' : Ledger} {d : Payment.Draft} {now : Timestamp}
    (settled : l.settle d now = .ok (p, l')) :
    l'.payments = l.payments ++ [p] ∧
      p.bookingId = d.bookingId ∧ p.userId = d.userId ∧ p.amount = d.amount := by
  unfold Ledger.settle at settled
  split at settled
  · cases settled
  · split at settled
    · cases settled
    · split at settled
      · cases settled
      · cases settled
        exact ⟨rfl, rfl, rfl, rfl⟩

/-- No payment is recorded where the list of payments is as it was. -/
theorem unrecorded {l l' : Ledger} (same : l' = l) (recorded : l'.payments = l.payments ++ [p]) :
    False := by
  rw [same] at recorded
  exact absurd recorded (by simp)

/-- A run that records a payment records that of its job. -/
theorem payment_of_settle {run : Settlement.Run} {draft : Payment.Draft} {retries : Nat}
    {payment : Payment} {l : Ledger} (same : run.IsOf job) (run_ : run = .recording draft retries)
    (settled : o.ledger.settle draft o.clock = .ok (payment, l))
    (recorded : l.payments = o.ledger.payments ++ [p]) :
    p.bookingId = job.bookingId ∧ p.userId = job.userId ∧ p.amount = job.amount := by
  subst run_
  obtain ⟨status, rfl⟩ := same
  obtain ⟨grown, booking, user, amount⟩ := settle_eq_ok settled
  obtain rfl : payment = p := by simpa using grown.symm.trans recorded
  exact ⟨booking, user, amount⟩

theorem Turn.Records.says (records : x.Records job p) (stays : x.before.StaysOn)
    (moved : x.move.apply x.before = some x.after) :
    p.bookingId = job.bookingId ∧ p.userId = job.userId ∧ p.amount = job.amount := by
  cases records with
  | @worker i run move works recorded =>
      rw [move] at moved
      rcases (workerStep_of_step moved).core with same | ⟨job', draft, retries, payment, l, works', settled, same⟩
      · exact (unrecorded (congrArg Core.ledger same) recorded).elim
      · obtain ⟨deadline, works'⟩ := works'
        obtain ⟨deadline', busy⟩ := works
        cases busy.symm.trans works'
        have ledger : x.after.ledger = l := congrArg Core.ledger same
        rw [ledger] at recorded
        exact payment_of_settle (stays ⟨_, busy⟩) rfl settled recorded
  | @caller t run move at_ same recorded =>
      rw [move] at moved
      obtain ⟨task, at_', step⟩ := Option.bind_eq_some_iff.mp moved
      cases at_.symm.trans at_'
      simp only [Office.stepTask] at step
      obtain ⟨⟨progress, o₁⟩, settles, after⟩ := Option.map_eq_some_iff.mp step
      have ledger : x.after.ledger = o₁.ledger := by
        rw [← after]
        simp only
        split <;> rfl
      rw [ledger] at recorded
      cases settles_of_step settles with
      | goesOn core _ => exact (unrecorded (congrArg Core.ledger core) recorded).elim
      | ends core _ => exact (unrecorded (congrArg Core.ledger core) recorded).elim
      | records settled => exact payment_of_settle same rfl settled recorded

end Records

/-! ### Runs -/

section Runs

variable {first o : Office} {turns : List Turn} {x : Turn}

/-- What a run has reached before and after each of its turns. -/
theorem Run.at_ (run : Run first turns o) (new : IsNew first) (member : x ∈ turns) :
    x.before.StaysOn ∧ x.move.apply x.before = some x.after ∧
      x.before.ledger.books.Since o.ledger.books ∧ IsBacked x.after ∧
      x.after.ledger.books.Since o.ledger.books := by
  obtain ⟨before, after, rfl⟩ := List.append_of_mem member
  obtain ⟨reached, moved, later⟩ := run.split
  obtain ⟨backed, -⟩ := reached.isBacked new.isBacked
  obtain ⟨backed', step⟩ := backed.move moved
  obtain ⟨-, since⟩ := later.isBacked backed'
  exact ⟨reached.staysOn new, moved, step.trans since, backed', since⟩

/-- A booking that was added to the books in a turn is still there, and nothing but its
status is new. -/
theorem Run.stores {r : Booking.Request} {row sold : EventRow} {b : Booking}
    (run : Run first turns o) (new : IsNew first) (member : x ∈ turns)
    (stores : x.Stores r row sold b) :
    ∃ status, o.ledger.books.booking? b.id = some { b with status := status } := by
  obtain ⟨-, -, -, backed, since⟩ := run.at_ new member
  have listed : b ∈ x.after.ledger.books.bookings := by
    rw [stores.bookings]
    exact List.mem_append_right _ (List.mem_singleton_self b)
  obtain ⟨status, found, -⟩ := since.endures (backed.numbered.booking?_id listed)
  exact ⟨status, found⟩

/-- A booking that is handed over is stored, with its price and user. -/
theorem Run.commissioned {job : Settlement.Job} (run : Run first turns o) (new : IsNew first)
    (made : Commissions turns job) : ∃ booking,
      o.ledger.books.booking? job.bookingId = some booking ∧ booking.total = job.amount ∧
        booking.userId = job.userId := by
  obtain @⟨before, between, after, event, user, seats, o₁, o₂, x, known, receipt, asked, -, at_, rfl⟩ :=
    made
  subst asked
  obtain ⟨reached, -, -⟩ := run.split
  obtain ⟨-, told⟩ := reached.told new rfl
  generalize own_ : ownTurns o₁.tickets between = own at told
  cases told with
  | gone idle => cases idle.symm.trans at_
  | stands stands _ =>
      cases stands with
      | asked at_' => cases at_.symm.trans at_'
      | choosing _ at_' => cases at_.symm.trans at_'
      | trying _ _ _ at_' trying =>
          cases at_.symm.trans at_'
          cases trying
      | announcing _ _ _ _ at_' => cases at_.symm.trans at_'
      | @handing _ _ commit announce _ _ _ _ _ _ _ _ _ stores _ at_' =>
          cases at_.symm.trans at_'
          -- The booking was stored in one of the request's own turns.
          have own : commit ∈ ownTurns o₁.tickets between := by simp [own_]
          have member : commit ∈ between := (List.mem_filter.mp own).1
          obtain ⟨status, found⟩ := run.stores new (by simp [member]) stores
          exact ⟨_, found, rfl, rfl⟩

/-- Statuses and payments agree after every run. -/
theorem Run.settledOnce (run : Run first turns o) (new : IsNew first) :
    o.ledger.books.IsSettledOnce := by
  obtain ⟨-, since⟩ := run.isBacked new.isBacked
  refine since.settledOnce ?_
  cases new
  exact Books.isSettledOnce_empty

/-- Bookings are settled once: statuses and payments agree after every run, what
is settled stays so, and a job that the service has made is charged for what its
booking costs. -/
structure SettlesOnce (turns : List Turn) (o : Office) : Prop where
  /-- A booking is pending without a payment, or has the status of its one payment. -/
  paid : ∀ id booking, o.ledger.books.booking? id = some booking →
    (booking.status = .pending ∧ o.ledger.payments.filter (·.bookingId = id) = []) ∨
      ∃ p, o.ledger.payments.filter (·.bookingId = id) = [p] ∧ booking.status = p.status.settles
  /-- Every payment is for a stored booking. -/
  placed : ∀ p ∈ o.ledger.payments, (o.ledger.books.booking? p.bookingId).isSome
  /-- A booking that was settled before any of the turns is still settled as it was. -/
  lasting : ∀ x ∈ turns, ∀ id booking, x.before.ledger.books.booking? id = some booking →
    booking.status ≠ .pending → ∃ booking', o.ledger.books.booking? id = some booking' ∧
      booking'.status = booking.status
  /-- A payment that was recorded for a job of the service has the amount and the
  user of its booking. -/
  billed : ∀ job, Commissions turns job → ∀ x ∈ turns, ∀ p, x.Records job p →
    ∃ booking, o.ledger.books.booking? p.bookingId = some booking ∧ p.amount = booking.total ∧
      p.userId = booking.userId

/-- Whatever happens in an office, its bookings are settled once. -/
theorem Run.settlesOnce (run : Run first turns o) (new : IsNew first) : SettlesOnce turns o := by
  have once := run.settledOnce new
  constructor
  · exact fun id booking found => once.paid found
  · exact once.placed
  · intro x member id booking found settled
    obtain ⟨-, -, since, -, -⟩ := run.at_ new member
    obtain ⟨booking', found', -, -, fixed⟩ := since.lasts found
    refine ⟨booking', found', fixed ?_⟩
    cases status : booking.status with
    | pending => exact absurd status settled
    | success => rfl
    | failed => rfl
  · intro job made x member p records
    obtain ⟨stays, moved, -, -, -⟩ := run.at_ new member
    obtain ⟨about, user, amount⟩ := records.says stays moved
    obtain ⟨booking, found, total, owner⟩ := run.commissioned new made
    refine ⟨booking, about ▸ found, ?_, ?_⟩
    · exact amount.trans total.symm
    · exact user.trans owner.symm

end Runs

/-- The worker takes the job of the booking, charges for it and records the payment. -/
def settling : List Move := List.replicate 4 (.turn (.worker 0))

/-- All turns of the day on which the talk is sold. -/
def day : List Turn :=
  (vacant.play sale ++ order :: wanted.play buying) ++ (wanted.played buying).play settling

theorem run_day : Run vacant day ((wanted.played buying).played settling) := run_buying.play rfl

/-- The job of the booking. -/
def bill : Settlement.Job := ⟨⟨1⟩, ⟨7⟩, ⟨5000⟩, .sequential 2⟩

theorem commissions_day : Commissions day bill := by
  have asked : day = vacant.play sale ++ order :: wanted.play (buying.take 5) ++
      ⟨.turn (.caller 1), wanted.played (buying.take 5), wanted.played buying⟩ ::
        (wanted.played buying).play settling := rfl
  obtain ⟨known, receipt, at_, job⟩ : ∃ known receipt,
      (wanted.played (buying.take 5)).task? 1 = some (.handingOver known receipt) ∧
        bill = .ofBooking receipt.booking (wanted.played (buying.take 5)).drawId.1 :=
    ⟨_, _, rfl, rfl⟩
  exact .intro asked rfl at_ job

theorem records_day : ∃ x ∈ day, x.Records bill
    ⟨⟨1⟩, .sequential 2, ⟨1⟩, ⟨7⟩, ⟨5000⟩, .success, .epoch⟩ := by
  have last : day[14]? = some ⟨.turn (.worker 0), (wanted.played buying).played (settling.take 3),
      (wanted.played buying).played settling⟩ := rfl
  exact ⟨_, List.mem_of_getElem? last, .worker rfl ⟨none, rfl⟩ rfl⟩

/-- There is a job of the service, and a payment recorded for it. -/
theorem settlesOnce_day :
    (Commissions day bill ∧ ∃ x ∈ day, ∃ p, x.Records bill p) ∧
      SettlesOnce day ((wanted.played buying).played settling) := by
  obtain ⟨x, member, records⟩ := records_day
  exact ⟨⟨commissions_day, x, member, _, records⟩,
    run_day.settlesOnce (.opened (fun _ => .refl _) _ _ _ _ _)⟩

end BoxOffice.Office
