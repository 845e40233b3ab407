import BoxOffice.Proofs.Ledger.Conservation
import BoxOffice.Proofs.Office.Speaking

/-!
# Bookings on their way to the pool

A request for seats draws an identifier, makes a booking under it, and hands the
booking over to the pool with one more identifier for the payment. `Stake` says
what a request has in hand between these steps, and `Trades` what a step of it
comes to: it makes a booking, hands one over, draws an identifier, begins a
shutdown, or rests. The accounts are what settlements leave alone of the bookings,
and the payments; nobody touches them but requests for seats and workers.
-/

namespace BoxOffice

/-- Which booking is to be paid, by whom and how much. -/
structure Bill where
  bookingId : BookingId
  userId : UserId
  amount : Money
  deriving DecidableEq, Repr

def Booking.bill (b : Booking) : Bill := ⟨b.id, b.userId, b.total⟩

namespace Ledger

/-- What no settlement changes of the bookings, and the payments. -/
structure Accounts where
  bills : List Bill
  names : List PublicId
  payments : List Payment

def Books.accounts (b : Books) : Accounts :=
  ⟨b.bookings.map (·.bill), b.bookings.map (·.publicId), b.payments⟩

section Accounts

variable {l l' : Ledger} {b b' : Books} {now : Timestamp}

/-- A call that neither books seats nor records a payment leaves the accounts alone. -/
theorem Books.accounts_of_outcome {k : Call.Kind} {call : Call k} {answer : k.Answer}
    (noReceipt : k ≠ .receipt) (noPayment : k ≠ .payment)
    (outcome : (answer, b') ∈ b.outcomes now call) : b'.accounts = b.accounts := by
  cases call with
  | register d =>
      obtain ⟨-, rfl⟩ := Prod.mk.inj (List.mem_singleton.mp outcome)
      rfl
  | revise id r =>
      have made : b' = (b.revise id r).2 := congrArg Prod.snd (List.mem_singleton.mp outcome)
      rw [made]
      unfold Books.revise
      split
      · rfl
      · split <;> rfl
  | remove id =>
      have made : b' = (b.remove id).2 := congrArg Prod.snd (List.mem_singleton.mp outcome)
      rw [made]
      unfold Books.remove
      split
      · rfl
      · split <;> rfl
  | book r => exact absurd rfl noReceipt
  | findEvent id =>
      obtain ⟨-, rfl⟩ := Prod.mk.inj (List.mem_singleton.mp outcome)
      rfl
  | findBooking publicId =>
      obtain ⟨_, _, same⟩ := List.mem_map.mp outcome
      exact congrArg Books.accounts (Prod.mk.inj same).2.symm
  | settle d => exact absurd rfl noPayment

theorem Effect.accounts {k : Call.Kind} {call : Call k} {bound : Option k.Answer}
    {result : Progress k × Ledger} (effect : Effect l now call bound result)
    (noReceipt : k ≠ .receipt) (noPayment : k ≠ .payment) :
    result.2.books.accounts = l.books.accounts := by
  cases effect with
  | goesOn quiet => exact congrArg Books.accounts quiet.books
  | binds quiet => exact congrArg Books.accounts quiet.books
  | refused quiet => exact congrArg Books.accounts quiet.books
  | late quiet => exact congrArg Books.accounts quiet.books
  | took _ outcome => exact Books.accounts_of_outcome noReceipt noPayment outcome
  | removed _ outcome => exact Books.accounts_of_outcome noReceipt noPayment outcome

theorem Books.accounts_booked (b : Books) (row : EventRow) (booking : Booking) :
    (b.booked row booking).accounts =
      { b.accounts with
        bills := b.accounts.bills ++ [booking.bill]
        names := b.accounts.names ++ [booking.publicId] } := by
  simp [accounts, booked, setRow]

/-- What a settlement that succeeds has written. -/
theorem paid_of_settle {d : Payment.Draft} {p : Payment} (settled : l.settle d now = .ok (p, l')) :
    p = l.books.newPayment d now ∧
      l'.books.accounts = { l.books.accounts with payments := l.books.payments ++ [p] } := by
  unfold Ledger.settle at settled
  split at settled
  · cases settled
  · rename_i cell found
    split at settled
    · cases settled
    · split at settled
      · cases settled
      · cases settled
        have written : l.books.booking? d.bookingId = some cell.row := by
          rw [booking?_books, found]
          rfl
        have paid := books_paid l d.bookingId
          { cell with row := { cell.row with status := d.status.settles } } (l.books.newPayment d now)
        have same {β : Type} (f : Booking → β)
            (kept : f { cell.row with status := d.status.settles } = f cell.row) :=
          Books.map_settled (p := l.books.newPayment d now) written f kept
        refine ⟨rfl, (congrArg Books.accounts paid).trans ?_⟩
        exact congrArg₂ (Accounts.mk · · _) (same _ rfl) (same _ rfl)

/-- A settlement of a pending booking succeeds when nobody holds its row. -/
theorem settle_of_pending {d : Payment.Draft} {cell : BookingCell}
    (found : l.bookingCell? d.bookingId = some cell) (free : cell.lock.isFree = true)
    (pending : cell.row.status = .pending) : ∃ p l', l.settle d now = .ok (p, l') := by
  have may : cell.row.status.mayBecome d.status.settles = true := by
    rw [pending]
    cases d.status <;> rfl
  unfold Ledger.settle
  rw [found]
  simp only [free, may]
  exact ⟨_, _, rfl⟩

end Accounts

end Ledger

namespace Office

open Ledger (Ticket Books Call Stage Progress Effect)

/-! ### Stakes -/

/-- What a request has in hand. -/
inductive Stake
  | nothing
  /-- An identifier for a booking that is not made yet. -/
  | identifier (id : PublicId)
  /-- The bill of a booking that is not handed over yet. -/
  | bill (bill : Bill)
  /-- The workers of the pool, which it sees off. -/
  | workers
  /-- A booking or a settlement of its own, without the service and the pool. -/
  | own
  deriving DecidableEq

namespace Stake

def bill? : Stake → Option Bill
  | bill b => some b
  | _ => none

def identifier? : Stake → Option PublicId
  | identifier id => some id
  | _ => none

end Stake

/-- Whether seats are booked without the service, or a booking settled without the
pool. -/
def Request.isOwn : Request → Bool
  | .ledger .receipt _ | .ledger .payment _ | .settle _ => true
  | _ => false

def Task.stake : Task → Stake
  | .asked r => if r.isOwn then .own else .nothing
  | .atLedger .receipt _ _ .answer | .settling _ => .own
  | .attempting _ r _ | .pausing _ r _ _ | .atLedger _ _ _ (.attempt _ r _) => .identifier r.publicId
  | .announcingSeats _ receipt | .handingOver _ receipt => .bill receipt.booking.bill
  | .closingPool _ => .workers
  | _ => .nothing

/-- The booking that a request is about to hand over. -/
def Task.hands? : Task → Option Booking
  | .handingOver _ receipt => some receipt.booking
  | _ => none

/-- What the request under a ticket has in hand. -/
def stake (o : Office) (t : Ticket) : Stake := ((o.task? t).map (·.stake)).getD .nothing

/-- What a step of a request comes to. -/
inductive Trades (o : Office) (t : Ticket) (task : Task) (o' : Office) : Prop
  | rests (keeps : task.hands? = none)
      (accounts : o'.ledger.books.accounts = o.ledger.books.accounts) (stock : o'.stock = o.stock)
      (stake : o'.stake t = task.stake ∨ o'.stake t = .nothing ∧ task.stake.bill? = none)
  /-- An identifier is drawn for a booking. -/
  | draws (empty : task.stake = .nothing)
      (accounts : o'.ledger.books.accounts = o.ledger.books.accounts)
      (stock : o'.stock = o.drawId.2.stock)
      (stake : o'.stake t = .identifier o.drawId.1 ∨ o'.stake t = .nothing)
  /-- A booking is made under the identifier that was drawn. -/
  | makes {id : PublicId} {bill : Bill} (drawn : task.stake = .identifier id)
      (accounts : o'.ledger.books.accounts =
        { o.ledger.books.accounts with
          bills := o.ledger.books.accounts.bills ++ [bill]
          names := o.ledger.books.accounts.names ++ [id] })
      (stock : o'.stock = o.stock) (stake : o'.stake t = .bill bill)
  | hands {event : EventSnapshot} {receipt : Booking.Receipt}
      (task_ : task = .handingOver event receipt)
      (accounts : o'.ledger.books.accounts = o.ledger.books.accounts)
      (stock : o'.stock = (o.handOver receipt.booking).stock) (stake : o'.stake t = .nothing)
  /-- A shutdown of the pool begins. -/
  | closes {grace : Span} (task_ : task = .asked (.closePool grace))
      (accounts : o'.ledger.books.accounts = o.ledger.books.accounts)
      (stock : o'.stock = (o.closePool grace).2.stock)
      (answered : ∀ inTime, (o.closePool grace).1 = .ended inTime →
        o' = (o.closePool grace).2.finish t (.drained inTime))
      (stake : o'.stake t = .nothing ∨
        o'.stake t = .workers ∧ ∃ deadline, (o.closePool grace).1 = .waiting deadline)

section Steps

variable {o o' : Office} {t : Ticket} {task : Task}

theorem stake_of_task (at_ : o.task? t = some task) : o.stake t = task.stake := by
  rw [stake, at_, Option.map_some, Option.getD_some]

theorem stake_asked (r : Request) : (Task.asked r).stake = if r.isOwn then .own else .nothing := rfl

theorem stake_of_none (idle : o.task? t = none) : o.stake t = .nothing := by
  rw [stake, idle, Option.map_none, Option.getD_none]

theorem stake_congr (same : o'.task? t = o.task? t) : o'.stake t = o.stake t := by
  rw [stake, same, stake]

theorem stake_finish (o : Office) (t : Ticket) (answer : Answer) :
    (o.finish t answer).stake t = .nothing :=
  stake_of_none (task?_finish o t answer)

theorem stake_setTask (o : Office) (t : Ticket) (task : Task) : (o.setTask t task).stake t = task.stake :=
  stake_of_task (task?_setTask o t task)

/-- A request that neither draws an identifier nor deals with the pool leaves the
pool alone. -/
theorem stock_stepTask (plain : task.deals = false) (step : o.stepTask t task = some o') :
    o'.stock = o.stock := by
  cases owed : task.owes with
  | none => exact congrArg Backdrop.stock (backdrop_stepTask owed plain step)
  | some c =>
      cases task with
      | announcing row change =>
          cases step
          exact stock_announce o change
      | announcingSeats event receipt =>
          cases step
          exact stock_announce o _
      | _ => cases owed

/-! ### Where a step leaves a request -/

theorem Task.hands?_of_clear (clear : task.stake.bill? = none) : task.hands? = none := by
  cases task with
  | handingOver event receipt => cases clear
  | _ => rfl

theorem Trades.finish (o₁ : Office) (answer : Answer) (clear : task.stake.bill? = none)
    (accounts : o₁.ledger.books.accounts = o.ledger.books.accounts)
    (stock : (o₁.finish t answer).stock = o.stock) : Trades o t task (o₁.finish t answer) :=
  .rests (Task.hands?_of_clear clear) accounts stock (.inr ⟨stake_finish o₁ t answer, clear⟩)

theorem Trades.finishBooking (o₁ : Office) (seats : Nat)
    (result : Except Booking.Error Booking.View) (clear : task.stake.bill? = none)
    (accounts : o₁.ledger.books.accounts = o.ledger.books.accounts)
    (stock : (o₁.finishBooking t seats result).stock = o.stock) :
    Trades o t task (o₁.finishBooking t seats result) :=
  .rests (Task.hands?_of_clear clear) accounts stock
    (.inr ⟨stake_finish o₁ t (.booking result), clear⟩)

theorem Trades.setTask (o₁ : Office) {task' : Task} (keeps : task.hands? = none)
    (same : task'.stake = task.stake) (accounts : o₁.ledger.books.accounts = o.ledger.books.accounts)
    (stock : (o₁.setTask t task').stock = o.stock) : Trades o t task (o₁.setTask t task') :=
  .rests keeps accounts stock (.inl ((stake_setTask o₁ t task').trans same))

variable {k : Call.Kind}

/-- A call of a request with nothing in hand. -/
theorem Trades.look {call : Call k} {bound : Option k.Answer} {result : Progress k × Ledger}
    (noReceipt : k ≠ .receipt) (noPayment : k ≠ .payment) (empty : task.stake = .nothing)
    (effect : Effect o.ledger o.clock call bound result) (purpose : Purpose k)
    (due : Stage k → Nat) (stock : (o.carriedOn t purpose due result).stock = o.stock) :
    Trades o t task (o.carriedOn t purpose due result) := by
  have accounts := effect.accounts noReceipt noPayment
  have clear : task.stake.bill? = none := by rw [empty]; rfl
  have keeps := Task.hands?_of_clear clear
  obtain ⟨progress, l⟩ := result
  cases progress with
  | further stage =>
      refine .setTask _ keeps ?_ accounts stock
      rw [empty]
      cases stage with
      | booking id => exact absurd rfl noReceipt
      | _ => cases purpose <;> rfl
  | done answer =>
      cases purpose with
      | answer => exact .finish _ _ clear accounts stock
      | announce a =>
          cases answer with
          | error e => exact .finish _ _ clear accounts stock
          | ok row => exact .setTask _ keeps empty.symm accounts stock
      | attempt event r retries => exact absurd rfl noReceipt
      | view b => cases answer <;> exact .finish _ _ clear accounts stock
      | lookUp id =>
          cases answer with
          | none => exact .finish _ _ clear accounts stock
          | some b =>
              have kept := Ledger.start_findEvent l t o.setup.scan o.clock b.eventId
              simp only [carriedOn, deliver] at stock ⊢
              split at stock <;> rename_i started <;> rw [started] at kept <;> subst kept
              · rename_i row _
                cases row <;> exact .finish _ _ clear accounts stock
              · exact .setTask _ keeps empty.symm accounts stock

/-- An attempt to book seats. -/
theorem Trades.attempt {r : Booking.Request} {event : EventSnapshot}
    {result : Progress .receipt × Ledger} (drawn : task.stake = .identifier r.publicId)
    (attempt : Attempt o.ledger r result) (retries : Nat) (due : Stage .receipt → Nat)
    (stock : (o.carriedOn t (.attempt event r retries) due result).stock = o.stock) :
    Trades o t task (o.carriedOn t (.attempt event r retries) due result) := by
  have clear : task.stake.bill? = none := by rw [drawn]; rfl
  have keeps := Task.hands?_of_clear clear
  cases attempt with
  | goesOn same => exact .setTask _ keeps drawn.symm (congrArg Books.accounts same) stock
  | fails e same =>
      have accounts := congrArg Books.accounts same
      simp only [carriedOn, deliver] at stock ⊢
      split at stock <;> rename_i verdict
      · cases (Retry.final_of_ended verdict).1
      · exact .finishBooking _ _ _ clear accounts stock
      · exact .finish _ _ clear accounts stock
      · exact .setTask _ keeps drawn.symm accounts stock
  | @stores l' row b found enough booked now new =>
      refine @Trades.makes _ _ _ _ _ b.bill drawn ?_ stock ?_
      · have after : (o.carriedOn t (.attempt event r retries) due
            (.done (.ok ⟨b, row.availableSeats - r.seats, row.version + 1⟩), l')).ledger.books =
            l'.books := rfl
        rw [after, booked, Books.accounts_booked, new]
        rfl
      · simp only [carriedOn, deliver, Retry.verdict, stake_setTask]
        rfl

/-! ### Steps of requests -/

theorem Trades.hold (key : RowKey) (empty : task.stake = .nothing)
    (stock : (o.holdRow t key).stock = o.stock) : Trades o t task (o.holdRow t key) := by
  have accounts : (o.ledger.asked t key).books.accounts = o.ledger.books.accounts :=
    congrArg Books.accounts (Ledger.Quiet.asked o.ledger t key).books
  have keeps : task.hands? = none := Task.hands?_of_clear (by rw [empty]; rfl)
  unfold holdRow at stock ⊢
  rw [acquire_eq] at stock ⊢
  cases has : (o.acquire t key).1 with
  | true =>
      rw [has] at stock
      exact .rests keeps accounts stock (.inl ((stake_finish _ t (.held true)).trans empty.symm))
  | false =>
      rw [has] at stock
      exact .setTask _ keeps empty.symm accounts stock

theorem Trades.chooseUser (event : EventSnapshot) (user : PublicId) (seats : Nat) :
    Trades o t (.choosing event user seats) (o.chooseUser t event user seats) := by
  unfold Office.chooseUser
  split
  · exact .finishBooking o _ _ rfl rfl rfl
  · split
    · exact .finishBooking o _ _ rfl rfl rfl
    · simp only
      split
      · exact .draws rfl rfl rfl (.inr (stake_finish _ t _))
      · exact .draws rfl rfl rfl (.inl (stake_setTask _ t _))

theorem Trades.closePool (grace : Span) :
    Trades o t (.asked (.closePool grace)) (o.begin t (.closePool grace)) := by
  have accounts := congrArg (·.books.accounts) (alike_closePool o grace).ledger
  simp only [Office.begin]
  generalize closed : o.closePool grace = result at accounts
  obtain ⟨closing, o₁⟩ := result
  cases closing with
  | ended inTime =>
      refine .closes rfl accounts ?_ ?_ (.inl (stake_finish _ t _)) <;> rw [closed]
      · rfl
      · rintro _ ⟨⟩
        rfl
  | waiting deadline =>
      refine .closes rfl accounts ?_ ?_ (.inr ⟨stake_setTask _ t _, deadline, ?_⟩) <;> rw [closed]
      · rfl
      · rintro _ ⟨⟩

theorem Trades.begin (backed : IsBacked o) {r : Request} (open_ : r.isOwn = false) :
    Trades o t (.asked r) (o.begin t r) := by
  have empty : (Task.asked r).stake = .nothing := by
    rw [stake_asked, open_]
    rfl
  have clear : (Task.asked r).stake.bill? = none := by rw [empty]; rfl
  by_cases other : ∀ grace, r ≠ .closePool grace
  · have stock := congrArg Backdrop.stock (backdrop_begin o t other)
    have catalog (call : Call .row) (purpose : Purpose .row)
        (stock : (o.call t call purpose).stock = o.stock) :
        Trades o t (.asked r) (o.call t call purpose) := by
      rw [call_eq] at stock ⊢
      exact .look (by simp) (by simp) empty (backed.started t call) purpose o.dueOf stock
    cases r with
    | ledger kind c =>
        simp only [Office.begin, call_eq] at stock ⊢
        refine .look ?_ ?_ empty (backed.started t c) .answer o.dueOf stock
        · rintro rfl
          cases open_
        · rintro rfl
          cases open_
    | register draft => exact catalog _ _ stock
    | revise id revision => exact catalog _ _ stock
    | remove id => exact catalog _ _ stock
    | create event user seats =>
        simp only [Office.begin, beginBooking] at stock ⊢
        split
        · exact .finishBooking o _ _ clear rfl rfl
        · split
          · exact .finishBooking o _ _ clear rfl rfl
          · exact .setTask o rfl empty.symm rfl rfl
    | find booking =>
        simp only [Office.begin, call_eq] at stock ⊢
        exact .look (by simp) (by simp) empty (backed.started t _) (.lookUp booking) o.dueOf stock
    | settle job => cases open_
    | hold key =>
        simp only [Office.begin] at stock ⊢
        split
        · rename_i row
          rw [if_pos row] at stock
          exact .hold key empty stock
        · exact .finish o _ clear rfl rfl
    | wait span => exact .setTask o rfl empty.symm rfl stock
    | closePool grace => exact absurd rfl (other grace)
    | stopConsumers =>
        simp only [Office.begin] at stock ⊢
        split
        · exact .finish o _ clear rfl rfl
        · exact .rests rfl rfl rfl (.inl ((stake_setTask o t _).trans empty.symm))
    | stopApplication =>
        simp only [Office.begin] at stock ⊢
        split
        · rename_i a runs
          split
          · rename_i running
            rw [runs] at stock
            simp only [running] at stock
            exact .rests rfl rfl stock (.inl ((stake_setTask o t _).trans empty.symm))
          · exact .finish o _ clear rfl rfl
        · exact .finish o _ clear rfl rfl
  · obtain ⟨grace, rfl⟩ := not_forall_not.mp other
    exact .closePool grace

/-- A call that takes time goes on for its purpose. -/
theorem Trades.resume (backed : IsBacked o) {stage : Stage k} {due : Nat} {purpose : Purpose k}
    (at_ : o.task? t = some (.atLedger k stage due purpose))
    (open_ : (Task.atLedger k stage due purpose).stake ≠ .own) (due' : Stage k → Nat)
    (stock : (o.carriedOn t purpose due' (o.ledger.resume t o.clock stage)).stock = o.stock) :
    Trades o t (.atLedger k stage due purpose)
      (o.carriedOn t purpose due' (o.ledger.resume t o.clock stage)) := by
  obtain ⟨call, serves, fits, effect⟩ := backed.pursued at_
  cases purpose with
  | attempt event r retries =>
      cases serves
      cases stage
      exact .attempt rfl (attempt_of_effect effect) retries due' stock
  | answer =>
      cases stage with
      | booking id => exact absurd rfl open_
      | _ => exact .look (by simp) (by simp) rfl effect _ due' stock
  | _ =>
      cases stage
      exact .look (by simp) (by simp) rfl effect _ due' stock

/-- What a step comes to of a request that has no booking or settlement of its own. -/
theorem trades_of_step (backed : IsBacked o) (at_ : o.task? t = some task) (open_ : task.stake ≠ .own)
    (step : o.stepTask t task = some o') : Trades o t task o' := by
  have stock (plain : task.deals = false) := stock_stepTask plain step
  cases task with
  | asked r =>
      cases step
      refine .begin backed (Bool.eq_false_iff.mpr fun own => open_ ?_)
      rw [stake_asked, own]
      rfl
  | atLedger kind stage due purpose =>
      have stock := stock rfl
      rw [stepTask_atLedger step] at stock ⊢
      exact .resume backed at_ open_ _ stock
  | announcing row change =>
      cases step
      exact .finish _ _ rfl (congrArg (·.books.accounts) (alike_announce o change).ledger) (stock rfl)
  | choosing event user seats =>
      cases step
      exact .chooseUser event user seats
  | attempting event request retries =>
      cases step
      have stock := stock rfl
      rw [call_eq] at stock ⊢
      exact .attempt rfl (attempt_of_effect (backed.started t _)) retries o.dueOf stock
  | pausing event request retries due =>
      simp only [stepTask] at step
      split at step <;> cases step
      exact .setTask o rfl rfl rfl (stock rfl)
  | announcingSeats event receipt =>
      cases step
      exact .setTask _ rfl rfl (congrArg (·.books.accounts) (alike_announce o _).ledger) (stock rfl)
  | handingOver event receipt =>
      cases step
      have accounts := congrArg (·.books.accounts) (alike_handOver o receipt.booking).ledger
      exact .hands rfl accounts rfl (stake_finish _ t (.booking (.ok (receipt.booking.view event.publicId))))
  | settling run => exact absurd rfl open_
  | holding key =>
      simp only [stepTask] at step
      split at step <;> cases step
      exact .hold key rfl (stock rfl)
  | stoppingApplication =>
      simp only [stepTask] at step
      split at step <;> cases step
      exact .finish o _ rfl rfl (stock rfl)
  | _ =>
      simp only [stepTask] at step
      split at step <;> cases step
      exact .finish o _ rfl rfl (stock rfl)

end Steps

end Office

end BoxOffice
