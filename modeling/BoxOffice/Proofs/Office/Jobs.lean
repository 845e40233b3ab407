import BoxOffice.Proofs.Office.Announcing
import BoxOffice.Proofs.Office.Trail

/-!
# Jobs and the pool from turn to turn

In one turn the pool may take a job, a worker may get on, and somebody may begin a
shutdown or send the workers away; `Manages` says which, with the job that was taken
and the decision that was made. Workers are sent away only by whoever has shut the
pool down first. That shutdown is over in time, as `Turn.Drains` says, only when no
worker is left, and workers that are gone stay so.
-/

namespace BoxOffice.Office

open Ledger (Ticket Books)

/-! ### Jobs and decisions of a run -/

/-- The job that a worker asks for a decision about. -/
def asks? : Pool.Worker Settlement.Job Settlement.Run → Option Settlement.Job
  | .running _ (.deciding job) _ => some job
  | _ => none

namespace Turn

/-- The job that the pool takes in a turn. -/
def accepted? (x : Turn) : Option Settlement.Job :=
  x.submission?.filter fun job => (x.before.pool.submit job).isOk

/-- The job that the pool hands back in a turn. -/
def refused? (x : Turn) : Option Settlement.Job :=
  x.submission?.filter fun job => !(x.before.pool.submit job).isOk

/-- The job that a worker gets a decision about, and the decision. -/
def decision? (x : Turn) : Option (Settlement.Job × Payment.Status) :=
  match x.move with
  | .turn (.worker i) =>
    (asks? (x.before.pool.worker i)).bind fun job =>
      (x.before.decide false).1.status?.map fun status => (job, status)
  | _ => none

end Turn

/-- The jobs that the pool took in the turns of a run. -/
def accepted (turns : List Turn) : List Settlement.Job := turns.filterMap (·.accepted?)

/-- The jobs that the pool handed back. -/
def refused (turns : List Turn) : List Settlement.Job := turns.filterMap (·.refused?)

/-- What was decided, about which jobs. -/
def decisions (turns : List Turn) : List (Settlement.Job × Payment.Status) :=
  turns.filterMap (·.decision?)

/-! ### The first shutdown -/

/-- Somebody has shut the pool down first and waits for the workers. -/
def Awaits (o : Office) : Actor → Prop
  | .caller t => o.stake t = .workers
  | .application => o.stock.draining = true
  | _ => False

/-- In a turn the first shutdown of the pool is over and all workers went in time. -/
inductive Turn.Drains (x : Turn) : Prop
  /-- A request that began it is answered so at once. -/
  | atOnce {t : Ticket} {grace : Span} (moved : x.move = .turn (.caller t))
      (at_ : x.before.task? t = some (.asked (.closePool grace)))
      (first : x.before.pool.claimed = false) (ends : x.Ends t (.drained true))
  /-- A request that has waited for the workers is answered so. -/
  | answered {t : Ticket} {deadline : Nat} (moved : x.move = .turn (.caller t))
      (at_ : x.before.task? t = some (.closingPool deadline)) (ends : x.Ends t (.drained true))
  /-- The application has seen the workers off and ends. -/
  | ended {a : Application} {clean : Bool} (moved : x.move = .turn .application)
      (first : x.before.Awaits .application ∨ x.before.pool.claimed = false)
      (deserted : x.before.pool.isDeserted = true) (ends : x.after.application = some a)
      (stage : a.stage = .ended clean)

/-- What a turn does to the pool and to payments, and who awaits the workers after it. -/
inductive Manages (x : Turn) : Prop
  | rests (pool : x.after.pool = x.before.pool)
      (payments : x.after.ledger.payments = x.before.ledger.payments)
      (unaccepted : x.accepted? = none) (undecided : x.decision? = none)
      (awaits : ∀ a, x.after.Awaits a → x.before.Awaits a)
  | takes {job : Settlement.Job} (opened : x.before.pool.isOpen = true)
      (pool : x.after.pool = { x.before.pool with queue := x.before.pool.queue ++ [job] })
      (payments : x.after.ledger.payments = x.before.ledger.payments)
      (accepted : x.accepted? = some job) (undecided : x.decision? = none)
      (awaits : ∀ a, x.after.Awaits a → x.before.Awaits a)
  | toils {i : Nat} (moved : x.move = .turn (.worker i))
      (toils : Toils x.before i x.after.pool x.after.ledger) (unaccepted : x.accepted? = none)
      (awaits : ∀ a, x.after.Awaits a → x.before.Awaits a)
  | closes {a : Actor} (pool : x.after.pool = x.before.pool.closing)
      (payments : x.after.ledger.payments = x.before.ledger.payments)
      (unaccepted : x.accepted? = none) (undecided : x.decision? = none)
      (awaits : ∀ b, x.after.Awaits b → x.before.Awaits b ∨ b = a ∧ x.before.pool.claimed = false)
  /-- Whoever is in charge sends the workers away. -/
  | aborts {a : Actor} {p : Pool Settlement.Job Settlement.Run} (pool : x.after.pool = p.aborted)
      (charge : x.before.Awaits a ∧ p = x.before.pool ∨
        x.before.pool.claimed = false ∧ p = x.before.pool.closing)
      (payments : x.after.ledger.payments = x.before.ledger.payments)
      (unaccepted : x.accepted? = none) (undecided : x.decision? = none)
      (awaits : ∀ b, x.after.Awaits b → x.before.Awaits b ∧ b ≠ a)

section Turns

variable {o o' : Office} {m : Move} {t : Ticket} {x : Turn}

theorem payments_of_accounts (same : o'.ledger.books.accounts = o.ledger.books.accounts) :
    o'.ledger.payments = o.ledger.payments :=
  congrArg Ledger.Accounts.payments same

theorem payments_of_books (same : o'.ledger.books = o.ledger.books) :
    o'.ledger.payments = o.ledger.payments :=
  congrArg Books.payments same

/-- Where hands and application are as they were, nobody else awaits the workers. -/
theorem awaits_congr (stakes : ∀ t, o'.stake t = o.stake t)
    (draining : o'.stock.draining = o.stock.draining) (a : Actor) (awaits : o'.Awaits a) :
    o.Awaits a := by
  cases a with
  | caller t => exact (stakes t).symm.trans awaits
  | application => exact draining.symm.trans awaits
  | _ => exact awaits

/-- A request that has its turn is the only one that may come to await the workers. -/
theorem awaits_of_turn (others : ∀ u, u ≠ t → o'.stake u = o.stake u)
    (draining : o'.stock.draining = o.stock.draining) {a : Actor} (other : a ≠ .caller t)
    (awaits : o'.Awaits a) : o.Awaits a := by
  cases a with
  | caller u => exact (others u fun same => other (same ▸ rfl)).symm.trans awaits
  | application => exact draining.symm.trans awaits
  | _ => exact awaits

theorem unaccepted_of_unsubmitted (unsubmitted : x.submission? = none) : x.accepted? = none := by
  rw [Turn.accepted?, unsubmitted, Option.filter_none]

/-- A shutdown that is begun puts one in charge, unless somebody is. -/
theorem Manages.of_closes {a : Actor} {closing : Pool.Closing} {p : Pool Settlement.Job Settlement.Run}
    (closes : x.before.pool.Closes closing p) (pool : x.after.pool = p)
    (payments : x.after.ledger.payments = x.before.ledger.payments)
    (unaccepted : x.accepted? = none) (undecided : x.decision? = none)
    (others : ∀ b, b ≠ a → x.after.Awaits b → x.before.Awaits b)
    (waiting : x.after.Awaits a → ∃ deadline, closing = .waiting deadline) : Manages x := by
  cases closes with
  | past done =>
      refine .closes (a := a) pool payments unaccepted undecided fun b awaits => .inl ?_
      refine others b ?_ awaits
      rintro rfl
      obtain ⟨deadline, same⟩ := waiting awaits
      cases same
  | waits first deadline =>
      refine .closes (a := a) pool payments unaccepted undecided fun b awaits => ?_
      by_cases own : b = a
      · exact .inr ⟨own, first⟩
      · exact .inl (others b own awaits)
  | sends first =>
      refine .aborts (a := a) pool (.inr ⟨first, rfl⟩) payments unaccepted undecided fun b awaits => ?_
      have other : b ≠ a := by
        rintro rfl
        obtain ⟨deadline, same⟩ := waiting awaits
        cases same
      exact ⟨others b other awaits, other⟩

theorem undecided_of_aside (aside : m.isAside = true) :
    (⟨m, o, o'⟩ : Turn).decision? = none := by
  cases m with
  | turn a =>
      cases a with
      | worker i => cases aside
      | _ => rfl
  | _ => rfl

theorem manages_of_trades {task : Task} (at_ : o.task? t = some task) (trades : Trades o t task o')
    (others : ∀ u, u ≠ t → o'.stake u = o.stake u) : Manages ⟨.turn (.caller t), o, o'⟩ := by
  have submission := submission?_eq o' at_
  have before := stake_of_task at_
  have unaccepted (keeps : task.hands? = none) :
      (⟨.turn (.caller t), o, o'⟩ : Turn).accepted? = none :=
    unaccepted_of_unsubmitted (by rw [submission, keeps, Option.map_none])
  -- Nobody comes to await the workers when the request itself does not.
  have awaits (draining : o'.stock.draining = o.stock.draining)
      (own : o'.stake t = .workers → o.stake t = .workers) (a : Actor) (awaits : o'.Awaits a) :
      o.Awaits a := by
    by_cases same : a = .caller t
    · subst same
      exact own awaits
    · exact awaits_of_turn others draining same awaits
  cases trades with
  | rests keeps accounts stock stake =>
      refine .rests (congrArg Stock.pool stock) (payments_of_accounts accounts) (unaccepted keeps) rfl
        (awaits (congrArg Stock.draining stock) fun waits => ?_)
      rcases stake with same | ⟨gone, -⟩
      · exact before.trans (same.symm.trans waits)
      · cases gone.symm.trans waits
  | draws empty accounts stock stake =>
      have draining := congrArg Stock.draining stock
      have keeps : task.hands? = none := Task.hands?_of_clear (by rw [empty]; rfl)
      refine .rests (congrArg Stock.pool stock) (payments_of_accounts accounts) (unaccepted keeps) rfl
        (awaits draining fun waits => ?_)
      rcases stake with stake | stake <;> cases stake.symm.trans waits
  | makes drawn accounts stock stake =>
      have keeps : task.hands? = none := Task.hands?_of_clear (by rw [drawn]; rfl)
      have payments : o'.ledger.payments = o.ledger.payments :=
        congrArg Ledger.Accounts.payments accounts
      refine .rests (congrArg Stock.pool stock) payments (unaccepted keeps) rfl
        (awaits (congrArg Stock.draining stock) fun waits => ?_)
      cases stake.symm.trans waits
  | @hands event receipt task_ accounts stock stake =>
      subst task_
      have stock := stock.trans (stock_handOver o receipt.booking)
      have pool : o'.pool = _ := congrArg Stock.pool stock
      have draining := congrArg Stock.draining stock
      have payments := payments_of_accounts accounts
      have awaits := awaits draining fun waits => by
        cases stake.symm.trans waits
      have submitted := Pool.submission o.pool (.ofBooking receipt.booking o.drawId.1)
      have taken : (⟨.turn (.caller t), o, o'⟩ : Turn).accepted? = Option.filter
          (fun job => (o.pool.submit job).isOk) (some (.ofBooking receipt.booking o.drawId.1)) := by
        rw [Turn.accepted?, submission]
        rfl
      rw [Option.filter_some] at taken
      generalize o.pool.submit (.ofBooking receipt.booking o.drawId.1) = answer
        at submitted pool taken
      cases submitted with
      | takes opened room => exact .takes opened pool payments taken rfl awaits
      | busy opened full => exact .rests pool payments taken rfl awaits
      | closed closed => exact .rests pool payments taken rfl awaits
  | @closes grace task_ accounts stock answered stake =>
      subst task_
      have stock := stock.trans (stock_closePool o grace)
      have draining := congrArg Stock.draining stock
      refine .of_closes (a := .caller t) (closes_of_closePool o grace) (congrArg Stock.pool stock)
        (payments_of_accounts accounts) (unaccepted rfl) rfl
        (fun b other => awaits_of_turn others draining other) fun waits => ?_
      rcases stake with gone | ⟨-, waiting⟩
      · cases gone.symm.trans waits
      · exact waiting

theorem manages_of_deals (deals : Deals o m o') : Manages ⟨m, o, o'⟩ := by
  cases deals with
  | aside aside books stock stakes =>
      have unsubmitted := (Turn.silent_of_aside o o' aside).1
      exact .rests (congrArg Stock.pool stock) (payments_of_books books)
        (unaccepted_of_unsubmitted unsubmitted) (undecided_of_aside aside)
        (awaits_congr stakes (congrArg Stock.draining stock))
  | @leaves t _ books stock gone others =>
      refine .rests (congrArg Stock.pool stock) (payments_of_books books)
        (unaccepted_of_unsubmitted rfl) rfl fun a awaits => ?_
      refine awaits_of_turn others (congrArg Stock.draining stock) ?_ awaits
      rintro rfl
      cases gone.symm.trans awaits
  | trades at_ trades others => exact manages_of_trades at_ trades others
  | @hurries t _ waited books stock gone others =>
      have draining := congrArg Stock.draining stock
      refine .aborts (a := .caller t) (congrArg Stock.pool stock) (.inl ⟨waited, rfl⟩)
        (payments_of_books books) (unaccepted_of_unsubmitted rfl) rfl fun b awaits => ?_
      have other : b ≠ .caller t := by
        rintro rfl
        cases gone.symm.trans awaits
      exact ⟨awaits_of_turn others draining other awaits, other⟩
  | toils toils stock stakes =>
      have draining := congrArg Stock.draining stock
      exact .toils rfl toils (unaccepted_of_unsubmitted rfl) (awaits_congr stakes draining)
  | governs own books governs stakes =>
      have payments := payments_of_books books
      have unaccepted : (⟨m, o, o'⟩ : Turn).accepted? = none := by
        refine unaccepted_of_unsubmitted ?_
        rcases own with rfl | rfl <;> rfl
      have undecided : (⟨m, o, o'⟩ : Turn).decision? = none := by
        rcases own with rfl | rfl <;> rfl
      have others (b : Actor) (other : b ≠ .application) (awaits : o'.Awaits b) : o.Awaits b := by
        cases b with
        | caller t => exact (stakes t).symm.trans awaits
        | application => exact absurd rfl other
        | _ => exact awaits
      cases governs with
      | rests stock =>
          exact .rests (congrArg Stock.pool stock) payments unaccepted undecided
            (awaits_congr stakes (congrArg Stock.draining stock))
      | closes closes stock waiting =>
          refine .of_closes closes (congrArg Stock.pool stock) payments unaccepted undecided others
            fun waits => waiting ?_
          exact (congrArg Stock.draining stock).symm.trans waits
      | leaves waited deserted stock =>
          refine .rests (congrArg Stock.pool stock) payments unaccepted undecided fun b awaits => ?_
          refine others b ?_ awaits
          rintro rfl
          cases (congrArg Stock.draining stock).symm.trans awaits
      | aborts waited stock =>
          refine .aborts (a := .application) (congrArg Stock.pool stock) (.inl ⟨waited, rfl⟩) payments
            unaccepted undecided fun b awaits => ?_
          have other : b ≠ .application := by
            rintro rfl
            cases (congrArg Stock.draining stock).symm.trans awaits
          exact ⟨others b other awaits, other⟩

end Turns

section Pool

variable {x : Turn}

/-- A first shutdown that is over found the workers gone. -/
theorem Turn.Drains.spec (drains : x.Drains) (moved : x.move.apply x.before = some x.after) :
    x.before.pool.isDeserted = true ∧
      (x.before.pool.claimed = false ∨ ∃ a, x.before.Awaits a) := by
  cases drains with
  | @atOnce t grace move at_ first ends =>
      refine ⟨?_, .inl first⟩
      rw [move] at moved
      obtain ⟨task, at_', step⟩ := Option.bind_eq_some_iff.mp moved
      cases at_.symm.trans at_'
      have begun : x.before.begin t (.closePool grace) = x.after := Option.some.inj step
      have closes := closes_of_closePool x.before grace
      simp only [begin] at begun
      split at begun <;> rename_i result <;> rw [result] at closes
      · rename_i inTime o₁
        obtain ⟨-, answered⟩ := ends
        have told : Keyed.get? t x.after.answers = some (.drained inTime) := by
          rw [← begun]
          exact Keyed.get?_put_self t _ o₁.answers
        cases answered.symm.trans told
        generalize o₁.pool = p at closes
        cases closes with
        | past done =>
            rcases done with claimed | deserted
            · cases first.symm.trans claimed
            · exact deserted
      · rename_i deadline o₁
        have waits : x.after.task? t = some (.closingPool deadline) := by
          rw [← begun]
          exact task?_setTask o₁ t _
        exact absurd ends (Turn.not_ends waits)
  | @answered t deadline move at_ ends =>
      refine ⟨?_, .inr ⟨.caller t, stake_of_task at_⟩⟩
      rw [move] at moved
      obtain ⟨task, at_', step⟩ := Option.bind_eq_some_iff.mp moved
      cases at_.symm.trans at_'
      simp only [stepTask] at step
      split at step
      · rename_i deserted
        exact deserted
      · cases step
  | ended move first deserted ends stage =>
      refine ⟨deserted, ?_⟩
      rcases first with awaits | first
      · exact .inr ⟨.application, awaits⟩
      · exact .inl first

/-! ### The pool from turn to turn -/

theorem isDeserted_aborted (p : Pool Settlement.Job Settlement.Run) : p.aborted.isDeserted = true := by
  rw [Pool.aborted_eq]
  exact p.isDeserted_dismissed

/-- Workers that are gone stay so. -/
theorem Manages.deserted (manages : Manages x) (deserted : x.before.pool.isDeserted = true) :
    x.after.pool.isDeserted = true := by
  cases manages with
  | rests pool => rw [pool, deserted]
  | takes opened => simp [Pool.isOpen, deserted] at opened
  | closes pool =>
      rw [pool]
      exact deserted
  | aborts pool =>
      rw [pool]
      exact isDeserted_aborted _
  | toils _ toils =>
      obtain ⟨w, found, there⟩ := toils.present
      have gone := List.all_eq_true.mp deserted w (List.mem_of_getElem? found)
      cases there.symm.trans gone

theorem Manages.empty (manages : Manages x)
    (empty : x.before.pool.isDeserted = true → x.before.pool.queue = [])
    (deserted : x.after.pool.isDeserted = true) : x.after.pool.queue = [] := by
  cases manages with
  | rests pool =>
      rw [pool] at deserted ⊢
      exact empty deserted
  | takes opened pool =>
      rw [pool] at deserted
      have gone : x.before.pool.isDeserted = true := deserted
      simp [Pool.isOpen, gone] at opened
  | toils _ toils => exact toils.empty deserted
  | closes pool =>
      rw [pool] at deserted ⊢
      exact empty deserted
  | aborts pool =>
      rw [pool, Pool.aborted_eq]
      rfl

/-- A pool that was shut down is not opened again. -/
theorem Manages.claimed (manages : Manages x) (claimed : x.before.pool.claimed = true) :
    x.after.pool.claimed = true := by
  cases manages with
  | rests pool => rw [pool, claimed]
  | takes _ pool =>
      rw [pool]
      exact claimed
  | toils _ toils => exact toils.claimed_eq.trans claimed
  | closes pool => rw [pool, Pool.closing]
  | aborts pool charge =>
      rw [pool, Pool.aborted_eq]
      rcases charge with ⟨-, rfl⟩ | ⟨-, rfl⟩
      · exact claimed
      · rfl

/-- Whoever awaits the workers after a turn did so before, or has shut the pool down
first in it. -/
theorem Manages.awaits (manages : Manages x) {a : Actor} (awaits : x.after.Awaits a) :
    x.before.Awaits a ∨ x.before.pool.claimed = false ∧ x.after.pool.claimed = true ∧
      ∀ b, x.after.Awaits b → x.before.Awaits b ∨ b = a := by
  cases manages with
  | rests _ _ _ _ kept => exact .inl (kept a awaits)
  | takes _ _ _ _ _ kept => exact .inl (kept a awaits)
  | toils _ _ _ kept => exact .inl (kept a awaits)
  | closes pool _ _ _ kept =>
      rcases kept a awaits with before | ⟨rfl, first⟩
      · exact .inl before
      · exact .inr ⟨first, by rw [pool, Pool.closing], fun b awaits => (kept b awaits).imp_right (·.1)⟩
  | aborts _ _ _ _ _ kept => exact .inl (kept a awaits).1

end Pool

end BoxOffice.Office
