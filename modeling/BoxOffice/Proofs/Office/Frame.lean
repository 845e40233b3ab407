import BoxOffice.Proofs.Office.Reached
import Mathlib.Data.List.Basic
import Mathlib.Data.List.Perm.Basic

/-!
# One request among the moves of an office

What the others do leaves a request alone: it is where it was, unless it was
given up, and its answer is there, unless it was taken. `Keeps` says so, and
`keeps_of_move` proves it of every move that is no step of the request. Hence
what a request does is the sum of its own turns.
-/

namespace BoxOffice.Office

open Ledger (Ticket)

/-- A request is where it was or was given up, and its answer is there or was
taken. -/
structure Keeps (t : Ticket) (o o' : Office) : Prop where
  tickets : o.tickets ≤ o'.tickets
  task? : t < o.tickets → o'.task? t = o.task? t ∨ o'.task? t = none
  answer : Keyed.get? t o'.answers = Keyed.get? t o.answers ∨ Keyed.get? t o'.answers = none

namespace Keeps

variable {o o' : Office} {t : Ticket}

theorem of_lists (tickets : o'.tickets = o.tickets) (tasks : o'.tasks = o.tasks)
    (answers : o'.answers = o.answers) : Keeps t o o' where
  tickets := Nat.le_of_eq tickets.symm
  task? _ := .inl (congrArg (Keyed.get? t) tasks)
  answer := .inl (congrArg (Keyed.get? t) answers)

theorem of_core (core : o'.core = o.core) : Keeps t o o' :=
  .of_lists (congrArg Core.tickets core) (congrArg Core.tasks core) (congrArg Core.answers core)

theorem of_apart {u : Ticket} (apart : Apart u o o') (other : t ≠ u) : Keeps t o o' where
  tickets := Nat.le_of_eq apart.tickets.symm
  task? _ := .inl (apart.tasks t other)
  answer := .inl (apart.answers t other)

theorem trans {o'' : Office} (first : Keeps t o o') (second : Keeps t o' o'') : Keeps t o o'' where
  tickets := Nat.le_trans first.tickets second.tickets
  task? known := by
    rcases second.task? (Nat.lt_of_lt_of_le known first.tickets) with same | gone
    · rw [same]
      exact first.task? known
    · exact .inr gone
  answer := by
    rcases second.answer with same | taken
    · rw [same]
      exact first.answer
    · exact .inr taken

theorem unlock (o : Office) (key : RowKey) : Keeps t o (o.unlock key).2 := by
  unfold Office.unlock
  split <;> exact .of_lists rfl rfl rfl

theorem abandon (o : Office) (u : Ticket) : Keeps t o (o.abandon u) := by
  by_cases own : t = u
  · subst own
    have apart := apart_abandon o t
    refine ⟨Nat.le_of_eq apart.tickets.symm, fun _ => .inr ?_, .inl ?_⟩
    · exact (Keyed.get?_erase t t _).trans (if_pos rfl)
    · unfold Office.abandon
      split
      · rfl
      · rw [(alike_cancelSettlement o _ _).answers]
      · rfl
      · rfl
  · exact .of_apart (apart_abandon o u) own

theorem ask (o : Office) (r : Request) : Keeps t o (o.ask r).2 where
  tickets := Nat.le_succ o.tickets
  task? known := .inl (task?_ask_of_ne o r (Nat.ne_of_lt known))
  answer := .inl rfl

end Keeps

/-- A move that is no step of a request leaves it alone. -/
theorem keeps_of_move {o o' : Office} {t : Ticket} {m : Move} (other : m.isBy t = false)
    (moved : m.apply o = some o') : Keeps t o o' := by
  have another {u : Ticket} (own : (u == t) = false) : t ≠ u := by
    rintro rfl
    simp at own
  cases moves_of_apply moved with
  | alike _ alike => exact .of_core alike.core
  | step _ step => exact .of_apart (apart_stepTask step) (another other)
  | @hurried u deadline _ =>
      exact .of_apart ((alike_abortPool o).apart.trans (apart_finish _ u _)) (another other)
  | worked step =>
      rcases step.core with same | ⟨_, _, _, _, l, _, _, same⟩
      · exact .of_core same
      · exact .of_lists (congrArg Core.tickets same) (congrArg Core.tasks same)
          (congrArg Core.answers same)
  | unlocked _ alike key => exact (Keeps.of_core alike.core).trans (.unlock _ key)
  | ask r => exact .ask o r
  | abandon u => exact .abandon o u
  | take => exact ⟨Nat.le_refl _, fun _ => .inl rfl, .inr rfl⟩
  | later key span => exact ⟨Nat.le_succ _, fun _ => .inl rfl, .inl rfl⟩
  | failInsert => exact .of_lists rfl rfl rfl
  | setHold hold => exact .of_lists rfl rfl rfl

/-! ### Requests that are over or not begun -/

section Idle

variable {o o' : Office} {t : Ticket}

theorem Move.eq_of_isBy {m : Move} {t : Ticket} (own : m.isBy t = true) :
    m = .turn (.caller t) ∨ m = .hurry (.caller t) := by
  unfold isBy at own
  split at own
  · exact .inl (by rw [beq_iff_eq.mp own])
  · exact .inr (by rw [beq_iff_eq.mp own])
  · cases own

/-- A move by which a request gets on is a step of it, or an end of waiting for the
pool. -/
theorem step_of_isBy {m : Move} (own : m.isBy t = true) (moved : m.apply o = some o') :
    ∃ task, o.task? t = some task ∧
      (o.stepTask t task = some o' ∨ ∃ deadline, task = .closingPool deadline) := by
  cases moves_of_apply moved with
  | alike other _ => cases (other t).symm.trans own
  | unlocked other _ _ => cases (other t).symm.trans own
  | @step u task _ at_ step =>
      obtain rfl : u = t := beq_iff_eq.mp own
      exact ⟨task, at_, .inl step⟩
  | @hurried u deadline at_ =>
      obtain rfl : u = t := beq_iff_eq.mp own
      exact ⟨.closingPool deadline, at_, .inr ⟨deadline, rfl⟩⟩
  | _ => cases own

/-- A request that is hurried sends the workers of the pool away and is over. -/
theorem hurried_of_move (moved : Move.apply o (.hurry (.caller t)) = some o') :
    ∃ deadline, o.task? t = some (.closingPool deadline) ∧
      o' = o.abortPool.finish t (.drained false) := by
  cases moves_of_apply moved with
  | alike other _ => cases (other t).symm.trans (beq_self_eq_true t)
  | unlocked other _ _ => cases (other t).symm.trans (beq_self_eq_true t)
  | hurried at_ => exact ⟨_, at_, rfl⟩

/-- Nobody gets on with a request of which nothing is left to do. -/
theorem isBy_of_none {m : Move} (idle : o.task? t = none) (moved : m.apply o = some o') :
    m.isBy t = false := by
  refine Bool.eq_false_iff.mpr fun own => ?_
  obtain ⟨task, at_, -⟩ := step_of_isBy own moved
  cases idle.symm.trans at_

/-- No two requests get on by the same move. -/
theorem isBy_of_ne {m : Move} {u : Ticket} (own : m.isBy t = true) (other : u ≠ t) :
    m.isBy u = false := by
  cases m with
  | turn a =>
      cases a with
      | caller v =>
          obtain rfl : v = t := by simpa [Move.isBy] using own
          simpa [Move.isBy] using Ne.symm other
      | _ => cases own
  | hurry a =>
      cases a with
      | caller v =>
          obtain rfl : v = t := by simpa [Move.isBy] using own
          simpa [Move.isBy] using Ne.symm other
      | _ => cases own
  | _ => cases own

theorem tickets_le {m : Move} (moved : m.apply o = some o') : o.tickets ≤ o'.tickets := by
  cases first : m.isBy 0 with
  | false => exact (keeps_of_move first moved).tickets
  | true => exact (keeps_of_move (isBy_of_ne first Nat.one_ne_zero) moved).tickets

/-- There are no answers under tickets that were not given out. -/
theorem Run.unanswered {first : Office} {turns : List Turn} (new : IsNew first)
    (run : Run first turns o) (late : o.tickets ≤ t) : Keyed.get? t o.answers = none := by
  induction run with
  | start =>
      cases new
      rfl
  | next run moved ih =>
      have early := Nat.le_trans (tickets_le moved) late
      have idle := (run.isBacked new.isBacked).1.fresh early
      rcases (keeps_of_move (isBy_of_none idle moved) moved).answer with same | taken
      · rw [same]
        exact ih early
      · exact taken

end Idle

/-! ### Sums over all tickets -/

/-- What there is under one ticket is one entry of what there is under all of them. -/
theorem perm_tickets {α : Type} {f g : Ticket → Option α} {t n : Ticket} (known : t < n)
    (others : ∀ u, u ≠ t → g u = f u) :
    ∃ rest, ((List.range n).filterMap f).Perm ((f t).toList ++ rest) ∧
      ((List.range n).filterMap g).Perm ((g t).toList ++ rest) := by
  have member : t ∈ List.range n := List.mem_range.mpr known
  have same : ((List.range n).erase t).filterMap g = ((List.range n).erase t).filterMap f := by
    refine List.filterMap_congr fun u rest => others u ?_
    exact (List.nodup_range.mem_erase_iff.mp rest).1
  have split (h : Ticket → Option α) : ((List.range n).filterMap h).Perm
      ((h t).toList ++ ((List.range n).erase t).filterMap h) := by
    refine ((List.perm_cons_erase member).filterMap h).trans ?_
    rw [List.filterMap_cons]
    cases h t <;> exact .refl _
  exact ⟨_, split f, same ▸ split g⟩

end BoxOffice.Office
