import BoxOffice.Proofs.Ledger.Reachable
import BoxOffice.Proofs.Office.Steps

/-!
# The traffic behind an office

Seen from the ledger, an office is traffic: the requests that have a call open
are the calls that are not over, and those who hold a row from outside or wait
for one are the visitors. `HasTraffic` says that a traffic is that of an office.
Every move of the office is matched by some steps of the traffic, so the ledger
of every office is that of a reachable traffic, and everything that is proved of
all traffic holds of it. What is used from the set-up is that a look at all
bookings leaves none out, in whatever order.

Most moves touch no row and change the task of one request at most. `Others` is
what such a move leaves alone.
-/

namespace BoxOffice.Office

open Ledger (Ticket Traffic Call Stage Progress)
open Ledger.Traffic (callsAfter callsAfter_of_ne call?_advanced ledger_advanced visitors_advanced)

/-- Whether a request neither has a call on the ledger open nor waits for a row. -/
def Task.isAway : Task → Bool
  | .atLedger .. | .holding _ => false
  | _ => true

/-- The call whose answer a purpose is for. -/
inductive Serves : {k : Call.Kind} → Purpose k → Call k → Prop
  | answer {k : Call.Kind} (call : Call k) : Serves .answer call
  | announce (a : Announcement) (call : Call .row) : Serves (.announce a) call
  | attempt (event : EventSnapshot) (r : Booking.Request) (retries : Nat) :
      Serves (.attempt event r retries) (.book r)
  | lookUp (id : PublicId) : Serves (.lookUp id) (.findBooking id)
  | view (b : Booking) : Serves (.view b) (.findEvent b.eventId)

/-- The requests of an office other than one, as calls and visitors at a ledger. -/
structure Others (t : Ticket) (o : Office) (w : Traffic) : Prop where
  pending : ∀ {u p}, u ≠ t → w.call? u = some p → ∃ due purpose,
    o.task? u = some (.atLedger p.kind p.stage due purpose) ∧ Serves purpose p.call
  open_ : ∀ {u kind stage due purpose}, u ≠ t →
    o.task? u = some (.atLedger kind stage due purpose) →
      ∃ call began, w.call? u = some ⟨call, stage, began⟩
  waits : ∀ {u key}, u ≠ t → o.task? u = some (.holding key) →
    Keyed.get? u w.visitors = some key
  visits : ∀ {u key task}, u ≠ t → Keyed.get? u w.visitors = some key →
    o.task? u = some task → task = .holding key
  holds : ∀ {u key}, Keyed.get? key o.held = some u →
    Keyed.get? u w.visitors = some key ∧ (u ≠ t → o.task? u = none)
  given : ∀ {u}, o.tickets ≤ u → u ≠ t ∧ w.IsFree u ∧ o.task? u = none

/-- The traffic at the ledger of an office. -/
structure HasTraffic (o : Office) (w : Traffic) : Prop where
  ledger : w.ledger = o.ledger
  pending : ∀ {u p}, w.call? u = some p → ∃ due purpose,
    o.task? u = some (.atLedger p.kind p.stage due purpose) ∧ Serves purpose p.call
  open_ : ∀ {u kind stage due purpose}, o.task? u = some (.atLedger kind stage due purpose) →
    ∃ call began, w.call? u = some ⟨call, stage, began⟩
  waits : ∀ {u key}, o.task? u = some (.holding key) → Keyed.get? u w.visitors = some key
  visits : ∀ {u key task}, Keyed.get? u w.visitors = some key → o.task? u = some task →
    task = .holding key
  holds : ∀ {u key}, Keyed.get? key o.held = some u →
    Keyed.get? u w.visitors = some key ∧ o.task? u = none
  given : ∀ {u}, o.tickets ≤ u → w.IsFree u ∧ o.task? u = none

variable {o o' : Office} {w w' : Traffic} {t : Ticket}

namespace HasTraffic

theorem opened (setup : Setup) (clock : Timestamp) (sizing : Pool.Sizing)
    (decider : Settlement.Decider) (consumers : List Consumer) (application : Option Application) :
    HasTraffic (Office.opened setup clock sizing decider consumers application) Traffic.opened where
  ledger := rfl
  pending found := by cases found
  open_ found := by cases found
  waits found := by cases found
  visits found := by cases found
  holds found := by cases found
  given _ := ⟨⟨rfl, rfl⟩, rfl⟩

/-- Only requests and rows matter, and who is a call or a visitor. -/
theorem same (has : HasTraffic o w) (ledger : w'.ledger = o'.ledger)
    (calls : ∀ u, w'.call? u = w.call? u) (visitors : w'.visitors = w.visitors)
    (tasks : ∀ u, o'.task? u = o.task? u) (tickets : o.tickets ≤ o'.tickets)
    (held : o'.held = o.held) : HasTraffic o' w' := by
  constructor
  · exact ledger
  · intro u p found
    rw [calls] at found
    rw [tasks]
    exact has.pending found
  · intro u kind stage due purpose found
    rw [tasks] at found
    rw [calls]
    exact has.open_ found
  · intro u key found
    rw [tasks] at found
    rw [visitors]
    exact has.waits found
  · intro u key task found at_
    rw [visitors] at found
    rw [tasks] at at_
    exact has.visits found at_
  · intro u key found
    rw [held] at found
    rw [visitors, tasks]
    exact has.holds found
  · intro u late
    obtain ⟨free, idle⟩ := has.given (Nat.le_trans tickets late)
    refine ⟨⟨(calls u).trans free.1, ?_⟩, (tasks u).trans idle⟩
    rw [visitors]
    exact free.2

theorem congr (has : HasTraffic o w) (same : o'.core = o.core) : HasTraffic o' w :=
  has.same (has.ledger.trans (congrArg Core.ledger same).symm) (fun _ => rfl) rfl
    (fun u => congrArg (fun c : Core => Keyed.get? u c.tasks) same)
    (Nat.le_of_eq (congrArg Core.tickets same).symm) (congrArg Core.held same)

/-- A request that is not answered has a ticket that was given out. -/
theorem known (has : HasTraffic o w) {task : Task} (at_ : o.task? t = some task) :
    t < o.tickets := by
  refine Nat.lt_of_not_le fun late => ?_
  rw [(has.given late).2] at at_
  cases at_

/-- A request that is away from the ledger is neither a call nor a visitor. -/
theorem isFree (has : HasTraffic o w) {task : Task} (at_ : o.task? t = some task)
    (away : task.isAway = true) : w.IsFree t := by
  constructor
  · cases pending : w.call? t with
    | none => rfl
    | some p =>
        obtain ⟨due, purpose, open_, -⟩ := has.pending pending
        cases open_.symm.trans at_
        cases away
  · cases visiting : Keyed.get? t w.visitors with
    | none => rfl
    | some key =>
        cases has.visits visiting at_
        cases away

/-- A request with a call open is no visitor. -/
theorem absent (has : HasTraffic o w) {kind : Call.Kind} {stage : Stage kind} {due : Nat}
    {purpose : Purpose kind} (at_ : o.task? t = some (.atLedger kind stage due purpose)) :
    Keyed.get? t w.visitors = none := by
  cases visiting : Keyed.get? t w.visitors with
  | none => rfl
  | some key => cases has.visits visiting at_

theorem others (has : HasTraffic o w) (known : t < o.tickets) : Others t o w where
  pending _ := has.pending
  open_ _ := has.open_
  waits _ := has.waits
  visits _ := has.visits
  holds held := ⟨(has.holds held).1, fun _ => (has.holds held).2⟩
  given late := ⟨by rintro rfl; exact Nat.lt_irrefl _ (Nat.lt_of_lt_of_le known late), has.given late⟩

end HasTraffic

namespace Others

/-- A request that is away from the ledger changes nothing at it. -/
theorem retask (others : Others t o w) (apart : Apart t o o') (ledger : w.ledger = o'.ledger)
    (held : o'.held = o.held) (free : w.IsFree t)
    (away : ∀ task, o'.task? t = some task → task.isAway = true) : HasTraffic o' w := by
  have same {u : Ticket} (found : (w.call? u).isSome ∨ (Keyed.get? u w.visitors).isSome) :
      u ≠ t := by
    rintro rfl
    rcases found with found | found
    · rw [free.1] at found
      cases found
    · rw [free.2] at found
      cases found
  constructor
  · exact ledger
  · intro u p found
    have other : u ≠ t := same (.inl (found ▸ rfl))
    rw [apart.tasks u other]
    exact others.pending other found
  · intro u kind stage due purpose found
    by_cases own : u = t
    · subst own
      cases away _ found
    · rw [apart.tasks u own] at found
      exact others.open_ own found
  · intro u key found
    by_cases own : u = t
    · subst own
      cases away _ found
    · rw [apart.tasks u own] at found
      exact others.waits own found
  · intro u key task found at_
    have other : u ≠ t := same (.inr (found ▸ rfl))
    rw [apart.tasks u other] at at_
    exact others.visits other found at_
  · intro u key found
    rw [held] at found
    obtain ⟨visits, idle⟩ := others.holds found
    have other : u ≠ t := same (.inr (visits ▸ rfl))
    rw [apart.tasks u other]
    exact ⟨visits, idle other⟩
  · intro u late
    rw [apart.tickets] at late
    obtain ⟨other, free, idle⟩ := others.given late
    rw [apart.tasks u other]
    exact ⟨free, idle⟩

/-- A step of a call leaves the others alone. -/
theorem advanced (others : Others t o w) {k : Call.Kind} (call : Call k) (began : Nat)
    (result : Progress k × Ledger) : Others t o (w.advanced t call began result) := by
  constructor
  · intro u p other found
    rw [call?_advanced, callsAfter_of_ne other] at found
    exact others.pending other found
  · intro u kind stage due purpose other found
    rw [call?_advanced, callsAfter_of_ne other]
    exact others.open_ other found
  · intro u key other found
    rw [visitors_advanced]
    exact others.waits other found
  · intro u key task other found at_
    rw [visitors_advanced] at found
    exact others.visits other found at_
  · intro u key found
    rw [visitors_advanced]
    exact others.holds found
  · intro u late
    obtain ⟨other, free, idle⟩ := others.given late
    refine ⟨other, ⟨?_, ?_⟩, idle⟩
    · rw [call?_advanced, callsAfter_of_ne other]
      exact free.1
    · rw [visitors_advanced]
      exact free.2

/-- A call that goes on is the call of its request. -/
theorem further (others : Others t o w) {k : Call.Kind} {call : Call k} {stage : Stage k}
    {purpose : Purpose k} (serves : Serves purpose call) (absent : Keyed.get? t w.visitors = none)
    (l : Ledger) (due began : Nat) :
    HasTraffic (({ o with ledger := l } : Office).setTask t (.atLedger k stage due purpose))
      (w.advanced t call began (.further stage, l)) := by
  have later := others.advanced call began (.further stage, l)
  have own : (({ o with ledger := l } : Office).setTask t (.atLedger k stage due purpose)).task? t =
      some (.atLedger k stage due purpose) := Keyed.get?_put_self _ _ _
  have other {u : Ticket} (ne : u ≠ t) :
      (({ o with ledger := l } : Office).setTask t (.atLedger k stage due purpose)).task? u =
        o.task? u := Keyed.get?_put_of_ne ne _ _
  have pending : (w.advanced t call began (.further stage, l)).call? t =
      some ⟨call, stage, began⟩ := Keyed.get?_put_self _ _ _
  constructor
  · rfl
  · intro u p found
    by_cases ne : u = t
    · subst ne
      cases pending.symm.trans found
      exact ⟨due, purpose, own, serves⟩
    · rw [other ne]
      exact later.pending ne found
  · intro u kind stage' due' purpose' found
    by_cases ne : u = t
    · subst ne
      cases own.symm.trans found
      exact ⟨call, began, pending⟩
    · rw [other ne] at found
      exact later.open_ ne found
  · intro u key found
    by_cases ne : u = t
    · subst ne
      cases own.symm.trans found
    · rw [other ne] at found
      exact later.waits ne found
  · intro u key task found at_
    have ne : u ≠ t := by
      rintro rfl
      cases absent.symm.trans found
    rw [other ne] at at_
    exact later.visits ne found at_
  · intro u key found
    obtain ⟨visits, idle⟩ := later.holds found
    have ne : u ≠ t := by
      rintro rfl
      cases absent.symm.trans visits
    exact ⟨visits, (other ne).trans (idle ne)⟩
  · intro u late
    obtain ⟨ne, free, idle⟩ := later.given late
    exact ⟨free, (other ne).trans idle⟩

theorem withLedger (others : Others t o w) (l : Ledger) : Others t { o with ledger := l } w :=
  ⟨others.pending, others.open_, others.waits, others.visits, others.holds, others.given⟩

end Others

/-! ### Calls -/

/-- Some steps of a traffic lead to that of an office. -/
def Leads (w : Traffic) (o : Office) : Prop := ∃ as w', Traffic.Run w as w' ∧ HasTraffic o w'

theorem HasTraffic.leads (has : HasTraffic o w) : Leads w o := ⟨[], w, .refl w, has⟩

theorem Leads.trans {as : List Traffic.Action} (run : Traffic.Run w as w') (leads : Leads w' o) :
    Leads w o := by
  obtain ⟨bs, w'', later, has⟩ := leads
  exact ⟨as ++ bs, w'', run.trans later, has⟩

theorem Leads.after {a : Traffic.Action} (leads : Leads w' o) (step : Traffic.Step w a w') :
    Leads w o :=
  leads.trans (.snoc (.refl w) step)

/-- A look at all bookings leaves none out. -/
def ScansAll (o : Office) : Prop := ∀ ids, (o.setup.scan ids).Perm ids

section Away

theorem away_setTask {task : Task} (away : task.isAway = true) (task' : Task)
    (at_ : (o.setTask t task).task? t = some task') : task'.isAway = true := by
  cases (Keyed.get?_put_self t task o.tasks).symm.trans at_
  exact away

theorem away_erase (tasks : List (Ticket × Task)) (task : Task)
    (at_ : Keyed.get? t (Keyed.erase t tasks) = some task) : task.isAway = true := by
  rw [Keyed.get?_erase, if_pos rfl] at at_
  cases at_

end Away

namespace Others

/-- The order in which bookings are looked at matters only for those that there
are. -/
theorem start_scan (l : Ledger) (t : Ticket) (order : List BookingId → List BookingId)
    (now : Timestamp) {k : Call.Kind} (c : Call k) :
    l.start t order now c = l.start t (fun _ => order l.bookingIds) now c := by
  cases c <;> rfl

theorem step_begin (ledger : w.ledger = o.ledger) (free : w.IsFree t) (scans : ScansAll o)
    {k : Call.Kind} (c : Call k) :
    ∃ a, Traffic.Step w a
      (w.advanced t c w.clock (o.ledger.start t o.setup.scan o.clock c)) := by
  refine ⟨.begin t c (o.setup.scan o.ledger.bookingIds) o.clock, ?_⟩
  rw [start_scan, ← ledger]
  exact .begin free (scans _)

/-- Nobody has the ticket of a call that is over. -/
theorem isFree_done {k : Call.Kind} (call : Call k) (began : Nat) (answer : k.Answer) (l : Ledger)
    (absent : Keyed.get? t w.visitors = none) :
    (w.advanced t call began (.done answer, l)).IsFree t :=
  ⟨(Keyed.get?_erase t t w.calls).trans (if_pos rfl), absent⟩

/-- The answer of a call is used. -/
theorem deliver (others : Others t o w) (ledger : w.ledger = o.ledger) (free : w.IsFree t)
    (scans : ScansAll o) {k : Call.Kind} (answer : k.Answer) (purpose : Purpose k) :
    Leads w (o.deliver t answer purpose) := by
  have apart := apart_deliver o t answer purpose
  cases purpose with
  | answer => exact (others.retask apart ledger rfl free (away_erase _)).leads
  | announce a =>
      cases answer with
      | error e => exact (others.retask apart ledger rfl free (away_erase _)).leads
      | ok row => exact (others.retask apart ledger rfl free (away_setTask rfl)).leads
  | attempt event request retries =>
      simp only [Office.deliver] at apart ⊢
      split
      · rename_i decided
        rw [decided] at apart
        exact (others.retask apart ledger rfl free (away_setTask rfl)).leads
      · rename_i decided
        rw [decided] at apart
        exact (others.retask apart ledger rfl free (away_erase _)).leads
      · rename_i decided
        rw [decided] at apart
        exact (others.retask apart ledger rfl free (away_erase _)).leads
      · rename_i decided
        rw [decided] at apart
        exact (others.retask apart ledger rfl free (away_setTask rfl)).leads
  | lookUp id =>
      cases answer with
      | none => exact (others.retask apart ledger rfl free (away_erase _)).leads
      | some b =>
          -- The event of the booking is looked up by a call of its own.
          obtain ⟨a, step⟩ := step_begin ledger free scans (.findEvent b.eventId)
          simp only [Office.deliver]
          cases result : o.ledger.start t o.setup.scan o.clock (.findEvent b.eventId) with
          | mk progress l =>
              rw [result] at step
              cases progress with
              | done answer =>
                  have later :=
                    (others.advanced (.findEvent b.eventId) w.clock (.done answer, l)).withLedger l
                  have gone := isFree_done (.findEvent b.eventId) w.clock answer l free.2
                  refine Leads.after (HasTraffic.leads ?_) step
                  refine later.retask (apart_view _ t b answer) ?_ ?_ gone ?_
                  · cases answer <;> rfl
                  · cases answer <;> rfl
                  · cases answer <;> exact away_erase _
              | further stage =>
                  exact Leads.after (others.further (.view b) free.2 l o.now w.clock).leads step
  | view b =>
      cases answer with
      | none => exact (others.retask apart ledger rfl free (away_erase _)).leads
      | some row => exact (others.retask apart ledger rfl free (away_erase _)).leads

/-- A step of a call is over or goes on, and its request with it. -/
theorem advance (others : Others t o w) (absent : Keyed.get? t w.visitors = none)
    (scans : ScansAll o) {k : Call.Kind} {call : Call k} {began : Nat} {purpose : Purpose k}
    (serves : Serves purpose call) {a : Traffic.Action} {progress : Progress k} {l : Ledger}
    (step : Traffic.Step w a (w.advanced t call began (progress, l)))
    (due : Stage k → Nat) :
    Leads w
      (match progress with
        | .done answer => ({ o with ledger := l } : Office).deliver t answer purpose
        | .further stage =>
          ({ o with ledger := l } : Office).setTask t (.atLedger k stage (due stage) purpose)) := by
  cases progress with
  | done answer =>
      have later := (others.advanced call began (.done answer, l)).withLedger l
      have gone := isFree_done call began answer l absent
      exact Leads.after (later.deliver rfl gone scans answer purpose) step
  | further stage => exact Leads.after (others.further serves absent l (due stage) began).leads step

end Others

/-! ### Requests -/

namespace HasTraffic

/-- A request that is away from the ledger and stays away leaves the traffic as it
is. -/
theorem stay (has : HasTraffic o w) {task : Task} (at_ : o.task? t = some task)
    (away : task.isAway = true) (apart : Apart t o o') (ledger : o'.ledger = o.ledger)
    (held : o'.held = o.held)
    (later : ∀ task, o'.task? t = some task → task.isAway = true) : Leads w o' :=
  ((has.others (has.known at_)).retask apart (has.ledger.trans ledger.symm) held
    (has.isFree at_ away) later).leads

theorem call (has : HasTraffic o w) {task : Task} (at_ : o.task? t = some task)
    (away : task.isAway = true) (scans : ScansAll o) {k : Call.Kind} {c : Call k}
    {purpose : Purpose k} (serves : Serves purpose c) : Leads w (o.call t c purpose) := by
  have free := has.isFree at_ away
  obtain ⟨a, step⟩ := Others.step_begin has.ledger free scans c
  unfold Office.call proceed
  cases result : o.ledger.start t o.setup.scan o.clock c with
  | mk progress l =>
      rw [result] at step
      have leads := (has.others (has.known at_)).advance free.2 scans serves step o.dueOf
      cases progress <;> exact leads

/-- A call that is open gets on. -/
theorem resume (has : HasTraffic o w) {kind : Call.Kind} {stage : Stage kind} {due : Nat}
    {purpose : Purpose kind} (at_ : o.task? t = some (.atLedger kind stage due purpose))
    (scans : ScansAll o)
    (step : o.stepTask t (.atLedger kind stage due purpose) = some o') : Leads w o' := by
  obtain ⟨call, began, pending⟩ := has.open_ at_
  obtain ⟨due', purpose', same, serves⟩ := has.pending pending
  cases at_.symm.trans same
  have resumed : Traffic.Step w (.resume t o.clock)
      (w.advanced t call began (w.ledger.resume t o.clock stage)) := .resume pending
  rw [has.ledger] at resumed
  simp only [stepTask] at step
  split at step
  · cases step
    cases result : o.ledger.resume t o.clock stage with
    | mk progress l =>
        rw [result] at resumed
        have leads := (has.others (has.known at_)).advance (has.absent at_) scans serves resumed
          fun _ => due
        cases progress <;> exact leads
  · cases step

/-- A request that has asked for a row waits for it or has it. -/
theorem visited (has : HasTraffic o w) (known : t < o.tickets) (fresh : w.call? t = none)
    {key : RowKey} (apart : Apart t o o') (ledger : o'.ledger = o.ledger.asked t key)
    (waits : ∀ task, o'.task? t = some task → task = .holding key)
    (holds : ∀ key' u, Keyed.get? key' o'.held = some u →
      (key' = key ∧ u = t ∧ o'.task? t = none) ∨ (Keyed.get? key' o.held = some u ∧ u ≠ t)) :
    HasTraffic o' (w.visited t key) := by
  have own : Keyed.get? t (w.visited t key).visitors = some key :=
    Keyed.get?_put_self t key w.visitors
  have visitors {u : Ticket} (other : u ≠ t) :
      Keyed.get? u (w.visited t key).visitors = Keyed.get? u w.visitors :=
    Keyed.get?_put_of_ne other key w.visitors
  constructor
  · rw [ledger, ← has.ledger]
    rfl
  · intro u p found
    have other : u ≠ t := by
      rintro rfl
      cases fresh.symm.trans found
    rw [apart.tasks u other]
    exact has.pending found
  · intro u kind stage due purpose found
    by_cases same : u = t
    · subst same
      cases waits _ found
    · rw [apart.tasks u same] at found
      exact has.open_ found
  · intro u key' found
    by_cases same : u = t
    · subst same
      cases waits _ found
      exact own
    · rw [apart.tasks u same] at found
      rw [visitors same]
      exact has.waits found
  · intro u key' task found at_
    by_cases same : u = t
    · subst same
      cases own.symm.trans found
      exact waits _ at_
    · rw [visitors same] at found
      rw [apart.tasks u same] at at_
      exact has.visits found at_
  · intro u key' found
    rcases holds key' u found with ⟨rfl, rfl, idle⟩ | ⟨before, other⟩
    · exact ⟨own, idle⟩
    · rw [visitors other, apart.tasks u other]
      exact has.holds before
  · intro u late
    rw [apart.tickets] at late
    have other : u ≠ t := by
      rintro rfl
      exact Nat.lt_irrefl _ (Nat.lt_of_lt_of_le known late)
    rw [apart.tasks u other]
    obtain ⟨free, idle⟩ := has.given late
    exact ⟨⟨free.1, (visitors other).trans free.2⟩, idle⟩

/-- A row is asked for, for the first time or again. -/
theorem holdRow (has : HasTraffic o w) {task : Task} {key : RowKey} (at_ : o.task? t = some task)
    (comes : task.isAway = true ∨ task = .holding key) : Leads w (o.holdRow t key) := by
  have fresh : w.call? t = none := by
    cases pending : w.call? t with
    | none => rfl
    | some p =>
        obtain ⟨due, purpose, open_, -⟩ := has.pending pending
        cases open_.symm.trans at_
        rcases comes with away | same
        · cases away
        · cases same
  have step : Traffic.Step w (.visit t key) (w.visited t key) := by
    refine .visit ?_
    rcases comes with away | same
    · exact .inl (has.isFree at_ away)
    · exact .inr (has.waits (same ▸ at_))
  have idle {key' : RowKey} {u : Ticket} (held : Keyed.get? key' o.held = some u) : u ≠ t := by
    rintro rfl
    cases (has.holds held).2.symm.trans at_
  have apart := apart_holdRow o t key
  refine Leads.after (HasTraffic.leads ?_) step
  unfold Office.holdRow at apart ⊢
  rw [acquire_eq] at apart ⊢
  cases got : (o.acquire t key).1 with
  | true =>
      rw [got] at apart
      have gone : Keyed.get? t (Keyed.erase t o.tasks) = none :=
        (Keyed.get?_erase t t o.tasks).trans (if_pos rfl)
      refine has.visited (has.known at_) fresh apart rfl (fun task at_ => ?_) fun key' u found => ?_
      · cases gone.symm.trans at_
      · have found : Keyed.get? key' (Keyed.put key t o.held) = some u := found
        rw [Keyed.get?_put] at found
        split at found
        · cases found
          exact .inl ⟨‹_›, rfl, gone⟩
        · exact .inr ⟨found, idle found⟩
  | false =>
      rw [got] at apart
      refine has.visited (has.known at_) fresh apart rfl (fun task later => ?_)
        fun key' u found => .inr ⟨found, idle found⟩
      have later : Keyed.get? t (Keyed.put t (.holding key) o.tasks) = some task := later
      rw [Keyed.get?_put_self] at later
      exact (Option.some.inj later).symm

/-- The first step of a request. -/
theorem begin (has : HasTraffic o w) {r : Request} (at_ : o.task? t = some (.asked r))
    (scans : ScansAll o) : Leads w (o.begin t r) := by
  have apart := apart_begin o t r
  cases r with
  | ledger kind c => exact has.call at_ rfl scans (.answer c)
  | register draft => exact has.call at_ rfl scans (.announce _ _)
  | revise id revision => exact has.call at_ rfl scans (.announce _ _)
  | remove id => exact has.call at_ rfl scans (.announce _ _)
  | create event user seats =>
      simp only [Office.begin, beginBooking]
      split
      · exact has.stay at_ rfl (apart_finishBooking o t _ _) rfl rfl (away_erase _)
      · split
        · exact has.stay at_ rfl (apart_finishBooking o t _ _) rfl rfl (away_erase _)
        · exact has.stay at_ rfl (apart_setTask o t _) rfl rfl (away_setTask rfl)
  | find booking => exact has.call at_ rfl scans (.lookUp booking)
  | settle job => exact has.stay at_ rfl apart rfl rfl (away_setTask rfl)
  | hold key =>
      simp only [Office.begin]
      split
      · exact has.holdRow at_ (.inl rfl)
      · exact has.stay at_ rfl (apart_finish o t _) rfl rfl (away_erase _)
  | wait span => exact has.stay at_ rfl apart rfl rfl (away_setTask rfl)
  | closePool grace =>
      have closed := alike_closePool o grace
      simp only [Office.begin] at apart ⊢
      split <;> rename_i result <;> rw [result] at closed apart
      · exact has.stay at_ rfl apart closed.ledger closed.held (away_erase _)
      · exact has.stay at_ rfl apart closed.ledger closed.held (away_setTask rfl)
  | stopConsumers =>
      simp only [Office.begin]
      split
      · exact has.stay at_ rfl (apart_finish o t _) rfl rfl (away_erase _)
      · rename_i running
        simp only [Office.begin, running] at apart
        exact has.stay at_ rfl apart rfl rfl (away_setTask (o := o) rfl)
  | stopApplication =>
      simp only [Office.begin] at apart ⊢
      split
      · rename_i a found
        simp only [found] at apart
        split
        · rename_i running
          rw [if_pos running] at apart
          exact has.stay at_ rfl apart rfl rfl (away_setTask (o := o) rfl)
        · exact has.stay at_ rfl (apart_finish o t _) rfl rfl (away_erase _)
      · exact has.stay at_ rfl (apart_finish o t _) rfl rfl (away_erase _)

/-- A payment that is recorded for somebody is a call that is over at once. -/
theorem settled (has : HasTraffic o w) (scans : ScansAll o) {draft : Payment.Draft}
    {payment : Payment} {l : Ledger} (recorded : o.ledger.settle draft o.clock = .ok (payment, l)) :
    Leads w { o with ledger := l } := by
  have free := (has.given (Nat.le_refl o.tickets)).1
  obtain ⟨a, step⟩ := Others.step_begin has.ledger free scans (.settle draft)
  have started : o.ledger.start o.tickets o.setup.scan o.clock (.settle draft) =
      (.done (.ok payment), l) := by
    simp only [Ledger.start, recorded]
  rw [started] at step
  refine Leads.after (HasTraffic.leads ?_) step
  refine has.same rfl (fun u => ?_) rfl (fun _ => rfl) (Nat.le_refl _) rfl
  rw [call?_advanced]
  by_cases own : u = o.tickets
  · rw [own, free.1]
    exact if_pos rfl
  · exact callsAfter_of_ne own

/-- A request that is away is answered. -/
theorem finish (has : HasTraffic o w) {task : Task} (at_ : o.task? t = some task)
    (away : task.isAway = true) (answer : Answer) : Leads w (o.finish t answer) :=
  has.stay at_ away (apart_finish o t answer) rfl rfl (away_erase _)

/-- A request that looks its user up is answered, or goes on to book. -/
theorem chooseUser (has : HasTraffic o w) {event : EventSnapshot} {user : PublicId} {seats : Nat}
    (at_ : o.task? t = some (.choosing event user seats)) :
    Leads w (o.chooseUser t event user seats) := by
  have step : o.stepTask t (.choosing event user seats) = some (o.chooseUser t event user seats) := rfl
  have apart := apart_stepTask step
  simp only [Office.chooseUser] at apart ⊢
  split
  · exact has.stay at_ rfl (apart_finishBooking o t _ _) rfl rfl (away_erase _)
  · rename_i current
    rw [if_neg current] at apart
    split
    · exact has.stay at_ rfl (apart_finishBooking o t _ _) rfl rfl (away_erase _)
    · rename_i snapshot found
      simp only [found] at apart
      split
      · rename_i undated
        rw [undated] at apart
        exact has.stay at_ rfl apart rfl rfl (away_erase _)
      · rename_i expiresAt dated
        rw [dated] at apart
        exact has.stay at_ rfl apart rfl rfl (away_setTask (o := o.drawId.2) rfl)

/-- A request that settles a booking by itself may record the payment, and goes on or is
answered then. -/
theorem stepSettling (has : HasTraffic o w) (scans : ScansAll o) {run : Settlement.Run}
    (at_ : o.task? t = some (.settling run)) (step : o.stepTask t (.settling run) = some o') :
    Leads w o' := by
  simp only [Office.stepTask] at step
  obtain ⟨⟨progress, o₁⟩, settled, rfl⟩ := Option.map_eq_some_iff.mp step
  have leads : Leads w o₁ ∧ o₁.task? t = some (.settling run) := by
    have kept (core : o₁.core = o.core) : o₁.task? t = some (.settling run) :=
      (congrArg (fun c : Core => Keyed.get? t c.tasks) core).trans at_
    cases settles_of_step settled with
    | goesOn core _ => exact ⟨(has.congr core).leads, kept core⟩
    | ends core _ => exact ⟨(has.congr core).leads, kept core⟩
    | records recorded => exact ⟨has.settled scans recorded, at_⟩
  obtain ⟨⟨as, w', run', has'⟩, at_'⟩ := leads
  refine Leads.trans run' ?_
  simp only
  split
  · exact has'.stay at_' rfl (apart_setTask o₁ t _) rfl rfl (away_setTask rfl)
  · exact has'.finish at_' rfl _
  · exact has'.finish at_' rfl _

/-- A step of a request. -/
theorem stepTask (has : HasTraffic o w) {task : Task} (at_ : o.task? t = some task)
    (scans : ScansAll o) (step : o.stepTask t task = some o') : Leads w o' := by
  have apart := apart_stepTask step
  cases task with
  | asked r =>
      cases step
      exact has.begin at_ scans
  | atLedger kind stage due purpose => exact has.resume at_ scans step
  | announcing row change =>
      cases step
      have kept := alike_announce o change
      exact has.stay at_ rfl apart kept.ledger kept.held (away_erase _)
  | choosing event user seats =>
      cases step
      exact has.chooseUser at_
  | attempting event request retries =>
      cases step
      exact has.call at_ rfl scans (.attempt event request retries)
  | pausing event request retries due =>
      simp only [Office.stepTask] at step
      split at step <;> cases step
      exact has.stay at_ rfl apart rfl rfl (away_setTask rfl)
  | announcingSeats event receipt =>
      cases step
      have kept := alike_announce o
        (.seatsUpdated ⟨event.id, event.publicId, receipt.availableSeats, receipt.version⟩)
      exact has.stay at_ rfl apart kept.ledger kept.held (away_setTask rfl)
  | handingOver event receipt =>
      cases step
      have kept := alike_handOver o receipt.booking
      exact has.stay at_ rfl apart kept.ledger kept.held (away_erase _)
  | settling run => exact has.stepSettling scans at_ step
  | holding key =>
      simp only [Office.stepTask] at step
      split at step <;> cases step
      exact has.holdRow at_ (.inr rfl)
  | waiting due =>
      simp only [Office.stepTask] at step
      split at step <;> cases step
      exact has.finish at_ rfl _
  | closingPool deadline =>
      simp only [Office.stepTask] at step
      split at step <;> cases step
      exact has.finish at_ rfl _
  | stoppingConsumers told =>
      simp only [Office.stepTask] at step
      split at step <;> cases step
      exact has.finish at_ rfl _
  | stoppingApplication =>
      simp only [Office.stepTask] at step
      split at step <;> cases step
      exact has.finish at_ rfl _

/-- A row that is held from outside is let go. -/
theorem unlock (has : HasTraffic o w) (key : RowKey) : Leads w (o.unlock key).2 := by
  rcases core_unlock o key with same | ⟨t, held, same⟩
  · exact (has.congr same).leads
  · obtain ⟨visits, idle⟩ := has.holds held
    have step : Traffic.Step w (.depart t) (w.departed t key) := .depart visits
    refine Leads.after (HasTraffic.leads ?_) step
    have visitors {u : Ticket} (other : u ≠ t) :
        Keyed.get? u (w.departed t key).visitors = Keyed.get? u w.visitors :=
      (Keyed.get?_erase t u w.visitors).trans (if_neg other)
    have gone : Keyed.get? t (w.departed t key).visitors = none :=
      (Keyed.get?_erase t t w.visitors).trans (if_pos rfl)
    have task? (u : Ticket) : (o.unlock key).2.task? u = o.task? u :=
      congrArg (fun c : Core => Keyed.get? u c.tasks) same
    have ledger : (o.unlock key).2.ledger = o.ledger.left t key := congrArg Core.ledger same
    have others : (o.unlock key).2.held = Keyed.erase key o.held := congrArg Core.held same
    have tickets : (o.unlock key).2.tickets = o.tickets := congrArg Core.tickets same
    constructor
    · rw [ledger, ← has.ledger]
      rfl
    · intro u p found
      rw [task?]
      exact has.pending found
    · intro u kind stage due purpose found
      rw [task?] at found
      exact has.open_ found
    · intro u key' found
      rw [task?] at found
      have other : u ≠ t := by
        rintro rfl
        cases idle.symm.trans found
      rw [visitors other]
      exact has.waits found
    · intro u key' task found at_
      have other : u ≠ t := by
        rintro rfl
        cases gone.symm.trans found
      rw [visitors other] at found
      rw [task?] at at_
      exact has.visits found at_
    · intro u key' found
      rw [others, Keyed.get?_erase] at found
      split at found
      · cases found
      · rename_i otherKey
        have other : u ≠ t := by
          rintro rfl
          exact otherKey (Option.some.inj ((has.holds found).1.symm.trans visits))
        rw [visitors other, task?]
        exact has.holds found
    · intro u late
      rw [tickets] at late
      obtain ⟨free, none_⟩ := has.given late
      refine ⟨⟨free.1, ?_⟩, (task? u).trans none_⟩
      by_cases own : u = t
      · rw [own]
        exact gone
      · rw [visitors own]
        exact free.2

end HasTraffic

end BoxOffice.Office
