import BoxOffice.Proofs.Office.Wires

/-!
# Requests that change rows and tell of it

A step of a request rests as far as the rows of events go, or it makes one change.
Then the request owes the message that tells of just this change, and its next
step is to make it known. Only a request that asks the ledger itself for a change
does not tell of it; it is secret.
-/

namespace BoxOffice.Office

open Ledger (Ticket Books Call Stage Progress Effect Edit)

/-- Whether rows are to be changed and nobody is to be told. -/
def Request.isSecret : Request → Bool
  | .ledger .row _ | .ledger .receipt _ => true
  | _ => false

/-- The same of what is left to do. -/
def Task.isSecret : Task → Bool
  | .asked r => r.isSecret
  | .atLedger .row _ _ .answer | .atLedger .receipt _ _ .answer => true
  | _ => false

/-- What is left to do is for the event that the message will be about, and a call
of the catalog that takes time is a removal. -/
def Task.IsFit : Task → Prop
  | .atLedger _ _ _ (.announce a) => a = .deleted
  | .atLedger _ _ _ (.attempt event r _) | .attempting event r _ | .pausing event r _ _ =>
    r.eventId = event.id
  | _ => True

/-- The event that seats are to be booked of. -/
def Task.event? : Task → Option EventSnapshot
  | .choosing event _ _ | .attempting event _ _ | .pausing event _ _ _
  | .atLedger _ _ _ (.attempt event _ _) => some event
  | _ => none

/-- What is left to do after a step is fit, no more secret than before, and about an
event that was looked up. -/
structure Task.Leads (o : Office) (task task' : Task) : Prop where
  fit : task'.IsFit
  secret : task'.isSecret = true → task.isSecret = true
  event : ∀ event, task'.event? = some event →
    task.event? = some event ∨ ∃ publicId, o.events.find? publicId = some event

/-- What a step of a request comes to, as far as the rows of events go. -/
inductive Speaks (o : Office) (t : Ticket) (task : Task) (o' : Office) : Prop
  | rests (events : o'.ledger.books.events = o.ledger.books.events)
      (next : ∀ task', o'.task? t = some task' → task'.owes = none ∧ task.Leads o task')
  /-- A change is made, and the message about it is owed. -/
  | commits {c : EventChange} (silent : task.owes = none)
      (news : o.ledger.books.News o'.ledger.books c) (owes : o'.owes t = some c)
      (counts : ∀ count, c = .seatsUpdated count →
        ∃ event, task.event? = some event ∧ event.id = count.id)
  /-- A change is made in secret. -/
  | hides {c : EventChange} (silent : task.owes = none) (secret : task.isSecret = true)
      (news : o.ledger.books.News o'.ledger.books c) (idle : o'.task? t = none)

/-- A task that is neither secret nor about an event may come after any other. -/
theorem Task.leads_plain {o : Office} {task task' : Task} (fit : task'.IsFit)
    (open_ : task'.isSecret = false) (none_ : task'.event? = none) : task.Leads o task' where
  fit := fit
  secret secret := by cases open_.symm.trans secret
  event event about := by cases none_.symm.trans about

theorem Task.leads_of_owes {o : Office} {task task' : Task} {c : EventChange}
    (owes : task'.owes = some c) : task.Leads o task' := by
  cases task' with
  | announcing row change => exact leads_plain trivial rfl rfl
  | announcingSeats event receipt => exact leads_plain trivial rfl rfl
  | _ => cases owes

section Steps

variable {o o' : Office} {t : Ticket} {task : Task}

/-! ### Where a step leaves a request -/

theorem Speaks.idle (events : o'.ledger.books.events = o.ledger.books.events)
    (idle : o'.task? t = none) : Speaks o t task o' := by
  refine .rests events fun task' at_ => ?_
  cases idle.symm.trans at_

theorem Speaks.finish (o₁ : Office) (answer : Answer)
    (events : o₁.ledger.books.events = o.ledger.books.events) :
    Speaks o t task (o₁.finish t answer) :=
  .idle events (task?_finish o₁ t answer)

theorem Speaks.finishBooking (o₁ : Office) (seats : Nat)
    (result : Except Booking.Error Booking.View)
    (events : o₁.ledger.books.events = o.ledger.books.events) :
    Speaks o t task (o₁.finishBooking t seats result) :=
  .idle events (task?_finish o₁ t (.booking result))

theorem Speaks.setTask (o₁ : Office) {task' : Task} (silent : task'.owes = none)
    (leads : task.Leads o task') (events : o₁.ledger.books.events = o.ledger.books.events) :
    Speaks o t task (o₁.setTask t task') := by
  refine .rests events fun task'' at_ => ?_
  cases (task?_setTask o₁ t task').symm.trans at_
  exact ⟨silent, leads⟩

/-- A task that is neither secret nor about an event. -/
theorem Speaks.plain (o₁ : Office) {task' : Task} (silent : task'.owes = none) (fit : task'.IsFit)
    (open_ : task'.isSecret = false) (none_ : task'.event? = none)
    (events : o₁.ledger.books.events = o.ledger.books.events) :
    Speaks o t task (o₁.setTask t task') :=
  .setTask o₁ silent (Task.leads_plain fit open_ none_) events

/-- A task about the same event as before. -/
theorem Speaks.same (o₁ : Office) {task' : Task} (silent : task'.owes = none) (fit : task'.IsFit)
    (open_ : task'.isSecret = false) (same : task'.event? = task.event?)
    (events : o₁.ledger.books.events = o.ledger.books.events) :
    Speaks o t task (o₁.setTask t task') := by
  refine .setTask o₁ silent ⟨fit, fun secret => ?_, fun event about => .inl (same ▸ about)⟩ events
  cases open_.symm.trans secret

/-! ### Steps of calls -/

/-- The office after a step of a request's call. -/
def carriedOn (o : Office) (t : Ticket) {k : Call.Kind} (purpose : Purpose k)
    (due : Stage k → Nat) : Progress k × Ledger → Office
  | (.done answer, l) => ({ o with ledger := l } : Office).deliver t answer purpose
  | (.further stage, l) =>
    ({ o with ledger := l } : Office).setTask t (.atLedger k stage (due stage) purpose)

theorem call_eq (o : Office) (t : Ticket) {k : Call.Kind} (c : Call k) (purpose : Purpose k) :
    o.call t c purpose =
      o.carriedOn t purpose o.dueOf (o.ledger.start t o.setup.scan o.clock c) := by
  unfold call proceed
  generalize o.ledger.start t o.setup.scan o.clock c = result
  obtain ⟨progress, l⟩ := result
  cases progress <;> rfl

theorem stepTask_atLedger {k : Call.Kind} {stage : Stage k} {due : Nat} {purpose : Purpose k}
    (step : o.stepTask t (.atLedger k stage due purpose) = some o') :
    o' = o.carriedOn t purpose (fun _ => due) (o.ledger.resume t o.clock stage) := by
  simp only [stepTask] at step
  split at step
  · cases step
    generalize o.ledger.resume t o.clock stage = result
    obtain ⟨progress, l⟩ := result
    cases progress <;> rfl
  · cases step

variable {k : Call.Kind}

/-- A call that shows something or records a payment. -/
theorem Speaks.look {call : Call k} {bound : Option k.Answer} {result : Progress k × Ledger}
    (noRow : k ≠ .row) (noReceipt : k ≠ .receipt)
    (effect : Effect o.ledger o.clock call bound result) (purpose : Purpose k)
    (due : Stage k → Nat) : Speaks o t task (o.carriedOn t purpose due result) := by
  have events := effect.events noRow noReceipt
  obtain ⟨progress, l⟩ := result
  cases progress with
  | further stage =>
      refine .plain _ rfl ?_ ?_ ?_ events
      · cases purpose with
        | announce a => exact absurd rfl noRow
        | attempt event r retries => exact absurd rfl noReceipt
        | _ => trivial
      · cases k with
        | row => exact absurd rfl noRow
        | receipt => exact absurd rfl noReceipt
        | _ => rfl
      · cases purpose with
        | attempt event r retries => exact absurd rfl noReceipt
        | _ => rfl
  | done answer =>
      cases purpose with
      | answer => exact .finish _ _ events
      | announce a => exact absurd rfl noRow
      | attempt event r retries => exact absurd rfl noReceipt
      | view b => cases answer <;> exact .finish _ _ events
      | lookUp id =>
          cases answer with
          | none => exact .finish _ _ events
          | some b =>
              have kept := Ledger.start_findEvent l t o.setup.scan o.clock b.eventId
              simp only [carriedOn, deliver]
              split <;> rename_i started <;> rw [started] at kept <;> subst kept
              · rename_i row _
                cases row <;> exact .finish _ _ events
              · exact .plain _ rfl trivial rfl rfl events

/-- A call of the catalog. -/
theorem Speaks.edit {call : Call .row} {result : Progress .row × Ledger}
    (silent : task.owes = none) (edit : Edit o.ledger call result) (due : Stage .row → Nat) :
    Speaks o t task (o.carriedOn t (.announce call.announcement) due result) := by
  cases edit with
  | goesOn fits same =>
      refine .plain _ rfl ?_ rfl rfl (congrArg Books.events same)
      cases fits
      rfl
  | fails e same => exact .finish _ _ (congrArg Books.events same)
  | makes news =>
      refine .commits silent news ?_ fun count same => ?_
      · unfold Office.owes carriedOn
        simp only [deliver, task?_setTask, Option.bind_some, Task.owes]
      · cases call <;> cases same

/-- An attempt to book seats. -/
theorem Speaks.attempt {r : Booking.Request} {event : EventSnapshot}
    {result : Progress .receipt × Ledger} (silent : task.owes = none)
    (about : task.event? = some event) (fit : r.eventId = event.id)
    (attempt : Attempt o.ledger r result) (retries : Nat) (due : Stage .receipt → Nat) :
    Speaks o t task (o.carriedOn t (.attempt event r retries) due result) := by
  cases attempt with
  | goesOn same => exact .same _ rfl fit rfl about.symm (congrArg Books.events same)
  | fails e same =>
      have events := congrArg Books.events same
      simp only [carriedOn, deliver]
      split
      · rename_i verdict
        cases (Retry.final_of_ended verdict).1
      · exact .finishBooking _ _ _ events
      · exact .finish _ _ events
      · exact .same _ rfl fit rfl about.symm events
  | @stores l' row b found enough booked now new =>
      refine .commits (c := .seatsUpdated
        ⟨event.id, event.publicId, row.availableSeats - r.seats, row.version + 1⟩) silent ?_ ?_ ?_
      · have after : (o.carriedOn t (.attempt event r retries) due
            (.done (.ok ⟨b, row.availableSeats - r.seats, row.version + 1⟩), l')).ledger.books =
            l'.books := rfl
        rw [after, booked, new, ← fit]
        exact .booked now event.publicId found
      · unfold Office.owes carriedOn
        simp only [deliver, Retry.verdict, task?_setTask, Option.bind_some, Task.owes]
      · rintro count ⟨⟩
        exact ⟨event, about, rfl⟩

/-- A call whose answer is the answer to the request. -/
theorem Speaks.answer {call : Call k} {bound : Option k.Answer} {result : Progress k × Ledger}
    (silent : task.owes = none) (secret : k = .row ∨ k = .receipt → task.isSecret = true)
    (unbound : k = .row ∨ k = .receipt → bound = none)
    (effect : Effect o.ledger o.clock call bound result) (due : Stage k → Nat) :
    Speaks o t task (o.carriedOn t .answer due result) := by
  cases k with
  | row =>
      obtain rfl := unbound (.inl rfl)
      have secret := secret (.inl rfl)
      cases Ledger.edit_of_effect effect with
      | goesOn _ same =>
          exact .setTask _ rfl ⟨trivial, fun _ => secret, by rintro _ ⟨⟩⟩ (congrArg Books.events same)
      | fails e same => exact .finish _ _ (congrArg Books.events same)
      | makes news => exact .hides silent secret news (task?_finish _ t _)
  | receipt =>
      obtain rfl := unbound (.inr rfl)
      have secret := secret (.inr rfl)
      cases call with
      | book r =>
          cases attempt_of_effect effect with
          | goesOn same =>
              exact .setTask _ rfl ⟨trivial, fun _ => secret, by rintro _ ⟨⟩⟩ (congrArg Books.events same)
          | fails e same => exact .finish _ _ (congrArg Books.events same)
          | @stores l' row b found enough booked now new =>
              refine .hides (c := .seatsUpdated ⟨r.eventId, r.publicId,
                row.availableSeats - r.seats, row.version + 1⟩) silent secret ?_ (task?_finish _ t _)
              have after : (o.carriedOn t .answer due (.done (.ok
                  ⟨b, row.availableSeats - r.seats, row.version + 1⟩), l')).ledger.books =
                  l'.books := rfl
              rw [after, booked, new]
              exact .booked now r.publicId found
  | event => exact .look (by simp) (by simp) effect .answer due
  | booking => exact .look (by simp) (by simp) effect .answer due
  | payment => exact .look (by simp) (by simp) effect .answer due

/-! ### Steps of requests -/

theorem Speaks.hold (key : RowKey) : Speaks o t task (o.holdRow t key) := by
  have events : (o.ledger.asked t key).books.events = o.ledger.books.events :=
    congrArg Books.events (Ledger.Quiet.asked o.ledger t key).books
  unfold holdRow
  rw [acquire_eq]
  cases (o.acquire t key).1 with
  | true => exact .idle events (task?_finish _ t (.held true))
  | false => exact .plain _ rfl trivial rfl rfl events

theorem Speaks.beginBooking (event user : PublicId) (seats : Nat) :
    Speaks o t task (o.beginBooking t event user seats) := by
  unfold Office.beginBooking
  split
  · exact .finishBooking o _ _ rfl
  · split
    · exact .finishBooking o _ _ rfl
    · rename_i found
      refine .setTask o rfl ⟨trivial, ?_, ?_⟩ rfl
      · rintro ⟨⟩
      · rintro _ ⟨⟩
        exact .inr ⟨event, found⟩

theorem Speaks.chooseUser (event : EventSnapshot) (user : PublicId) (seats : Nat) :
    Speaks o t (.choosing event user seats) (o.chooseUser t event user seats) := by
  unfold Office.chooseUser
  split
  · exact .finishBooking o _ _ rfl
  · split
    · exact .finishBooking o _ _ rfl
    · simp only
      split
      · exact .finish _ _ rfl
      · exact .same _ rfl rfl rfl rfl rfl

theorem Speaks.begin (backed : IsBacked o) (r : Request) : Speaks o t (.asked r) (o.begin t r) := by
  have catalog (call : Call .row) : Speaks o t (.asked r) (o.call t call (.announce call.announcement)) := by
    rw [call_eq]
    exact .edit rfl (Ledger.edit_of_effect (backed.started t call)) o.dueOf
  cases r with
  | ledger kind c =>
      simp only [Office.begin, call_eq]
      refine .answer rfl ?_ (fun _ => rfl) (backed.started t c) o.dueOf
      rintro (rfl | rfl) <;> rfl
  | register draft => exact catalog (.register draft)
  | revise id revision => exact catalog (.revise id revision)
  | remove id => exact catalog (.remove id)
  | create event user seats => exact .beginBooking event user seats
  | find booking =>
      simp only [Office.begin, call_eq]
      exact .look (by simp) (by simp) (backed.started t _) (.lookUp booking) o.dueOf
  | settle job => exact .plain o rfl trivial rfl rfl rfl
  | hold key =>
      simp only [Office.begin]
      split
      · exact .hold key
      · exact .finish o _ rfl
  | wait span => exact .plain o rfl trivial rfl rfl rfl
  | closePool grace =>
      have closed := congrArg (·.books.events) (alike_closePool o grace).ledger
      simp only [Office.begin]
      split <;> rename_i result <;> rw [result] at closed
      · exact .finish _ _ closed
      · exact .plain _ rfl trivial rfl rfl closed
  | stopConsumers =>
      simp only [Office.begin]
      split
      · exact .finish o _ rfl
      · refine .rests rfl fun task' at_ => ?_
        cases (task?_setTask o t _).symm.trans at_
        exact ⟨rfl, Task.leads_plain trivial rfl rfl⟩
  | stopApplication =>
      simp only [Office.begin]
      split
      · split
        · refine .rests rfl fun task' at_ => ?_
          cases (task?_setTask o t _).symm.trans at_
          exact ⟨rfl, Task.leads_plain trivial rfl rfl⟩
        · exact .finish o _ rfl
      · exact .finish o _ rfl

/-- A call that takes time goes on for its purpose. -/
theorem Speaks.resume (backed : IsBacked o) {stage : Stage k} {due : Nat} {purpose : Purpose k}
    (at_ : o.task? t = some (.atLedger k stage due purpose))
    (fit : Task.IsFit (.atLedger k stage due purpose)) (due' : Stage k → Nat) :
    Speaks o t (.atLedger k stage due purpose)
      (o.carriedOn t purpose due' (o.ledger.resume t o.clock stage)) := by
  obtain ⟨call, serves, fits, effect⟩ := backed.pursued at_
  cases purpose with
  | answer =>
      refine .answer rfl ?_ ?_ effect due'
      · rintro (rfl | rfl) <;> rfl
      · rintro (rfl | rfl) <;> cases stage <;> rfl
  | announce a =>
      obtain rfl : a = .deleted := fit
      cases fits with
      | removing id => exact .edit rfl (Ledger.edit_of_effect effect) due'
  | attempt event r retries =>
      cases serves
      cases stage
      exact .attempt rfl rfl fit (attempt_of_effect effect) retries due'
  | lookUp id => exact .look (by simp) (by simp) effect (.lookUp id) due'
  | view b => exact .look (by simp) (by simp) effect (.view b) due'

/-- A step of a request rests, makes a change that is owed, or hides one. -/
theorem speaks_of_step (backed : IsBacked o) (at_ : o.task? t = some task) (fit : task.IsFit)
    (step : o.stepTask t task = some o') : Speaks o t task o' := by
  cases task with
  | asked r =>
      cases step
      exact .begin backed r
  | atLedger kind stage due purpose =>
      rw [stepTask_atLedger step]
      exact .resume backed at_ fit _
  | announcing row change =>
      cases step
      exact .finish _ _ (congrArg (·.books.events) (alike_announce o change).ledger)
  | choosing event user seats =>
      cases step
      exact .chooseUser event user seats
  | attempting event request retries =>
      cases step
      rw [call_eq]
      exact .attempt rfl rfl fit (attempt_of_effect (backed.started t _)) retries o.dueOf
  | pausing event request retries due =>
      simp only [stepTask] at step
      split at step <;> cases step
      exact .same o rfl fit rfl rfl rfl
  | announcingSeats event receipt =>
      cases step
      exact .plain _ rfl trivial rfl rfl (congrArg (·.books.events) (alike_announce o _).ledger)
  | handingOver event receipt =>
      cases step
      exact .finishBooking _ _ _ (congrArg (·.books.events) (alike_handOver o _).ledger)
  | settling run =>
      simp only [stepTask] at step
      obtain ⟨⟨progress, o₁⟩, settled, rfl⟩ := Option.map_eq_some_iff.mp step
      have events : o₁.ledger.books.events = o.ledger.books.events := by
        cases settles_of_step settled with
        | goesOn core => exact congrArg (·.ledger.books.events) core
        | ends core => exact congrArg (·.ledger.books.events) core
        | records recorded => exact congrArg (List.map _) (Ledger.events_of_settle recorded)
      simp only
      split
      · exact .plain _ rfl trivial rfl rfl events
      · exact .finish _ _ events
      · exact .finish _ _ events
  | holding key =>
      simp only [stepTask] at step
      split at step <;> cases step
      exact .hold key
  | stoppingApplication =>
      simp only [stepTask] at step
      split at step <;> cases step
      exact .finish o _ rfl
  | _ =>
      simp only [stepTask] at step
      split at step <;> cases step
      exact .finish o _ rfl

/-! ### Moves -/

variable {m : Move}

/-- A turn of a request, with what it does to rows, to the wires and to others. -/
structure Advances (o : Office) (t : Ticket) (task : Task) (o' : Office) : Prop where
  at_ : o.task? t = some task
  speaks : Speaks o t task o'
  still : task.owes = none → o'.wires = o.wires
  utters : ∀ c, task.owes = some c → o'.wires = { o.wires with bus := (o.announce c).2.bus }
  others : ∀ u, u ≠ t → o'.task? u = o.task? u

theorem advances_of_isBy (backed : IsBacked o)
    (fit : ∀ t task, o.task? t = some task → task.IsFit) (own : m.isBy t = true)
    (moved : m.apply o = some o') : ∃ task, Advances o t task o' := by
  cases moves_of_apply moved with
  | alike other _ => cases (other t).symm.trans own
  | unlocked other _ _ => cases (other t).symm.trans own
  | @step u task _ at_ step =>
      obtain rfl : u = t := beq_iff_eq.mp own
      refine ⟨task, at_, speaks_of_step backed at_ (fit u task at_) step,
        fun silent => wires_stepTask silent step, fun c owed => wires_announcing owed step, ?_⟩
      exact (apart_stepTask step).tasks
  | @hurried u deadline at_ =>
      obtain rfl : u = t := beq_iff_eq.mp own
      have silent (c : EventChange) : (Task.closingPool deadline).owes ≠ some c := by
        rintro ⟨⟩
      refine ⟨_, at_, ?_, fun _ => wires_abortPool o, fun c owed => absurd owed (silent c), ?_⟩
      · exact .finish _ _ (congrArg (·.books.events) (alike_abortPool o).ledger)
      · exact ((alike_abortPool o).apart.trans (apart_finish _ u _)).tasks
  | _ => cases own

/-- A move that is no turn of a request leaves it alone, gives it up or brings it. -/
theorem task?_of_move {u : Ticket} (backed : IsBacked o) (other : m.isBy u = false)
    (moved : m.apply o = some o') :
    o'.task? u = o.task? u ∨ (m = .abandon u ∧ o'.task? u = none) ∨
      ∃ r, m = .ask r ∧ o.task? u = none ∧ o'.task? u = some (.asked r) := by
  have another {v : Ticket} (own : (v == u) = false) : u ≠ v := by
    rintro rfl
    simp at own
  cases moves_of_apply moved with
  | alike _ alike => exact .inl (alike.task? u)
  | step _ step => exact .inl ((apart_stepTask step).tasks u (another other))
  | @hurried v deadline _ =>
      have apart := (alike_abortPool o).apart.trans (apart_finish _ v (.drained false))
      exact .inl (apart.tasks u (another other))
  | worked step =>
      refine .inl ?_
      rcases step.core with same | ⟨_, _, _, _, _, _, _, same⟩
      · exact congrArg (fun c : Core => Keyed.get? u c.tasks) same
      · exact congrArg (fun c : Core => Keyed.get? u c.tasks) same
  | @unlocked _ o₁ _ alike key =>
      refine .inl (Eq.trans ?_ (alike.task? u))
      unfold Office.unlock
      split <;> rfl
  | ask r =>
      by_cases new : u = o.tickets
      · subst new
        have fresh := backed.fresh (Nat.le_refl o.tickets)
        exact .inr (.inr ⟨r, rfl, fresh, task?_ask r fresh⟩)
      · exact .inl (task?_ask_of_ne o r new)
  | abandon v =>
      by_cases own : u = v
      · subst own
        exact .inr (.inl ⟨rfl, (Keyed.get?_erase u u _).trans (if_pos rfl)⟩)
      · exact .inl ((apart_abandon o v).tasks u own)
  | _ => exact .inl rfl

/-- A move that is nobody's turn and no worker's leaves the books alone. -/
theorem books_of_move (nobody : ∀ t, m.isBy t = false) (resting : ∀ i, m ≠ .turn (.worker i))
    (moved : m.apply o = some o') : o'.ledger.books = o.ledger.books := by
  have own (t : Ticket) : ¬ (t == t) = false := by simp
  cases moves_of_apply moved with
  | alike _ alike => exact congrArg Ledger.books alike.ledger
  | @step t => exact absurd (nobody t) (own t)
  | @hurried t => exact absurd (nobody t) (own t)
  | @worked i => exact absurd rfl (resting i)
  | @unlocked _ o₁ _ alike key =>
      refine Eq.trans ?_ (congrArg Ledger.books alike.ledger)
      rcases core_unlock o₁ key with same | ⟨t, _, same⟩
      · exact congrArg (·.ledger.books) same
      · exact (congrArg (·.ledger.books) same).trans (Ledger.Quiet.left o₁.ledger t key).books
  | ask r => rfl
  | abandon t =>
      unfold Office.abandon
      split
      · exact (Ledger.Quiet.abandon o.ledger t _).books
      · exact congrArg Ledger.books (alike_cancelSettlement o _ _).ledger
      · rename_i key _
        exact (Ledger.Quiet.left o.ledger t key).books
      · rfl
  | take => rfl
  | later key span => rfl
  | failInsert => exact (Ledger.Quiet.of_rows rfl rfl rfl).books
  | setHold hold => exact (Ledger.Quiet.of_rows rfl rfl rfl).books

/-- A move that is nobody's turn leaves the rows of events alone. -/
theorem events_of_move (nobody : ∀ t, m.isBy t = false) (moved : m.apply o = some o') :
    o'.ledger.books.events = o.ledger.books.events := by
  by_cases works : ∃ i, m = .turn (.worker i)
  · obtain ⟨i, rfl⟩ := works
    rcases (workerStep_of_step moved).core with same | ⟨_, _, _, _, l, _, recorded, same⟩
    · exact congrArg (·.ledger.books.events) same
    · exact (congrArg (·.ledger.books.events) same).trans
        (congrArg (List.map _) (Ledger.events_of_settle recorded))
  · exact congrArg Books.events (books_of_move nobody (fun i same => works ⟨i, same⟩) moved)

/-- What a move comes to, as far as changes of events go, and the change that it makes. -/
inductive Talks (o : Office) (m : Move) (o' : Office) : Option EventChange → Prop
  | rests (events : o'.ledger.books.events = o.ledger.books.events)
      (owes : ∀ t, o'.owes t = o.owes t ∨ (m = .abandon t ∧ o'.owes t = none))
      (still : ∀ t, m.isBy t = true → o'.wires = o.wires) : Talks o m o' none
  | commits {t : Ticket} {c : EventChange} (own : m.isBy t = true) (silent : o.owes t = none)
      (news : o.ledger.books.News o'.ledger.books c) (owes : o'.owes t = some c)
      (others : ∀ u, u ≠ t → o'.owes u = o.owes u) (still : o'.wires = o.wires)
      (counts : ∀ count, c = .seatsUpdated count →
        ∃ task event, o.task? t = some task ∧ task.event? = some event ∧ event.id = count.id) :
      Talks o m o' (some c)
  | hides {t : Ticket} {task : Task} {c : EventChange} (own : m.isBy t = true)
      (at_ : o.task? t = some task) (secret : task.isSecret = true)
      (news : o.ledger.books.News o'.ledger.books c) (owes : ∀ u, o'.owes u = o.owes u)
      (still : o'.wires = o.wires) : Talks o m o' (some c)
  | utters {t : Ticket} {c : EventChange} (own : m.isBy t = true) (owed : o.owes t = some c)
      (done : o'.owes t = none) (others : ∀ u, u ≠ t → o'.owes u = o.owes u)
      (events : o'.ledger.books.events = o.ledger.books.events)
      (utters : o'.wires = { o.wires with bus := (o.announce c).2.bus }) : Talks o m o' none

theorem owes_of_task (at_ : o.task? t = some task) : o.owes t = task.owes := by
  rw [owes, at_, Option.bind_some]

theorem owes_congr (same : o'.task? t = o.task? t) : o'.owes t = o.owes t := by
  rw [owes, same, owes]

theorem owes_of_none (idle : o.task? t = none) : o.owes t = none := by
  rw [owes, idle, Option.bind_none]

/-- A turn of a request rests, commits, hides something or tells of it. -/
theorem Advances.talks (advances : Advances o t task o') (own : m.isBy t = true) :
    ∃ news, Talks o m o' news := by
  obtain ⟨at_, speaks, still, utters, others⟩ := advances
  have others (u : Ticket) (other : u ≠ t) := owes_congr (others u other)
  have before := owes_of_task at_
  cases speaks with
  | rests events next =>
      have after : o'.owes t = none := by
        cases at_' : o'.task? t with
        | none => exact owes_of_none at_'
        | some task' => exact (owes_of_task at_').trans (next task' at_').1
      cases owed : task.owes with
      | none =>
          refine ⟨none, .rests events (fun u => .inl ?_) fun _ _ => still owed⟩
          by_cases same : u = t
          · rw [same, after, before, owed]
          · exact others u same
      | some c => exact ⟨none, .utters own (before.trans owed) after others events (utters c owed)⟩
  | commits silent news owes counts =>
      refine ⟨_, .commits own (before.trans silent) news owes others (still silent) fun count same => ?_⟩
      obtain ⟨event, about, number⟩ := counts count same
      exact ⟨task, event, at_, about, number⟩
  | hides silent secret news idle =>
      refine ⟨_, .hides own at_ secret news (fun u => ?_) (still silent)⟩
      by_cases same : u = t
      · rw [same, owes_of_none idle, before, silent]
      · exact others u same

theorem talks_of_move (backed : IsBacked o) (fit : ∀ t task, o.task? t = some task → task.IsFit)
    (moved : m.apply o = some o') : ∃ news, Talks o m o' news := by
  by_cases somebody : ∃ t, m.isBy t = true
  · obtain ⟨t, own⟩ := somebody
    obtain ⟨task, advances⟩ := advances_of_isBy backed fit own moved
    exact advances.talks own
  · have nobody (t : Ticket) : m.isBy t = false :=
      Bool.eq_false_iff.mpr fun own => somebody ⟨t, own⟩
    refine ⟨none, .rests (events_of_move nobody moved) (fun t => ?_) fun t own => ?_⟩
    · rcases task?_of_move backed (nobody t) moved with same | ⟨given_up, gone⟩ | ⟨r, _, fresh, asked⟩
      · exact .inl (owes_congr same)
      · exact .inr ⟨given_up, owes_of_none gone⟩
      · exact .inl ((owes_of_task asked).trans (owes_of_none fresh).symm)
    · cases (nobody t).symm.trans own

end Steps

/-! ### Runs -/

section Runs

variable {first o o' : Office} {turns : List Turn} {t : Ticket} {task task' : Task} {m : Move}

/-- Where a request stands after a move: where it stood, at its begin, or further on. -/
theorem leads_of_move (backed : IsBacked o) (fit : ∀ t task, o.task? t = some task → task.IsFit)
    (moved : m.apply o = some o') (at_ : o'.task? t = some task') :
    o.task? t = some task' ∨ (∃ r, m = .ask r ∧ task' = .asked r) ∨
      ∃ task, o.task? t = some task ∧ task.Leads o task' := by
  cases own : m.isBy t with
  | false =>
      rcases task?_of_move backed own moved with same | ⟨_, gone⟩ | ⟨r, asks, _, asked⟩
      · exact .inl (same.symm.trans at_)
      · cases gone.symm.trans at_
      · cases asked.symm.trans at_
        exact .inr (.inl ⟨r, asks, rfl⟩)
  | true =>
      obtain ⟨task, advances⟩ := advances_of_isBy backed fit own moved
      refine .inr (.inr ⟨task, advances.at_, ?_⟩)
      cases advances.speaks with
      | rests _ next => exact (next task' at_).2
      | commits _ _ owes _ =>
          rw [owes_of_task at_] at owes
          exact Task.leads_of_owes owes
      | hides _ _ _ idle => cases idle.symm.trans at_

/-- All that is left to do after a run is fit. -/
theorem Run.fit (run : Run first turns o) (new : IsNew first) (t : Ticket) (task : Task)
    (at_ : o.task? t = some task) : task.IsFit := by
  induction run generalizing t task with
  | start =>
      cases new
      cases at_
  | next run moved ih =>
      rcases leads_of_move (run.isBacked new.isBacked).1 ih moved at_ with before | ⟨r, _, rfl⟩ | ⟨_, _, leads⟩
      · exact ih t task before
      · trivial
      · exact leads.fit

/-- Nothing is secret after a run in which nothing secret is asked for. -/
theorem Run.notSecret (run : Run first turns o) (new : IsNew first)
    (public_ : ∀ x ∈ turns, ∀ r, x.move = .ask r → r.isSecret = false) (t : Ticket) (task : Task)
    (at_ : o.task? t = some task) : task.isSecret = false := by
  induction run generalizing t task with
  | start =>
      cases new
      cases at_
  | @next turns o o' m run moved ih =>
      have ih := ih fun x member => public_ x (List.mem_append_left _ member)
      rcases leads_of_move (run.isBacked new.isBacked).1 (run.fit new) moved at_ with
        before | ⟨r, rfl, rfl⟩ | ⟨task₀, before, leads⟩
      · exact ih t task before
      · exact public_ _ (List.mem_append_right _ (List.mem_singleton_self _)) r rfl
      · exact Bool.eq_false_iff.mpr fun secret => by
          cases (ih t task₀ before).symm.trans (leads.secret secret)

/-- What a move of a run comes to. -/
theorem Run.talks (run : Run first turns o) (new : IsNew first) (moved : m.apply o = some o') :
    ∃ news, Talks o m o' news :=
  talks_of_move (run.isBacked new.isBacked).1 (run.fit new) moved

end Runs

end BoxOffice.Office
