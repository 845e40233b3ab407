import BoxOffice.Proofs.Ledger.Veil
import BoxOffice.Proofs.Office.Trail

/-!
# Twin offices

Two offices are twins when they are the same but for what settlements do: the rows look
the same under the veil, and the requests that have a say in them stand at the same
points. The tickets of one may be other tickets in its twin. A request that gets on in
both, at the same instant and time of day, leaves twins behind, whatever became of the
message that it sent or of the job that it handed over; and if it was to change an event
or to book seats, it is told the same in both.
-/

namespace BoxOffice

/-- Whether a call is to change an event or to book seats. -/
def Ledger.Call.Kind.changes : Ledger.Call.Kind → Bool
  | .row | .receipt => true
  | _ => false

namespace Office

open Ledger (Ticket)

/-! ### What is seen of requests -/

/-- Whether a request has no say in rows: it settles a booking, waits, or shuts something
down. -/
def Request.isBystander : Request → Bool
  | .ledger .payment _ | .settle _ | .wait _ | .closePool _ | .stopConsumers | .stopApplication =>
    true
  | _ => false

/-- Whether a request is to change an event or to book seats. -/
def Request.changes : Request → Bool
  | .ledger kind _ => kind.changes
  | .register _ | .revise _ _ | .remove _ | .create _ _ _ => true
  | _ => false

def Purpose.veiled : {k : Ledger.Call.Kind} → Purpose k → Purpose k
  | _, .view b => .view b.veiled
  | _, p => p

/-- What is seen of where a request stands. -/
def Task.seen? : Task → Option Task
  | .asked r => if r.isBystander then none else some (.asked r)
  | .atLedger kind stage due purpose => some (.atLedger kind stage due purpose.veiled)
  | .settling _ | .waiting _ | .closingPool _ | .stoppingConsumers _ | .stoppingApplication => none
  | task => some task

/-- Whether a request that stands here is to change an event or to book seats. -/
def Task.changes : Task → Bool
  | .asked r => r.changes
  | .atLedger kind _ _ _ => kind.changes
  | .announcing _ _ | .choosing _ _ _ | .attempting _ _ _ | .pausing _ _ _ _ | .announcingSeats _ _
  | .handingOver _ _ => true
  | _ => false

/-- What is seen of the request with a ticket. -/
def seen? (o : Office) (t : Ticket) : Option Task := (o.task? t).bind Task.seen?

/-- What a request was told at its end. -/
def told? (o : Office) (t : Ticket) : Option Answer :=
  if (o.task? t).isNone then Keyed.get? t o.answers else none

/-- What a step of a request looks up in the snapshots. -/
structure Sight where
  event : Option EventSnapshot
  user : Option UserSnapshot

def sight (o : Office) : Task → Sight
  | .asked (.create event _ _) => ⟨o.events.find? event, none⟩
  | .choosing _ user _ => ⟨none, o.users.find? user⟩
  | _ => ⟨none, none⟩

/-- Two offices are the same but for what settlements do. -/
structure Twin (ρ : Ticket → Ticket) (o o' : Office) : Prop where
  setup : o'.setup = o.setup
  idsDrawn : o'.idsDrawn = o.idsDrawn
  ledger : o'.ledger.veiled id = o.ledger.veiled ρ
  seen : ∀ t, o'.seen? (ρ t) = o.seen? t
  held : ∀ key, Keyed.get? key o'.held = (Keyed.get? key o.held).map ρ

/-- Twins at the same instant and time of day. -/
structure Abreast (ρ : Ticket → Ticket) (o o' : Office) : Prop where
  twin : Twin ρ o o'
  now : o'.now = o.now
  clock : o'.clock = o.clock

/-- Twins in which a request got on. If it is to change an event or to book seats, it stays
so until it is told the same in both. -/
structure Agree (ρ : Ticket → Ticket) (t : Ticket) (changes : Bool) (o o' : Office) : Prop where
  twin : Twin ρ o o'
  stays : ∀ task, o.task? t = some task → task.changes = changes
  told : changes = true → o'.told? (ρ t) = o.told? t

variable {ρ : Ticket → Ticket} {o o' o'' : Office} {t : Ticket} {k : Ledger.Call.Kind}

theorem answer_eq_of_veiled {x x' : k.Answer} (changes : k.changes = true)
    (same : Ledger.Call.Kind.veiled x' = Ledger.Call.Kind.veiled x) : x' = x := by
  cases k with
  | row => exact same
  | receipt => exact same
  | event => cases changes
  | booking => cases changes
  | payment => cases changes

theorem Purpose.veiled_veiled (p : Purpose k) : p.veiled.veiled = p.veiled := by
  cases p <;> rfl

theorem Task.eq_of_seen? {task seen : Task} (here : task.seen? = some seen) :
    task = seen ∨ ∃ (kind : Ledger.Call.Kind) (stage : Ledger.Stage kind) (due : Nat)
      (p : Purpose kind), task = .atLedger kind stage due p ∧
        seen = .atLedger kind stage due p.veiled := by
  cases task with
  | asked r =>
      simp only [Task.seen?] at here
      split at here <;> cases here
      exact .inl rfl
  | atLedger kind stage due p =>
      cases here
      exact .inr ⟨kind, stage, due, p, rfl, rfl⟩
  | _ => cases here <;> exact .inl rfl

/-- Two requests of which the same is seen stand at the same point. What they may differ
in is the status of a booking that is to be shown. -/
theorem Task.eq_of_seen {task task' seen : Task} (here : task.seen? = some seen)
    (there : task'.seen? = some seen) :
    task' = task ∨ ∃ (kind : Ledger.Call.Kind) (stage : Ledger.Stage kind) (due : Nat)
      (p p' : Purpose kind), task = .atLedger kind stage due p ∧
        task' = .atLedger kind stage due p' ∧ p'.veiled = p.veiled := by
  rcases Task.eq_of_seen? here with rfl | ⟨kind, stage, due, p, rfl, rfl⟩
  · rcases Task.eq_of_seen? there with rfl | ⟨kind, stage, due, p', rfl, rfl⟩
    · exact .inl rfl
    · exact .inr ⟨kind, stage, due, _, p', rfl, rfl, p'.veiled_veiled.symm⟩
  · rcases Task.eq_of_seen? there with rfl | ⟨kind', stage', due', p', rfl, same⟩
    · exact .inr ⟨kind, stage, due, p, _, rfl, rfl, p.veiled_veiled⟩
    · obtain ⟨rfl, stage_, rfl, purpose⟩ := Task.atLedger.inj same
      obtain rfl := eq_of_heq stage_
      exact .inr ⟨kind, stage, due, p, p', rfl, rfl, (eq_of_heq purpose).symm⟩

theorem Task.changes_of_seen {task task' seen : Task} (here : task.seen? = some seen)
    (there : task'.seen? = some seen) : task'.changes = task.changes := by
  rcases Task.eq_of_seen here there with rfl | ⟨kind, stage, due, p, p', rfl, rfl, -⟩ <;> rfl

theorem seen?_setTask (o : Office) (t u : Ticket) (task : Task) :
    (o.setTask t task).seen? u = if u = t then task.seen? else o.seen? u := by
  unfold seen? task? setTask
  rw [Keyed.get?_put]
  split <;> rfl

theorem seen?_erase (o : Office) (t u : Ticket) :
    { o with tasks := Keyed.erase t o.tasks }.seen? u = if u = t then none else o.seen? u := by
  unfold seen? task?
  rw [Keyed.get?_erase]
  split <;> rfl

theorem told?_finish (o : Office) (t : Ticket) (answer : Answer) :
    (o.finish t answer).told? t = some answer := by
  rw [told?, task?_finish]
  exact Keyed.get?_put_self t answer o.answers

theorem told?_setTask (o : Office) (t : Ticket) (task : Task) :
    (o.setTask t task).told? t = none := by
  rw [told?, task?_setTask]
  rfl

/-! ### Twins -/

namespace Twin

/-- What leaves rows alone and draws no identifier makes a twin if nothing of it is seen. -/
theorem of_seen (setup : o'.setup = o.setup) (ids : o'.idsDrawn = o.idsDrawn)
    (ledger : o'.ledger = o.ledger) (held : o'.held = o.held)
    (seen : ∀ t, o'.seen? t = o.seen? t) : Twin id o o' where
  setup := setup
  idsDrawn := ids
  ledger := by rw [ledger]
  seen := seen
  held key := by rw [held, Option.map_id, id]

theorem of_core (core : o'.core = o.core) (ids : o'.idsDrawn = o.idsDrawn) : Twin id o o' :=
  of_seen (congrArg Core.setup core) ids (congrArg Core.ledger core) (congrArg Core.held core)
    fun t => congrArg (fun c : Core => (Keyed.get? t c.tasks).bind Task.seen?) core

theorem trans (twin : Twin ρ o o') (later : Twin id o' o'') : Twin ρ o o'' where
  setup := later.setup.trans twin.setup
  idsDrawn := later.idsDrawn.trans twin.idsDrawn
  ledger := later.ledger.trans twin.ledger
  seen t := (later.seen (ρ t)).trans (twin.seen t)
  held key := by rw [later.held key, Option.map_id, id, twin.held key]

theorem before (twin : Twin ρ o o') (later : Twin id o o'') : Twin ρ o'' o' where
  setup := twin.setup.trans later.setup.symm
  idsDrawn := twin.idsDrawn.trans later.idsDrawn.symm
  ledger := twin.ledger.trans (Ledger.veiled_congr ρ later.ledger).symm
  seen t := (twin.seen t).trans (later.seen t).symm
  held key := by rw [twin.held key, later.held key, Option.map_id, id]

variable (twin : Twin ρ o o') (inj : Function.Injective ρ)
include twin

theorem drawId : Twin ρ o.drawId.2 o'.drawId.2 :=
  ⟨twin.setup, congrArg (· + 1) twin.idsDrawn, twin.ledger, twin.seen, twin.held⟩

/-- What becomes of a message in the one or in the other is nothing to twins. -/
theorem announce (c : EventChange) : Twin ρ (o.announce c).2 (o'.announce c).2 := by
  have apart (o : Office) : Twin id o (o.announce c).2 :=
    of_core (alike_announce o c).core (congrArg Stock.idsDrawn (stock_announce o c))
  exact (twin.trans (apart o')).before (apart o)

/-- What becomes of a job in the one or in the other is nothing to twins. -/
theorem handOver (b : Booking) : Twin ρ (o.handOver b) (o'.handOver b) := by
  have apart (o : Office) : Twin id o.drawId.2 (o.handOver b) :=
    of_core (alike_handOver o b).core (congrArg Stock.idsDrawn (stock_handOver o b))
  exact (twin.drawId.trans (apart o')).before (apart o)

theorem withLedger {l l' : Ledger} (same : l'.veiled id = l.veiled ρ) :
    Twin ρ { o with ledger := l } { o' with ledger := l' } :=
  ⟨twin.setup, twin.idsDrawn, same, twin.seen, twin.held⟩

/-- What is read off the rows under the veil is the same in both. -/
theorem carry {α : Type} {x x' : α} (read : Ledger → α) (here : read (o.ledger.veiled ρ) = x)
    (there : read (o'.ledger.veiled id) = x') : x' = x :=
  there.symm.trans ((congrArg read twin.ledger).trans here)

theorem eventCell? (e : EventId) : (o'.ledger.eventCell? e).map (·.renamed id) =
    (o.ledger.eventCell? e).map (·.renamed ρ) :=
  twin.carry (·.eventCell? e) (Ledger.eventCell?_veiled ρ _ e) (Ledger.eventCell?_veiled id _ e)

theorem bookingCell? (b : BookingId) : (o'.ledger.bookingCell? b).map (·.veiled id) =
    (o.ledger.bookingCell? b).map (·.veiled ρ) :=
  twin.carry (·.bookingCell? b) (Ledger.bookingCell?_veiled ρ _ b)
    (Ledger.bookingCell?_veiled id _ b)

theorem hasRow (key : RowKey) : o'.hasRow key = o.hasRow key := by
  cases key with
  | event e =>
      have same := twin.carry (·.presentCell? e) (Ledger.presentCell?_veiled ρ _ e)
        (Ledger.presentCell?_veiled id _ e)
      simpa [Office.hasRow] using congrArg Option.isSome same
  | booking b => simpa [Office.hasRow] using congrArg Option.isSome (twin.bookingCell? b)

include inj

theorem setTask (t : Ticket) {task task' : Task} (same : task'.seen? = task.seen?) :
    Twin ρ (o.setTask t task) (o'.setTask (ρ t) task') where
  setup := twin.setup
  idsDrawn := twin.idsDrawn
  ledger := twin.ledger
  seen u := by simp only [seen?_setTask, same, twin.seen u, inj.eq_iff]
  held := twin.held

theorem erase (t : Ticket) :
    Twin ρ { o with tasks := Keyed.erase t o.tasks }
      { o' with tasks := Keyed.erase (ρ t) o'.tasks } where
  setup := twin.setup
  idsDrawn := twin.idsDrawn
  ledger := twin.ledger
  seen u := by simp only [seen?_erase, twin.seen u, inj.eq_iff]
  held := twin.held

theorem agree_setTask (t : Ticket) {changes : Bool} {task task' : Task}
    (stays : task.changes = changes) (same : task'.seen? = task.seen?) :
    Agree ρ t changes (o.setTask t task) (o'.setTask (ρ t) task') where
  twin := twin.setTask inj t same
  stays later at_ := by
    cases (task?_setTask o t task).symm.trans at_
    exact stays
  told _ := by rw [told?_setTask, told?_setTask]

theorem agree_finish (t : Ticket) {changes : Bool} {answer answer' : Answer}
    (same : changes = true → answer' = answer) :
    Agree ρ t changes (o.finish t answer) (o'.finish (ρ t) answer') where
  twin :=
    have erased := twin.erase inj t
    ⟨erased.setup, erased.idsDrawn, erased.ledger, erased.seen, erased.held⟩
  stays task at_ := by cases (task?_finish o t answer).symm.trans at_
  told needed := by rw [told?_finish, told?_finish, same needed]

theorem agree_finishBooking (t : Ticket) (changes : Bool) (seats : Nat)
    (result : Except Booking.Error Booking.View) :
    Agree ρ t changes (o.finishBooking t seats result) (o'.finishBooking (ρ t) seats result) :=
  have ⟨finished, stays, told⟩ : Agree ρ t changes (o.finish t (.booking result))
      (o'.finish (ρ t) (.booking result)) := twin.agree_finish inj t fun _ => rfl
  ⟨⟨finished.setup, finished.idsDrawn, finished.ledger, finished.seen, finished.held⟩, stays, told⟩

/-! ### Rows held from outside -/

theorem leave (t : Ticket) (key : RowKey) : Twin ρ (o.leave t key) (o'.leave (ρ t) key) := by
  refine twin.withLedger ?_
  cases key with
  | event e =>
      exact twin.carry (·.leaveEvent (ρ t) e) (Ledger.leaveEvent_veiled inj e)
        (Ledger.leaveEvent_veiled Function.injective_id e)
  | booking b =>
      exact twin.carry (·.leaveBooking (ρ t) b) (Ledger.leaveBooking_veiled inj b)
        (Ledger.leaveBooking_veiled Function.injective_id b)

theorem abandoned (t : Ticket) (stage : Ledger.Stage k) :
    (o'.ledger.abandon (ρ t) stage).veiled id = (o.ledger.abandon t stage).veiled ρ :=
  twin.carry (·.abandon (ρ t) stage) (Ledger.abandon_veiled inj stage)
    (Ledger.abandon_veiled Function.injective_id stage)

theorem canResume (t : Ticket) (stage : Ledger.Stage k) :
    o'.ledger.canResume (ρ t) stage = o.ledger.canResume t stage :=
  twin.carry (·.canResume (ρ t) stage) (Ledger.canResume_veiled inj stage)
    (Ledger.canResume_veiled Function.injective_id stage)

/-- At the same instant a call goes on in both or in neither. -/
theorem mayResume (t : Ticket) (stage : Ledger.Stage k) (due : Nat) (now : o'.now = o.now) :
    ((due ≤ o'.now : Bool) && o'.ledger.canResume (ρ t) stage) =
      ((due ≤ o.now : Bool) && o.ledger.canResume t stage) := by
  rw [now, twin.canResume inj]

theorem acquire (t : Ticket) (key : RowKey) :
    (o'.acquire (ρ t) key).1 = (o.acquire t key).1 ∧
      Twin ρ (o.acquire t key).2 (o'.acquire (ρ t) key).2 := by
  cases key with
  | event e =>
      have same := twin.carry (·.acquireEvent (ρ t) e) (Ledger.acquireEvent_veiled inj e)
        (Ledger.acquireEvent_veiled Function.injective_id e)
      obtain ⟨has, ledger⟩ := Prod.mk.inj same
      exact ⟨has, twin.withLedger ledger⟩
  | booking b =>
      have same := twin.carry (·.acquireBooking (ρ t) b) (Ledger.acquireBooking_veiled inj b)
        (Ledger.acquireBooking_veiled Function.injective_id b)
      obtain ⟨has, ledger⟩ := Prod.mk.inj same
      exact ⟨has, twin.withLedger ledger⟩

theorem canHold (t : Ticket) (key : RowKey) : o'.canHold (ρ t) key = o.canHold t key := by
  cases key with
  | event e =>
      have same := congrArg (Option.any fun cell : Ledger.EventCell =>
        (cell.lock.holder = some (ρ t) : Bool) || cell.lock.isFree) (twin.eventCell? e)
      simpa [Office.canHold, Option.any_map, Function.comp_def, Ledger.EventCell.renamed,
        Ledger.Lock.holder_renamed inj, Ledger.Lock.renamed_id] using same
  | booking b =>
      have same := congrArg (Option.any fun cell : Ledger.BookingCell =>
        (cell.lock.holder = some (ρ t) : Bool) || cell.lock.isFree) (twin.bookingCell? b)
      simpa [Office.canHold, Option.any_map, Function.comp_def, Ledger.BookingCell.veiled,
        Ledger.Lock.holder_renamed inj, Ledger.Lock.renamed_id] using same

theorem unlock (key : RowKey) : Twin ρ (o.unlock key).2 (o'.unlock key).2 := by
  have held := twin.held key
  unfold Office.unlock
  cases found : Keyed.get? key o.held with
  | none =>
      rw [found, Option.map_none] at held
      simp only [held]
      exact twin
  | some t =>
      rw [found, Option.map_some] at held
      simp only [held]
      have left := twin.leave inj t key
      refine ⟨left.setup, left.idsDrawn, left.ledger, left.seen, fun other => ?_⟩
      simp only [Keyed.get?_erase, twin.held other]
      split <;> rfl

theorem agree_holdRow (t : Ticket) (key : RowKey) :
    Agree ρ t false (o.holdRow t key) (o'.holdRow (ρ t) key) := by
  obtain ⟨has, acquired⟩ := twin.acquire inj t key
  unfold Office.holdRow
  rcases here : o.acquire t key with ⟨_ | _, o₁⟩ <;>
    rcases there : o'.acquire (ρ t) key with ⟨_ | _, o₁'⟩ <;>
    rw [here, there] at acquired has
  · exact acquired.agree_setTask inj t rfl rfl
  · cases has
  · cases has
  · obtain ⟨finished, stays, -⟩ : Agree ρ t false (o₁.finish t (.held true))
        (o₁'.finish (ρ t) (.held true)) := acquired.agree_finish inj t nofun
    refine ⟨⟨finished.setup, finished.idsDrawn, finished.ledger, finished.seen, fun other => ?_⟩,
      stays, nofun⟩
    rw [Keyed.get?_put, Keyed.get?_put]
    split
    · rfl
    · exact acquired.held other

/-- At the same instant a request gets on in both or in neither. -/
theorem canStep (t : Ticket) (now : o'.now = o.now) {task task' seen : Task}
    (here : task.seen? = some seen) (there : task'.seen? = some seen) :
    (o'.stepTask (ρ t) task').isSome = (o.stepTask t task).isSome := by
  have goesOn {k : Ledger.Call.Kind} (stage : Ledger.Stage k) (due : Nat) (p p' : Purpose k) :
      (o'.stepTask (ρ t) (.atLedger k stage due p')).isSome =
        (o.stepTask t (.atLedger k stage due p)).isSome := by
    simp only [stepTask]
    rw [twin.mayResume inj t stage due now]
    split <;> rfl
  rcases Task.eq_of_seen here there with rfl | ⟨kind, stage, due, p, p', rfl, rfl, -⟩
  · cases task' with
    | atLedger kind stage due p => exact goesOn stage due p p
    | pausing event request retries due =>
        simp only [stepTask, now]
        split <;> rfl
    | holding key =>
        simp only [stepTask, twin.canHold inj]
        split <;> rfl
    | _ => first | rfl | cases here
  · exact goesOn stage due p p'

/-- A request that is given up is given up in the twin. -/
theorem abandon {seen : Task} (at_ : o.seen? t = some seen) :
    Twin ρ (o.abandon t) (o'.abandon (ρ t)) := by
  obtain ⟨task, here, same⟩ := Option.bind_eq_some_iff.mp at_
  obtain ⟨task', there, same'⟩ := Option.bind_eq_some_iff.mp ((twin.seen t).trans at_)
  unfold Office.abandon
  rw [here, there]
  rcases Task.eq_of_seen same same' with rfl | ⟨kind, stage, due, p, p', rfl, rfl, -⟩
  · cases task' with
    | atLedger kind stage due p =>
        exact (twin.withLedger (twin.abandoned inj t stage)).erase inj t
    | settling run => cases same
    | holding key => exact (twin.leave inj t key).erase inj t
    | _ => exact twin.erase inj t
  · exact (twin.withLedger (twin.abandoned inj t stage)).erase inj t

/-- A request that is made in both is known by the next ticket of each. -/
theorem ask (r : Request) (next : o'.tickets = ρ o.tickets)
    (fresh : o.task? o.tickets = none) (fresh' : o'.task? o'.tickets = none) :
    Twin ρ (o.ask r).2 (o'.ask r).2 where
  setup := twin.setup
  idsDrawn := twin.idsDrawn
  ledger := twin.ledger
  seen t := by
    unfold seen?
    by_cases own : t = o.tickets
    · rw [own, task?_ask r fresh, ← next, task?_ask r fresh']
    · have other : ρ t ≠ o'.tickets := fun same => own (inj (same.trans next))
      rw [task?_ask_of_ne o r own, task?_ask_of_ne o' r other]
      exact twin.seen t
  held := twin.held

end Twin

/-! ### Requests that get on in both -/

namespace Abreast

variable (abreast : Abreast ρ o o') (inj : Function.Injective ρ)
include abreast

theorem withLedger {l l' : Ledger} (same : l'.veiled id = l.veiled ρ) :
    Abreast ρ { o with ledger := l } { o' with ledger := l' } :=
  ⟨abreast.twin.withLedger same, abreast.now, abreast.clock⟩

theorem dueOf (stage : Ledger.Stage k) : o'.dueOf stage = o.dueOf stage := by
  have hold : o'.ledger.hold = o.ledger.hold := congrArg (·.hold) abreast.twin.ledger
  cases stage <;> simp only [Office.dueOf, abreast.now, hold]

theorem start (t : Ticket) (unpaid : k ≠ .payment) (c : Ledger.Call k) :
    Ledger.veiledStep id (o'.ledger.start (ρ t) o'.setup.scan o'.clock c) =
      Ledger.veiledStep ρ (o.ledger.start t o.setup.scan o.clock c) := by
  rw [abreast.twin.setup, abreast.clock]
  exact abreast.twin.carry (·.start (ρ t) o.setup.scan o.clock c)
    (Ledger.start_veiled ρ unpaid _ _ c) (Ledger.start_veiled id unpaid _ _ c)

include inj

theorem agree_view (t : Ticket) (b b' : Booking) (row : Option EventRow) :
    Agree ρ t false (deliver.view t o b row) (deliver.view (ρ t) o' b' row) := by
  cases row <;> exact abreast.twin.agree_finish inj t nofun

theorem deliver (t : Ticket) {x x' : k.Answer} {p p' : Purpose k}
    (same : Ledger.Call.Kind.veiled x' = Ledger.Call.Kind.veiled x)
    (purpose : p'.veiled = p.veiled) :
    Agree ρ t k.changes (o.deliver t x p) (o'.deliver (ρ t) x' p') := by
  have twin := abreast.twin
  cases p with
  | answer =>
      obtain rfl : p' = .answer := by cases p' <;> first | rfl | cases purpose
      exact twin.agree_finish inj t fun changes => by rw [answer_eq_of_veiled changes same]
  | announce a =>
      obtain rfl : p' = .announce a := by cases p' <;> cases purpose; rfl
      obtain rfl : x' = x := same
      cases x' with
      | error e => exact twin.agree_finish inj t fun _ => rfl
      | ok row => exact twin.agree_setTask inj t rfl rfl
  | attempt event request retries =>
      obtain rfl : p' = .attempt event request retries := by cases p' <;> cases purpose; rfl
      obtain rfl : x' = x := same
      simp only [Office.deliver, twin.setup, abreast.now]
      split
      · exact twin.agree_setTask inj t rfl rfl
      · exact twin.agree_finishBooking inj t _ _ _
      · exact twin.agree_finish inj t fun _ => rfl
      · exact twin.agree_setTask inj t rfl rfl
  | lookUp wanted =>
      obtain rfl : p' = .lookUp wanted := by cases p' <;> cases purpose; rfl
      cases x with
      | none =>
          obtain rfl : x' = none := Option.map_eq_none_iff.mp same
          exact twin.agree_finish inj t fun _ => rfl
      | some b =>
          obtain ⟨b', rfl, -⟩ := Option.map_eq_some_iff.mp same
          have same : b'.veiled = b.veiled := Option.some.inj same
          have event : b'.eventId = b.eventId :=
            show b'.veiled.eventId = b.veiled.eventId by rw [same]
          have started := abreast.start t (k := .event) (by decide) (.findEvent b.eventId)
          simp only [Office.deliver, event]
          rcases Ledger.cases_of_veiledStep started with
            ⟨row, row', l, l', here, there, rfl, ledger⟩ | ⟨stage, l, l', here, there, ledger⟩
          · rw [here, there]
            exact (abreast.withLedger ledger).agree_view inj t b b' _
          · rw [here, there]
            refine (twin.withLedger ledger).agree_setTask inj t rfl ?_
            simp only [Task.seen?, Purpose.veiled, same, abreast.now]
  | view b =>
      obtain ⟨b', rfl⟩ : ∃ b', p' = .view b' := by
        cases p' <;> first | exact ⟨_, rfl⟩ | cases purpose
      obtain rfl : x' = x := same
      exact abreast.agree_view inj t b b' x'

theorem proceed (t : Ticket) (p : Purpose k) {result result' : Ledger.Progress k × Ledger}
    (same : Ledger.veiledStep id result' = Ledger.veiledStep ρ result) :
    Agree ρ t k.changes (o.proceed t p result) (o'.proceed (ρ t) p result') := by
  rcases Ledger.cases_of_veiledStep same with
    ⟨x, x', l, l', rfl, rfl, answer, ledger⟩ | ⟨stage, l, l', rfl, rfl, ledger⟩
  · exact (abreast.withLedger ledger).deliver inj t answer rfl
  · refine (abreast.twin.withLedger ledger).agree_setTask inj t rfl ?_
    rw [abreast.dueOf]

theorem call (t : Ticket) (unpaid : k ≠ .payment) (c : Ledger.Call k) (p : Purpose k) :
    Agree ρ t k.changes (o.call t c p) (o'.call (ρ t) c p) :=
  abreast.proceed inj t p (abreast.start t unpaid c)

theorem beginBooking (t : Ticket) (event user : PublicId) (seats : Nat)
    (seen : o'.events.find? event = o.events.find? event) :
    Agree ρ t true (o.beginBooking t event user seats)
      (o'.beginBooking (ρ t) event user seats) := by
  unfold Office.beginBooking
  rw [seen]
  split
  · exact abreast.twin.agree_finishBooking inj t _ _ _
  · split
    · exact abreast.twin.agree_finishBooking inj t _ _ _
    · exact abreast.twin.agree_setTask inj t rfl rfl

theorem chooseUser (t : Ticket) (event : EventSnapshot) (user : PublicId) (seats : Nat)
    (seen : o'.users.find? user = o.users.find? user) :
    Agree ρ t true (o.chooseUser t event user seats) (o'.chooseUser (ρ t) event user seats) := by
  have twin := abreast.twin
  have drawn := twin.drawId
  have ids : o'.drawId.1 = o.drawId.1 := congrArg (PublicId.sequential <| · + 1) twin.idsDrawn
  have setup : o'.drawId.2.setup = o.drawId.2.setup := drawn.setup
  have clock : o'.drawId.2.clock = o.drawId.2.clock := abreast.clock
  unfold Office.chooseUser
  rw [seen, abreast.clock]
  split
  · exact twin.agree_finishBooking inj t _ _ _
  · split
    · exact twin.agree_finishBooking inj t _ _ _
    · simp only [ids, setup, clock]
      split
      · exact drawn.agree_finish inj t fun _ => rfl
      · exact drawn.agree_setTask inj t rfl rfl

/-- The first step of a request that has a say in rows. -/
theorem begin_ (t : Ticket) {r : Request} (stands : r.isBystander = false)
    (seen : o'.sight (.asked r) = o.sight (.asked r)) :
    Agree ρ t r.changes (o.begin t r) (o'.begin (ρ t) r) := by
  cases r with
  | ledger kind c =>
      refine abreast.call inj t ?_ c .answer
      rintro rfl
      cases stands
  | register draft => exact abreast.call inj t (k := .row) nofun _ _
  | revise e revision => exact abreast.call inj t (k := .row) nofun _ _
  | remove e => exact abreast.call inj t (k := .row) nofun _ _
  | create event user seats =>
      exact abreast.beginBooking inj t event user seats (congrArg Sight.event seen)
  | find booking => exact abreast.call inj t (k := .booking) nofun _ _
  | hold key =>
      simp only [begin, abreast.twin.hasRow key]
      split
      · exact abreast.twin.agree_holdRow inj t key
      · exact abreast.twin.agree_finish inj t fun _ => rfl
  | _ => cases stands

theorem resume (t : Ticket) (stage : Ledger.Stage k) :
    Ledger.veiledStep id (o'.ledger.resume (ρ t) o'.clock stage) =
      Ledger.veiledStep ρ (o.ledger.resume t o.clock stage) := by
  rw [abreast.clock]
  exact abreast.twin.carry (·.resume (ρ t) o.clock stage) (Ledger.resume_veiled inj _ stage)
    (Ledger.resume_veiled Function.injective_id _ stage)

/-- A further step of a call on the ledger. -/
theorem step_atLedger (t : Ticket) (stage : Ledger.Stage k) (due : Nat) {p p' : Purpose k}
    (purpose : p'.veiled = p.veiled) :
    Option.Rel (Agree ρ t k.changes) (o.stepTask t (.atLedger k stage due p))
      (o'.stepTask (ρ t) (.atLedger k stage due p')) := by
  simp only [stepTask]
  rw [abreast.twin.mayResume inj t stage due abreast.now]
  split
  · refine .some ?_
    rcases Ledger.cases_of_veiledStep (abreast.resume inj t stage) with
      ⟨x, x', l, l', here, there, answer, ledger⟩ | ⟨stage', l, l', here, there, ledger⟩
    · rw [here, there]
      exact (abreast.withLedger ledger).deliver inj t answer purpose
    · rw [here, there]
      refine (abreast.twin.withLedger ledger).agree_setTask inj t rfl ?_
      simp only [Task.seen?, purpose]
  · exact .none

/-- A request gets on in both or in neither. -/
theorem step (t : Ticket) {task task' seen : Task} (here : task.seen? = some seen)
    (there : task'.seen? = some seen) (looked : o'.sight task' = o.sight task) :
    Option.Rel (Agree ρ t task.changes) (o.stepTask t task) (o'.stepTask (ρ t) task') := by
  have twin := abreast.twin
  rcases Task.eq_of_seen here there with rfl | ⟨kind, stage, due, p, p', rfl, rfl, purpose⟩
  · cases task' with
    | asked r =>
        have stands : r.isBystander = false := by
          cases bystander : r.isBystander with
          | false => rfl
          | true => simp [Task.seen?, bystander] at here
        exact .some (abreast.begin_ inj t stands looked)
    | atLedger kind stage due p => exact abreast.step_atLedger inj t stage due rfl
    | announcing row change =>
        exact .some ((twin.announce change).agree_finish inj t fun _ => rfl)
    | choosing event user seats =>
        exact .some (abreast.chooseUser inj t event user seats (congrArg Sight.user looked))
    | attempting event request retries =>
        exact .some (abreast.call inj t (k := .receipt) nofun _ _)
    | pausing event request retries due =>
        simp only [stepTask, abreast.now]
        split
        · exact .some (twin.agree_setTask inj t rfl rfl)
        · exact .none
    | announcingSeats event receipt =>
        exact .some ((twin.announce _).agree_setTask inj t rfl rfl)
    | handingOver event receipt =>
        exact .some ((twin.handOver receipt.booking).agree_finishBooking inj t _ _ _)
    | holding key =>
        simp only [stepTask, twin.canHold inj]
        split
        · exact .some (twin.agree_holdRow inj t key)
        · exact .none
    | _ => cases here
  · exact abreast.step_atLedger inj t stage due purpose

end Abreast

end Office

end BoxOffice
