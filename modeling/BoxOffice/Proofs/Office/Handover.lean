import BoxOffice.Proofs.Office.Accounting

/-!
# Settlements account for all bookings

A request for seats hands its booking over to the pool and is answered, whether the
pool takes the job or not; it neither waits for the pool nor fails because of it.
Once the first shutdown of the pool has seen all workers off in time, the bookings
that were paid are those whose jobs the pool took, each with one payment as decided,
and all others were refused, are still in the hands of their request, or were left
behind by a request that was given up.
-/

namespace BoxOffice.Office

open Ledger (Ticket Books)

/-! ### Requests and the pool -/

/-- The office as if its pool were new and nothing had been counted. -/
def unmanned (o : Office) : Office := { o with pool := .ofSizing .standard, metrics := .empty }

/-- Whatever the pool were like, the request would get on at the same time and in the
same way. -/
def IsUnhindered (o : Office) (t : Ticket) (task : Task) : Prop :=
  ∀ pool, ({ o with pool := pool }.stepTask t task).map unmanned = (o.stepTask t task).map unmanned

section Unhindered

variable {o : Office} {t : Ticket} {known : EventSnapshot} {r : Booking.Request} {task : Task}

/-- A booking is handed over under a new identifier, whether the pool takes it or not. -/
theorem unmanned_handOver (o : Office) (b : Booking) :
    (o.handOver b).unmanned = o.drawId.2.unmanned := by
  rw [handOver_eq]
  unfold submit
  cases o.drawId.2.pool.submit (.ofBooking b o.drawId.1) <;> rfl

theorem unmanned_deliver (pool : Pool Settlement.Job Settlement.Run) {retries : Nat}
    (answer : Ledger.Call.Kind.receipt.Answer) :
    ({ o with pool := pool }.deliver t answer (.attempt known r retries)).unmanned =
      (o.deliver t answer (.attempt known r retries)).unmanned := by
  simp only [deliver]
  split <;> rfl

theorem isUnhindered_asked (event user : PublicId) (seats : Nat) :
    IsUnhindered o t (.asked (.create event user seats)) := by
  intro pool
  simp only [stepTask, begin, beginBooking]
  split
  · rfl
  · split <;> rfl

theorem isUnhindered_choosing (user : PublicId) (seats : Nat) :
    IsUnhindered o t (.choosing known user seats) := by
  intro pool
  simp only [stepTask, chooseUser, drawId]
  split
  · rfl
  · split
    · rfl
    · split <;> rfl

theorem isUnhindered_trying (trying : Trying known r task) : IsUnhindered o t task := by
  intro pool
  cases trying with
  | attempting retries =>
      simp only [stepTask, call]
      generalize o.ledger.start t o.setup.scan o.clock (.book r) = result
      obtain ⟨progress, l⟩ := result
      cases progress with
      | done answer =>
          exact congrArg some (unmanned_deliver (o := { o with ledger := l }) pool answer)
      | further stage =>
          cases stage
          rfl
  | atLedger stage due retries =>
      simp only [stepTask]
      split
      · generalize o.ledger.resume t o.clock stage = result
        obtain ⟨progress, l⟩ := result
        cases progress with
        | done answer =>
            exact congrArg some (unmanned_deliver (o := { o with ledger := l }) pool answer)
        | further stage => rfl
      · rfl
  | pausing retries due =>
      simp only [stepTask]
      split <;> rfl

theorem isUnhindered_announcing (receipt : Booking.Receipt) :
    IsUnhindered o t (.announcingSeats known receipt) := by
  intro pool
  simp only [stepTask, announce, publish, drawMessageId]
  split
  · rfl
  · rfl

theorem isUnhindered_handing (receipt : Booking.Receipt) :
    IsUnhindered o t (.handingOver known receipt) := by
  intro pool
  have handed : ({ o with pool := pool }.handOver receipt.booking).unmanned =
      (o.handOver receipt.booking).unmanned := by
    rw [unmanned_handOver, unmanned_handOver]
    rfl
  exact congrArg (fun o => some (o.finishBooking t receipt.booking.seats
    (.ok (receipt.booking.view known.publicId))).unmanned) handed

theorem Stands.isUnhindered {event user : PublicId} {seats : Nat} {own : List Turn}
    (stands : Stands t event user seats o own) (at_ : o.task? t = some task) :
    IsUnhindered o t task := by
  cases stands with
  | asked here =>
      cases here.symm.trans at_
      exact isUnhindered_asked event user seats
  | choosing _ here =>
      cases here.symm.trans at_
      exact isUnhindered_choosing user seats
  | trying _ _ _ here trying =>
      cases here.symm.trans at_
      exact isUnhindered_trying trying
  | announcing _ _ _ _ here =>
      cases here.symm.trans at_
      exact isUnhindered_announcing _
  | handing _ _ _ _ _ here =>
      cases here.symm.trans at_
      exact isUnhindered_handing _

end Unhindered

/-- The pool makes no difference to requests for seats. -/
structure SparesRequests (turns : List Turn) (o : Office) : Prop where
  unhindered : ∀ before after event user seats o₁ o₂ task,
    turns = before ++ ⟨.ask (.create event user seats), o₁, o₂⟩ :: after →
    o.task? o₁.tickets = some task → IsUnhindered o o₁.tickets task
  /-- A request that is about to hand its booking over does so in its next turn and is
  answered with the booking. -/
  answered : ∀ t known receipt, o.task? t = some (.handingOver known receipt) →
    ∃ o', Move.apply o (.turn (.caller t)) = some o' ∧
      (⟨.turn (.caller t), o, o'⟩ : Turn).Ends t
        (.booking (.ok (receipt.booking.view known.publicId)))

/-! ### Bookings and payments -/

/-- The bookings that requests have made and not handed over yet. -/
def inHand (o : Office) : List Bill := (List.range o.tickets).filterMap fun t => (o.stake t).bill?

/-- The booking of a job has one payment, which is what was decided about the job and
nothing else was. -/
structure IsPaid (turns : List Turn) (o : Office) (job : Settlement.Job) (booking : Booking)
    (p : Payment) : Prop where
  found : o.ledger.books.booking? job.bookingId = some booking
  only : o.ledger.payments.filter (·.bookingId = job.bookingId) = [p]
  decided : (decisions turns).filter (·.1.bookingId = job.bookingId) = [(job, p.status)]
  status : booking.status = p.status.settles
  amount : p.amount = booking.total
  user : p.userId = booking.userId
  publicId : p.publicId = job.paymentPublicId

/-- The hand-over of bookings accounts for all of them. -/
structure AccountsForBookings (turns : List Turn) (o : Office) : Prop where
  /-- A booking is settled exactly when the pool took its job. -/
  settled : ∀ id booking, o.ledger.books.booking? id = some booking →
    (booking.status ≠ .pending ↔ ∃ job ∈ accepted turns, job.bookingId = id)
  paid : ∀ job ∈ accepted turns, ∃ booking p, IsPaid turns o job booking p
  /-- Where no identifier is drawn twice, no two bookings or payments share one. -/
  unique : o.drawn.Nodup → (o.ledger.books.bookings.map (·.publicId) ++
    o.ledger.payments.map (·.publicId)).Nodup
  /-- A booking is paid, its job was refused, or it was not handed over: it is in hand or
  was left behind. -/
  bills : (o.ledger.books.bookings.map (·.bill)).Perm (o.ledger.payments.map (·.job.bill) ++
    (refused turns).map (·.bill) ++ o.inHand ++ stranded turns)
  counted : o.inHand = [] → stranded turns = [] →
    o.ledger.books.bookings.length = o.ledger.payments.length + (refused turns).length

section Runs

variable {first o : Office} {turns : List Turn}

theorem Run.sparesRequests (run : Run first turns o) (new : IsNew first) : SparesRequests turns o := by
  constructor
  · intro before after event user seats o₁ o₂ task asked at_
    obtain ⟨-, told⟩ := run.told new asked
    cases told with
    | stands stands _ => exact stands.isUnhindered at_
    | gone idle _ _ => cases idle.symm.trans at_
  · intro t known receipt at_
    refine ⟨_, Option.bind_eq_some_iff.mpr ⟨_, at_, rfl⟩, ?_, ?_⟩
    · exact task?_finish (o.handOver receipt.booking) t
        (.booking (.ok (receipt.booking.view known.publicId)))
    · exact Keyed.get?_put_self t _ (o.handOver receipt.booking).answers

/-- When the workers are gone, what was taken was paid. -/
theorem IsAccounted.paid (accounted : IsAccounted turns o) {x : Turn} (member : x ∈ turns)
    (drains : x.Drains) : (accepted turns).Perm (o.ledger.payments.map (·.job)) ∧
      (decisions turns).Perm (o.ledger.payments.map fun p => (p.job, p.status)) := by
  have deserted := accounted.drained x member drains
  obtain ⟨jobs, verdicts⟩ := accounted.complete (.inr (.inr ⟨x, member, drains⟩))
  have running : o.pool.running = [] := filterMap_gone _ rfl deserted
  rw [jobsOf, accounted.empty deserted, running] at jobs
  rw [verdictsOf, filterMap_gone _ rfl deserted] at verdicts
  exact ⟨jobs, verdicts⟩

section Accounts

variable (traced : IsTraced turns o) (numbered : o.ledger.books.IsNumbered)
  (once : o.ledger.books.IsSettledOnce)
  (jobs : (accepted turns).Perm (o.ledger.payments.map (·.job)))

include jobs in
/-- What was submitted was paid or refused. -/
theorem perm_submissions_paid :
    (submissions turns).Perm (o.ledger.payments.map (·.job) ++ refused turns) :=
  (perm_submissions turns).trans (jobs.append_right _)

include once jobs in
/-- A booking is pending unless its job was taken. -/
theorem settled_iff {id : BookingId} {booking : Booking}
    (found : o.ledger.books.booking? id = some booking) :
    booking.status ≠ .pending ↔ ∃ job ∈ accepted turns, job.bookingId = id := by
  constructor
  · intro settled
    rcases once.paid found with ⟨pending, -⟩ | ⟨p, only, -⟩
    · exact absurd pending settled
    · have member : p ∈ o.ledger.books.paymentsOf id := only ▸ List.mem_singleton_self p
      obtain ⟨member, about⟩ := List.mem_filter.mp member
      exact ⟨p.job, jobs.mem_iff.mpr (List.mem_map_of_mem member), of_decide_eq_true about⟩
  · rintro ⟨job, taken, rfl⟩ pending
    obtain ⟨p, member, rfl⟩ := List.mem_map.mp (jobs.mem_iff.mp taken)
    rcases once.paid found with ⟨-, none_⟩ | ⟨p', -, status⟩
    · exact List.filter_eq_nil_iff.mp none_ p member (decide_eq_true rfl)
    · exact p'.status.settles_ne_pending (status.symm.trans pending)

include traced numbered once jobs in
/-- A booking whose job was taken has one payment, as decided. -/
theorem isPaid_of_accepted
    (verdicts : (decisions turns).Perm (o.ledger.payments.map fun p => (p.job, p.status)))
    {job : Settlement.Job} (taken : job ∈ accepted turns) :
    ∃ booking p, IsPaid turns o job booking p := by
  have submitted := (perm_submissions turns).mem_iff.mpr (List.mem_append_left _ taken)
  obtain ⟨booking, found, bill⟩ := traced.found numbered submitted
  obtain ⟨p, member, rfl⟩ := List.mem_map.mp (jobs.mem_iff.mp taken)
  have mine : p ∈ o.ledger.books.paymentsOf p.job.bookingId :=
    List.mem_filter.mpr ⟨member, decide_eq_true rfl⟩
  obtain ⟨-, none_⟩ | ⟨p', only, status⟩ := once.paid found
  · rw [none_] at mine
    cases mine
  · rw [only] at mine
    obtain rfl := List.mem_singleton.mp mine
    refine ⟨booking, p, found, only, ?_, status, ?_, ?_, rfl⟩
    · have here := verdicts.filter fun v => v.1.bookingId = p.job.bookingId
      rw [List.filter_map] at here
      have only : (o.ledger.payments.filter fun q => q.bookingId = p.bookingId) = [p] := only
      exact List.perm_singleton.mp (here.trans (.of_eq (congrArg (List.map _) only)))
    · exact (congrArg Bill.amount bill).symm
    · exact (congrArg Bill.userId bill).symm

include traced jobs in
/-- Identifiers of bookings and payments were drawn, each for one of them. -/
theorem nodup_names (fresh : o.drawn.Nodup) : (o.ledger.books.bookings.map (·.publicId) ++
    o.ledger.payments.map (·.publicId)).Nodup := by
  obtain ⟨names, same, within⟩ := traced.names o.tickets (Nat.le_refl _)
  have nodup := (same.nodup_iff.mp (within.nodup fresh)).of_append_left
  have submitted := (perm_submissions_paid jobs).map (·.paymentPublicId)
  rw [(submitted.append_left _).nodup_iff, List.map_append, List.map_map] at nodup
  exact nodup.sublist (.append_left (List.sublist_append_left _ _) _)

include traced jobs in
theorem perm_bills : (o.ledger.books.bookings.map (·.bill)).Perm
    (o.ledger.payments.map (·.job.bill) ++ (refused turns).map (·.bill) ++ o.inHand ++
      stranded turns) := by
  have bills := traced.bills o.tickets (Nat.le_refl _)
  have submitted := (perm_submissions_paid jobs).map (·.bill)
  rw [List.map_append, List.map_map] at submitted
  calc (o.ledger.books.bookings.map (·.bill)).Perm
        (o.inHand ++ stranded turns ++ (submissions turns).map (·.bill)) := bills
    _ |>.Perm ((submissions turns).map (·.bill) ++ (o.inHand ++ stranded turns)) :=
        List.perm_append_comm
    _ |>.Perm (o.ledger.payments.map (·.job.bill) ++ (refused turns).map (·.bill) ++
          (o.inHand ++ stranded turns)) := submitted.append_right _
    _ |>.Perm _ := .of_eq (List.append_assoc ..).symm

end Accounts

/-- The pool makes no difference to requests for seats, and when its first shutdown has
seen all workers off in time, all bookings are accounted for. -/
theorem Run.accountsForBookings (run : Run first turns o) (new : IsNew first)
    (runs : ∀ a, first.application = some a → a.stage = .running) :
    SparesRequests turns o ∧ (IsUndisturbed turns → (∃ x ∈ turns, x.Drains) →
      AccountsForBookings turns o) := by
  refine ⟨run.sparesRequests new, ?_⟩
  rintro undisturbed ⟨x, member, drains⟩
  have idle : first.stock.draining = false := by
    unfold stock
    cases application : first.application with
    | none => rfl
    | some a => simp [Application.isDraining, runs a application]
  have traced := run.traced new undisturbed
  have once := run.settledOnce new
  have numbered := (run.isBacked new.isBacked).1.numbered
  obtain ⟨jobs, verdicts⟩ := (run.accounted new idle undisturbed).paid member drains
  have bills := perm_bills traced jobs
  refine ⟨fun _ _ => settled_iff once jobs, fun _ => ?_, nodup_names traced jobs, bills,
    fun empty none_ => ?_⟩
  · exact isPaid_of_accepted traced numbered once jobs verdicts
  · have lengths := bills.length_eq
    rw [empty, none_] at lengths
    simpa using lengths

end Runs

/-- Identifiers are not drawn twice before they have gone round. -/
theorem nodup_drawn {o : Office} (few : o.idsDrawn ≤ 2 ^ 64) : o.drawn.Nodup := by
  refine List.Nodup.map_on (fun i early j late same => ?_) List.nodup_range
  have same := congrArg (fun id => id.bits.toNat) same
  simp only [PublicId.sequential, PublicId.ofNat, BitVec.toNat_ofNat, Nat.pow_eq] at same
  rw [List.mem_range] at early late
  omega

/-! ### A rush -/

/-- Whether nothing disturbs a turn. -/
def Turn.isUndisturbed (x : Turn) : Bool :=
  x.move.isOrdinary && match x.move with
    | .turn (.worker i) =>
      x.before.ledger.bookings.all (·.lock.isFree) && x.before.decidesInTime i
    | _ => true

theorem isUndisturbed_of_all {turns : List Turn} (all : turns.all (·.isUndisturbed) = true) :
    IsUndisturbed turns := by
  have calm (x : Turn) (member : x ∈ turns) :=
    Bool.and_eq_true_iff.mp (List.all_eq_true.mp all x member)
  have toils (x : Turn) (member : x ∈ turns) (i : Nat) (moved : x.move = .turn (.worker i)) :
      (x.before.ledger.bookings.all (·.lock.isFree) && x.before.decidesInTime i) = true := by
    have calm := (calm x member).2
    rwa [moved] at calm
  constructor
  · exact fun x member => (calm x member).1
  · intro x member i moved c cell
    exact List.all_eq_true.mp (Bool.and_eq_true_iff.mp (toils x member i moved)).1 c cell
  · exact fun x member i moved => (Bool.and_eq_true_iff.mp (toils x member i moved)).2

/-- An office with one worker and room for one job. -/
def booth : Office :=
  opened .standard .epoch (.of 1 1) (.fixed .success) [] (some (.ofTimeout (.ofSeconds 30)))

/-- Seats are sold twice before the worker gets on, and the pool is shut down. -/
def crowding : List Move :=
  sale ++ List.replicate 2 (.ask (.create (.ofNat 1) (.ofNat 2) 1)) ++
    List.replicate 6 (.turn (.caller 1)) ++ List.replicate 6 (.turn (.caller 2)) ++
    List.replicate 4 (.turn (.worker 0)) ++
    [.ask (.closePool (.ofSeconds 5)), .turn (.caller 3), .turn (.worker 0)]

/-- All turns up to the end of the shutdown. -/
def crowd : List Turn := booth.play crowding ++ (booth.played crowding).play [.turn (.caller 3)]

theorem run_crowd : Run booth crowd ((booth.played crowding).played [.turn (.caller 3)]) :=
  (Run.start.play (show booth.canPlay crowding = true by decide +kernel)).play (by decide +kernel)

theorem drains_crowd : ∃ x ∈ crowd, x.Drains :=
  ⟨⟨.turn (.caller 3), booth.played crowding, (booth.played crowding).played [.turn (.caller 3)]⟩,
    List.mem_append_right _ (List.mem_singleton_self _), .answered rfl rfl ⟨rfl, rfl⟩⟩

/-- One job is taken and one is refused. -/
theorem accountsForBookings_crowd :
    ((accepted crowd).length = 1 ∧ (refused crowd).length = 1) ∧
      ((booth.played crowding).played [.turn (.caller 3)]).drawn.Nodup ∧
      SparesRequests crowd ((booth.played crowding).played [.turn (.caller 3)]) ∧
      AccountsForBookings crowd ((booth.played crowding).played [.turn (.caller 3)]) := by
  obtain ⟨spares, accounts⟩ := run_crowd.accountsForBookings (.opened (fun _ => .refl _) _ _ _ _ _)
    fun a runs => Option.some.inj runs ▸ rfl
  refine ⟨by decide +kernel, nodup_drawn (by decide +kernel), spares, accounts ?_ drains_crowd⟩
  exact isUndisturbed_of_all (by decide +kernel)

end BoxOffice.Office
