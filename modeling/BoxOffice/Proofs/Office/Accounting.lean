import BoxOffice.Proofs.Office.Jobs
import BoxOffice.Proofs.Office.Settlement

/-!
# All jobs are accounted for

As long as no worker is sent away, a job that the pool took waits, is run, or has
become a payment, and what was decided is about jobs that are run or were paid as
decided. The ledger does not refuse a payment that a worker brings: its booking is
stored, nobody holds the row, and the booking is pending, since no booking is
submitted twice. So a step of a worker moves a job from the queue to the worker and
from the worker to the payments and loses none on the way.
-/

namespace BoxOffice.Office

open Ledger (Ticket Books)

/-! ### All jobs are accounted for -/

/-- The jobs that wait, are run, or have become payments. -/
def jobsOf (p : Pool Settlement.Job Settlement.Run) (l : Ledger) : List Settlement.Job :=
  p.queue ++ p.running ++ l.payments.map (·.job)

/-- What was decided about jobs that are run or have become payments. -/
def verdictsOf (p : Pool Settlement.Job Settlement.Run) (l : Ledger) :
    List (Settlement.Job × Payment.Status) :=
  p.workers.filterMap verdict? ++ l.payments.map fun p => (p.job, p.status)

/-- Every job that the pool took waits, is run, or has become a payment, and every
decision is about such a job. -/
structure IsComplete (turns : List Turn) (o : Office) : Prop where
  jobs : (accepted turns).Perm (jobsOf o.pool o.ledger)
  verdicts : (decisions turns).Perm (verdictsOf o.pool o.ledger)

/-- No worker was sent away: the pool was not shut down, its first shutdown goes on, or
that one is over and all workers went in time. -/
def IsKept (turns : List Turn) (o : Office) : Prop :=
  o.pool.claimed = false ∨ (∃ a, o.Awaits a) ∨ ∃ x ∈ turns, x.Drains

/-- What all turns keep of the jobs and of whoever sees the workers off. -/
structure IsAccounted (turns : List Turn) (o : Office) : Prop where
  complete : IsKept turns o → IsComplete turns o
  charge : ∀ a, o.Awaits a → o.pool.claimed = true
  /-- One at most is in charge. -/
  alone : ∀ a b, o.Awaits a → o.Awaits b → a = b
  drained : ∀ x ∈ turns, x.Drains → o.pool.isDeserted = true
  /-- Nothing waits where nobody works. -/
  empty : o.pool.isDeserted = true → o.pool.queue = []

section Accounting

variable {first o o' : Office} {turns : List Turn} {x : Turn} {t : Ticket}

/-- Where no worker is sent away in the end, none was before the last turn. -/
theorem IsKept.before (kept : IsKept (turns ++ [x]) x.after) (manages : Manages x)
    (moved : x.move.apply x.before = some x.after) : IsKept turns x.before := by
  rcases kept with open_ | ⟨a, awaits⟩ | ⟨y, member, drains⟩
  · left
    refine Bool.eq_false_iff.mpr fun claimed => ?_
    cases open_.symm.trans (manages.claimed claimed)
  · rcases manages.awaits awaits with before | ⟨first, -, -⟩
    · exact .inr (.inl ⟨a, before⟩)
    · exact .inl first
  · rcases List.mem_append.mp member with early | last
    · exact .inr (.inr ⟨y, early, drains⟩)
    · rw [List.mem_singleton.mp last] at drains
      rcases (drains.spec moved).2 with first | awaits
      · exact .inl first
      · exact .inr (.inl awaits)

/-! ### Payments that cannot be refused -/

theorem perm_submissions (turns : List Turn) :
    (submissions turns).Perm (accepted turns ++ refused turns) := by
  induction turns with
  | nil => exact .refl _
  | cons x turns ih =>
      unfold submissions accepted refused at ih ⊢
      rw [List.filterMap_cons, List.filterMap_cons, List.filterMap_cons]
      unfold Turn.accepted? Turn.refused?
      cases x.submission? with
      | none => exact ih
      | some job =>
          rw [Option.filter_some, Option.filter_some]
          cases (x.before.pool.submit job).isOk with
          | true => exact ih.cons job
          | false => exact (ih.cons job).trans List.perm_middle.symm

/-- Bookings have different numbers. -/
theorem nodup_ids {b : Books} (numbered : b.IsNumbered) :
    (b.accounts.bills.map (·.bookingId)).Nodup := by
  have listed : b.accounts.bills.map (·.bookingId) =
      (List.range b.bookings.length).map fun i => ⟨(i : Int) + 1⟩ := by
    refine List.ext_getElem (by simp [Books.accounts]) fun i within _ => ?_
    have lt : i < b.bookings.length := by simpa [Books.accounts] using within
    have found : b.booking? ⟨(i : Int) + 1⟩ = some b.bookings[i] := by
      unfold Books.booking? Numbered.get?
      simp only
      rw [if_pos (by omega), show ((i : Int) + 1).toNat - 1 = i by omega]
      exact List.getElem?_eq_getElem lt
    simpa [Books.accounts, Booking.bill] using numbered.booking found
  rw [listed]
  refine List.Nodup.map (fun i j same => ?_) List.nodup_range
  have same := congrArg BookingId.number same
  simp only at same
  omega

namespace IsTraced

variable (traced : IsTraced turns o)

include traced

/-- No booking is submitted twice. -/
theorem nodup_submissions (numbered : o.ledger.books.IsNumbered) :
    ((submissions turns).map (·.bookingId)).Nodup := by
  have all := (traced.bills o.tickets (Nat.le_refl _)).map (·.bookingId)
  have nodup := all.nodup_iff.mp (nodup_ids numbered)
  rw [List.map_append, List.map_map] at nodup
  exact nodup.of_append_right

/-- What is submitted is the job of a stored booking. -/
theorem found (numbered : o.ledger.books.IsNumbered) {job : Settlement.Job}
    (submitted : job ∈ submissions turns) :
    ∃ booking, o.ledger.books.booking? job.bookingId = some booking ∧ booking.bill = job.bill := by
  have all := traced.bills o.tickets (Nat.le_refl _)
  have listed : job.bill ∈ o.ledger.books.accounts.bills :=
    all.mem_iff.mpr (List.mem_append_right _ (List.mem_map_of_mem submitted))
  obtain ⟨booking, member, same⟩ := List.mem_map.mp listed
  have id : booking.id = job.bookingId := congrArg Bill.bookingId same
  exact ⟨booking, id ▸ numbered.booking?_id member, same⟩

end IsTraced

/-- A payment for a job that a worker runs is not refused: its booking is stored, nobody
holds the row, and no other job has settled it. -/
theorem records_of_recording {i : Nat} {job : Settlement.Job} {d : Payment.Draft} {retries : Nat}
    {deadline : Option Nat} (complete : IsComplete turns o) (traced : IsTraced turns o)
    (numbered : o.ledger.books.IsNumbered) (once : o.ledger.books.IsSettledOnce) (about : d.job = job)
    (free : ∀ c ∈ o.ledger.bookings, c.lock.isFree = true)
    (busy : o.pool.workers[i]? = some (.running job (.recording d retries) deadline)) :
    ∃ p l, o.ledger.settle d o.clock = .ok (p, l) := by
  have running : job ∈ o.pool.running :=
    List.mem_filterMap.mpr ⟨_, List.mem_of_getElem? busy, rfl⟩
  have taken : job ∈ accepted turns :=
    complete.jobs.mem_iff.mpr (List.mem_append_left _ (List.mem_append_right _ running))
  have submitted := (perm_submissions turns).mem_iff.mpr (List.mem_append_left _ taken)
  obtain ⟨booking, found, -⟩ := traced.found numbered submitted
  rw [Ledger.booking?_books] at found
  obtain ⟨cell, at_, rfl⟩ := Option.map_eq_some_iff.mp found
  have found : o.ledger.books.booking? job.bookingId = some cell.row := by
    rw [Ledger.booking?_books, at_, Option.map_some]
  have named : d.bookingId = job.bookingId := congrArg Settlement.Job.bookingId about
  refine Ledger.settle_of_pending (named ▸ at_) (free cell (Numbered.mem_of_get? at_)) ?_
  rcases once.paid found with ⟨pending, -⟩ | ⟨p, paid, -⟩
  · exact pending
  · -- A payment of the booking would be for a second job that was taken.
    have member : p ∈ o.ledger.books.paymentsOf job.bookingId := paid ▸ List.mem_singleton_self p
    obtain ⟨member, same⟩ := List.mem_filter.mp member
    have nodup := traced.nodup_submissions numbered
    rw [((perm_submissions turns).map _).nodup_iff, List.map_append] at nodup
    have nodup := (complete.jobs.map (·.bookingId)).nodup_iff.mp nodup.of_append_left
    rw [jobsOf, List.map_append, List.map_append, List.map_map] at nodup
    have apart := (List.nodup_append.mp nodup).2.2
    have here := List.mem_append_right (o.pool.queue.map (·.bookingId))
      (List.mem_map_of_mem (f := (·.bookingId)) running)
    exact absurd (of_decide_eq_true same).symm
      (apart _ here _ (List.mem_map_of_mem (f := (·.bookingId) ∘ Payment.job) member))

/-! ### The books of the pool from turn to turn -/

/-- Jobs and verdicts, before and after a worker does something else, may have gone from
the queue to the worker and from the worker to the payments. -/
theorem perm_of_set {i : Nat} {w w' : Pool.Worker Settlement.Job Settlement.Run}
    {queue : List Settlement.Job} {l : Ledger} {paid : List Payment}
    {decided : Option (Settlement.Job × Payment.Status)} (found : o.pool.workers[i]? = some w)
    (payments : l.payments = o.ledger.payments ++ paid)
    (jobs : (queue ++ w'.job?.toList ++ paid.map (·.job)).Perm (o.pool.queue ++ w.job?.toList))
    (verdicts : ((verdict? w').toList ++ paid.map fun p => (p.job, p.status)).Perm
      ((verdict? w).toList ++ decided.toList)) :
    (jobsOf { o.pool with queue := queue, workers := o.pool.workers.set i w' } l).Perm
        (jobsOf o.pool o.ledger) ∧
      (verdictsOf { o.pool with queue := queue, workers := o.pool.workers.set i w' } l).Perm
        (verdictsOf o.pool o.ledger ++ decided.toList) := by
  have run := Pool.perm_running
    { o.pool with queue := queue, workers := o.pool.workers.set i w' } found rfl
  have heard : ((verdict? w).toList ++ (o.pool.workers.set i w').filterMap verdict?).Perm _ :=
    Pool.perm_filterMap_set verdict? found
  unfold jobsOf verdictsOf
  rw [payments, List.map_append, List.map_append]
  simp only [List.perm_iff_count, List.count_append] at jobs verdicts run heard ⊢
  constructor
  · intro job
    have jobs := jobs job
    have run := run job
    omega
  · intro v
    have verdicts := verdicts v
    have heard := heard v
    omega

/-- A step of a worker loses no job and no verdict, when no payment is refused. -/
theorem Toils.complete (o' : Office) {i : Nat} {p : Pool Settlement.Job Settlement.Run} {l : Ledger}
    (toils : Toils o i p l) (stays : o.StaysOn)
    (records : ∀ {job d retries deadline}, d.job = job →
      o.pool.workers[i]? = some (.running job (.recording d retries) deadline) →
      ∃ p l, o.ledger.settle d o.clock = .ok (p, l)) :
    (jobsOf p l).Perm (jobsOf o.pool o.ledger) ∧ (verdictsOf p l).Perm
      (verdictsOf o.pool o.ledger ++ (⟨.turn (.worker i), o, o'⟩ : Turn).decision?.toList) := by
  have about {job : Settlement.Job} {d : Payment.Draft} {retries : Nat} {deadline : Option Nat}
      (busy : o.pool.workers[i]? = some (.running job (.recording d retries) deadline)) :
      d.job = job := by
    obtain ⟨status, rfl⟩ := stays ⟨deadline, by rw [Pool.worker, busy, Option.getD_some]⟩
    rfl
  have decision {w : Pool.Worker Settlement.Job Settlement.Run}
      (found : o.pool.workers[i]? = some w) : (⟨.turn (.worker i), o, o'⟩ : Turn).decision? =
        (asks? w).bind fun job => (o.decide false).1.status?.map fun status => (job, status) := by
    simp only [Turn.decision?, Pool.worker, found, Option.getD_some]
  have unpaid : o.ledger.payments = o.ledger.payments ++ [] := (List.append_nil _).symm
  cases toils with
  | retires idle empty closed =>
      rw [decision idle]
      exact perm_of_set idle unpaid (.of_eq (by simp [Pool.Worker.job?])) (.refl _)
  | starts idle waits =>
      rw [decision idle]
      refine perm_of_set idle unpaid ?_ (.refl _)
      rw [waits]
      simp [Pool.Worker.job?]
  | decides busy decided =>
      rw [decision busy]
      refine perm_of_set busy unpaid (.of_eq (List.append_nil _)) ?_
      refine .of_eq ((List.append_nil _).trans ?_)
      exact congrArg Option.toList decided
  | @goesOn job run run' deadline busy unasked same =>
      have asks : asks? (.running job run deadline) = none := by
        cases run with
        | deciding asked => exact absurd rfl (unasked asked)
        | _ => rfl
      rw [decision busy, asks]
      refine perm_of_set busy unpaid (.of_eq (List.append_nil _)) (.of_eq ?_)
      exact congrArg (fun v => Option.toList v ++ []) same
  | @records job d retries deadline p l busy recorded =>
      obtain ⟨made, accounts⟩ := Ledger.paid_of_settle recorded
      have about : p.job = job := made ▸ about busy
      have verdict : (p.job, p.status) = (d.job, d.status) := made ▸ rfl
      rw [decision busy]
      refine perm_of_set busy (congrArg Ledger.Accounts.payments accounts) ?_ ?_
      · exact .of_eq (by simp [Pool.Worker.job?, about])
      · exact .of_eq (by simp [verdict?, asks?, Settlement.Run.verdict?, verdict])
  | fails busy refused =>
      obtain ⟨p, l, settled⟩ := records (about busy) busy
      cases settled.symm.trans refused

/-- A turn that adds to the jobs what the pool takes, and to the verdicts what is decided,
keeps them complete. -/
theorem IsComplete.turn (complete : IsComplete turns x.before)
    (jobs : (jobsOf x.after.pool x.after.ledger).Perm
      (jobsOf x.before.pool x.before.ledger ++ x.accepted?.toList))
    (verdicts : (verdictsOf x.after.pool x.after.ledger).Perm
      (verdictsOf x.before.pool x.before.ledger ++ x.decision?.toList)) :
    IsComplete (turns ++ [x]) x.after where
  jobs := by
    rw [accepted, filterMap_concat]
    exact (complete.jobs.append_right _).trans jobs.symm
  verdicts := by
    rw [decisions, filterMap_concat]
    exact (complete.verdicts.append_right _).trans verdicts.symm

/-- Such a turn, when nothing is taken or decided. -/
theorem IsComplete.still (complete : IsComplete turns x.before) (unaccepted : x.accepted? = none)
    (undecided : x.decision? = none)
    (payments : x.after.ledger.payments = x.before.ledger.payments)
    (queue : x.after.pool.queue = x.before.pool.queue)
    (running : x.after.pool.running = x.before.pool.running)
    (heard : x.after.pool.workers.filterMap verdict? = x.before.pool.workers.filterMap verdict?) :
    IsComplete (turns ++ [x]) x.after := by
  refine complete.turn (.of_eq ?_) (.of_eq ?_)
  · rw [unaccepted, jobsOf, queue, running, payments]
    exact (List.append_nil _).symm
  · rw [undecided, verdictsOf, heard, payments]
    exact (List.append_nil _).symm

/-- Where no worker is sent away in the end, whoever sends the workers away finds them
gone. -/
theorem IsAccounted.deserted (accounted : IsAccounted turns x.before)
    (kept : IsKept (turns ++ [x]) x.after) (moved : x.move.apply x.before = some x.after)
    {a : Actor} {p : Pool Settlement.Job Settlement.Run} (pool : x.after.pool = p.aborted)
    (charge : x.before.Awaits a ∧ p = x.before.pool ∨
      x.before.pool.claimed = false ∧ p = x.before.pool.closing)
    (awaits : ∀ b, x.after.Awaits b → x.before.Awaits b ∧ b ≠ a) :
    x.before.pool.isDeserted = true := by
  rcases kept with open_ | ⟨b, waits⟩ | ⟨y, member, drains⟩
  · rw [pool, Pool.aborted_eq] at open_
    rcases charge with ⟨charge, rfl⟩ | ⟨-, rfl⟩
    · cases open_.symm.trans (accounted.charge a charge)
    · cases open_
  · obtain ⟨before, other⟩ := awaits b waits
    rcases charge with ⟨charge, -⟩ | ⟨first, -⟩
    · exact absurd (accounted.alone b a before charge) other
    · cases first.symm.trans (accounted.charge b before)
  · rcases List.mem_append.mp member with early | last
    · exact accounted.drained y early drains
    · rw [List.mem_singleton.mp last] at drains
      exact (drains.spec moved).1

/-- Nobody does anything when all workers are gone. -/
theorem filterMap_gone {β : Type} {p : Pool Settlement.Job Settlement.Run}
    (f : Pool.Worker Settlement.Job Settlement.Run → Option β) (gone : f .gone = none)
    (deserted : p.isDeserted = true) : p.workers.filterMap f = [] := by
  refine List.filterMap_eq_nil_iff.mpr fun w member => ?_
  have away := List.all_eq_true.mp deserted w member
  cases w with
  | gone => exact gone
  | _ => cases away

/-- One more turn keeps the jobs complete, when no worker is sent away in the end. -/
theorem IsAccounted.complete_turn (accounted : IsAccounted turns x.before) (manages : Manages x)
    (moved : x.move.apply x.before = some x.after) (stays : x.before.StaysOn)
    (complete : IsComplete turns x.before) (records : ∀ {i job d retries deadline},
      x.move = .turn (.worker i) → d.job = job →
      x.before.pool.workers[i]? = some (.running job (.recording d retries) deadline) →
      ∃ p l, x.before.ledger.settle d x.before.clock = .ok (p, l))
    (kept : IsKept (turns ++ [x]) x.after) : IsComplete (turns ++ [x]) x.after := by
  cases manages with
  | rests pool payments unaccepted undecided =>
      exact complete.still unaccepted undecided payments (by rw [pool]) (by rw [pool]) (by rw [pool])
  | @takes job opened pool payments taken undecided =>
      refine complete.turn ?_ (.of_eq ?_)
      · rw [taken, jobsOf, jobsOf, pool, payments, Option.toList_some]
        simp only [List.perm_iff_count, List.count_append]
        intro job'
        show _ + _ + x.before.pool.running.count job' + _ = _
        omega
      · rw [undecided, verdictsOf, verdictsOf, pool, payments]
        exact (List.append_nil _).symm
  | @toils i move toils unaccepted =>
      obtain ⟨m, o, o'⟩ := x
      obtain rfl : m = .turn (.worker i) := move
      obtain ⟨jobs, verdicts⟩ := toils.complete o' stays (records rfl)
      refine complete.turn ?_ verdicts
      rw [unaccepted, Option.toList_none, List.append_nil]
      exact jobs
  | closes pool payments unaccepted undecided =>
      exact complete.still unaccepted undecided payments (by rw [pool]; rfl) (by rw [pool]; rfl)
        (by rw [pool]; rfl)
  | aborts pool charge payments unaccepted undecided awaits =>
      have deserted := accounted.deserted kept moved pool charge awaits
      have after : x.after.pool.isDeserted = true := by
        rw [pool]
        exact isDeserted_aborted _
      refine complete.still unaccepted undecided payments ?_ ?_ ?_
      · rw [accounted.empty deserted, pool, Pool.aborted_eq]
        rfl
      · exact (filterMap_gone _ rfl after).trans (filterMap_gone _ rfl deserted).symm
      · exact (filterMap_gone _ rfl after).trans (filterMap_gone _ rfl deserted).symm

/-- Whoever awaits the workers is the one who has shut the pool down first. -/
theorem IsAccounted.alone_turn (accounted : IsAccounted turns x.before) (manages : Manages x)
    {a b : Actor} (left : x.after.Awaits a) (right : x.after.Awaits b) : a = b := by
  have nobody (first : x.before.pool.claimed = false) (c : Actor) : ¬ x.before.Awaits c := by
    intro waits
    cases first.symm.trans (accounted.charge c waits)
  rcases manages.awaits left with before | ⟨first, -, own⟩
  · rcases manages.awaits right with before' | ⟨first, -, -⟩
    · exact accounted.alone a b before before'
    · exact absurd before (nobody first a)
  · rcases own b right with before | same
    · exact absurd before (nobody first b)
    · exact same.symm

/-- One more turn keeps all jobs accounted for. -/
theorem IsAccounted.turn (accounted : IsAccounted turns x.before) (manages : Manages x)
    (moved : x.move.apply x.before = some x.after) (stays : x.before.StaysOn)
    (records : IsComplete turns x.before → ∀ {i job d retries deadline},
      x.move = .turn (.worker i) → d.job = job →
      x.before.pool.workers[i]? = some (.running job (.recording d retries) deadline) →
      ∃ p l, x.before.ledger.settle d x.before.clock = .ok (p, l)) :
    IsAccounted (turns ++ [x]) x.after where
  complete kept :=
    have complete := accounted.complete (kept.before manages moved)
    accounted.complete_turn manages moved stays complete (records complete) kept
  charge a awaits := by
    rcases manages.awaits awaits with before | ⟨-, claimed, -⟩
    · exact manages.claimed (accounted.charge a before)
    · exact claimed
  alone _ _ := accounted.alone_turn manages
  drained y member drains := by
    refine manages.deserted ?_
    rcases List.mem_append.mp member with early | last
    · exact accounted.drained y early drains
    · rw [List.mem_singleton.mp last] at drains
      exact (drains.spec moved).1
  empty := manages.empty accounted.empty

/-! ### Runs -/

/-- In a new office nobody waits for the workers, unless its application began with it. -/
theorem IsNew.accounted (new : IsNew o) (runs : o.stock.draining = false) : IsAccounted [] o := by
  have nobody (a : Actor) : ¬ o.Awaits a := by
    intro waits
    cases a with
    | application => cases runs.symm.trans waits
    | caller t =>
        cases new
        cases waits
    | _ => exact waits
  cases new with
  | @opened setup scans clock sizing decider consumers application =>
      have idle {β : Type} (f : Pool.Worker Settlement.Job Settlement.Run → Option β)
          (none_ : f .idle = none) : (List.replicate sizing.workers .idle).filterMap f = [] := by
        refine List.filterMap_eq_nil_iff.mpr fun w member => ?_
        rw [List.eq_of_mem_replicate member, none_]
      refine ⟨fun _ => ⟨?_, ?_⟩, fun a awaits => ?_, fun a b awaits => ?_, fun x => ?_, fun _ => rfl⟩
      · exact .of_eq ((List.append_nil _).trans (idle Pool.Worker.job? rfl)).symm
      · exact .of_eq ((List.append_nil _).trans (idle verdict? rfl)).symm
      · exact absurd awaits (nobody a)
      · exact absurd awaits (nobody a)
      · exact fun member => absurd member List.not_mem_nil

/-- What an undisturbed run has come to is accounted for. -/
theorem Run.accounted (run : Run first turns o) (new : IsNew first)
    (runs : first.stock.draining = false) (undisturbed : IsUndisturbed turns) :
    IsAccounted turns o := by
  induction run with
  | start => exact new.accounted runs
  | @next turns o o' m run moved ih =>
      have accounted := ih undisturbed.init
      have traced := run.traced new undisturbed.init
      have last : (⟨m, o, o'⟩ : Turn) ∈ turns ++ [⟨m, o, o'⟩] :=
        List.mem_append_right _ (List.mem_singleton_self _)
      have backed := (run.isBacked new.isBacked).1
      have deals := deals_of_move backed traced.open_ (undisturbed.ordinary _ last)
        (undisturbed.decided _ last) moved
      refine accounted.turn (x := ⟨m, o, o'⟩) (manages_of_deals deals) moved (run.staysOn new) ?_
      intro complete i job d retries deadline move about busy
      exact records_of_recording complete traced backed.numbered (run.settledOnce new) about
        (undisturbed.free _ last i move) busy

end Accounting

end BoxOffice.Office
