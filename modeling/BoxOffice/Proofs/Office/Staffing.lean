import BoxOffice.Proofs.Office.Trail
import BoxOffice.Proofs.Pool.Breakdowns

/-!
# The pool of an office from move to move

The pool is given jobs by requests and from outside, its workers get on with them, and
requests and the application shut it down. `Staffs` says which of these a move is,
whatever else there is in the office. `Staffed` says what holds of a pool whose workers
nobody but the application may send away: every job that was taken waits, runs or has
ended, and nothing is left behind by the last worker.
-/

namespace BoxOffice

namespace Pool.Closes

variable {J R : Type} {p p' : Pool J R} {closing : Closing}

/-- A pool is shut whichever way a shutdown begins. -/
theorem shut (closes : p.Closes closing p') : p'.claimed = true ∧ p'.accepting = false := by
  cases closes with
  | past => exact ⟨rfl, rfl⟩
  | sends =>
      rw [aborted_eq]
      exact ⟨rfl, rfl⟩
  | waits => exact ⟨rfl, rfl⟩

/-- Whoever comes after the first one is told at once that all is well. -/
theorem ended (closes : p.Closes closing p') (claimed : p.claimed = true) :
    closing = .ended true := by
  cases closes with
  | past => rfl
  | sends first => cases first.symm.trans claimed
  | waits first => cases first.symm.trans claimed

/-- The workers are left alone, unless they are given no time. -/
theorem kept (closes : p.Closes closing p') (patient : closing ≠ .ended false) :
    p'.workers = p.workers ∧ p'.queue = p.queue := by
  cases closes with
  | past => exact ⟨rfl, rfl⟩
  | sends => exact absurd rfl patient
  | waits => exact ⟨rfl, rfl⟩

theorem isDeserted (closes : p.Closes closing p') (deserted : p.isDeserted = true) :
    p'.isDeserted = true := by
  cases closes with
  | past => exact deserted
  | sends =>
      rw [aborted_eq]
      exact isDeserted_dismissed _
  | waits => exact deserted

end Pool.Closes

namespace Office

open Ledger (Ticket)

/-! ### Jobs of a run -/

namespace Turn

/-- The job that is given to the pool in a turn, by a request or from outside. -/
def given? (x : Turn) : Option Settlement.Job :=
  match x.move with
  | .submit job => some job
  | _ => x.submission?

/-- The job that the pool takes in a turn. -/
def taken? (x : Turn) : Option Settlement.Job :=
  x.given?.filter fun job => (x.before.pool.submit job).isOk

/-- The job that ends in a turn, by itself, with a panic or at its deadline. -/
def endings (x : Turn) : List (Settlement.Job × Pool.Outcome) :=
  match x.move with
  | .turn (.worker i) =>
    match Pool.work poolHandler x.before.now i x.before.pool x.before with
    | some (event, _) => event.endings (x.before.pool.worker i)
    | none => []
  | _ => []

end Turn

/-- The jobs that the pool has taken. -/
def taken (turns : List Turn) : List Settlement.Job := turns.filterMap (·.taken?)

/-- The jobs that have ended, each with its outcome. -/
def endings (turns : List Turn) : List (Settlement.Job × Pool.Outcome) :=
  turns.flatMap (·.endings)

theorem taken_concat (turns : List Turn) (x : Turn) :
    taken (turns ++ [x]) = taken turns ++ x.taken?.toList := by
  unfold taken
  rw [List.filterMap_append, List.filterMap_cons]
  cases x.taken? <;> rfl

theorem endings_concat (turns : List Turn) (x : Turn) :
    endings (turns ++ [x]) = endings turns ++ x.endings := by
  simp [endings]

/-! ### Moves -/

/-- What a turn does to the pool, as long as it is not the application's, and whether a
request comes to await the workers. -/
inductive Staffs (x : Turn) : Prop
  | rests (pool : x.after.pool = x.before.pool) (ungiven : x.given? = none)
      (unended : x.endings = [])
      (awaits : ∀ t, x.after.stake t = .workers → x.before.stake t = .workers)
  | gives {job : Settlement.Job} (given : x.given? = some job)
      (pool : x.after.pool = (x.before.pool.submit job).toOption.getD x.before.pool)
      (unended : x.endings = [])
      (awaits : ∀ t, x.after.stake t = .workers → x.before.stake t = .workers)
  | works {i : Nat} {event : Pool.Event} (works : x.before.pool.Works i event x.after.pool)
      (ungiven : x.given? = none) (endings : x.endings = event.endings (x.before.pool.worker i))
      (awaits : ∀ t, x.after.stake t = .workers → x.before.stake t = .workers)
  /-- A request shuts the pool down, and may come to wait for the workers. -/
  | closes {t : Ticket} {closing : Pool.Closing}
      (closes : x.before.pool.Closes closing x.after.pool)
      (ungiven : x.given? = none) (unended : x.endings = [])
      (others : ∀ u, u ≠ t → x.after.stake u = .workers → x.before.stake u = .workers)
      (waiting : x.after.stake t = .workers → ∃ deadline, closing = .waiting deadline)
  /-- A request that has waited for the workers sends them away. -/
  | aborts {t : Ticket} (waited : x.before.stake t = .workers)
      (pool : x.after.pool = x.before.pool.aborted)

section Moves

variable {o o' : Office} {m : Move} {t : Ticket}

theorem setsUp_poolHandler : poolHandler.SetsUp := fun _ _ => rfl

theorem works_of_stepWorker {i : Nat} (step : o.stepWorker i = some o') :
    ∃ event, o.pool.Works i event o'.pool ∧
      (⟨.turn (.worker i), o, o'⟩ : Turn).endings = event.endings (o.pool.worker i) := by
  unfold stepWorker at step
  obtain ⟨⟨event, pool, o₁⟩, worked, rfl⟩ := Option.map_eq_some_iff.mp step
  refine ⟨event, Pool.works_of_work setsUp_poolHandler worked, ?_⟩
  simp only [Turn.endings, worked]

/-- A request that does not have its turn does not come to await the workers. -/
theorem awaits_of_move (backed : IsBacked o) (other : m.isBy t = false)
    (moved : m.apply o = some o') (awaits : o'.stake t = .workers) : o.stake t = .workers := by
  rcases task?_of_move backed other moved with same | ⟨-, gone⟩ | ⟨r, -, -, asked⟩
  · exact (stake_congr same).symm.trans awaits
  · cases (stake_of_none gone).symm.trans awaits
  · have plain := (stake_of_task asked).symm.trans awaits
    rw [stake_asked] at plain
    split at plain <;> cases plain

/-- A booking or a settlement without the service stays one, or is over. -/
theorem stake_of_own {task : Task} (own : task.stake = .own)
    (step : o.stepTask t task = some o') : o'.stake t ≠ .workers := by
  have carried {k : Ledger.Call.Kind} (due : Ledger.Stage k → Nat)
      (result : Ledger.Progress k × Ledger) :
      (o.carriedOn t .answer due result).stake t ≠ .workers := by
    obtain ⟨progress, l⟩ := result
    cases progress with
    | done answer =>
        have ends : (o.carriedOn t .answer due (.done answer, l)).stake t = .nothing := by
          cases k <;> exact stake_finish _ t _
        rw [ends]
        simp
    | further stage =>
        have goes : (o.carriedOn t .answer due (.further stage, l)).stake t =
            (Task.atLedger k stage (due stage) .answer).stake := stake_setTask _ t _
        rw [goes]
        cases k <;> simp [Task.stake]
  cases task with
  | asked r =>
      cases step
      cases r with
      | ledger kind call =>
          simp only [Office.begin, call_eq]
          exact carried _ _
      | settle job =>
          have goes : (o.begin t (.settle job)).stake t = .own := stake_setTask o t _
          rw [goes]
          simp
      | _ => cases own
  | atLedger kind stage due purpose =>
      rw [stepTask_atLedger step]
      cases purpose with
      | answer => exact carried _ _
      | _ => cases stage; cases own
  | settling run =>
      simp only [stepTask] at step
      obtain ⟨⟨progress, o₁⟩, -, rfl⟩ := Option.map_eq_some_iff.mp step
      simp only
      split
      · rw [stake_setTask]
        simp [Task.stake]
      · rw [stake_finish]
        simp
      · rw [stake_finish]
        simp
  | _ => cases own

/-- What a turn of a request does to the pool. -/
theorem staffs_of_stepTask (backed : IsBacked o) {task : Task} (at_ : o.task? t = some task)
    (step : o.stepTask t task = some o') : Staffs ⟨.turn (.caller t), o, o'⟩ := by
  have moved : Move.apply o (.turn (.caller t)) = some o' :=
    (congrArg (Option.bind · (o.stepTask t)) at_).trans step
  have before := stake_of_task at_
  have others (u : Ticket) (other : u ≠ t) (awaits : o'.stake u = .workers) :
      o.stake u = .workers :=
    awaits_of_move backed (m := .turn (.caller t)) (isBy_of_ne (beq_self_eq_true t) other) moved
      awaits
  have awaits (own : o'.stake t = .workers → task.stake = .workers) (u : Ticket)
      (awaits : o'.stake u = .workers) : o.stake u = .workers := by
    by_cases same : u = t
    · subst same
      exact before.trans (own awaits)
    · exact others u same awaits
  have given : (⟨.turn (.caller t), o, o'⟩ : Turn).given? =
      task.hands?.map fun b => .ofBooking b o.drawId.1 := submission?_eq o' at_
  by_cases own : task.stake = .own
  · have stock : o'.stock = o.stock := by
      refine stock_stepTask ?_ step
      cases task with
      | asked r => cases r <;> first | rfl | cases own
      | _ => first | rfl | cases own
    have keeps : task.hands? = none := Task.hands?_of_clear (by rw [own]; rfl)
    refine .rests (congrArg Stock.pool stock) (by rw [given, keeps, Option.map_none]) rfl
      (awaits fun waits => absurd waits (stake_of_own own step))
  · cases trades_of_step backed at_ own step with
    | rests keeps _ stock stake =>
        refine .rests (congrArg Stock.pool stock) (by rw [given, keeps, Option.map_none]) rfl
          (awaits fun waits => ?_)
        rcases stake with same | ⟨gone, -⟩
        · exact same.symm.trans waits
        · cases gone.symm.trans waits
    | draws empty _ stock stake =>
        have keeps : task.hands? = none := Task.hands?_of_clear (by rw [empty]; rfl)
        refine .rests (congrArg Stock.pool stock) (by rw [given, keeps, Option.map_none]) rfl
          (awaits fun waits => ?_)
        rcases stake with stake | stake <;> cases stake.symm.trans waits
    | makes drawn _ stock stake =>
        have keeps : task.hands? = none := Task.hands?_of_clear (by rw [drawn]; rfl)
        refine .rests (congrArg Stock.pool stock) (by rw [given, keeps, Option.map_none]) rfl
          (awaits fun waits => ?_)
        cases stake.symm.trans waits
    | @hands event receipt task_ _ stock stake =>
        subst task_
        have pool := congrArg Stock.pool (stock.trans (stock_handOver o receipt.booking))
        refine .gives given pool rfl (awaits fun waits => ?_)
        cases stake.symm.trans waits
    | @closes grace task_ _ stock _ stake =>
        subst task_
        have pool : o'.pool = (o.closePool grace).2.pool := congrArg Stock.pool stock
        have closes := closes_of_closePool o grace
        rw [← pool] at closes
        refine .closes closes given rfl others fun waits => ?_
        rcases stake with gone | ⟨-, waiting⟩
        · cases gone.symm.trans waits
        · exact waiting

/-- Every move but those of the application. -/
theorem staffs_of_move (backed : IsBacked o) (moved : m.apply o = some o')
    (step : m ≠ .turn .application) (hurry : m ≠ .hurry .application) : Staffs ⟨m, o, o'⟩ := by
  have awaits (nobody : ∀ t, m.isBy t = false) (t : Ticket) :=
    awaits_of_move backed (nobody t) moved
  by_cases aside : m.isAside = true
  · have nobody (t : Ticket) : m.isBy t = false := by
      refine Bool.eq_false_iff.mpr fun own => ?_
      rcases Move.eq_of_isBy own with rfl | rfl <;> cases aside
    have ungiven : (⟨m, o, o'⟩ : Turn).given? = none := by
      cases m with
      | turn a => cases a <;> first | rfl | cases aside
      | submit job => cases aside
      | _ => rfl
    have unended : (⟨m, o, o'⟩ : Turn).endings = [] := by
      cases m with
      | turn a => cases a <;> first | rfl | cases aside
      | _ => rfl
    exact .rests (congrArg Stock.pool (stock_of_aside aside moved)) ungiven unended (awaits nobody)
  · cases m with
    | turn a =>
        cases a with
        | caller t =>
            obtain ⟨task, at_, step⟩ := Option.bind_eq_some_iff.mp moved
            exact staffs_of_stepTask backed at_ step
        | worker i =>
            obtain ⟨event, works, endings⟩ := works_of_stepWorker moved
            exact .works works rfl endings (awaits fun _ => rfl)
        | application => exact absurd rfl step
        | _ => exact absurd rfl aside
    | hurry a =>
        cases a with
        | caller t =>
            obtain ⟨deadline, at_, rfl⟩ := hurried_of_move moved
            exact .aborts (stake_of_task at_) rfl
        | application => exact absurd rfl hurry
        | _ => cases moved
    | abandon t =>
        have kept := congrArg Stock.pool (congrArg Backdrop.stock (backdrop_abandon o t))
        have awaits := awaits fun _ => rfl
        cases moved
        exact .rests kept rfl rfl awaits
    | submit job =>
        have awaits := awaits fun _ => rfl
        cases moved
        refine .gives rfl ?_ rfl awaits
        unfold submit
        cases o.pool.submit job <;> rfl
    | _ => exact absurd rfl aside

end Moves

/-! ### A pool that nobody else sees off -/

/-- No job is lost, and no request awaits the workers. -/
structure Staffed (turns : List Turn) (o : Office) : Prop where
  jobs : (taken turns).Perm ((endings turns).map (·.1) ++ (o.pool.running ++ o.pool.queue))
  /-- The last worker goes only when nothing waits. -/
  bare : o.pool.isDeserted = true → o.pool.queue = []
  alone : ∀ t, o.stake t ≠ .workers

section Staffed

variable {x : Turn} {turns : List Turn} {o o' : Office}

theorem Staffed.opened (setup : Setup) (clock : Timestamp) (sizing : Pool.Sizing)
    (decider : Settlement.Decider) (consumers : List Consumer) (application : Option Application) :
    Staffed [] (Office.opened setup clock sizing decider consumers application) where
  jobs := by
    have idle : (Pool.ofSizing sizing : Pool Settlement.Job Settlement.Run).running = [] := by
      simp [Pool.running, Pool.ofSizing, Pool.Worker.job?]
    have none_ :
        (Office.opened setup clock sizing decider consumers application).pool.running = [] := idle
    rw [none_]
    exact .refl _
  bare _ := rfl
  alone t := by
    rw [stake_of_none rfl]
    simp

/-- When no worker is left, every job that was taken has ended. -/
theorem Staffed.done (staffed : Staffed turns o) (deserted : o.pool.isDeserted = true) :
    (taken turns).Perm ((endings turns).map (·.1)) := by
  have jobs := staffed.jobs
  rw [Pool.running_of_isDeserted deserted, staffed.bare deserted] at jobs
  simpa using jobs

/-- A turn that neither takes nor ends a job leaves the pool as it is staffed. -/
theorem Staffed.still (staffed : Staffed turns x.before) (untaken : x.taken? = none)
    (unended : x.endings = []) (workers : x.after.pool.workers = x.before.pool.workers)
    (queue : x.after.pool.queue = x.before.pool.queue)
    (alone : ∀ t, x.after.stake t ≠ .workers) : Staffed (turns ++ [x]) x.after where
  jobs := by
    have running : x.after.pool.running = x.before.pool.running := by
      rw [Pool.running, workers, Pool.running]
    rw [taken_concat, endings_concat, untaken, unended, running, queue]
    simpa using staffed.jobs
  bare deserted := by
    rw [Pool.isDeserted, workers] at deserted
    rw [queue]
    exact staffed.bare deserted
  alone := alone

/-- A turn in which the pool is given a job. -/
theorem Staffed.given (staffed : Staffed turns x.before) {job : Settlement.Job}
    (given : x.given? = some job)
    (pool : x.after.pool = (x.before.pool.submit job).toOption.getD x.before.pool)
    (unended : x.endings = []) (alone : ∀ t, x.after.stake t ≠ .workers) :
    Staffed (turns ++ [x]) x.after := by
  have submitted := Pool.submission x.before.pool job
  have taken : x.taken? =
      Option.filter (fun job => (x.before.pool.submit job).isOk) (some job) := by
    rw [Turn.taken?, given]
  rw [Option.filter_some] at taken
  generalize x.before.pool.submit job = answer at submitted pool taken
  cases submitted with
  | takes opened room =>
      refine ⟨?_, fun deserted => ?_, alone⟩
      · have running : x.after.pool.running = x.before.pool.running := by
          rw [pool]
          rfl
        have queue : x.after.pool.queue = x.before.pool.queue ++ [job] := by
          rw [pool]
          rfl
        have took : x.taken? = some job := taken
        have more := staffed.jobs.append_right [job]
        rw [taken_concat, endings_concat, took, unended, running, queue]
        simpa [List.append_assoc] using more
      · rw [pool] at deserted
        have gone : x.before.pool.isDeserted = true := deserted
        simp [Pool.isOpen, gone] at opened
  | busy opened full =>
      exact staffed.still taken unended (by rw [pool]; rfl) (by rw [pool]; rfl) alone
  | closed closed =>
      exact staffed.still taken unended (by rw [pool]; rfl) (by rw [pool]; rfl) alone

/-- A turn of a worker. -/
theorem Staffed.worked (staffed : Staffed turns x.before) {i : Nat} {event : Pool.Event}
    (works : x.before.pool.Works i event x.after.pool) (untaken : x.taken? = none)
    (ended : x.endings = event.endings (x.before.pool.worker i))
    (alone : ∀ t, x.after.stake t ≠ .workers) : Staffed (turns ++ [x]) x.after where
  jobs := by
    have before : (taken turns).Perm ((endings turns).map (·.1) ++
        ((event.taken x.before.pool.queue ++ x.before.pool.running) ++ x.after.pool.queue)) := by
      have jobs := staffed.jobs
      rw [works.queue_eq] at jobs
      rw [List.append_assoc]
      exact jobs.trans (List.perm_append_comm_assoc .. |>.append_left _)
    have after := before.trans ((works.perm.append_right x.after.pool.queue).append_left _)
    rw [taken_concat, endings_concat, untaken, ended, List.map_append, Option.toList_none,
      List.append_nil, List.append_assoc]
    rw [List.append_assoc] at after
    exact after.trans (List.perm_append_comm_assoc .. |>.append_left _)
  bare := works.bare
  alone := alone

/-- A pool that was shut down by the application, or by nobody yet, stays staffed. -/
theorem Staffed.turn (staffed : Staffed turns x.before) (staffs : Staffs x)
    (calm : x.before.pool.claimed = true ∨ x.after.pool.claimed = false) :
    Staffed (turns ++ [x]) x.after := by
  have untaken (ungiven : x.given? = none) : x.taken? = none := by
    rw [Turn.taken?, ungiven, Option.filter_none]
  cases staffs with
  | rests pool ungiven unended awaits =>
      exact staffed.still (untaken ungiven) unended (by rw [pool]) (by rw [pool]) fun t waits =>
        staffed.alone t (awaits t waits)
  | gives given pool unended awaits =>
      exact staffed.given given pool unended fun t waits => staffed.alone t (awaits t waits)
  | works works ungiven endings awaits =>
      exact staffed.worked works (untaken ungiven) endings fun t waits =>
        staffed.alone t (awaits t waits)
  | @closes t closing closes ungiven unended others waiting =>
      have claimed : x.before.pool.claimed = true := by
        rcases calm with claimed | unclaimed
        · exact claimed
        · cases closes.shut.1.symm.trans unclaimed
      have told := closes.ended claimed
      obtain ⟨workers, queue⟩ := closes.kept (by simp [told])
      refine staffed.still (untaken ungiven) unended workers queue fun u waits => ?_
      by_cases own : u = t
      · subst own
        obtain ⟨_, waits⟩ := waiting waits
        cases told.symm.trans waits
      · exact staffed.alone u (others u own waits)
  | aborts waited => exact absurd waited (staffed.alone _)

/-- A pool that is shut stays shut. -/
theorem Staffs.shut (staffs : Staffs x) :
    (x.before.pool.claimed = true → x.after.pool.claimed = true) ∧
      (x.before.pool.accepting = false → x.after.pool.accepting = false) := by
  cases staffs with
  | rests pool => simp [pool]
  | @gives job _ pool =>
      have submitted := Pool.submission x.before.pool job
      generalize x.before.pool.submit job = answer at submitted pool
      rw [pool]
      cases submitted <;> exact ⟨id, id⟩
  | works works => simp [works.claimed_eq, works.accepting_eq]
  | closes closes => exact ⟨fun _ => closes.shut.1, fun _ => closes.shut.2⟩
  | aborts _ pool =>
      rw [pool, Pool.aborted_eq]
      exact ⟨id, id⟩

/-- As long as nobody has shut the pool down, no turn loses a job. -/
theorem Staffs.staffed (staffs : Staffs x)
    (staffed : x.before.pool.claimed = false → Staffed turns x.before)
    (unclaimed : x.after.pool.claimed = false) : Staffed (turns ++ [x]) x.after := by
  have before : x.before.pool.claimed = false := Bool.eq_false_iff.mpr fun claimed => by
    cases (staffs.shut.1 claimed).symm.trans unclaimed
  exact (staffed before).turn staffs (.inr unclaimed)

/-- Workers that are gone stay so. -/
theorem Staffs.deserted (staffs : Staffs x) (deserted : x.before.pool.isDeserted = true) :
    x.after.pool.isDeserted = true := by
  cases staffs with
  | rests pool => rw [pool, deserted]
  | @gives job _ pool =>
      have submitted := Pool.submission x.before.pool job
      generalize x.before.pool.submit job = answer at submitted pool
      rw [pool]
      cases submitted <;> exact deserted
  | works works => exact (Pool.not_works deserted works).elim
  | closes closes => exact closes.isDeserted deserted
  | aborts _ pool =>
      rw [pool, Pool.aborted_eq]
      exact Pool.isDeserted_dismissed _

end Staffed

end Office

end BoxOffice
