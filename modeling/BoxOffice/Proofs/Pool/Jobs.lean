import Mathlib.Data.List.Perm.Basic
import BoxOffice.Proofs.Pool.Traffic

/-!
# What becomes of the jobs of a pool

Every job that a pool took waits, runs, or has ended, until the time that a
shutdown gives the workers runs out. The jobs start in the order in which they
were taken, for what was taken is what was started, followed by what waits.

A worker goes only from a closed pool in which nothing waits, when its jobs panic
no earlier than in their runs. So the pool is open until it is shut down, and
nothing is lost with the last worker.
-/

namespace BoxOffice.Pool

variable {J R σ : Type} {h : Handler J R σ} {s : Sizing}

/-! ### Workers -/

theorem worker_eq {p : Pool J R} {i : Nat} {w : Worker J R} (found : p.worker i = w)
    (present : w ≠ .gone) : p.workers[i]? = some w := by
  unfold worker at found
  cases read : p.workers[i]? with
  | none =>
      rw [read] at found
      exact absurd found.symm present
  | some w' =>
      rw [read] at found
      exact congrArg some found

theorem isDeserted_eq_false {p : Pool J R} {w : Worker J R} (member : w ∈ p.workers)
    (present : w.isGone = false) : p.isDeserted = false := by
  rw [isDeserted, List.all_eq_false]
  exact ⟨w, member, by simp [present]⟩

/-- A worker that does something else is no loss for those who wait. -/
theorem setWorker_eq {p : Pool J R} {i : Nat} {w w' : Worker J R} (found : p.workers[i]? = some w)
    (safe : p.queue = [] ∨ w'.isGone = false) :
    p.setWorker i w' = { p with workers := p.workers.set i w' } := by
  rw [setWorker, settled]
  split
  · rename_i deserted
    rcases safe with empty | present
    · rw [← empty]
    · have member : w' ∈ p.workers.set i w' :=
        List.mem_set (List.getElem?_eq_some_iff.mp found).1 _
      rw [isDeserted_eq_false (p := { p with workers := _ }) member present] at deserted
      cases deserted
  · rfl

/-- Whatever one entry of a list is replaced by, the others keep what they stand for. -/
theorem perm_filterMap_set {α β : Type} (f : α → Option β) {l : List α} {i : Nat} {a a' : α}
    (found : l[i]? = some a) :
    ((f a).toList ++ (l.set i a').filterMap f).Perm ((f a').toList ++ l.filterMap f) := by
  have toList (b : α) (l : List α) : (b :: l).filterMap f = (f b).toList ++ l.filterMap f := by
    rw [List.filterMap_cons]
    cases f b <;> rfl
  induction l generalizing i with
  | nil => cases found
  | cons b l ih =>
      cases i with
      | zero =>
          obtain rfl : b = a := Option.some.inj found
          rw [List.set_cons_zero, toList, toList]
          exact List.perm_append_comm_assoc ..
      | succ i =>
          have rest := (ih found).append_left (f b).toList
          rw [List.set_cons_succ, toList, toList]
          exact (List.perm_append_comm_assoc ..).trans (rest.trans (List.perm_append_comm_assoc ..))

/-- The jobs that run when a worker does something else. -/
theorem perm_running {p : Pool J R} {i : Nat} {w w' : Worker J R} (p' : Pool J R)
    (found : p.workers[i]? = some w) (after : p'.workers = p.workers.set i w') :
    (w.job?.toList ++ p'.running).Perm (w'.job?.toList ++ p.running) := by
  rw [running, after]
  exact perm_filterMap_set _ found

theorem length_running (p : Pool J R) : p.running.length ≤ p.workers.length :=
  List.length_filterMap_le ..

/-- The pool from which all workers were sent away. -/
def dismissed (p : Pool J R) : Pool J R :=
  { p with queue := [], workers := p.workers.map fun _ => .gone }

theorem isDeserted_dismissed (p : Pool J R) : p.dismissed.isDeserted := by
  simp [isDeserted, dismissed, Worker.isGone]

theorem aborted_eq (p : Pool J R) : p.aborted = p.dismissed := by
  rw [aborted, settled]
  exact if_pos p.isDeserted_dismissed

/-! ### Steps of workers -/

/-- Whoever ends a job takes none. -/
theorem Event.taken_eq_nil {e : Event} {outcome : Outcome} (ended : e.outcome? = some outcome)
    (queue : List J) : e.taken queue = [] := by
  cases e <;> first | rfl | cases ended

/-- What a worker may do when jobs panic only once they run, with the pool after
it. -/
inductive Works (p : Pool J R) (i : Nat) : Event → Pool J R → Prop
  /-- It goes. -/
  | retires (idle : p.workers[i]? = some .idle) (empty : p.queue = [])
      (closed : p.accepting = false) :
      Works p i .retired { p with workers := p.workers.set i .gone }
  | starts {job : J} {rest : List J} {run : R} {deadline : Option Nat}
      (idle : p.workers[i]? = some .idle) (waits : p.queue = job :: rest) :
      Works p i .started
        { p with queue := rest, workers := p.workers.set i (.running job run deadline) }
  | goesOn {job : J} {run run' : R} {deadline : Option Nat}
      (busy : p.workers[i]? = some (.running job run deadline)) :
      Works p i .went { p with workers := p.workers.set i (.running job run' deadline) }
  | ends {job : J} {run : R} {deadline : Option Nat} {event : Event} {outcome : Outcome}
      (busy : p.workers[i]? = some (.running job run deadline))
      (ended : event.outcome? = some outcome) :
      Works p i event { p with workers := p.workers.set i .idle }

/-- What a worker may do, whenever jobs panic, with the pool after it. -/
inductive Fares (h : Handler J R σ) (p : Pool J R) (i : Nat) (state : σ) : Event → Pool J R → Prop
  | works {event : Event} {p' : Pool J R} (works : Works p i event p') : Fares h p i state event p'
  /-- Its job panics before it runs, and takes the worker with it. -/
  | breaks {job : J} {rest : List J} (idle : p.workers[i]? = some .idle)
      (waits : p.queue = job :: rest) (unready : (h.begin job state).1 = none) :
      Fares h p i state .broke (settled { p with queue := rest, workers := p.workers.set i .gone })

theorem fares_of_work {now i : Nat} {p p' : Pool J R} {state state' : σ} {event : Event}
    (gets : work h now i p state = some (event, p', state')) : Fares h p i state event p' := by
  unfold work at gets
  split at gets
  · cases gets
  · rename_i idle
    have idle := worker_eq idle nofun
    split at gets
    · rename_i empty
      split at gets
      · cases gets
      · rename_i closed
        cases gets
        rw [setWorker_eq idle (.inl empty)]
        exact .works (.retires idle empty (Bool.eq_false_iff.mpr closed))
    · rename_i job rest waits
      split at gets
      · rename_i broke
        cases gets
        rw [setWorker, dequeued, waits]
        exact .breaks idle waits (congrArg Prod.fst broke)
      · cases gets
        rw [setWorker_eq (p := p.dequeued) idle (.inr rfl), dequeued, waits]
        exact .works (.starts idle waits)
  · rename_i job run deadline busy
    have busy := worker_eq busy nofun
    have back : p.setWorker i .idle = { p with workers := p.workers.set i .idle } :=
      setWorker_eq busy (.inr rfl)
    split at gets
    · cases gets
      exact back ▸ .works (.ends busy rfl)
    · cases gets
      exact back ▸ .works (.ends busy rfl)
    · rename_i run' _ _
      cases gets
      have next : p.setWorker i (.running job run' deadline) =
          { p with workers := p.workers.set i (.running job run' deadline) } :=
        setWorker_eq busy (.inr rfl)
      exact next ▸ .works (.goesOn busy)
    · split at gets
      · cases gets
        exact back ▸ .works (.ends busy rfl)
      · cases gets

theorem works_of_work (setsUp : h.SetsUp) {now i : Nat} {p p' : Pool J R} {state state' : σ}
    {event : Event} (gets : work h now i p state = some (event, p', state')) :
    Works p i event p' := by
  cases fares_of_work gets with
  | works works => exact works
  | @breaks job rest idle waits unready =>
      have ready := setsUp job state
      rw [unready] at ready
      cases ready

/-- Nobody works at a pool without workers. -/
theorem not_works {p p' : Pool J R} {i : Nat} {event : Event} (deserted : p.isDeserted)
    (works : Works p i event p') : False := by
  have gone {w : Worker J R} (found : p.workers[i]? = some w) : w.isGone = true :=
    List.all_eq_true.mp deserted w (List.mem_of_getElem? found)
  cases works with
  | retires idle => cases gone idle
  | starts idle => cases gone idle
  | goesOn busy => cases gone busy
  | ends busy => cases gone busy

namespace Works

variable {p p' : Pool J R} {i : Nat} {event : Event}

theorem queue_eq (works : Works p i event p') : p.queue = event.taken p.queue ++ p'.queue := by
  cases works with
  | retires => rfl
  | starts idle waits => rw [waits]; rfl
  | goesOn => rfl
  | ends busy ended => rw [Event.taken_eq_nil ended, List.nil_append]

/-- What was started or ran before runs, or has just ended. -/
theorem perm (works : Works p i event p') :
    (event.taken p.queue ++ p.running).Perm (p'.running ++ (event.endings (p.worker i)).map (·.1)) := by
  have worker {w : Worker J R} (found : p.workers[i]? = some w) : p.worker i = w := by
    rw [worker, found, Option.getD_some]
  cases works with
  | retires idle =>
      have same := perm_running { p with workers := p.workers.set i .gone } idle rfl
      simpa [Event.taken, Event.endings, worker idle, Worker.job?] using same.symm
  | @starts job rest run deadline idle waits =>
      have same := perm_running { p with
        queue := rest, workers := p.workers.set i (.running job run deadline) } idle rfl
      simpa [Event.taken, Event.endings, worker idle, Worker.job?, waits] using same.symm
  | @goesOn job run run' deadline busy =>
      have same := perm_running { p with
        workers := p.workers.set i (.running job run' deadline) } busy rfl
      simpa [Event.taken, Event.endings, Event.outcome?] using (List.perm_cons job).mp same.symm
  | @ends job run deadline event outcome busy ended =>
      have same := perm_running { p with workers := p.workers.set i .idle } busy rfl
      simp only [Event.taken_eq_nil ended, Event.endings, worker busy, ended, Worker.job?,
        List.nil_append, List.map_cons, List.map_nil]
      exact same.symm.trans List.perm_append_comm

theorem sizing_eq (works : Works p i event p') : p'.sizing = p.sizing := by
  cases works <;> rfl

theorem accepting_eq (works : Works p i event p') : p'.accepting = p.accepting := by
  cases works <;> rfl

theorem claimed_eq (works : Works p i event p') : p'.claimed = p.claimed := by
  cases works <;> rfl

theorem length_workers (works : Works p i event p') : p'.workers.length = p.workers.length := by
  cases works <;> exact List.length_set

/-- A worker goes only when the pool is closed and nothing waits. -/
theorem gone (works : Works p i event p') {w : Worker J R} (member : w ∈ p'.workers)
    (left : w.isGone) : w ∈ p.workers ∨ p.accepting = false ∧ p'.queue = [] := by
  cases works with
  | retires idle empty closed => exact .inr ⟨closed, empty⟩
  | starts =>
      rcases List.mem_or_eq_of_mem_set member with member | rfl
      · exact .inl member
      · cases left
  | goesOn =>
      rcases List.mem_or_eq_of_mem_set member with member | rfl
      · exact .inl member
      · cases left
  | ends =>
      rcases List.mem_or_eq_of_mem_set member with member | rfl
      · exact .inl member
      · cases left

/-- What waits after it waited before. -/
theorem suffix (works : Works p i event p') : p'.queue <:+ p.queue :=
  ⟨_, works.queue_eq.symm⟩

end Works

/-! ### Giving jobs to a pool -/

/-- What a pool answers, by whether it is open and has room. -/
inductive Submission (p : Pool J R) (job : J) : Except (Refusal J) (Pool J R) → Prop
  | takes (opened : p.isOpen = true) (room : p.queue.length < p.sizing.capacity) :
      Submission p job (.ok { p with queue := p.queue ++ [job] })
  | busy (opened : p.isOpen = true) (full : p.sizing.capacity ≤ p.queue.length) :
      Submission p job (.error (.busy job))
  | closed (closed : p.isOpen = false) : Submission p job (.error (.closed job))

theorem submission (p : Pool J R) (job : J) : Submission p job (p.submit job) := by
  unfold submit
  split
  · rename_i opened
    split
    · rename_i room
      exact .takes opened room
    · rename_i full
      exact .busy opened (Nat.le_of_not_lt full)
  · rename_i closed
    exact .closed (Bool.eq_false_iff.mpr closed)

theorem submit_eq_ok {p p' : Pool J R} {job : J} :
    p.submit job = .ok p' ↔
      p.isOpen = true ∧ p.queue.length < p.sizing.capacity ∧
        p' = { p with queue := p.queue ++ [job] } := by
  have given := submission p job
  generalize p.submit job = answer at given ⊢
  cases given with
  | takes opened room => simp [opened, room, eq_comm]
  | busy opened full => simp [Nat.not_lt.mpr full]
  | closed closed => simp [closed]

theorem submit_eq_busy {p : Pool J R} {job back : J} :
    p.submit job = .error (.busy back) ↔
      p.isOpen = true ∧ p.sizing.capacity ≤ p.queue.length ∧ back = job := by
  have given := submission p job
  generalize p.submit job = answer at given ⊢
  cases given with
  | takes opened room => simp [Nat.not_le.mpr room]
  | busy opened full => simp [opened, full, eq_comm]
  | closed closed => simp [closed]

theorem submit_eq_closed {p : Pool J R} {job back : J} :
    p.submit job = .error (.closed back) ↔ p.isOpen = false ∧ back = job := by
  have given := submission p job
  generalize p.submit job = answer at given ⊢
  cases given with
  | takes opened room => simp [opened]
  | busy opened full => simp [opened]
  | closed closed => simp [closed, eq_comm]

end BoxOffice.Pool
