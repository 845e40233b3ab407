import BoxOffice.Proofs.Pool.Jobs

/-!
# The account of the jobs of a pool

`AccountsForJobs` says what holds of a pool with workers at any time, whatever
overlaps. It is bounded, tells by its answer whether it is open and has room,
starts jobs in the order in which it took them, and knows what became of each of
them, until time for the workers ran out. A first shutdown that answers that all
workers went in time has seen every job to its end.
-/

namespace BoxOffice.Pool.Traffic

variable {J R σ : Type} {h : Handler J R σ} {s : Sizing} {w w' : Traffic J R σ}

/-- What every step at a pool keeps. -/
structure IsSound (s : Sizing) (w : Traffic J R σ) : Prop where
  sizing : w.pool.sizing = s
  staffed : w.pool.workers.length = s.workers
  accepting : w.pool.accepting = w.closing.isNone
  claimed : w.pool.claimed = w.closing.isSome
  waiting : w.pool.queue.length ≤ s.capacity
  /-- Nobody goes before the pool is shut down. -/
  present : w.closing = none → ∀ x ∈ w.pool.workers, x.isGone = false
  /-- Nothing waits once somebody went. -/
  empty : ∀ x ∈ w.pool.workers, x.isGone → w.pool.queue = []
  /-- All are gone when the first shutdown is over. -/
  past : ∀ drained, w.closing = some (.ended drained) → w.pool.isDeserted
  inOrder : w.started <+: w.accepted
  /-- What was taken was started, or waits behind all that was started. -/
  taken : w.IsKept → w.accepted = w.started ++ w.pool.queue
  /-- What was started runs, or has ended. -/
  begun : w.IsKept → w.started.Perm (w.pool.running ++ w.ended.map (·.1))

namespace IsSound

theorem opened (s : Sizing) (state : σ) (now : Nat) :
    IsSound s (opened s state now : Traffic J R σ) where
  sizing := rfl
  staffed := List.length_replicate
  accepting := rfl
  claimed := rfl
  waiting := Nat.zero_le _
  present _ x member := by
    rw [List.eq_of_mem_replicate member]
    rfl
  empty _ _ _ := rfl
  past _ ended := by cases ended
  inOrder := List.prefix_rfl
  taken _ := rfl
  begun _ := by
    have idle : (Traffic.opened s state now : Traffic J R σ).pool.running = [] := by
      simp [Traffic.opened, ofSizing, running, Worker.job?]
    rw [idle]
    exact .refl _

/-- A pool with workers is left only when it is shut down. -/
theorem isDeserted_eq_false (sound : IsSound s w) (workers : 0 < s.workers)
    (first : w.closing = none) : w.pool.isDeserted = false := by
  obtain ⟨x, member⟩ := List.exists_mem_of_length_pos (sound.staffed ▸ workers)
  exact Pool.isDeserted_eq_false member (sound.present first x member)

theorem isOpen_eq (sound : IsSound s w) (workers : 0 < s.workers) :
    w.pool.isOpen = w.closing.isNone := by
  rw [isOpen, sound.accepting]
  cases first : w.closing with
  | none => rw [sound.isDeserted_eq_false workers first]; rfl
  | some closing => rfl

/-- No worker is left, so nothing waits and nothing runs. -/
theorem of_isDeserted (sound : IsSound s w) (workers : 0 < s.workers)
    (deserted : w.pool.isDeserted) : w.pool.queue = [] ∧ w.pool.running = [] := by
  have gone := List.all_eq_true.mp deserted
  obtain ⟨x, member⟩ := List.exists_mem_of_length_pos (sound.staffed ▸ workers)
  refine ⟨sound.empty x member (gone x member), List.filterMap_eq_nil_iff.mpr fun y member => ?_⟩
  have left := gone y member
  cases y with
  | gone => rfl
  | idle => cases left
  | running => cases left

/-! ### Steps -/

theorem took (sound : IsSound s w) {job : J} {pool : Pool J R}
    (answer : w.pool.submit job = .ok pool) : IsSound s (w.took job pool) := by
  obtain ⟨opened, room, rfl⟩ := submit_eq_ok.mp answer
  have first : w.closing = none := by
    rw [isOpen, Bool.and_eq_true, sound.accepting] at opened
    exact Option.isNone_iff_eq_none.mp opened.1
  exact
    { sound with
      waiting := by
        rw [sound.sizing] at room
        simpa [Traffic.took, Nat.succ_le_iff] using room
      empty := fun x member left => by
        rw [sound.present first x member] at left
        cases left
      inOrder := sound.inOrder.trans (List.prefix_append _ _)
      taken := fun kept => by
        simp [Traffic.took, sound.taken kept, List.append_assoc] }

theorem worked (sound : IsSound s w) (setsUp : h.SetsUp) {i : Nat} {event : Event}
    {pool : Pool J R} {state : σ}
    (gets : work h w.now i w.pool w.state = some (event, pool, state)) :
    IsSound s (w.worked i event pool state) := by
  have works := works_of_work setsUp gets
  have kept : w.IsKept := fun ended => not_works (sound.past _ ended) works
  have taken : w.accepted = (w.started ++ event.taken w.pool.queue) ++ pool.queue := by
    rw [List.append_assoc, ← works.queue_eq, ← sound.taken kept]
  exact
    { sizing := works.sizing_eq.trans sound.sizing
      staffed := works.length_workers.trans sound.staffed
      accepting := works.accepting_eq.trans sound.accepting
      claimed := works.claimed_eq.trans sound.claimed
      waiting := Nat.le_trans works.suffix.length_le sound.waiting
      present := fun first x member => by
        by_contra left
        rcases works.gone member (Bool.of_not_eq_false left) with member | ⟨closed, -⟩
        · exact left (sound.present first x member)
        · rw [sound.accepting, show w.closing = none from first] at closed
          cases closed
      empty := fun x member left => by
        rcases works.gone member left with member | ⟨-, empty⟩
        · have empty := sound.empty x member left
          exact List.suffix_nil.mp (empty ▸ works.suffix)
        · exact empty
      past := fun drained ended => (not_works (sound.past drained ended) works).elim
      inOrder := ⟨_, taken.symm⟩
      taken := fun _ => taken
      begun := fun _ => by
        have before : (w.started ++ event.taken w.pool.queue).Perm
            (event.taken w.pool.queue ++ w.pool.running ++ w.ended.map (·.1)) := by
          rw [List.append_assoc]
          exact List.perm_append_comm.trans ((sound.begun kept).append_left _)
        have after := before.trans (works.perm.append_right _)
        rw [List.append_assoc] at after
        simp only [Traffic.worked, List.map_append]
        exact after.trans (List.perm_append_comm.append_left _) }

/-- The pool is closed from now on, and somebody waits for the workers. -/
theorem waited (sound : IsSound s w) (first : w.closing = none) (deadline : Nat) :
    IsSound s { w with pool := w.pool.closing, closing := some (.waiting deadline) } :=
  have kept : w.IsKept := by simp [IsKept, first]
  { sound with
    accepting := rfl
    claimed := rfl
    present := nofun
    past := nofun
    taken := fun _ => sound.taken kept
    begun := fun _ => sound.begun kept }

/-- The workers are sent away from a pool that somebody shut down. -/
theorem sentAway (sound : IsSound s w) (begun : w.closing ≠ none) (state : σ) :
    IsSound s (w.closed (.ended false, w.pool.aborted, state)) := by
  have begun : w.closing.isNone = false := Option.isNone_eq_false_iff.mpr
    (Option.isSome_iff_ne_none.mpr begun)
  rw [aborted_eq]
  exact
    { sizing := sound.sizing
      staffed := by simpa [Traffic.closed, dismissed] using sound.staffed
      accepting := sound.accepting.trans begun
      claimed := sound.claimed.trans (by rw [← Option.not_isNone, begun]; rfl)
      waiting := Nat.zero_le _
      present := nofun
      empty := fun _ _ _ => rfl
      past := fun _ _ => isDeserted_dismissed w.pool
      inOrder := sound.inOrder
      taken := fun kept => absurd rfl kept
      begun := fun kept => absurd rfl kept }

theorem closed (sound : IsSound s w) (workers : 0 < s.workers) (first : w.closing = none)
    (grace : Span) : IsSound s (w.closed (close h w.now grace w.pool w.state)) := by
  have unclaimed : w.pool.claimed = false := by rw [sound.claimed, first]; rfl
  have staffed := sound.isDeserted_eq_false workers first
  have waited := sound.waited first (w.now + grace.ticks)
  unfold close
  rw [unclaimed, staffed, Bool.or_false, if_neg Bool.false_ne_true]
  split
  · exact waited.sentAway nofun _
  · exact waited

/-- Whoever shuts a pool down once more changes nothing about it. -/
theorem shutAgain (sound : IsSound s w) (begun : w.closing ≠ none) (grace : Span) :
    IsSound s (w.shutAgain (close h w.now grace w.pool w.state)) := by
  have begun : w.closing.isSome = true := Option.isSome_iff_ne_none.mpr begun
  have claimed : w.pool.claimed = true := sound.claimed.trans begun
  have shut : w.closing.isNone = false := by rw [← Option.not_isSome, begun]; rfl
  unfold close
  rw [claimed, Bool.true_or, if_pos rfl]
  exact
    { sound with
      accepting := shut.symm
      claimed := begun.symm }

theorem step (sound : IsSound s w) (workers : 0 < s.workers) (setsUp : h.SetsUp)
    (step : Step h w w') : IsSound s w' := by
  cases step with
  | take answer => exact sound.took answer
  | refuse => exact { sound with }
  | work gets => exact sound.worked setsUp gets
  | close first => exact sound.closed workers first _
  | @drain deadline waits gone =>
      have kept : w.IsKept := by simp [IsKept, waits]
      exact
        { sound with
          accepting := sound.accepting.trans (by rw [waits]; rfl)
          claimed := sound.claimed.trans (by rw [waits]; rfl)
          present := nofun
          past := fun _ _ => gone
          taken := fun _ => sound.taken kept
          begun := fun _ => sound.begun kept }
  | sendAway waits => exact sound.sentAway (by simp [waits]) _
  | closeAgain begun => exact sound.shutAgain begun _
  | pass => exact { sound with }
  | elsewhere => exact { sound with }

end IsSound

/-- Whatever overlaps at a pool with workers, it is sound. -/
theorem Reachable.isSound (workers : 0 < s.workers) (setsUp : h.SetsUp)
    (reachable : Reachable h s w) : IsSound s w := by
  induction reachable with
  | opened state now => exact .opened s state now
  | step _ step ih => exact ih.step workers setsUp step

/-! ### The account -/

/-- What a pool of a size does with the jobs that are given to it. -/
structure AccountsForJobs (s : Sizing) (w : Traffic J R σ) : Prop where
  /-- Only so many jobs wait. -/
  waiting : w.pool.queue.length ≤ s.capacity
  /-- Only so many jobs run. -/
  running : w.pool.running.length ≤ s.workers
  /-- A job is taken by an open pool with room, and waits behind the others. -/
  takes : ∀ job pool, w.pool.submit job = .ok pool ↔
    w.closing = none ∧ w.pool.queue.length < s.capacity ∧
      pool = { w.pool with queue := w.pool.queue ++ [job] }
  /-- It is handed back as it was by an open pool without room. -/
  busy : ∀ job back, w.pool.submit job = .error (.busy back) ↔
    w.closing = none ∧ w.pool.queue.length = s.capacity ∧ back = job
  /-- It is handed back as it was once a shutdown has begun. -/
  closed : ∀ job back, w.pool.submit job = .error (.closed back) ↔
    w.closing ≠ none ∧ back = job
  /-- Jobs start in the order in which they were taken. -/
  inOrder : w.started <+: w.accepted
  /-- Only what was taken is ever started. -/
  neverRun : ∀ e ∈ w.refused, e.job ∉ w.accepted →
    e.job ∉ w.started ∧ e.job ∉ w.pool.queue ∧ e.job ∉ w.pool.running
  /-- What was taken waits, runs or has ended, with one outcome for each job. -/
  accounted : w.IsKept →
    w.accepted.Perm (w.pool.queue ++ w.pool.running ++ w.ended.map (·.1))
  /-- All jobs have ended when the first shutdown answers that the workers went. -/
  drained : w.closing = some (.ended true) → w.accepted.Perm (w.ended.map (·.1))

/-- Whatever overlaps at a pool with workers, it accounts for its jobs. -/
theorem Reachable.accountsForJobs (workers : 0 < s.workers) (setsUp : h.SetsUp)
    (reachable : Reachable h s w) : AccountsForJobs s w := by
  have sound := reachable.isSound workers setsUp
  have opened : w.pool.isOpen = true ↔ w.closing = none := by
    rw [sound.isOpen_eq workers, Option.isNone_iff_eq_none]
  have accounted (kept : w.IsKept) :
      w.accepted.Perm (w.pool.queue ++ w.pool.running ++ w.ended.map (·.1)) := by
    have moved := (sound.begun kept).append_right w.pool.queue
    rw [← sound.taken kept] at moved
    rw [List.append_assoc]
    exact moved.trans List.perm_append_comm
  exact
    { waiting := sound.waiting
      running := sound.staffed ▸ length_running w.pool
      takes := fun job pool => by simp only [submit_eq_ok, opened, sound.sizing]
      busy := fun job back => by
        have full : s.capacity ≤ w.pool.queue.length ↔ w.pool.queue.length = s.capacity :=
          ⟨Nat.le_antisymm sound.waiting, fun full => Nat.le_of_eq full.symm⟩
        rw [submit_eq_busy, opened, sound.sizing, full]
      closed := fun job back => by
        rw [submit_eq_closed, Bool.eq_false_iff, Ne, opened]
      inOrder := sound.inOrder
      neverRun := fun e _ never => by
        refine ⟨fun started => never (sound.inOrder.subset started), ?_⟩
        by_cases kept : w.IsKept
        · have listed := accounted kept
          exact ⟨fun waits => never (listed.mem_iff.mpr (by simp [waits])),
            fun runs => never (listed.mem_iff.mpr (by simp [runs]))⟩
        · have deserted := sound.past false (Decidable.of_not_not kept)
          simp [sound.of_isDeserted workers deserted]
      accounted := accounted
      drained := fun ended => by
        have kept : w.IsKept := by simp [IsKept, ended]
        obtain ⟨empty, idle⟩ := sound.of_isDeserted workers (sound.past true ended)
        simpa [empty, idle] using accounted kept }

/-! ### A day at a pool -/

/-- Jobs that end as they are told. One that is told to run out of time never ends
by itself. -/
def obedient : Handler Outcome Outcome Unit where
  begin job state := (some job, state)
  advance _ _ run state :=
    match run with
    | .completed => some (.finished, state)
    | .panicked => some (.panicked, state)
    | .timedOut => none
  cancel _ _ state := state

/-- One worker, room for two jobs, and five milliseconds for each. -/
def small : Sizing := ⟨1, 2, some (.ofMillis 5)⟩

/-- Three jobs were taken, and two handed back, one of them after the pool was
shut down. -/
def day : Traffic Outcome Outcome Unit where
  pool := ⟨small, [], false, true, [.gone]⟩
  state := ()
  now := (Span.ofMillis 5).ticks
  closing := some (.ended true)
  accepted := [.panicked, .completed, .timedOut]
  refused := [.busy .completed, .closed .completed]
  started := [.panicked, .completed, .timedOut]
  ended := [(.panicked, .panicked), (.completed, .completed), (.timedOut, .timedOut)]

theorem reachable_day : Reachable obedient small day := by
  have take (job : Outcome) {w : Traffic Outcome Outcome Unit} {pool : Pool Outcome Outcome}
      (answer : w.pool.submit job = .ok pool) : Step obedient w (w.took job pool) := .take answer
  have refuse (job : Outcome) {w : Traffic Outcome Outcome Unit} {e : Refusal Outcome}
      (answer : w.pool.submit job = .error e) : Step obedient w (w.handedBack e) := .refuse answer
  have shut (grace : Span) {w : Traffic Outcome Outcome Unit} (first : w.closing = none) :
      Step obedient w (w.closed (close obedient w.now grace w.pool w.state)) := .close first
  have first : Reachable obedient small _ :=
    ((Reachable.opened () 0).step (take .panicked rfl)).step (.work (i := 0) rfl)
  have full : Reachable obedient small _ :=
    ((first.step (take .completed rfl)).step (take .timedOut rfl)).step (refuse .completed rfl)
  have second : Reachable obedient small _ :=
    ((full.step (.work (i := 0) rfl)).step (.work (i := 0) rfl)).step (.work (i := 0) rfl)
  have closed : Reachable obedient small _ :=
    (second.step (shut (.ofMillis 10) rfl)).step (refuse .completed rfl)
  have late : Reachable obedient small _ :=
    (closed.step (.work (i := 0) rfl)).step (.pass (show 0 ≤ (Span.ofMillis 5).ticks by decide))
  exact ((late.step (.work (i := 0) rfl)).step (.work (i := 0) rfl)).step (.drain rfl rfl)

theorem accountsForJobs_day :
    AccountsForJobs small day ∧ 0 < small.workers ∧ obedient.SetsUp ∧
      day.accepted.Perm (day.ended.map (·.1)) :=
  have accounts := reachable_day.accountsForJobs Nat.one_pos fun _ _ => rfl
  ⟨accounts, Nat.one_pos, fun _ _ => rfl, accounts.drained rfl⟩

end BoxOffice.Pool.Traffic
