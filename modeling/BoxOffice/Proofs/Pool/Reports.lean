import BoxOffice.Proofs.Pool.Breakdowns

/-!
# What those who shut a pool down are told

The first one to shut a pool down takes charge of its workers. It is answered when
all of them are gone, or when their time is over and they are sent away. Whoever
shuts the pool down once more finds nobody to wait for, and is answered at once.

The one in charge is told that all workers went in time only when every job that
the pool took has ended. The others are told the same whatever the workers do: it
is true once the one in charge was told so, but not while that one still waits,
nor after the workers were sent away.
-/

namespace BoxOffice.Pool.Traffic

variable {J R σ : Type} {h : Handler J R σ} {s : Sizing} {w w' : Traffic J R σ}

/-- Who shuts a pool down. -/
inductive Asker
  /-- The first one, who takes charge of the workers. -/
  | inCharge
  | another
  deriving DecidableEq, Repr

/-- A step at which a shutdown is answered: whether all workers went in time. -/
inductive Answers (h : Handler J R σ) (w : Traffic J R σ) : Asker → Bool → Traffic J R σ → Prop
  /-- The first one need not wait. -/
  | atOnce {grace : Span} {drained : Bool} (first : w.closing = none)
      (ended : (close h w.now grace w.pool w.state).1 = .ended drained) :
      Answers h w .inCharge drained (w.closed (close h w.now grace w.pool w.state))
  | inTime {deadline : Nat} (waits : w.closing = some (.waiting deadline))
      (gone : w.pool.isDeserted) :
      Answers h w .inCharge true { w with closing := some (.ended true) }
  | late {deadline : Nat} (waits : w.closing = some (.waiting deadline))
      (late : deadline ≤ w.now) :
      Answers h w .inCharge false (w.closed (.ended false, abort h w.pool w.state))
  | again {grace : Span} {drained : Bool} (begun : w.closing ≠ none)
      (ended : (close h w.now grace w.pool w.state).1 = .ended drained) :
      Answers h w .another drained (w.shutAgain (close h w.now grace w.pool w.state))

theorem Answers.step {asker : Asker} {drained : Bool} (answers : Answers h w asker drained w') :
    Step h w w' := by
  cases answers with
  | atOnce first => exact .close first
  | inTime waits gone => exact .drain waits gone
  | late waits late => exact .sendAway waits late
  | again begun => exact .closeAgain begun

/-- Every job that was taken has ended, and no worker is busy. -/
structure IsDone (w : Traffic J R σ) : Prop where
  empty : w.pool.queue = []
  idle : w.pool.running = []
  ended : w.accepted.Perm (w.ended.map (·.1))

/-- Jobs that panic only once they run wear nothing out. -/
theorem Reachable.isUnworn (setsUp : h.SetsUp) (reachable : Reachable h s w) :
    IsWorn h s w [] := by
  obtain ⟨broken, worn⟩ := reachable.isWorn
  cases broken with
  | nil => exact worn
  | cons job broken =>
      obtain ⟨state, unready⟩ := worn.early job List.mem_cons_self
      have ready := setsUp job state
      rw [unready] at ready
      cases ready

/-- Workers that went by themselves have left nothing behind. -/
theorem IsWorn.isDone (worn : IsWorn h s w []) (kept : w.IsKept) (deserted : w.pool.isDeserted) :
    w.IsDone := by
  have empty := worn.bare deserted
  have idle := running_of_isDeserted deserted
  have accounted := worn.accounted kept (.inl rfl)
  rw [empty, idle, List.append_nil] at accounted
  exact ⟨empty, idle, accounted⟩

theorem IsWorn.isDone_of_ended (worn : IsWorn h s w []) (ended : w.closing = some (.ended true)) :
    w.IsDone :=
  worn.isDone (by simp [IsKept, ended]) (worn.past true ended)

/-! ### What is true of the answers -/

/-- What an answer to a shutdown says about the workers and the jobs. -/
structure Reports (h : Handler J R σ) (w : Traffic J R σ) : Prop where
  /-- The one in charge is told that the workers went in time when all jobs have ended. -/
  inCharge : ∀ w', Answers h w .inCharge true w' → w'.IsDone
  /-- All others are told so at once. It changes nothing, whatever the workers do. -/
  another : ∀ drained w', Answers h w .another drained w' ↔
    w.closing ≠ none ∧ drained = true ∧ w' = w
  /-- It is true from the moment on when the one in charge was told so. -/
  since : w.closing = some (.ended true) → w.IsDone

/-- Whatever overlaps at a pool, this is what its shutdowns report. -/
theorem Reachable.reports (setsUp : h.SetsUp) (reachable : Reachable h s w) : Reports h w where
  inCharge w' answers := by
    have ended : w'.closing = some (.ended true) := by
      cases answers with
      | atOnce _ ended => exact congrArg some ended
      | inTime => rfl
    exact ((reachable.step answers.step).isUnworn setsUp).isDone_of_ended ended
  another drained w' := by
    have worn := reachable.isUnworn setsUp
    constructor
    · intro answers
      cases answers with
      | again begun ended =>
          rw [worn.close_eq begun] at ended
          cases ended
          exact ⟨begun, rfl, by rw [worn.close_eq begun]; rfl⟩
    · rintro ⟨begun, rfl, rfl⟩
      have atOnce := worn.close_eq begun (.ofMillis 0)
      have answers : Answers h w' .another true _ := .again begun (congrArg Prod.fst atOnce)
      rwa [atOnce] at answers
  since ended := (reachable.isUnworn setsUp).isDone_of_ended ended

/-- At the end of a day at a small pool all jobs have ended, and whoever shuts it down
is told so. -/
theorem reports_day :
    obedient.SetsUp ∧ Reachable obedient small day ∧ day.IsDone ∧
      Answers obedient day .another true day :=
  have reports := reachable_day.reports fun _ _ => rfl
  ⟨fun _ _ => rfl, reachable_day, reports.since rfl,
    (reports.another true day).mpr ⟨nofun, rfl, rfl⟩⟩

/-! ### Untrue reports -/

/-- Two jobs were taken, neither of which ends. The worker runs the first one, and somebody
waits for it to go. -/
def beset : Traffic Outcome Outcome Unit where
  pool := ⟨crew 1, [.timedOut], false, true, [.running .timedOut .timedOut none]⟩
  state := ()
  now := 0
  closing := some (.waiting (Span.ofMillis 10).ticks)
  accepted := [.timedOut, .timedOut]
  refused := []
  started := [.timedOut]
  ended := []

/-- The worker was sent away in the middle of the first job, and the second one is lost. -/
def forsaken : Traffic Outcome Outcome Unit where
  pool := ⟨crew 1, [], false, true, [.gone]⟩
  state := ()
  now := (Span.ofMillis 10).ticks
  closing := some (.ended false)
  accepted := [.timedOut, .timedOut]
  refused := []
  started := [.timedOut]
  ended := []

theorem reachable_beset : Reachable obedient (crew 1) beset := by
  have take {w : Traffic Outcome Outcome Unit} {pool : Pool Outcome Outcome}
      (answer : w.pool.submit .timedOut = .ok pool) : Step obedient w (w.took .timedOut pool) :=
    .take answer
  have shut {w : Traffic Outcome Outcome Unit} (first : w.closing = none) :
      Step obedient w (w.closed (close obedient w.now (.ofMillis 10) w.pool w.state)) :=
    .close first
  have taken : Reachable obedient (crew 1) _ :=
    ((Reachable.opened () 0).step (take rfl)).step (take rfl)
  exact (taken.step (.work (i := 0) rfl)).step (shut rfl)

theorem reachable_forsaken : Reachable obedient (crew 1) forsaken := by
  have later : Reachable obedient (crew 1) { beset with now := (Span.ofMillis 10).ticks } :=
    reachable_beset.step (.pass (Nat.zero_le _))
  exact later.step (.sendAway rfl (Nat.le_refl _))

/-- A shutdown that overlaps the first one is told that all workers went in time while a job
runs, and one that follows it is told so after that job was broken off and another one
dropped. -/
theorem unfinished_jobs_reported_done :
    obedient.SetsUp ∧
      (Reachable obedient (crew 1) beset ∧ Answers obedient beset .another true beset ∧
        beset.pool.running = [.timedOut] ∧ beset.pool.queue = [.timedOut]) ∧
      Reachable obedient (crew 1) forsaken ∧ Answers obedient forsaken .another true forsaken ∧
        forsaken.accepted = [.timedOut, .timedOut] ∧ forsaken.started = [.timedOut] ∧
        forsaken.ended = [] := by
  have overlapping : Answers obedient beset .another true
      (beset.shutAgain (close obedient beset.now (.ofMillis 10) beset.pool ())) := .again nofun rfl
  have following : Answers obedient forsaken .another true
      (forsaken.shutAgain (close obedient forsaken.now (.ofMillis 10) forsaken.pool ())) :=
    .again nofun rfl
  exact ⟨fun _ _ => rfl, ⟨reachable_beset, overlapping, rfl, rfl⟩,
    reachable_forsaken, following, rfl, rfl, rfl⟩

end BoxOffice.Pool.Traffic
