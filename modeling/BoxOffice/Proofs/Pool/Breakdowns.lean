import BoxOffice.Proofs.Pool.Accounting

/-!
# Jobs that panic

A job that panics while it runs costs nothing: its worker goes on to the next
job. A job that panics while its run is being set up takes its worker with it.
Nothing else does before the pool is shut down, so as many workers are gone as
jobs broke one.

Until the last worker has gone that way nothing is lost. The pool takes jobs or
is busy, and every job that it took waits, runs, has ended, or broke a worker.
With the last worker goes all that waits, and the pool is closed although nobody
has shut it down.
-/

namespace BoxOffice.Pool

variable {J R σ : Type} {h : Handler J R σ} {s : Sizing}

/-! ### Workers that are gone -/

/-- How many workers are gone. -/
def lost (p : Pool J R) : Nat := p.workers.countP (·.isGone)

theorem lost_le (p : Pool J R) : p.lost ≤ p.workers.length := List.countP_le_length

theorem isDeserted_iff_lost {p : Pool J R} : p.isDeserted ↔ p.lost = p.workers.length := by
  rw [isDeserted, List.all_eq_true, lost, List.countP_eq_length]

theorem running_of_isDeserted {p : Pool J R} (deserted : p.isDeserted) : p.running = [] := by
  refine List.filterMap_eq_nil_iff.mpr fun w member => ?_
  have left := List.all_eq_true.mp deserted w member
  cases w with
  | gone => rfl
  | idle => cases left
  | running => cases left

/-- Whoever was there and is there still costs nothing. -/
theorem countP_set_stays {l : List (Worker J R)} {i : Nat} {w w' : Worker J R}
    (found : l[i]? = some w) (before : w.isGone = false) (after : w'.isGone = false) :
    (l.set i w').countP (·.isGone) = l.countP (·.isGone) := by
  obtain ⟨bound, rfl⟩ := List.getElem?_eq_some_iff.mp found
  rw [List.countP_set bound]
  simp [before, after]

theorem countP_set_gone {l : List (Worker J R)} {i : Nat} (idle : l[i]? = some .idle) :
    (l.set i .gone).countP (·.isGone) = l.countP (·.isGone) + 1 := by
  obtain ⟨bound, here⟩ := List.getElem?_eq_some_iff.mp idle
  rw [List.countP_set bound]
  simp [here, Worker.isGone]

namespace Works

variable {p p' : Pool J R} {i : Nat} {event : Event}

/-- Nobody goes but from a closed pool in which nothing waits. -/
theorem lost_eq (works : Works p i event p') :
    p'.lost = p.lost ∨ p'.queue = [] ∧ p'.accepting = false := by
  cases works with
  | retires idle empty closed => exact .inr ⟨empty, closed⟩
  | starts idle => exact .inl (countP_set_stays idle rfl rfl)
  | goesOn busy => exact .inl (countP_set_stays busy rfl rfl)
  | ends busy => exact .inl (countP_set_stays busy rfl rfl)

/-- Nothing waits when the last one has gone. -/
theorem bare (works : Works p i event p') (deserted : p'.isDeserted) : p'.queue = [] := by
  have stays {w w' : Worker J R} (found : p.workers[i]? = some w)
      (after : p'.workers = p.workers.set i w') (present : w'.isGone = false) : False := by
    have member : w' ∈ p'.workers :=
      after ▸ List.mem_set (List.getElem?_eq_some_iff.mp found).1 _
    rw [isDeserted_eq_false member present] at deserted
    cases deserted
  cases works with
  | retires idle empty => exact empty
  | starts idle => exact (stays idle rfl rfl).elim
  | goesOn busy => exact (stays busy rfl rfl).elim
  | ends busy => exact (stays busy rfl rfl).elim

/-- Whoever does not retire is there afterwards. -/
theorem stays (works : Works p i event p') (other : event ≠ .retired) :
    (p'.worker i).isGone = false := by
  have now {w w' : Worker J R} (found : p.workers[i]? = some w)
      (after : p'.workers = p.workers.set i w') : p'.worker i = w' := by
    rw [worker, after, List.getElem?_set_self (List.getElem?_eq_some_iff.mp found).1,
      Option.getD_some]
  cases works with
  | retires => exact absurd rfl other
  | starts idle => rw [now idle rfl]; rfl
  | goesOn busy => rw [now busy rfl]; rfl
  | ends busy => rw [now busy rfl]; rfl

end Works

theorem settled_workers (p : Pool J R) : p.settled.workers = p.workers := by
  rw [settled]
  split <;> rfl

theorem bare_settled {p : Pool J R} (deserted : p.settled.isDeserted) : p.settled.queue = [] := by
  have deserted : p.isDeserted := by rwa [isDeserted, settled_workers] at deserted
  rw [settled, if_pos deserted]

/-- How many workers are gone after a job broke one. -/
theorem lost_settled {p : Pool J R} {i : Nat} {rest : List J} (idle : p.workers[i]? = some .idle) :
    (settled { p with queue := rest, workers := p.workers.set i .gone }).lost = p.lost + 1 := by
  rw [lost, settled_workers]
  exact countP_set_gone idle

/-! ### What breaks workers, and what it costs -/

namespace Traffic

variable {w w' : Traffic J R σ} {broken : List J}

/-- Some worker is left by the jobs that broke one, if there was any. -/
def Spares (s : Sizing) (broken : List J) : Prop := broken = [] ∨ broken.length < s.workers

theorem Spares.of_append {job : J} (spares : Spares s (broken ++ [job])) :
    broken.length + 1 < s.workers := by
  rcases spares with none | few
  · simp at none
  · simpa using few

/-- What every step keeps at a pool whose jobs may break workers, with the jobs that did. -/
structure IsWorn (h : Handler J R σ) (s : Sizing) (w : Traffic J R σ) (broken : List J) : Prop where
  staffed : w.pool.workers.length = s.workers
  accepting : w.pool.accepting = w.closing.isNone
  claimed : w.pool.claimed = w.closing.isSome
  /-- Each of these jobs panicked before it ran. -/
  early : ∀ job ∈ broken, ∃ state, (h.begin job state).1 = none
  few : broken.length ≤ s.workers
  /-- Somebody else is gone only when nothing waits any more. -/
  gone : w.pool.lost = broken.length ∨ w.pool.queue = [] ∧ w.pool.accepting = false
  bare : w.pool.isDeserted → w.pool.queue = []
  past : ∀ drained, w.closing = some (.ended drained) → w.pool.isDeserted
  taken : w.IsKept → Spares s broken → w.accepted = w.started ++ w.pool.queue
  begun : w.IsKept → w.started.Perm (w.pool.running ++ w.ended.map (·.1) ++ broken)

namespace IsWorn

theorem opened (h : Handler J R σ) (s : Sizing) (state : σ) (now : Nat) :
    IsWorn h s (opened s state now) [] where
  staffed := List.length_replicate
  accepting := rfl
  claimed := rfl
  early := nofun
  few := Nat.zero_le _
  gone := .inl (List.countP_eq_zero.mpr fun x member => by
    rw [List.eq_of_mem_replicate member]
    exact Bool.false_ne_true)
  bare _ := rfl
  past := nofun
  taken _ _ := rfl
  begun _ := by
    have idle : (Traffic.opened s state now : Traffic J R σ).pool.running = [] := by
      simp [Traffic.opened, ofSizing, running, Worker.job?]
    rw [idle]
    exact .nil

theorem took (worn : IsWorn h s w broken) {job : J} {pool : Pool J R}
    (answer : w.pool.submit job = .ok pool) : IsWorn h s (w.took job pool) broken := by
  obtain ⟨opened, -, rfl⟩ := submit_eq_ok.mp answer
  rw [isOpen, Bool.and_eq_true, Bool.not_eq_true'] at opened
  obtain ⟨accepting, staffed⟩ := opened
  exact
    { worn with
      gone := .inl (worn.gone.resolve_right fun shut => by rw [accepting] at shut; cases shut.2)
      bare := fun deserted => by
        have still : w.pool.isDeserted := deserted
        rw [staffed] at still
        cases still
      taken := fun kept spares => by
        simp [Traffic.took, worn.taken kept spares, List.append_assoc] }

/-- A worker got on, and is there still unless the pool is closed. -/
theorem worked (worn : IsWorn h s w broken) {i : Nat} {event : Event} {pool : Pool J R}
    (works : Works w.pool i event pool) (state : σ) :
    IsWorn h s (w.worked i event pool state) broken where
  staffed := works.length_workers.trans worn.staffed
  accepting := works.accepting_eq.trans worn.accepting
  claimed := works.claimed_eq.trans worn.claimed
  early := worn.early
  few := worn.few
  gone := by
    rcases works.lost_eq with same | shut
    · rcases worn.gone with lost | ⟨empty, closed⟩
      · exact .inl (same.trans lost)
      · exact .inr ⟨List.suffix_nil.mp (empty ▸ works.suffix), works.accepting_eq.trans closed⟩
    · exact .inr shut
  bare := works.bare
  past drained ended := (not_works (worn.past drained ended) works).elim
  taken kept spares := by
    show w.accepted = (w.started ++ event.taken w.pool.queue) ++ pool.queue
    rw [List.append_assoc, ← works.queue_eq]
    exact worn.taken kept spares
  begun kept := by
    have before : (w.started ++ event.taken w.pool.queue).Perm
        (event.taken w.pool.queue ++ w.pool.running ++ (w.ended.map (·.1) ++ broken)) := by
      have listed := worn.begun kept
      rw [List.append_assoc] at listed ⊢
      exact List.perm_append_comm.trans (listed.append_left _)
    have after := before.trans (works.perm.append_right _)
    simp only [Traffic.worked, List.map_append]
    refine after.trans ?_
    rw [List.append_assoc, List.append_assoc, List.append_assoc]
    exact (List.perm_append_comm_assoc ..).append_left _

/-- A job panicked before it ran, and took the worker with it. -/
theorem broke (worn : IsWorn h s w broken) {i : Nat} {job : J} {rest : List J} {before : σ}
    (idle : w.pool.workers[i]? = some .idle) (waits : w.pool.queue = job :: rest)
    (unready : (h.begin job before).1 = none) (state : σ) :
    IsWorn h s (w.worked i .broke
      (settled { w.pool with queue := rest, workers := w.pool.workers.set i .gone }) state)
      (broken ++ [job]) := by
  have lost : w.pool.lost = broken.length := worn.gone.resolve_right fun shut => by
    rw [waits] at shut
    cases shut.1
  have lost' : (settled { w.pool with
      queue := rest, workers := w.pool.workers.set i .gone }).lost = w.pool.lost + 1 :=
    lost_settled idle
  have workers := settled_workers { w.pool with
    queue := rest, workers := w.pool.workers.set i .gone }
  have length : (settled { w.pool with
      queue := rest, workers := w.pool.workers.set i .gone }).workers.length = s.workers := by
    rw [workers, List.length_set, worn.staffed]
  have alone : ¬ w.pool.isDeserted := fun deserted => by
    have empty := worn.bare deserted
    rw [waits] at empty
    cases empty
  exact
    { staffed := length
      accepting := by
        show (settled _).accepting = _
        rw [settled]
        split <;> exact worn.accepting
      claimed := by
        show (settled _).claimed = _
        rw [settled]
        split <;> exact worn.claimed
      early := fun job' member => by
        rcases List.mem_append.mp member with member | member
        · exact worn.early job' member
        · rw [List.mem_singleton.mp member]
          exact ⟨before, unready⟩
      few := by
        rw [List.length_append, List.length_singleton, ← lost, ← lost', ← length]
        exact lost_le _
      gone := .inl (by
        rw [List.length_append, List.length_singleton, ← lost]
        exact lost')
      bare := bare_settled
      past := fun drained ended => absurd (worn.past drained ended) alone
      taken := fun kept spares => by
        have few := spares.of_append
        -- Somebody is left, so what waits is still there.
        have staffed : ¬ Pool.isDeserted { w.pool with
            queue := rest, workers := w.pool.workers.set i .gone } := fun deserted => by
          have all := isDeserted_iff_lost.mp deserted
          rw [Pool.lost, countP_set_gone idle, List.length_set, worn.staffed] at all
          have lost : w.pool.workers.countP (·.isGone) = broken.length := lost
          omega
        show w.accepted = (w.started ++ w.pool.queue.take 1) ++ (settled _).queue
        rw [settled, if_neg staffed, worn.taken kept (.inr (by omega)), waits]
        simp
      begun := fun kept => by
        have same := perm_running (settled { w.pool with
          queue := rest, workers := w.pool.workers.set i .gone }) idle workers
        have none : Event.broke.endings (w.pool.worker i) = [] := by
          rw [worker, idle]
          rfl
        simp only [Traffic.worked, none, List.append_nil, Event.taken, waits, List.take_succ_cons,
          List.take_zero]
        rw [← List.append_assoc]
        exact ((worn.begun kept).trans (.append_right _ (.append_right _ same.symm))).append_right _ }

/-- The pool is closed from now on, and its workers are as they were. -/
theorem waited (worn : IsWorn h s w broken) (first : w.closing = none) (closing : Closing)
    (past : ∀ drained, closing = .ended drained → w.pool.isDeserted) :
    IsWorn h s { w with pool := w.pool.closing, closing := some closing } broken :=
  have kept : w.IsKept := by simp [IsKept, first]
  have lost : w.pool.lost = broken.length := worn.gone.resolve_right fun shut => by
    rw [worn.accepting, first] at shut
    cases shut.2
  { worn with
    accepting := rfl
    claimed := rfl
    gone := .inl lost
    past := fun drained ended => past drained (Option.some.inj ended)
    taken := fun _ => worn.taken kept
    begun := fun _ => worn.begun kept }

/-- The workers are sent away from a pool that somebody shut down. -/
theorem sentAway (worn : IsWorn h s w broken) (begun : w.closing ≠ none) (state : σ) :
    IsWorn h s (w.closed (.ended false, w.pool.aborted, state)) broken := by
  have begun : w.closing.isSome = true := Option.isSome_iff_ne_none.mpr begun
  have shut : w.pool.accepting = false := by
    rw [worn.accepting, ← Option.not_isSome, begun]
    rfl
  rw [aborted_eq]
  exact
    { worn with
      staffed := by simpa [Traffic.closed, dismissed] using worn.staffed
      accepting := shut
      claimed := worn.claimed.trans begun
      gone := .inr ⟨rfl, shut⟩
      bare := fun _ => rfl
      past := fun _ _ => isDeserted_dismissed w.pool
      taken := fun kept => absurd rfl kept
      begun := fun kept => absurd rfl kept }

theorem closed (worn : IsWorn h s w broken) (first : w.closing = none) (grace : Span) :
    IsWorn h s (w.closed (close h w.now grace w.pool w.state)) broken := by
  have unclaimed : w.pool.claimed = false := by rw [worn.claimed, first]; rfl
  unfold close
  rw [unclaimed, Bool.false_or]
  split
  · rename_i deserted
    exact worn.waited first (.ended true) fun _ _ => deserted
  · split
    · exact (worn.waited first (.waiting 0) nofun).sentAway nofun _
    · exact worn.waited first (.waiting (w.now + grace.ticks)) nofun

/-- Whoever shuts a pool down once more is answered at once, and changes nothing. -/
theorem close_eq (worn : IsWorn h s w broken) (begun : w.closing ≠ none) (grace : Span) :
    close h w.now grace w.pool w.state = (.ended true, w.pool, w.state) := by
  have begun : w.closing.isSome = true := Option.isSome_iff_ne_none.mpr begun
  have claimed : w.pool.claimed = true := worn.claimed.trans begun
  have shut : w.pool.accepting = false := by
    rw [worn.accepting, ← Option.not_isSome, begun]
    rfl
  have same : w.pool.closing = w.pool := by rw [Pool.closing, ← claimed, ← shut]
  rw [close, claimed, Bool.true_or, if_pos rfl, same]

theorem step (worn : IsWorn h s w broken) (step : Step h w w') :
    ∃ broken, IsWorn h s w' broken := by
  cases step with
  | take answer => exact ⟨broken, worn.took answer⟩
  | refuse => exact ⟨broken, { worn with }⟩
  | work gets =>
      cases fares_of_work gets with
      | works works => exact ⟨broken, worn.worked works _⟩
      | breaks idle waits unready => exact ⟨_, worn.broke idle waits unready _⟩
  | close first => exact ⟨broken, worn.closed first _⟩
  | @drain deadline waits gone =>
      have kept : w.IsKept := by simp [IsKept, waits]
      exact ⟨broken,
        { worn with
          accepting := worn.accepting.trans (by rw [waits]; rfl)
          claimed := worn.claimed.trans (by rw [waits]; rfl)
          past := fun _ _ => gone
          taken := fun _ => worn.taken kept
          begun := fun _ => worn.begun kept }⟩
  | sendAway waits => exact ⟨broken, worn.sentAway (by simp [waits]) _⟩
  | closeAgain begun =>
      rw [worn.close_eq begun]
      exact ⟨broken, { worn with }⟩
  | pass => exact ⟨broken, { worn with }⟩
  | elsewhere => exact ⟨broken, { worn with }⟩

theorem isDeserted_iff (worn : IsWorn h s w broken) (first : w.closing = none) :
    w.pool.isDeserted ↔ broken.length = s.workers := by
  have lost : w.pool.lost = broken.length := worn.gone.resolve_right fun shut => by
    rw [worn.accepting, first] at shut
    cases shut.2
  rw [isDeserted_iff_lost, lost, worn.staffed]

theorem accounted (worn : IsWorn h s w broken) (kept : w.IsKept) (spares : Spares s broken) :
    w.accepted.Perm (w.pool.queue ++ w.pool.running ++ w.ended.map (·.1) ++ broken) := by
  have listed := (worn.begun kept).append_right w.pool.queue
  rw [← worn.taken kept spares] at listed
  refine listed.trans (List.perm_append_comm.trans ?_)
  rw [List.append_assoc, List.append_assoc, List.append_assoc]

end IsWorn

/-- Whatever overlaps at a pool, some jobs broke workers, and it is worn by them only. -/
theorem Reachable.isWorn (reachable : Reachable h s w) : ∃ broken, IsWorn h s w broken := by
  induction reachable with
  | opened state now => exact ⟨[], .opened h s state now⟩
  | step _ step ih =>
      obtain ⟨broken, worn⟩ := ih
      exact worn.step step

/-- What panics cost a pool of a size, with the jobs that broke a worker. -/
structure WithstandsPanics (h : Handler J R σ) (s : Sizing) (w : Traffic J R σ) (broken : List J) :
    Prop where
  /-- Only jobs that panic before they run break workers. -/
  early : ∀ job ∈ broken, ∃ state, (h.begin job state).1 = none
  /-- Each of them costs one worker, and nothing else does until the pool is shut down. -/
  cost : w.closing = none → w.pool.lost = broken.length
  /-- A worker goes on, unless its job broke it or the pool closes. -/
  goesOn : ∀ i event pool state, work h w.now i w.pool w.state = some (event, pool, state) →
    event ≠ .broke → event ≠ .retired → (pool.worker i).isGone = false
  /-- Whoever is idle takes the next job. -/
  ready : ∀ i, w.pool.worker i = .idle → w.pool.queue ≠ [] →
    (work h w.now i w.pool w.state).isSome
  /-- While a worker is left, a pool that nobody shut down takes jobs or is busy. -/
  takes : w.closing = none → broken.length < s.workers → ∀ job back,
    w.pool.submit job ≠ .error (.closed back)
  /-- When none is left, it is closed and nothing waits. -/
  closed : w.closing = none → broken.length = s.workers →
    w.pool.queue = [] ∧ ∀ job, w.pool.submit job = .error (.closed job)
  /-- Jobs that wait are those behind all that was started. -/
  inOrder : w.IsKept → Spares s broken → w.accepted = w.started ++ w.pool.queue
  /-- What was taken waits, runs, has ended, or broke a worker. -/
  accounted : w.IsKept → Spares s broken →
    w.accepted.Perm (w.pool.queue ++ w.pool.running ++ w.ended.map (·.1) ++ broken)
  /-- Nothing else is left out when a shutdown sees all workers off in time. -/
  drained : w.closing = some (.ended true) → Spares s broken →
    w.accepted.Perm (w.ended.map (·.1) ++ broken)

/-- Whatever overlaps at a pool, panics cost it no more than this. -/
theorem Reachable.withstandsPanics (reachable : Reachable h s w) :
    ∃ broken, WithstandsPanics h s w broken := by
  obtain ⟨broken, worn⟩ := reachable.isWorn
  have opened (first : w.closing = none) : w.pool.isOpen = true ↔ broken.length ≠ s.workers := by
    rw [isOpen, worn.accepting, first, Ne, ← worn.isDeserted_iff first]
    simp
  refine ⟨broken, ?_⟩
  exact
    { early := worn.early
      cost := fun first => worn.gone.resolve_right fun shut => by
        rw [worn.accepting, first] at shut
        cases shut.2
      goesOn := fun i event pool state gets whole stays => by
        cases fares_of_work gets with
        | works works => exact works.stays stays
        | breaks => exact absurd rfl whole
      ready := fun i idle waits => by
        obtain ⟨job, rest, waits⟩ := List.exists_cons_of_ne_nil waits
        rw [work, idle, waits]
        dsimp only
        split <;> rfl
      takes := fun first few job back answer => by
        have shut := (submit_eq_closed.mp answer).1
        rw [(opened first).mpr (Nat.ne_of_lt few)] at shut
        cases shut
      closed := fun first all => by
        have deserted := (worn.isDeserted_iff first).mpr all
        refine ⟨worn.bare deserted, fun job => submit_eq_closed.mpr ⟨?_, rfl⟩⟩
        rw [isOpen, deserted, Bool.not_true, Bool.and_false]
      inOrder := worn.taken
      accounted := worn.accounted
      drained := fun ended spares => by
        have kept : w.IsKept := by simp [IsKept, ended]
        have deserted := worn.past true ended
        have accounted := worn.accounted kept spares
        rw [worn.bare deserted, running_of_isDeserted deserted] at accounted
        exact accounted }

/-! ### Two pools with jobs that break workers -/

/-- Jobs that end as they are told. One that is not told panics before it runs. -/
def fragile : Handler (Option Outcome) Outcome Unit where
  begin job state := (job, state)
  advance := obedient.advance
  cancel := obedient.cancel

/-- Workers with room for three jobs, and no limit for a job. -/
def crew (workers : Nat) : Sizing := ⟨workers, 3, none⟩

/-- The first job broke one of two workers. The other one went on when the second job
panicked, and has run the third one. -/
def halved : Traffic (Option Outcome) Outcome Unit where
  pool := ⟨crew 2, [], true, false, [.gone, .idle]⟩
  state := ()
  now := 0
  closing := none
  accepted := [none, some .panicked, some .completed]
  refused := []
  started := [none, some .panicked, some .completed]
  ended := [(some .panicked, .panicked), (some .completed, .completed)]

theorem reachable_halved : Reachable fragile (crew 2) halved := by
  have take (job : Option Outcome) {w : Traffic (Option Outcome) Outcome Unit}
      {pool : Pool (Option Outcome) Outcome} (answer : w.pool.submit job = .ok pool) :
      Step fragile w (w.took job pool) := .take answer
  have taken : Reachable fragile (crew 2) _ :=
    (((Reachable.opened () 0).step (take none rfl)).step (take (some .panicked) rfl)).step
      (take (some .completed) rfl)
  have broken : Reachable fragile (crew 2) _ := taken.step (.work (i := 0) rfl)
  have panicked : Reachable fragile (crew 2) _ :=
    (broken.step (.work (i := 1) rfl)).step (.work (i := 1) rfl)
  have ended : Reachable fragile (crew 2) _ :=
    (panicked.step (.work (i := 1) rfl)).step (.work (i := 1) rfl)
  exact ended

/-- One job broke a worker, and the pool goes on with the other one. -/
theorem withstandsPanics_halved :
    Reachable fragile (crew 2) halved ∧
      ∃ broken, WithstandsPanics fragile (crew 2) halved broken ∧ broken.length = 1 := by
  obtain ⟨broken, withstands⟩ := reachable_halved.withstandsPanics
  exact ⟨reachable_halved, broken, withstands, (withstands.cost rfl).symm⟩

/-- The first job broke the only worker. The second one is lost, and a third one was handed
back. -/
def wrecked : Traffic (Option Outcome) Outcome Unit where
  pool := ⟨crew 1, [], true, false, [.gone]⟩
  state := ()
  now := 0
  closing := none
  accepted := [none, some .completed]
  refused := [.closed (some .completed)]
  started := [none]
  ended := []

theorem reachable_wrecked : Reachable fragile (crew 1) wrecked := by
  have take (job : Option Outcome) {w : Traffic (Option Outcome) Outcome Unit}
      {pool : Pool (Option Outcome) Outcome} (answer : w.pool.submit job = .ok pool) :
      Step fragile w (w.took job pool) := .take answer
  have refuse {w : Traffic (Option Outcome) Outcome Unit} {e : Refusal (Option Outcome)}
      (answer : w.pool.submit (some .completed) = .error e) : Step fragile w (w.handedBack e) :=
    .refuse answer
  have taken : Reachable fragile (crew 1) _ :=
    ((Reachable.opened () 0).step (take none rfl)).step (take (some .completed) rfl)
  exact (taken.step (.work (i := 0) rfl)).step (refuse rfl)

/-- A panic before the run costs a pool its only worker. Nobody has shut the pool down, but it
is closed, and what was taken behind that job is never started. A shutdown is told all the
same that all workers went in time. -/
theorem panic_costs_worker :
    Reachable fragile (crew 1) wrecked ∧ wrecked.closing = none ∧
      wrecked.pool.workers = [.gone] ∧
      wrecked.pool.submit (some .completed) = .error (.closed (some .completed)) ∧
      some .completed ∈ wrecked.accepted ∧ some .completed ∉ wrecked.started ∧
      wrecked.pool.queue = [] ∧
      (close fragile wrecked.now (.ofMillis 10) wrecked.pool wrecked.state).1 = .ended true :=
  ⟨reachable_wrecked, rfl, rfl, rfl, by decide, by decide, rfl, rfl⟩

end Traffic

end BoxOffice.Pool
