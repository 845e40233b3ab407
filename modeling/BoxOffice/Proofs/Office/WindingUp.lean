import BoxOffice.Proofs.Office.Duties
import BoxOffice.Proofs.Office.Staffing

/-!
# The application keeps its budget

An application that is told to end waits for the consumers, one after another, and then
for the workers, up to one and the same instant. `Winds` lists its turns and `Proceeds`
says where it stands between them, whatever everybody else does meanwhile: how many
turns it has had, whom it has seen stop, and that no job is lost as long as it has not
sent anybody away. Time passes as it does by itself, when nobody can get on, and only up
to the next instant that somebody waits for.
-/

namespace BoxOffice

namespace Application.Stage

/-- Whether the application has turned to the workers. -/
def isLate : Stage → Bool
  | draining .. | ended _ => true
  | _ => false

/-- Whether the application has ended. -/
def isEnded : Stage → Bool
  | ended _ => true
  | _ => false

/-- What an application does after it began to see the workers off. -/
def seeing (clean : Bool) : Pool.Closing → Stage
  | .ended inTime => .ended (clean && inTime)
  | .waiting deadline => .draining deadline clean

end Application.Stage

namespace Office

open Ledger (Ticket)

/-! ### Time that passes by itself -/

/-- Whether nobody can get on and nobody has waited in vain. -/
def isAtRest (o : Office) : Bool :=
  (system.callers o ++ system.others o).all fun a => (step a o).isNone && (hurry a o).isNone

/-- Whether time may pass up to an instant: nothing is left to do, and nobody waits for an
earlier one. -/
def awaits (o : Office) (later : Nat) : Bool :=
  o.isAtRest && o.dues.all fun due => due ≤ o.now || later ≤ due

namespace Turn

/-- Whether time passes by itself in a turn, if it does, and nobody gives up who can get on. -/
def isTimely (x : Turn) : Bool :=
  match x.move with
  | .pass later => x.before.awaits later
  | .hurry a => (step a x.before).isNone
  | _ => true

/-- The application is told to end. -/
structure Signals (x : Turn) (timeout : Span) : Prop where
  before : x.before.application = some ⟨timeout, .running⟩
  after : x.after.application = some ⟨timeout, .signalled⟩

/-- The application turns to the workers. -/
structure SeesOff (x : Turn) : Prop where
  before : x.before.application.any (·.stage.isLate) = false
  after : x.after.application.any (·.stage.isLate) = true

/-- The application ends. -/
structure Returns (x : Turn) : Prop where
  before : x.before.application.any (·.stage.isEnded) = false
  after : x.after.application.any (·.stage.isEnded) = true

end Turn

/-- Whether a move is one of the application. -/
def Move.isGoverning : Move → Bool
  | .turn .application | .hurry .application => true
  | _ => false

/-! ### Turns of the application -/

section Turns

variable {o o' : Office} {a : Application}

/-- What a turn of an application does to the pool, and what it does after it. -/
inductive Winds (x : Turn) (a : Application) : Application.Stage → Prop
  | tells (at_ : a.stage = .signalled) (pool : x.after.pool = x.before.pool) :
      Winds x a (.joining 0 (x.before.now + a.timeout.ticks) true)
  | joins {i deadline : Nat} {clean : Bool} (at_ : a.stage = .joining i deadline clean)
      (went : x.before.stages[i]? = some .stopped) (pool : x.after.pool = x.before.pool) :
      Winds x a (.joining (i + 1) deadline clean)
  /-- It does not wait for a consumer any longer. -/
  | skips {i deadline : Nat} {clean : Bool} (at_ : a.stage = .joining i deadline clean)
      (vain : x.move = .hurry .application)
      (ahead : x.before.stepApplication = none → i < x.before.stages.length)
      (pool : x.after.pool = x.before.pool) : Winds x a (.joining (i + 1) deadline false)
  /-- It has waited for all consumers and turns to the workers. -/
  | turns {i deadline : Nat} {clean : Bool} {closing : Pool.Closing}
      (at_ : a.stage = .joining i deadline clean) (all : x.before.stages.length ≤ i)
      (closes : x.before.pool.Closes closing x.after.pool)
      (time : ∀ d, closing = .waiting d → d = x.before.now + (deadline - x.before.now)) :
      Winds x a (.seeing clean closing)
  /-- It has no time to wait for anybody. -/
  | rushes {closing : Pool.Closing} (at_ : a.stage = .signalled) (timeless : a.timeout.ticks = 0)
      (closes : x.before.pool.Closes closing x.after.pool)
      (time : ∀ d, closing = .waiting d → d = x.before.now) :
      Winds x a (.seeing (x.before.stages.all (· = .stopped)) closing)
  | leaves {deadline : Nat} {clean : Bool} (at_ : a.stage = .draining deadline clean)
      (deserted : x.before.pool.isDeserted = true) (pool : x.after.pool = x.before.pool) :
      Winds x a (.ended clean)
  /-- It sends the workers away that are left. -/
  | aborts {deadline : Nat} {clean : Bool} (at_ : a.stage = .draining deadline clean)
      (pool : x.after.pool = x.before.pool.aborted) : Winds x a (.ended false)

theorem deadline_of_closePool (o : Office) (grace : Span) {d : Nat}
    (waits : (o.closePool grace).1 = .waiting d) : d = o.now + grace.ticks := by
  have waits : (Pool.close poolHandler o.now grace o.pool o).1 = .waiting d := waits
  unfold Pool.close at waits
  split at waits
  · cases waits
  · split at waits <;> cases waits
    rfl

theorem application_drainPool (o : Office) (a : Application) (deadline : Nat) (clean : Bool) :
    (o.drainPool a deadline clean).application =
      some { a with stage := .seeing clean (o.closePool (.ofMillis (deadline - o.now))).1 } ∧
    (o.drainPool a deadline clean).pool = (o.closePool (.ofMillis (deadline - o.now))).2.pool := by
  unfold drainPool
  split <;> rename_i result <;> rw [result] <;> exact ⟨rfl, rfl⟩

theorem all_isStopped (o : Office) :
    o.consumers.all (·.isStopped) = o.stages.all (· = .stopped) := by
  rw [stages, List.all_map]
  rfl

theorem winds_of_step (step : o.stepApplication = some o') :
    ∃ a stage, o.application = some a ∧ o'.application = some { a with stage := stage } ∧
      Winds ⟨.turn .application, o, o'⟩ a stage := by
  unfold stepApplication at step
  obtain ⟨a, owned, step⟩ := Option.bind_eq_some_iff.mp step
  refine ⟨a, ?_⟩
  split at step
  · cases step
  · cases step
  · rename_i at_
    cases step
    split
    · rename_i timeless
      rw [all_isStopped, stages_tellConsumers]
      obtain ⟨application, pool⟩ := application_drainPool o.tellConsumers a
        (o.now + a.timeout.ticks) (o.stages.all (· = .stopped))
      have closes := closes_of_closePool o.tellConsumers
        (.ofMillis (o.now + a.timeout.ticks - o.tellConsumers.now))
      rw [← pool] at closes
      refine ⟨_, owned, application, .rushes at_ timeless closes fun d waits => ?_⟩
      have due := deadline_of_closePool _ _ waits
      have now : o.tellConsumers.now = o.now := rfl
      rw [Span.ticks_ofMillis, timeless, now] at due
      show d = o.now
      omega
    · exact ⟨_, owned, rfl, .tells at_ rfl⟩
  · rename_i i deadline clean at_
    split at step
    · rename_i none_
      cases step
      obtain ⟨application, pool⟩ := application_drainPool o a deadline clean
      have all : o.stages.length ≤ i := by
        rw [stages, List.length_map]
        exact List.getElem?_eq_none_iff.mp none_
      have closes := closes_of_closePool o (.ofMillis (deadline - o.now))
      rw [← pool] at closes
      refine ⟨_, owned, application, .turns at_ all closes fun d waits => ?_⟩
      rw [deadline_of_closePool _ _ waits, Span.ticks_ofMillis]
    · rename_i c found
      split at step <;> cases step
      rename_i went
      refine ⟨_, owned, rfl, .joins at_ ?_ rfl⟩
      show o.stages[i]? = some .stopped
      rw [stages, List.getElem?_map, found, Option.map_some, of_decide_eq_true went]
  · rename_i deadline clean at_
    split at step <;> cases step
    rename_i deserted
    exact ⟨_, owned, rfl, .leaves at_ deserted rfl⟩

theorem winds_of_hurry (step : o.hurryApplication = some o') :
    ∃ a stage, o.application = some a ∧ o'.application = some { a with stage := stage } ∧
      Winds ⟨.hurry .application, o, o'⟩ a stage := by
  unfold hurryApplication at step
  obtain ⟨a, owned, step⟩ := Option.bind_eq_some_iff.mp step
  refine ⟨a, ?_⟩
  split at step
  · rename_i i deadline clean at_
    split at step <;> cases step
    refine ⟨_, owned, rfl, .skips at_ rfl (fun first => ?_) rfl⟩
    show i < o.stages.length
    rw [stages, List.length_map]
    by_contra past
    have none_ : o.consumers[i]? = none := List.getElem?_eq_none_iff.mpr (Nat.le_of_not_lt past)
    simp [stepApplication, owned, at_, none_] at first
  · rename_i deadline clean at_
    split at step <;> cases step
    exact ⟨_, owned, rfl, .aborts at_ rfl⟩
  · cases step

theorem winds_of_move {m : Move} (own : m.isGoverning = true) (moved : m.apply o = some o') :
    ∃ a stage, o.application = some a ∧ o'.application = some { a with stage := stage } ∧
      Winds ⟨m, o, o'⟩ a stage := by
  unfold Move.isGoverning at own
  split at own
  · exact winds_of_step moved
  · exact winds_of_hurry moved
  · cases own

/-- Everybody else leaves the application alone, or tells it to end. -/
theorem application_of_move {m : Move} (other : m.isGoverning = false)
    (moved : m.apply o = some o') : o'.application = o.application ∨
      ∃ a, o.application = some a ∧ a.stage = .running ∧
        o'.application = some { a with stage := .signalled } := by
  cases paces_of_move moved with
  | rests same => exact .inl (congrArg Hours.application same)
  | passes => exact .inl rfl
  | consumes _ acts => exact .inl (now_acts acts).2
  | overlooks _ _ acts => exact .inl (now_acts acts).2
  | governs => cases other
  | hurries => cases other
  | tells _ hours => exact .inl (congrArg Hours.application hours)
  | signals owned running hours =>
      exact .inr ⟨_, owned, running, congrArg Hours.application hours⟩

theorem Winds.not_running {x : Turn} {stage : Application.Stage} (winds : Winds x a stage) :
    a.stage ≠ .running := by
  cases winds with
  | tells at_ => simp [at_]
  | joins at_ => simp [at_]
  | skips at_ => simp [at_]
  | turns at_ => simp [at_]
  | rushes at_ => simp [at_]
  | leaves at_ => simp [at_]
  | aborts at_ => simp [at_]

theorem Winds.ne_running {x : Turn} {stage : Application.Stage} (winds : Winds x a stage) :
    stage ≠ .running := by
  cases winds with
  | @turns _ _ _ closing => cases closing <;> exact nofun
  | @rushes closing => cases closing <;> exact nofun
  | _ => exact nofun

/-- An application that runs has done nothing else so far. -/
theorem running_of_move {m : Move} {timeout : Span} (moved : m.apply o = some o')
    (running : o'.application = some ⟨timeout, .running⟩) :
    o.application = some ⟨timeout, .running⟩ ∧ m.isGoverning = false := by
  cases own : m.isGoverning with
  | true =>
      obtain ⟨a, stage, -, after, winds⟩ := winds_of_move own moved
      cases after.symm.trans running
      exact absurd rfl winds.ne_running
  | false =>
      rcases application_of_move own moved with same | ⟨a, -, -, told⟩
      · exact ⟨same.symm.trans running, rfl⟩
      · cases told.symm.trans running

/-! ### Time and the application -/

/-- At rest the application cannot get on and has not waited in vain. -/
theorem stuck_of_isAtRest (rest : o.isAtRest = true) :
    o.stepApplication = none ∧ o.hurryApplication = none := by
  have present : Actor.application ∈ system.callers o ++ system.others o := by
    simp [system, attendants]
  have stuck := List.all_eq_true.mp rest _ present
  simpa [step, hurry] using stuck

theorem mem_dues {deadline : Nat} (owned : o.application = some a)
    (due : deadline ∈ a.stage.dues) : deadline ∈ o.dues := by
  simp only [dues, List.mem_append, owned, Option.map_some, Option.getD_some]
  exact .inl (.inr due)

/-- An application that has waited in vain gives up. -/
theorem isSome_hurry {deadline : Nat} (owned : o.application = some a)
    (due : deadline ∈ a.stage.dues) (late : deadline ≤ o.now) :
    o.hurryApplication.isSome = true := by
  unfold hurryApplication
  rw [owned, Option.bind_some]
  cases stage : a.stage with
  | joining i deadline' clean =>
      obtain rfl : deadline = deadline' := by simpa [stage, Application.Stage.dues] using due
      simp [late]
  | draining deadline' clean =>
      obtain rfl : deadline = deadline' := by simpa [stage, Application.Stage.dues] using due
      simp [late]
  | _ => simp [stage, Application.Stage.dues] at due

/-- Time does not pass while the application can get on, nor beyond what it waits for. -/
theorem time_of_move {m : Move} (moved : m.apply o = some o')
    (timely : Turn.isTimely ⟨m, o, o'⟩ = true) (owned : o.application = some a) :
    o'.now = o.now ∨ a.stage ≠ .signalled ∧ ∀ deadline ∈ a.stage.dues, o'.now ≤ deadline := by
  cases paces_of_move moved with
  | rests same => exact .inl (congrArg Hours.now same)
  | consumes _ acts => exact .inl (now_acts acts).1
  | overlooks _ _ acts => exact .inl (now_acts acts).1
  | governs step => exact .inl (now_stepApplication step)
  | hurries step => exact .inl (now_hurryApplication step)
  | tells _ hours => exact .inl (congrArg Hours.now hours)
  | signals _ _ hours => exact .inl (congrArg Hours.now hours)
  | @passes later forward =>
      have awaits : o.awaits later = true := timely
      obtain ⟨rest, waited⟩ := Bool.and_eq_true_iff.mp awaits
      obtain ⟨steps, hurries⟩ := stuck_of_isAtRest rest
      refine .inr ⟨fun told => ?_, fun deadline due => ?_⟩
      · simp [stepApplication, owned, told] at steps
      · have bound := List.all_eq_true.mp waited deadline (mem_dues owned due)
        have early : ¬ deadline ≤ o.now := fun late => by
          have gives := isSome_hurry owned due late
          rw [hurries] at gives
          cases gives
        simpa [early] using bound

/-! ### Before it is told -/

theorem staffs_of_aside {m : Move} (backed : IsBacked o) (other : m.isGoverning = false)
    (moved : m.apply o = some o') : Staffs ⟨m, o, o'⟩ :=
  staffs_of_move backed moved (by rintro rfl; cases other) (by rintro rfl; cases other)

/-- As long as the application runs and nobody has shut the pool down, no job is lost. -/
theorem Run.staffed {first : Office} {turns : List Turn} {timeout : Span}
    (run : Run first turns o) (new : IsNew first)
    (running : o.application = some ⟨timeout, .running⟩) (unclaimed : o.pool.claimed = false) :
    Staffed turns o := by
  induction run with
  | start =>
      cases new
      exact .opened ..
  | @next turns o o' m run moved ih =>
      obtain ⟨running, other⟩ := running_of_move moved running
      have staffs := staffs_of_aside (run.isBacked new.isBacked).1 other moved
      exact staffs.staffed (ih running) unclaimed

end Turns

/-! ### Where it stands -/

/-- How many turns the application has had. -/
def governing (turns : List Turn) : Nat := turns.countP (·.move.isGoverning)

/-- Nobody had shut the pool down when the application turned to the workers. -/
def Unshut (turns : List Turn) : Prop := ∀ y ∈ turns, y.SeesOff → y.before.pool.claimed = false

/-- The first consumers have stopped. -/
def HaveStopped (o : Office) (n : Nat) : Prop := ∀ j < n, o.stages[j]? = some .stopped

/-- Where an application stands that was told to end at an instant, after the turns since
then. -/
inductive Proceeds (start : Nat) (timeout : Span) (turns after : List Turn) (o : Office) :
    Application.Stage → Prop
  | signalled (prompt : o.now = start) (unspent : governing after = 0)
      (staffed : o.pool.claimed = false → Staffed turns o) :
      Proceeds start timeout turns after o .signalled
  | joining {i : Nat} {clean : Bool} (early : o.now ≤ start + timeout.ticks)
      (spent : governing after = i + 1) (within : i ≤ o.stages.length)
      (went : clean = true → o.HaveStopped i)
      (staffed : o.pool.claimed = false → Staffed turns o) :
      Proceeds start timeout turns after o (.joining i (start + timeout.ticks) clean)
  | draining {clean : Bool} (early : o.now ≤ start + timeout.ticks)
      (spent : governing after ≤ o.stages.length + 2)
      (went : clean = true → o.HaveStopped o.stages.length)
      (shut : o.pool.claimed = true ∧ o.pool.accepting = false)
      (staffed : Unshut after → Staffed turns o) :
      Proceeds start timeout turns after o (.draining (start + timeout.ticks) clean)
  | ended {clean : Bool} (spent : governing after ≤ o.stages.length + 3)
      (returned : ∃ y ∈ after, y.Returns ∧ y.after.now ≤ start + timeout.ticks)
      (shut : o.pool.claimed = true ∧ o.pool.accepting = false)
      (done : clean = true → o.HaveStopped o.stages.length ∧
        (Unshut after → Staffed turns o ∧ o.pool.isDeserted = true)) :
      Proceeds start timeout turns after o (.ended clean)

section Standing

variable {start : Nat} {timeout : Span} {turns after : List Turn} {x : Turn}
  {stage : Application.Stage}

theorem governing_concat (turns : List Turn) (x : Turn) :
    governing (turns ++ [x]) = governing turns + if x.move.isGoverning then 1 else 0 := by
  rw [governing, List.countP_append, governing, List.countP_singleton]

theorem Unshut.init (unshut : Unshut (turns ++ [x])) : Unshut turns :=
  fun y member => unshut y (List.mem_append_left _ member)

theorem HaveStopped.move {n : Nat} (stopped : x.before.HaveStopped n)
    (moved : x.move.apply x.before = some x.after) : x.after.HaveStopped n :=
  fun j early => stopped_of_move moved (stopped j early)

/-- What others do while the application waits. -/
theorem Proceeds.others (proceeds : Proceeds start timeout turns after x.before stage)
    (moved : x.move.apply x.before = some x.after) (other : x.move.isGoverning = false)
    (staffs : Staffs x)
    (time : x.after.now = x.before.now ∨
      stage ≠ .signalled ∧ ∀ deadline ∈ stage.dues, x.after.now ≤ deadline) :
    Proceeds start timeout (turns ++ [x]) (after ++ [x]) x.after stage := by
  have unspent : governing (after ++ [x]) = governing after := by
    rw [governing_concat, other]
    simp
  have length := length_stages_of_move moved
  have shut (shut : x.before.pool.claimed = true ∧ x.before.pool.accepting = false) :=
    And.intro (staffs.shut.1 shut.1) (staffs.shut.2 shut.2)
  cases proceeds with
  | signalled prompt none_ staffed =>
      refine .signalled ?_ (unspent.trans none_) (staffs.staffed staffed)
      rcases time with same | ⟨waits, -⟩
      · exact same.trans prompt
      · exact absurd rfl waits
  | joining early spent within went staffed =>
      refine .joining ?_ (unspent.trans spent) (length ▸ within)
        (fun clean => (went clean).move moved) (staffs.staffed staffed)
      rcases time with same | ⟨-, bound⟩
      · exact same ▸ early
      · exact bound _ (List.mem_singleton_self _)
  | draining early spent went closed staffed =>
      refine .draining ?_ (by rw [unspent, length]; exact spent)
        (fun clean => length ▸ (went clean).move moved) (shut closed)
        fun unshut => (staffed unshut.init).turn staffs (.inl closed.1)
      rcases time with same | ⟨-, bound⟩
      · exact same ▸ early
      · exact bound _ (List.mem_singleton_self _)
  | ended spent returned closed done =>
      obtain ⟨y, member, returns, early⟩ := returned
      refine .ended (by rw [unspent, length]; exact spent)
        ⟨y, List.mem_append_left _ member, returns, early⟩ (shut closed) fun clean => ?_
      obtain ⟨went, staffed⟩ := done clean
      refine ⟨length ▸ went.move moved, fun unshut => ?_⟩
      obtain ⟨staffed, deserted⟩ := staffed unshut.init
      exact ⟨staffed.turn staffs (.inl closed.1), staffs.deserted deserted⟩

/-! ### Its own turns -/

/-- What no turn of the application changes. -/
structure Turn.IsOwn (x : Turn) : Prop where
  own : x.move.isGoverning = true
  stages : x.after.stages = x.before.stages
  now : x.after.now = x.before.now
  awaits : ∀ t, x.after.stake t = .workers → x.before.stake t = .workers

theorem isOwn_of_move {o o' : Office} {m : Move} (backed : IsBacked o)
    (own : m.isGoverning = true) (moved : m.apply o = some o') : Turn.IsOwn ⟨m, o, o'⟩ := by
  have awaits (nobody : ∀ t, m.isBy t = false) (t : Ticket) :=
    awaits_of_move backed (nobody t) moved
  unfold Move.isGoverning at own
  split at own
  · exact ⟨rfl, stages_stepApplication moved, now_stepApplication moved, awaits fun _ => rfl⟩
  · exact ⟨rfl, stages_hurryApplication moved, now_hurryApplication moved, awaits fun _ => rfl⟩
  · cases own

namespace Turn.IsOwn

theorem untaken (own : x.IsOwn) : x.taken? = none := by
  have governs := own.own
  unfold Move.isGoverning at governs
  split at governs
  · rename_i move
    simp [Turn.taken?, Turn.given?, Turn.submission?, move]
  · rename_i move
    simp [Turn.taken?, Turn.given?, Turn.submission?, move]
  · cases governs

theorem unended (own : x.IsOwn) : x.endings = [] := by
  have governs := own.own
  unfold Move.isGoverning at governs
  split at governs
  · rename_i move
    simp [Turn.endings, move]
  · rename_i move
    simp [Turn.endings, move]
  · cases governs

theorem governing_concat (own : x.IsOwn) : governing (after ++ [x]) = governing after + 1 := by
  rw [Office.governing_concat, own.own, if_pos rfl]

theorem haveStopped (own : x.IsOwn) {n : Nat} (stopped : x.before.HaveStopped n) :
    x.after.HaveStopped n := fun j early => by rw [own.stages, stopped j early]

/-- A turn of the application that leaves workers and queue alone. -/
theorem staffed (own : x.IsOwn) (staffed : Staffed turns x.before)
    (workers : x.after.pool.workers = x.before.pool.workers)
    (queue : x.after.pool.queue = x.before.pool.queue) : Staffed (turns ++ [x]) x.after :=
  staffed.still own.untaken own.unended workers queue fun t waits =>
    staffed.alone t (own.awaits t waits)

end Turn.IsOwn

/-- The application goes on to wait for the next consumer. -/
theorem Proceeds.waits (own : x.IsOwn) {i : Nat} {clean : Bool}
    (early : x.before.now ≤ start + timeout.ticks) (spent : governing after = i)
    (within : i ≤ x.before.stages.length) (went : clean = true → x.before.HaveStopped i)
    (pool : x.after.pool = x.before.pool)
    (staffed : x.before.pool.claimed = false → Staffed turns x.before) :
    Proceeds start timeout (turns ++ [x]) (after ++ [x]) x.after
      (.joining i (start + timeout.ticks) clean) :=
  .joining (own.now ▸ early) (by rw [own.governing_concat, spent]) (own.stages ▸ within)
    (fun clean_ => own.haveStopped (went clean_)) fun unclaimed =>
      own.staffed (staffed (pool ▸ unclaimed)) (by rw [pool]) (by rw [pool])

/-- The application begins to see the workers off. -/
theorem Proceeds.seeing (own : x.IsOwn) (early : x.before.now ≤ start + timeout.ticks)
    (spent : governing after ≤ x.before.stages.length + 1) {closing : Pool.Closing} {clean : Bool}
    (closes : x.before.pool.Closes closing x.after.pool)
    (time : ∀ d, closing = .waiting d → d = start + timeout.ticks)
    (went : clean = true → x.before.HaveStopped x.before.stages.length)
    (staffed : x.before.pool.claimed = false → Staffed turns x.before) (seesOff : x.SeesOff)
    (returns : ∀ inTime, closing = .ended inTime → x.Returns) :
    Proceeds start timeout (turns ++ [x]) (after ++ [x]) x.after (.seeing clean closing) := by
  have went (clean_ : clean = true) : x.after.HaveStopped x.after.stages.length :=
    own.haveStopped (own.stages ▸ went clean_)
  have unclaimed (unshut : Unshut (after ++ [x])) : x.before.pool.claimed = false :=
    unshut x (List.mem_concat_self) seesOff
  have kept (patient : closing ≠ .ended false) (unshut : Unshut (after ++ [x])) :
      Staffed (turns ++ [x]) x.after := by
    obtain ⟨workers, queue⟩ := closes.kept patient
    exact own.staffed (staffed (unclaimed unshut)) workers queue
  cases closing with
  | waiting d =>
      obtain rfl := time d rfl
      refine .draining (own.now ▸ early) ?_ went closes.shut (kept nofun)
      rw [own.governing_concat, own.stages]
      omega
  | ended inTime =>
      refine .ended ?_ ⟨x, List.mem_concat_self, returns _ rfl,
        own.now ▸ early⟩ closes.shut fun done => ?_
      · rw [own.governing_concat, own.stages]
        omega
      · obtain ⟨clean_, rfl⟩ := Bool.and_eq_true_iff.mp done
        refine ⟨went clean_, fun unshut => ⟨kept nofun unshut, closes.isDeserted ?_⟩⟩
        have unclaimed := unclaimed unshut
        generalize x.after.pool = p at closes
        cases closes with
        | past done =>
            rcases done with claimed | deserted
            · cases unclaimed.symm.trans claimed
            · exact deserted

/-- The application is done with the workers. -/
theorem Proceeds.leaving {deadline : Nat} {clean clean' : Bool}
    (proceeds : Proceeds start timeout turns after x.before (.draining deadline clean))
    (own : x.IsOwn) (returns : x.Returns)
    (shut : x.before.pool.claimed = true ∧ x.before.pool.accepting = false →
      x.after.pool.claimed = true ∧ x.after.pool.accepting = false)
    (done : clean' = true →
      clean = true ∧ x.after.pool = x.before.pool ∧ x.before.pool.isDeserted = true) :
    Proceeds start timeout (turns ++ [x]) (after ++ [x]) x.after (.ended clean') := by
  cases proceeds with
  | draining early spent went closed staffed =>
      refine .ended ?_ ⟨x, List.mem_concat_self, returns, own.now ▸ early⟩ (shut closed)
        fun clean_ => ?_
      · rw [own.governing_concat, own.stages]
        omega
      · obtain ⟨before, pool, deserted⟩ := done clean_
        refine ⟨own.haveStopped (own.stages ▸ went before), fun unshut => ⟨?_, pool ▸ deserted⟩⟩
        exact own.staffed (staffed unshut.init) (by rw [pool]) (by rw [pool])

/-- A turn of the application. -/
theorem Proceeds.winds {stage' : Application.Stage}
    (proceeds : Proceeds start timeout turns after x.before stage) (own : x.IsOwn)
    (winds : Winds x ⟨timeout, stage⟩ stage') (timely : x.isTimely = true)
    (before : x.before.application = some ⟨timeout, stage⟩)
    (now : x.after.application = some ⟨timeout, stage'⟩) :
    Proceeds start timeout (turns ++ [x]) (after ++ [x]) x.after stage' := by
  have returns (done : stage'.isEnded = true) (still : stage.isEnded = false) : x.Returns :=
    ⟨by rw [before]; exact still, by rw [now]; exact done⟩
  have seesOff (late : stage'.isLate = true) (still : stage.isLate = false) : x.SeesOff :=
    ⟨by rw [before]; exact still, by rw [now]; exact late⟩
  cases winds with
  | tells at_ pool =>
      obtain rfl : stage = .signalled := at_
      cases proceeds with
      | signalled prompt unspent staffed =>
          subst prompt
          exact .waits own (Nat.le_add_right ..) unspent (Nat.zero_le _)
            (fun _ j early => absurd early (Nat.not_lt_zero j)) pool staffed
  | @joins i deadline clean at_ went pool =>
      obtain rfl : stage = .joining i deadline clean := at_
      cases proceeds with
      | joining early spent within before_ staffed =>
          have bound : i < x.before.stages.length := (List.getElem?_eq_some_iff.mp went).1
          refine .waits own early spent bound (fun clean_ j early => ?_) pool staffed
          rcases Nat.lt_succ_iff_lt_or_eq.mp early with earlier | rfl
          · exact before_ clean_ j earlier
          · exact went
  | @skips i deadline clean at_ vain ahead pool =>
      obtain rfl : stage = .joining i deadline clean := at_
      cases proceeds with
      | joining early spent within _ staffed =>
          have first : x.before.stepApplication = none := by
            simpa [Turn.isTimely, vain, step] using timely
          exact .waits own early spent (ahead first) nofun pool staffed
  | @turns i deadline clean closing at_ all closes time =>
      obtain rfl : stage = .joining i deadline clean := at_
      cases proceeds with
      | joining early spent within went staffed =>
          obtain rfl : i = x.before.stages.length := Nat.le_antisymm within all
          refine .seeing own early (Nat.le_of_eq spent) closes (fun d waits => ?_) went staffed
            (seesOff (by cases closing <;> rfl) rfl)
            fun inTime ends => returns (by rw [ends]; rfl) rfl
          rw [time d waits, Nat.add_sub_cancel' early]
  | @rushes closing at_ timeless closes time =>
      obtain rfl : stage = .signalled := at_
      cases proceeds with
      | signalled prompt unspent staffed =>
          have timeless : timeout.ticks = 0 := timeless
          refine .seeing own (by omega) (by omega) closes (fun d waits => ?_)
            (fun all j early => ?_) staffed (seesOff (by cases closing <;> rfl) rfl)
            fun inTime ends => returns (by rw [ends]; rfl) rfl
          · rw [time d waits, prompt, timeless, Nat.add_zero]
          · have stopped := List.all_eq_true.mp all _ (List.getElem_mem early)
            rw [List.getElem?_eq_getElem early, of_decide_eq_true stopped]
  | @leaves deadline clean at_ deserted pool =>
      obtain rfl : stage = .draining deadline clean := at_
      exact proceeds.leaving own (returns rfl rfl) (fun shut => pool ▸ shut)
        fun clean_ => ⟨clean_, pool, deserted⟩
  | @aborts deadline clean at_ pool =>
      obtain rfl : stage = .draining deadline clean := at_
      refine proceeds.leaving own (returns rfl rfl) (fun shut => ?_) nofun
      rw [pool, Pool.aborted_eq]
      exact shut

/-- What an application has come to that was told to end, at any time since then. -/
theorem Run.proceeds {first o : Office} {before after : List Turn} {x : Turn} {timeout : Span}
    (run : Run first (before ++ x :: after) o) (new : IsNew first) (told : x.Signals timeout)
    (timely : ∀ y ∈ after, y.isTimely = true) :
    ∃ stage, o.application = some ⟨timeout, stage⟩ ∧
      Proceeds x.after.now timeout (before ++ x :: after) after o stage := by
  obtain ⟨reached, moved, -⟩ := run.split
  have backed := (reached.isBacked new.isBacked).1
  have other : x.move.isGoverning = false := by
    refine Bool.eq_false_iff.mpr fun own => ?_
    obtain ⟨a, stage, owned, -, winds⟩ := winds_of_move own moved
    cases owned.symm.trans told.before
    exact winds.not_running rfl
  have staffs := staffs_of_aside backed other moved
  refine run.since (P := fun turns o => (∀ y ∈ turns, y.isTimely = true) →
    ∃ stage, o.application = some ⟨timeout, stage⟩ ∧
      Proceeds x.after.now timeout (before ++ x :: turns) turns o stage) ?_ ?_ timely
  · intro _
    exact ⟨_, told.after, .signalled rfl rfl (staffs.staffed (reached.staffed new told.before))⟩
  · intro turns o o' m run moved ih timely
    have backed := (run.isBacked new.isBacked).1
    obtain ⟨stage, owned, proceeds⟩ := ih fun y there => timely y (List.mem_append_left _ there)
    have timely := timely _ List.mem_concat_self
    rw [← List.cons_append, ← List.append_assoc]
    cases own : m.isGoverning with
    | true =>
        obtain ⟨a, stage', owned', now, winds⟩ := winds_of_move own moved
        cases owned'.symm.trans owned
        have own := isOwn_of_move backed own moved
        exact ⟨stage', now, proceeds.winds own winds timely owned now⟩
    | false =>
        have staffs := staffs_of_aside backed own moved
        have time := time_of_move moved timely owned
        refine ⟨stage, ?_, proceeds.others moved own staffs time⟩
        rcases application_of_move own moved with same | ⟨a, owned', running, -⟩
        · exact same.trans owned
        · cases owned'.symm.trans owned
          cases running
          cases proceeds

end Standing

/-! ### What it reports -/

/-- Whether the application has ended. -/
def hasEnded (o : Office) : Bool := o.application.any (·.stage.isEnded)

/-- Everybody has gone in good order: the consumers have stopped, whatever one of them had
in hand at any time it has settled, and every job that the pool took has ended by itself,
with a panic or at its deadline. -/
structure IsDrained (turns : List Turn) (o : Office) : Prop where
  stopped : ∀ c ∈ o.consumers, c.isStopped = true
  settled : ∀ {before after : List Turn} {y : Turn} {i : Nat} {d : Bus.Delivery},
    turns = before ++ y :: after → y.before.HasInHand i d → ∃ z ∈ y :: after, z.Settles i d
  jobs : (taken turns).Perm ((endings turns).map (·.1))

/-- What an application keeps to that was told to end at an instant. -/
structure WindsUp (timeout : Span) (start : Nat) (turns after : List Turn) (o : Office) : Prop where
  /-- As long as it has not ended, its time is not over; and it has ended in time. -/
  budget : o.hasEnded = false ∧ o.now ≤ start + timeout.ticks ∨
    o.hasEnded = true ∧ ∃ y ∈ after, y.Returns ∧ y.after.now ≤ start + timeout.ticks
  /-- Until it has ended it can get on or give up, or it waits for the end of its time. -/
  goesOn : o.hasEnded = false → o.stepApplication.isSome ∨ o.hurryApplication.isSome ∨
    o.now < start + timeout.ticks ∧ start + timeout.ticks ∈ o.dues
  few : governing after ≤ o.consumers.length + 3
  /-- When its time is over, it ends by its own turns. -/
  ends : start + timeout.ticks ≤ o.now → ∃ ms, (∀ m ∈ ms, m.isGoverning = true) ∧
    o.canPlay ms = true ∧ (o.played ms).hasEnded = true
  closed : o.hasEnded = true → ∀ job, o.pool.submit job = .error (.closed job)
  /-- Its report is true, unless somebody else had shut the pool down before. -/
  truthful : o.application = some ⟨timeout, .ended true⟩ → Unshut after → IsDrained turns o

section Reports

variable {first o : Office} {start : Nat} {timeout : Span} {turns after : List Turn}
  {stage : Application.Stage}

theorem Proceeds.few (proceeds : Proceeds start timeout turns after o stage) :
    governing after ≤ o.consumers.length + 3 := by
  have length : o.stages.length = o.consumers.length := List.length_map ..
  cases proceeds <;> omega

theorem Proceeds.budget (proceeds : Proceeds start timeout turns after o stage)
    (owned : o.application = some ⟨timeout, stage⟩) :
    o.hasEnded = false ∧ o.now ≤ start + timeout.ticks ∨
      o.hasEnded = true ∧ ∃ y ∈ after, y.Returns ∧ y.after.now ≤ start + timeout.ticks := by
  unfold hasEnded
  rw [owned]
  cases proceeds with
  | signalled prompt => exact .inl ⟨rfl, prompt ▸ Nat.le_add_right ..⟩
  | joining early => exact .inl ⟨rfl, early⟩
  | draining early => exact .inl ⟨rfl, early⟩
  | ended _ returned => exact .inr ⟨rfl, returned⟩

theorem Proceeds.goesOn (proceeds : Proceeds start timeout turns after o stage)
    (owned : o.application = some ⟨timeout, stage⟩) (still : o.hasEnded = false) :
    o.stepApplication.isSome ∨ o.hurryApplication.isSome ∨
      o.now < start + timeout.ticks ∧ start + timeout.ticks ∈ o.dues := by
  have waits (due : start + timeout.ticks ∈ stage.dues) : o.hurryApplication.isSome ∨
      o.now < start + timeout.ticks ∧ start + timeout.ticks ∈ o.dues := by
    by_cases late : start + timeout.ticks ≤ o.now
    · exact .inl (isSome_hurry owned due late)
    · exact .inr ⟨Nat.lt_of_not_le late, mem_dues owned due⟩
  cases proceeds with
  | signalled => exact .inl (by simp [stepApplication, owned])
  | joining => exact .inr (waits (List.mem_singleton_self _))
  | draining => exact .inr (waits (List.mem_singleton_self _))
  | ended => simp [hasEnded, owned, Application.Stage.isEnded] at still

theorem Proceeds.closed (proceeds : Proceeds start timeout turns after o stage)
    (owned : o.application = some ⟨timeout, stage⟩) (over_ : o.hasEnded = true)
    (job : Settlement.Job) : o.pool.submit job = .error (.closed job) := by
  unfold hasEnded at over_
  rw [owned] at over_
  refine Pool.submit_eq_closed.mpr ⟨?_, rfl⟩
  cases proceeds with
  | ended _ _ shut => simp [Pool.isOpen, shut.2]
  | _ => cases over_

theorem Proceeds.isDrained (proceeds : Proceeds start timeout turns after o (.ended true))
    (run : Run first turns o) (unshut : Unshut after) : IsDrained turns o := by
  cases proceeds with
  | ended _ _ _ done =>
      obtain ⟨went, staffed⟩ := done rfl
      obtain ⟨staffed, deserted⟩ := staffed unshut
      refine ⟨fun c member => ?_, ?_, staffed.done deserted⟩
      · obtain ⟨j, bound, rfl⟩ := List.mem_iff_getElem.mp member
        have stopped := went j (by rwa [stages, List.length_map])
        rw [stages, List.getElem?_map, List.getElem?_eq_getElem bound, Option.map_some] at stopped
        exact decide_eq_true (Option.some.inj stopped)
      · rintro before after y i d rfl holds
        obtain ⟨-, moved, later⟩ := run.split
        rcases (holds_of_move moved holds) with holds | settles
        · rcases later.settles holds with ⟨due, deadline, held⟩ | ⟨z, member, settles⟩
          · have stopped := went i (List.getElem?_eq_some_iff.mp held).1
            cases held.symm.trans stopped
          · exact ⟨z, List.mem_cons_of_mem _ member, settles⟩
        · exact ⟨y, List.mem_cons_self .., settles⟩

/-- An application whose time is over has another turn. -/
theorem Proceeds.turn (proceeds : Proceeds start timeout turns after o stage)
    (owned : o.application = some ⟨timeout, stage⟩) (still : o.hasEnded = false)
    (late : start + timeout.ticks ≤ o.now) : ∃ m o', m.isGoverning = true ∧
      m.apply o = some o' ∧ Turn.isTimely ⟨m, o, o'⟩ = true ∧ o'.now = o.now := by
  cases steps : o.stepApplication with
  | some o' => exact ⟨.turn .application, o', rfl, steps, rfl, now_stepApplication steps⟩
  | none =>
      rcases proceeds.goesOn owned still with some_ | gives | ⟨early, -⟩
      · rw [steps] at some_
        cases some_
      · obtain ⟨o', hurries⟩ := Option.isSome_iff_exists.mp gives
        refine ⟨.hurry .application, o', rfl, hurries, ?_, now_hurryApplication hurries⟩
        simp [Turn.isTimely, step, steps]
      · exact absurd early (Nat.not_lt_of_le late)

/-- Each turn uses up one of those that it has, so that it ends. -/
theorem Run.ends {o : Office} {before after : List Turn} {x : Turn}
    (run : Run first (before ++ x :: after) o) (new : IsNew first) (told : x.Signals timeout)
    (timely : ∀ y ∈ after, y.isTimely = true) (late : x.after.now + timeout.ticks ≤ o.now) :
    ∃ ms, (∀ m ∈ ms, m.isGoverning = true) ∧ o.canPlay ms = true ∧
      (o.played ms).hasEnded = true := by
  cases still : o.hasEnded with
  | true => exact ⟨[], by simp, rfl, still⟩
  | false =>
      obtain ⟨stage, owned, proceeds⟩ := run.proceeds new told timely
      obtain ⟨m, o', own, moved, prompt, now⟩ := proceeds.turn owned still late
      have later : Run first (before ++ x :: (after ++ [⟨m, o, o'⟩])) o' := by
        rw [← List.cons_append, ← List.append_assoc]
        exact run.next moved
      have timely' : ∀ y ∈ after ++ [⟨m, o, o'⟩], y.isTimely = true := by
        intro y member
        rcases List.mem_append.mp member with there | here
        · exact timely y there
        · rwa [List.mem_singleton.mp here]
      obtain ⟨_, -, proceeds'⟩ := later.proceeds new told timely'
      have few := proceeds'.few
      have length : o'.consumers.length = o.consumers.length := by
        simpa [stages] using length_stages_of_move moved
      have spent : governing (after ++ [⟨m, o, o'⟩]) = governing after + 1 := by
        rw [governing_concat, own, if_pos rfl]
      obtain ⟨ms, all, can, done⟩ := Run.ends later new told timely' (now ▸ late)
      have made := made_of_apply moved
      refine ⟨m :: ms, ?_, ?_, ?_⟩
      · intro m' member
        rcases List.mem_cons.mp member with rfl | there
        · exact own
        · exact all m' there
      · rw [canPlay, moved, made]
        exact can
      · rw [played, List.foldl_cons, made]
        exact done
termination_by o.consumers.length + 3 - governing after
decreasing_by omega

/-- An application that is told to end does so within its time, and no job is taken from
then on. If it reports that all went in time, they have. -/
theorem Run.windsUp {before after : List Turn} {x : Turn}
    (run : Run first (before ++ x :: after) o) (new : IsNew first) (told : x.Signals timeout)
    (timely : ∀ y ∈ after, y.isTimely = true) :
    WindsUp timeout x.after.now (before ++ x :: after) after o := by
  obtain ⟨stage, owned, proceeds⟩ := run.proceeds new told timely
  refine ⟨proceeds.budget owned, proceeds.goesOn owned, proceeds.few, run.ends new told timely,
    proceeds.closed owned, fun done unshut => ?_⟩
  cases owned.symm.trans done
  exact proceeds.isDrained run unshut

end Reports

/-- An office with one worker, whose charges take 40 milliseconds, one consumer, and an
application that has 100 milliseconds to end. -/
def crewed : Office :=
  opened .standard .epoch (.of 1 4) (.script (.settles (.ofMillis 40) .success) [])
    [.standard "event-snapshots" ⟨"events", "event-snapshots", [], none⟩ .events]
    (some (.ofTimeout (.ofMillis 100)))

/-- The consumer has a message in hand, the worker has a job, and another job waits, when
somebody asks for the end. -/
def evening : List Move :=
  [.turn (.consumer 0), .ask (.register ⟨.ofNat 1, "Talk", .epoch, .epoch, 3, ⟨2500⟩⟩),
    .turn (.caller 0), .turn (.caller 0), .turn (.consumer 0),
    .submit ⟨⟨1⟩, ⟨7⟩, ⟨2500⟩, .sequential 1⟩, .submit ⟨⟨1⟩, ⟨7⟩, ⟨2500⟩, .sequential 2⟩,
    .turn (.worker 0), .turn (.worker 0), .ask .stopApplication]

/-- The application is told. -/
def farewell : Turn :=
  ⟨.turn (.caller 1), crewed.played evening, Move.made (crewed.played evening) (.turn (.caller 1))⟩

/-- The consumer settles its message and stops, and the worker ends one job after 40
milliseconds and the other one after 80. -/
def clearing : List Move :=
  [.turn .application, .turn (.consumer 0), .turn (.consumer 0), .turn .application,
    .turn .application, .pass 40, .turn (.worker 0), .turn (.worker 0), .turn (.worker 0),
    .turn (.worker 0), .pass 80, .turn (.worker 0), .turn (.worker 0), .turn (.worker 0),
    .turn .application]

theorem run_clearing : Run crewed (crewed.play evening ++ farewell :: farewell.after.play clearing)
    (farewell.after.played clearing) := by
  have opened := Run.start.play (show crewed.canPlay evening = true by decide +kernel)
  rw [List.nil_append] at opened
  have can : (crewed.played evening).canPlay [.turn (.caller 1)] = true := by decide +kernel
  have told := opened.play can
  have cleared := told.play (show farewell.after.canPlay clearing = true by decide +kernel)
  rwa [List.append_assoc] at cleared

theorem unshut_clearing : Unshut (farewell.after.play clearing) := by
  have all : (farewell.after.play clearing).all (fun y =>
      y.before.application.any (·.stage.isLate) || !y.after.application.any (·.stage.isLate) ||
        !y.before.pool.claimed) = true := by decide +kernel
  intro y member ⟨before, after⟩
  simpa [before, after] using List.all_eq_true.mp all y member

theorem windsUp_clearing :
    farewell.Signals (.ofMillis 100) ∧
      farewell.before.stages.map (·.message?.isSome) = [true] ∧
      (farewell.after.played clearing).now = 80 ∧
      (taken (crewed.play evening ++ farewell :: farewell.after.play clearing)).length = 2 ∧
      WindsUp (.ofMillis 100) 0 (crewed.play evening ++ farewell :: farewell.after.play clearing)
        (farewell.after.play clearing) (farewell.after.played clearing) ∧
      IsDrained (crewed.play evening ++ farewell :: farewell.after.play clearing)
        (farewell.after.played clearing) := by
  have told : farewell.Signals (.ofMillis 100) := ⟨by decide +kernel, by decide +kernel⟩
  have timely : ∀ y ∈ farewell.after.play clearing, y.isTimely = true :=
    List.all_eq_true.mp (by decide +kernel)
  have started : farewell.after.now = 0 := by decide +kernel
  have winds := run_clearing.windsUp (.opened (fun _ => .refl _) _ _ _ _ _) told timely
  rw [started] at winds
  have ended : (farewell.after.played clearing).application =
    some ⟨.ofMillis 100, .ended true⟩ := by decide +kernel
  exact ⟨told, by decide +kernel, by decide +kernel, by decide +kernel, winds,
    winds.truthful ended unshut_clearing⟩

end Office

end BoxOffice
