import BoxOffice.Proofs.Office.Names
import BoxOffice.Proofs.Office.Twins

/-!
# What side effects cannot do

A booking is announced and handed over for settlement after it is stored, and a change
of an event is announced after it is made. What becomes of the message and of the job is
nothing to the answer, nor to anybody else who changes events or books seats.

A run is looked at through its glimpses: which requests were made, who of those that
have a say in rows got on or gave up, which rows were let go, when, at what time of day
and with what luck in the snapshots. The workers of the pool, the consumers, the bus, and
whoever shuts things down are out of sight. Two runs with the same glimpses answer the
same and end with the same rows, but for payments and for the statuses that come of them.
Tickets count all requests, also those out of sight, so a request may have another one in
the other run.
-/

namespace BoxOffice.Office

open Ledger (Ticket)

variable {ρ : Ticket → Ticket} {o o' o₁ o₁' : Office} {m m' : Move} {t : Ticket} {task : Task}

/-! ### Glimpses of a run -/

/-- What is seen of a move. -/
inductive Deed
  | ask (t : Ticket) (r : Request)
  /-- A request gets on, and finds something in the snapshots. -/
  | step (t : Ticket) (looked : Sight)
  | abandon (t : Ticket)
  /-- A row that was held from outside is let go. -/
  | unlock (key : RowKey)
  | failInsert
  | setHold (hold : Span)

/-- The same with other tickets. -/
def Deed.renamed (ρ : Ticket → Ticket) : Deed → Deed
  | .ask t r => .ask (ρ t) r
  | .step t looked => .step (ρ t) looked
  | .abandon t => .abandon (ρ t)
  | d => d

/-- What is seen of a move that an office makes. -/
def Move.deed? (o : Office) : Move → Option Deed
  | .ask r => if r.isBystander then none else some (.ask o.tickets r)
  | .turn (.caller t) =>
    (o.task? t).bind fun task => task.seen?.map fun _ => .step t (o.sight task)
  | .turn (.unlocking t) => (Keyed.get? t o.unlocks).map fun u => .unlock u.key
  | .abandon t => (o.seen? t).map fun _ => .abandon t
  | .unlock key => some (.unlock key)
  | .failInsert => some .failInsert
  | .setHold hold => some (.setHold hold)
  | _ => none

/-- What is seen of a turn: what was done, when, and at what time of day. -/
structure Glimpse where
  deed : Deed
  now : Nat
  clock : Timestamp

def Glimpse.renamed (ρ : Ticket → Ticket) (g : Glimpse) : Glimpse :=
  { g with deed := g.deed.renamed ρ }

def Turn.glimpse? (x : Turn) : Option Glimpse :=
  (x.move.deed? x.before).map fun d => ⟨d, x.before.now, x.before.clock⟩

/-- All that is seen of a run, in order. -/
def glimpses (turns : List Turn) : List Glimpse := turns.filterMap Turn.glimpse?

/-- The answer that a request is given in a turn. -/
def Turn.answer? (t : Ticket) (x : Turn) : Option Answer :=
  if x.move.isBy t then x.after.told? t else none

/-- The answers that a request is given in a run. -/
def answersTo (t : Ticket) (turns : List Turn) : List Answer := turns.filterMap (Turn.answer? t)

/-! ### Moves out of sight -/

namespace Twin

theorem refl (o : Office) : Twin id o o := of_core rfl rfl

/-- A request out of sight stays there. -/
theorem setTask_unseen (unseen : o.seen? t = none) (hidden : task.seen? = none) :
    Twin id o (o.setTask t task) := by
  refine of_seen rfl rfl rfl rfl fun u => ?_
  rw [seen?_setTask]
  split
  · next own => rw [own, unseen, hidden]
  · rfl

theorem erase_unseen (unseen : o.seen? t = none) :
    Twin id o { o with tasks := Keyed.erase t o.tasks } := by
  refine of_seen rfl rfl rfl rfl fun u => ?_
  rw [seen?_erase]
  split
  · next own => rw [own, unseen]
  · rfl

/-- A request out of sight may come to its end. -/
theorem finish_unseen (unseen : o.seen? t = none) (answer : Answer) :
    Twin id o (o.finish t answer) :=
  have erased := erase_unseen unseen
  ⟨erased.setup, erased.idsDrawn, erased.ledger, erased.seen, erased.held⟩

theorem of_settle {d : Payment.Draft} {payment : Payment} {l : Ledger}
    (settled : o.ledger.settle d o.clock = .ok (payment, l)) :
    Twin id o { o with ledger := l } :=
  (refl o).withLedger (Ledger.veiled_of_settle id settled)

theorem cancelSettlement (o : Office) (a : Actor) (run : Settlement.Run) :
    Twin id o (o.cancelSettlement a run) :=
  of_core (alike_cancelSettlement o a run).core
    (congrArg (·.stock.idsDrawn) (backdrop_cancelSettlement o a run))

theorem closePool (o : Office) (grace : Span) : Twin id o (o.closePool grace).2 :=
  of_core (alike_closePool o grace).core (congrArg Stock.idsDrawn (stock_closePool o grace))

theorem abortPool (o : Office) : Twin id o o.abortPool :=
  of_core (alike_abortPool o).core (congrArg Stock.idsDrawn (stock_abortPool o))

/-- The first step of a request that has no say in rows. -/
theorem begin_ {r : Request} (unseen : o.seen? t = none) (bystander : r.isBystander = true) :
    Twin id o (o.begin t r) := by
  cases r with
  | ledger kind c =>
      cases c with
      | settle d =>
          simp only [begin, call, proceed, Ledger.start]
          cases settled : o.ledger.settle d o.clock with
          | error e => exact finish_unseen unseen _
          | ok paid =>
              have kept := of_settle settled
              exact kept.trans (finish_unseen ((kept.seen t).trans unseen) _)
      | _ => cases bystander
  | settle job => exact setTask_unseen unseen rfl
  | wait span => exact setTask_unseen unseen rfl
  | closePool grace =>
      have closed := closePool o grace
      simp only [begin]
      split <;> rename_i result <;> rw [result] at closed
      · exact closed.trans (finish_unseen ((closed.seen t).trans unseen) _)
      · exact closed.trans (setTask_unseen ((closed.seen t).trans unseen) rfl)
  | stopConsumers =>
      simp only [begin]
      split
      · exact finish_unseen unseen _
      · have set : Twin id o (o.setTask t (.stoppingConsumers !o.consumers.isEmpty)) :=
          setTask_unseen unseen rfl
        exact ⟨set.setup, set.idsDrawn, set.ledger, set.seen, set.held⟩
  | stopApplication =>
      simp only [begin]
      split
      · split
        · have set : Twin id o (o.setTask t .stoppingApplication) := setTask_unseen unseen rfl
          exact ⟨set.setup, set.idsDrawn, set.ledger, set.seen, set.held⟩
        · exact finish_unseen unseen _
      · exact finish_unseen unseen _
  | _ => cases bystander

theorem stepSettlement {own : Bool} {a : Actor} {run : Settlement.Run} {step : Settlement.Step}
    (stepped : o.stepSettlement own a run = some (step, o')) : Twin id o o' := by
  have ids : o'.idsDrawn = o.idsDrawn :=
    congrArg (·.stock.idsDrawn) (backdrop_stepSettlement stepped)
  cases settles_of_step stepped with
  | goesOn core _ _ => exact of_core core ids
  | ends core _ => exact of_core core ids
  | records settled => exact of_settle settled

/-- A further step of a request that has no say in rows. -/
theorem stepTask (at_ : o.task? t = some task) (hidden : task.seen? = none)
    (step : o.stepTask t task = some o') : Twin id o o' := by
  have unseen : o.seen? t = none := by rw [seen?, at_, Option.bind_some, hidden]
  cases task with
  | asked r =>
      cases step
      refine begin_ unseen ?_
      simpa [Task.seen?] using hidden
  | settling run =>
      simp only [Office.stepTask] at step
      obtain ⟨⟨progress, o₁⟩, settled, rfl⟩ := Option.map_eq_some_iff.mp step
      have kept := stepSettlement settled
      have unseen := (kept.seen t).trans unseen
      simp only
      split
      · exact kept.trans (setTask_unseen unseen rfl)
      · exact kept.trans (finish_unseen unseen _)
      · exact kept.trans (finish_unseen unseen _)
  | waiting due =>
      simp only [Office.stepTask] at step
      split at step <;> cases step
      exact finish_unseen unseen _
  | closingPool deadline =>
      simp only [Office.stepTask] at step
      split at step <;> cases step
      exact finish_unseen unseen _
  | stoppingConsumers told =>
      simp only [Office.stepTask] at step
      split at step <;> cases step
      exact finish_unseen unseen _
  | stoppingApplication =>
      simp only [Office.stepTask] at step
      split at step <;> cases step
      exact finish_unseen unseen _
  | _ => cases hidden

theorem ask_unseen {r : Request} (fresh : o.task? o.tickets = none)
    (bystander : r.isBystander = true) : Twin id o (o.ask r).2 := by
  refine of_seen rfl rfl rfl rfl fun u => ?_
  show ((o.ask r).2.task? u).bind Task.seen? = (o.task? u).bind Task.seen?
  by_cases own : u = o.tickets
  · rw [own, task?_ask r fresh, fresh]
    exact if_pos bystander
  · rw [task?_ask_of_ne o r own]

theorem abandon_unseen (unseen : o.seen? t = none) : Twin id o (o.abandon t) := by
  unfold Office.abandon
  cases at_ : o.task? t with
  | none => exact erase_unseen unseen
  | some task =>
      have hidden : task.seen? = none := by rwa [seen?, at_, Option.bind_some] at unseen
      cases task with
      | settling run =>
          have kept := cancelSettlement o (.caller t) run
          exact kept.trans (erase_unseen ((kept.seen t).trans unseen))
      | atLedger kind stage due purpose => cases hidden
      | holding key => cases hidden
      | _ => exact erase_unseen unseen

end Twin

/-- A turn out of sight makes a twin. -/
theorem twin_of_unseen_turn {a : Actor} (unseen : Move.deed? o (.turn a) = none)
    (moved : step a o = some o') : Twin id o o' := by
  cases a with
  | caller t =>
      obtain ⟨task, at_, step⟩ := Option.bind_eq_some_iff.mp moved
      refine .stepTask at_ ?_ step
      simpa [Move.deed?, at_] using unseen
  | worker i =>
      have ids := idsDrawn_of_move (m := .turn (.worker i)) (fun _ => rfl) moved
      rcases (workerStep_of_step moved).core with
        core | ⟨job, draft, retries, payment, l, -, settled, core⟩
      · exact .of_core core ids
      · have paid := Twin.of_settle settled
        exact paid.trans (.of_core core ids)
  | consumer i =>
      exact .of_core (alike_stepConsumer moved).core
        (idsDrawn_of_move (m := .turn (.consumer i)) (fun _ => rfl) moved)
  | application =>
      exact .of_core (alike_stepApplication moved).core
        (idsDrawn_of_move (m := .turn .application) (fun _ => rfl) moved)
  | unlocking t =>
      obtain ⟨u, found, -, -⟩ := stepUnlock_eq_some moved
      simp [Move.deed?, found] at unseen

/-- So does one who runs out of patience. -/
theorem twin_of_hurry {a : Actor} (moved : hurry a o = some o') : Twin id o o' := by
  cases a with
  | caller t =>
      obtain ⟨deadline, at_, rfl⟩ := hurried_of_move moved
      have aborted := Twin.abortPool o
      refine aborted.trans (.finish_unseen ((aborted.seen t).trans ?_) _)
      rw [seen?, at_]
      rfl
  | application =>
      exact .of_core (alike_hurryApplication moved).core
        (idsDrawn_of_move (m := .hurry .application) (fun _ => rfl) moved)
  | worker i => cases moved
  | consumer i => cases moved
  | unlocking t => cases moved

/-- A move out of sight makes a twin. -/
theorem twin_of_unseen (backed : IsBacked o) (unseen : m.deed? o = none)
    (moved : m.apply o = some o') : Twin id o o' := by
  cases m with
  | turn a => exact twin_of_unseen_turn unseen moved
  | hurry a => exact twin_of_hurry moved
  | overlook i =>
      have ids := idsDrawn_of_move (m := .overlook i) (fun _ => rfl) moved
      exact .of_core (alike_overlook moved).core ids
  | ask r =>
      cases moved
      refine .ask_unseen (backed.fresh (Nat.le_refl _)) ?_
      simpa [Move.deed?] using unseen
  | abandon t =>
      cases moved
      exact .abandon_unseen (by simpa [Move.deed?] using unseen)
  | take =>
      cases moved
      exact .of_seen rfl rfl rfl rfl fun _ => rfl
  | unlockAfter key span =>
      cases moved
      exact .of_seen rfl rfl rfl rfl fun _ => rfl
  | pass now =>
      simp only [Move.apply] at moved
      split at moved <;> cases moved
      exact .of_core rfl rfl
  | submit job =>
      have ids := idsDrawn_of_move (fun _ => rfl) moved
      cases moved
      exact .of_core (alike_submit o job).core ids
  | announce c =>
      cases moved
      exact .of_core (alike_announce o c).core (congrArg Stock.idsDrawn (stock_announce o c))
  | announceUser c =>
      cases moved
      exact .of_core (alike_announceUser o c).core
        (congrArg Stock.idsDrawn (stock_announceUser o c))
  | unlock key => cases unseen
  | failInsert => cases unseen
  | setHold hold => cases unseen
  | _ =>
      cases moved
      exact .of_core rfl rfl

/-! ### Moves in sight -/

/-- What a move in sight comes to. -/
inductive Does (o : Office) : Move → Deed → Office → Prop
  | asks (r : Request) : Does o (.ask r) (.ask o.tickets r) (o.ask r).2
  | steps {t : Ticket} {task seen : Task} {o₁ : Office} (at_ : o.task? t = some task)
      (here : task.seen? = some seen) (step : o.stepTask t task = some o₁) :
      Does o (.turn (.caller t)) (.step t (o.sight task)) o₁
  | abandons {t : Ticket} {seen : Task} (at_ : o.seen? t = some seen) :
      Does o (.abandon t) (.abandon t) (o.abandon t)
  | unlocks {m : Move} {key : RowKey} {o₁ : Office} (other : ∀ t, m.isBy t = false)
      (kept : Twin id o o₁) : Does o m (.unlock key) (o₁.unlock key).2
  | failInsert : Does o .failInsert .failInsert { o with ledger := o.ledger.failInsert }
  | setHold (hold : Span) :
      Does o (.setHold hold) (.setHold hold) { o with ledger := o.ledger.setHold hold }

theorem does_of_apply {d : Deed} (deed : m.deed? o = some d) (moved : m.apply o = some o₁) :
    Does o m d o₁ := by
  cases m with
  | ask r =>
      cases moved
      simp only [Move.deed?] at deed
      split at deed <;> cases deed
      exact .asks r
  | turn a =>
      cases a with
      | caller t =>
          obtain ⟨task, at_, step⟩ := Option.bind_eq_some_iff.mp moved
          simp only [Move.deed?, at_, Option.bind_some] at deed
          obtain ⟨seen, here, rfl⟩ := Option.map_eq_some_iff.mp deed
          exact .steps at_ here step
      | unlocking t =>
          obtain ⟨u, found, -, rfl⟩ := stepUnlock_eq_some moved
          simp only [Move.deed?, found, Option.map_some] at deed
          cases deed
          exact .unlocks (fun _ => rfl) (.of_core rfl rfl)
      | _ => cases deed
  | abandon t =>
      cases moved
      obtain ⟨seen, at_, rfl⟩ := Option.map_eq_some_iff.mp deed
      exact .abandons at_
  | unlock key =>
      cases moved
      cases deed
      exact .unlocks (fun _ => rfl) (.refl o)
  | failInsert =>
      cases moved
      cases deed
      exact .failInsert
  | setHold hold =>
      cases moved
      cases deed
      exact .setHold hold
  | _ => cases deed

/-- The answer of a turn, if its request is to change an event or to book seats. -/
def Turn.result? (t : Ticket) (x : Turn) : Option Answer :=
  if (x.before.task? t).any Task.changes then x.answer? t else none

theorem Turn.result?_of_other {x : Turn} (other : x.move.isBy t = false) : x.result? t = none := by
  simp [Turn.result?, Turn.answer?, other]

theorem Turn.result?_of_own (at_ : o.task? t = some task) :
    Turn.result? t ⟨.turn (.caller t), o, o₁⟩ = if task.changes then o₁.told? t else none := by
  simp [Turn.result?, Turn.answer?, Move.isBy, at_]

/-- A request that gets on in twins leaves twins behind, and is told the same. -/
theorem Abreast.agree_steps (abreast : Abreast ρ o o') (inj : Function.Injective ρ) {u : Ticket}
    {task' seen seen' : Task} (at_ : o.task? u = some task) (at_' : o'.task? (ρ u) = some task')
    (here : task.seen? = some seen) (here' : task'.seen? = some seen')
    (looked : o'.sight task' = o.sight task) (step : o.stepTask u task = some o₁)
    (step' : o'.stepTask (ρ u) task' = some o₁') :
    Twin ρ o₁ o₁' ∧ ∀ t, Turn.result? (ρ t) ⟨.turn (.caller (ρ u)), o', o₁'⟩ =
      Turn.result? t ⟨.turn (.caller u), o, o₁⟩ := by
  have seen_ : some seen' = some seen := by
    have both := abreast.twin.seen u
    rwa [seen?, seen?, at_, at_', Option.bind_some, Option.bind_some, here, here'] at both
  have rel := abreast.step inj u here (here'.trans seen_) looked
  rw [step, step'] at rel
  obtain ⟨agree⟩ := rel
  refine ⟨agree.twin, fun t => ?_⟩
  by_cases own : t = u
  · subst own
    rw [Turn.result?_of_own at_, Turn.result?_of_own at_',
      Task.changes_of_seen here (here'.trans seen_)]
    split
    · next changes => exact agree.told changes
    · rfl
  · have aside : Move.isBy t (.turn (.caller u)) = false := by
      simpa [Move.isBy] using Ne.symm own
    have aside' : Move.isBy (ρ t) (.turn (.caller (ρ u))) = false := by
      simpa [Move.isBy] using fun met => own (inj met).symm
    rw [Turn.result?_of_other aside', Turn.result?_of_other aside]

/-- The same deed in twins leaves twins behind, and the same is answered. -/
theorem Does.agree {d : Deed} (does : Does o m d o₁) (does' : Does o' m' (d.renamed ρ) o₁')
    (abreast : Abreast ρ o o') (inj : Function.Injective ρ) (fresh : o.task? o.tickets = none)
    (fresh' : o'.task? o'.tickets = none) :
    Twin ρ o₁ o₁' ∧
      ∀ t, Turn.result? (ρ t) ⟨m', o', o₁'⟩ = Turn.result? t ⟨m, o, o₁⟩ := by
  have twin := abreast.twin
  generalize same : d.renamed ρ = d' at does'
  have silent (aside : ∀ t, m.isBy t = false) (aside' : ∀ t, m'.isBy t = false) (t : Ticket) :
      Turn.result? (ρ t) ⟨m', o', o₁'⟩ = Turn.result? t ⟨m, o, o₁⟩ := by
    rw [Turn.result?_of_other (aside' (ρ t)), Turn.result?_of_other (aside t)]
  cases does with
  | asks r =>
      cases does' with
      | asks r' =>
          obtain ⟨next, rfl⟩ := Deed.ask.inj same
          exact ⟨twin.ask inj r next.symm fresh fresh', silent (fun _ => rfl) fun _ => rfl⟩
      | _ => cases same
  | steps at_ here step =>
      cases does' with
      | steps at_' here' step' =>
          obtain ⟨rfl, looked⟩ := Deed.step.inj same
          exact abreast.agree_steps inj at_ at_' here here' looked.symm step step'
      | _ => cases same
  | abandons at_ =>
      cases does' with
      | abandons at_' =>
          obtain rfl := Deed.abandon.inj same
          exact ⟨twin.abandon inj at_, silent (fun _ => rfl) fun _ => rfl⟩
      | _ => cases same
  | unlocks other kept =>
      cases does' with
      | unlocks other' kept' =>
          obtain rfl := Deed.unlock.inj same
          exact ⟨((twin.trans kept').before kept).unlock inj _, silent other other'⟩
      | _ => cases same
  | failInsert =>
      cases does' with
      | failInsert =>
          exact ⟨twin.withLedger (congrArg Ledger.failInsert twin.ledger),
            silent (fun _ => rfl) fun _ => rfl⟩
      | _ => cases same
  | setHold hold =>
      cases does' with
      | setHold hold' =>
          obtain rfl := Deed.setHold.inj same
          exact ⟨twin.withLedger (congrArg (·.setHold hold) twin.ledger),
            silent (fun _ => rfl) fun _ => rfl⟩
      | _ => cases same

/-! ### Two runs -/

/-- The answers to a request that is to change an event or to book seats. -/
def resultsTo (t : Ticket) (turns : List Turn) : List Answer := turns.filterMap (Turn.result? t)

theorem resultsTo_append (t : Ticket) (turns turns' : List Turn) :
    resultsTo t (turns ++ turns') = resultsTo t turns ++ resultsTo t turns' :=
  List.filterMap_append

theorem resultsTo_cons (t : Ticket) (x : Turn) (turns : List Turn) :
    resultsTo t (x :: turns) = (x.result? t).toList ++ resultsTo t turns := by
  rw [resultsTo, List.filterMap_cons, ← resultsTo]
  cases x.result? t <;> rfl

theorem glimpses_append (turns turns' : List Turn) :
    glimpses (turns ++ turns') = glimpses turns ++ glimpses turns' :=
  List.filterMap_append

theorem glimpses_single (x : Turn) : glimpses [x] = x.glimpse?.toList := by
  rw [glimpses, List.filterMap_cons]
  cases x.glimpse? <;> rfl

theorem Task.changes_of_unseen (hidden : task.seen? = none) : task.changes = false := by
  cases task with
  | asked r =>
      have bystander : r.isBystander = true := by simpa [Task.seen?] using hidden
      cases r with
      | ledger kind call => cases kind <;> first | rfl | cases bystander
      | _ => first | rfl | cases bystander
  | _ => first | rfl | cases hidden

theorem Turn.result?_of_unseen (unseen : m.deed? o = none) (moved : m.apply o = some o') :
    Turn.result? t ⟨m, o, o'⟩ = none := by
  cases own : m.isBy t with
  | false => exact Turn.result?_of_other own
  | true =>
      have aside {task : Task} (at_ : o.task? t = some task) (idle : task.changes = false) :
          Turn.result? t ⟨m, o, o'⟩ = none := by
        simp [Turn.result?, at_, idle]
      rcases Move.eq_of_isBy own with rfl | rfl
      · obtain ⟨task, at_, step⟩ := Option.bind_eq_some_iff.mp moved
        refine aside at_ (Task.changes_of_unseen ?_)
        simpa [Move.deed?, at_] using unseen
      · obtain ⟨deadline, at_, -⟩ := hurried_of_move moved
        exact aside at_ rfl

section Runs

variable {first first' : Office} {turns turns' : List Turn}

/-- What happens out of sight makes a twin, and answers no request that matters. -/
theorem Run.unseen (run : Run o turns o') (backed : IsBacked o) (unseen : glimpses turns = []) :
    Twin id o o' ∧ ∀ t, resultsTo t turns = [] := by
  induction run with
  | start => exact ⟨.refl o, fun _ => rfl⟩
  | @next turns o₁ o₂ m run moved ih =>
      rw [glimpses_append, List.append_eq_nil_iff, glimpses_single] at unseen
      obtain ⟨twin, silent⟩ := ih unseen.1
      have hidden : m.deed? o₁ = none := by simpa [Turn.glimpse?] using unseen.2
      refine ⟨twin.trans (twin_of_unseen (run.isBacked backed).1 hidden moved), fun t => ?_⟩
      rw [resultsTo_append, silent t, resultsTo_cons, Turn.result?_of_unseen hidden moved]
      rfl

/-- The last glimpse of a run is of one of its turns, and nothing is seen of those after. -/
theorem eq_of_glimpses_concat {gs : List Glimpse} {g : Glimpse}
    (seen : glimpses turns = gs ++ [g]) :
    ∃ before x after, turns = before ++ x :: after ∧ glimpses before = gs ∧
      x.glimpse? = some g ∧ glimpses after = [] := by
  obtain ⟨early, late, rfl, early_, last⟩ := List.filterMap_eq_append_iff.mp seen
  obtain ⟨unseen, x, after, rfl, unseen_, here, after_⟩ := List.filterMap_eq_cons_iff.mp last
  have silent : glimpses unseen = [] := List.filterMap_eq_nil_iff.mpr unseen_
  refine ⟨early ++ unseen, x, after, (List.append_assoc ..).symm, ?_, here, after_⟩
  rw [glimpses_append, silent, List.append_nil]
  exact early_

/-- New offices with the same set-up are twins. -/
theorem Twin.of_new (new : IsNew first) (new' : IsNew first') (setup : first'.setup = first.setup) :
    Twin ρ first first' := by
  cases new
  cases new'
  exact ⟨setup, rfl, rfl, fun _ => rfl, fun _ => rfl⟩

/-- Runs with the same glimpses end in twins, and the same is answered. -/
theorem Run.twin (run : Run first turns o) (run' : Run first' turns' o') (new : IsNew first)
    (new' : IsNew first') (setup : first'.setup = first.setup) (inj : Function.Injective ρ)
    (same : glimpses turns' = (glimpses turns).map (Glimpse.renamed ρ)) :
    Twin ρ o o' ∧ ∀ t, resultsTo (ρ t) turns' = resultsTo t turns := by
  induction run generalizing turns' o' with
  | start =>
      obtain ⟨twin, silent⟩ := run'.unseen new'.isBacked same
      exact ⟨(Twin.of_new new new' setup).trans twin, fun t => silent (ρ t)⟩
  | @next turns o o₁ m run moved ih =>
      have backed := (run.isBacked new.isBacked).1
      cases deed : m.deed? o with
      | none =>
          have hidden : Turn.glimpse? ⟨m, o, o₁⟩ = none := by simp [Turn.glimpse?, deed]
          rw [glimpses_append, glimpses_single, hidden, Option.toList_none, List.append_nil] at same
          obtain ⟨twin, results⟩ := ih run' same
          refine ⟨twin.before (twin_of_unseen backed deed moved), fun t => ?_⟩
          rw [results t, resultsTo_append, resultsTo_cons, Turn.result?_of_unseen deed moved]
          exact (List.append_nil _).symm
      | some d =>
          have shown : Turn.glimpse? ⟨m, o, o₁⟩ = some ⟨d, o.now, o.clock⟩ := by
            simp [Turn.glimpse?, deed]
          rw [glimpses_append, glimpses_single, shown, List.map_append] at same
          -- The other run has a turn like this one, and what comes after is out of sight.
          obtain ⟨before, x, after, rfl, early, here, late⟩ := eq_of_glimpses_concat same
          obtain ⟨run₁, moved', run₂⟩ := run'.split
          obtain ⟨d', deed', g⟩ := Option.map_eq_some_iff.mp here
          obtain ⟨rfl, now, clock⟩ := Glimpse.mk.inj g
          have backed' := (run₁.isBacked new'.isBacked).1
          obtain ⟨twin, results⟩ := ih run₁ early
          obtain ⟨twin₁, result⟩ := (does_of_apply deed moved).agree (does_of_apply deed' moved')
            ⟨twin, now, clock⟩ inj (backed.fresh (Nat.le_refl _)) (backed'.fresh (Nat.le_refl _))
          obtain ⟨twin₂, silent⟩ := run₂.unseen (backed'.move moved').1 late
          refine ⟨twin₁.trans twin₂, fun t => ?_⟩
          have last : x.result? (ρ t) = Turn.result? t ⟨m, o, o₁⟩ := result t
          have nothing : resultsTo (ρ t) after = [] := silent (ρ t)
          rw [resultsTo_append, resultsTo_append, resultsTo_cons, resultsTo_cons, results t, last,
            nothing]
          rfl

/-! ### All answers -/

/-- A request that is to change an event or to book seats stays so until it is answered. -/
theorem changes_of_step {later : Task} (changes : task.changes = true)
    (step : o.stepTask t task = some o')
    (at_' : o'.task? t = some later) : later.changes = true := by
  cases here : task.seen? with
  | none => cases (Task.changes_of_unseen here).symm.trans changes
  | some seen =>
      have abreast : Abreast id o o := ⟨.refl o, rfl, rfl⟩
      have rel := abreast.step Function.injective_id t here here rfl
      rw [show o.stepTask (id t) task = some o' from step, step] at rel
      obtain ⟨agree⟩ := rel
      exact (agree.stays later at_').trans changes

/-- No move makes another request of it. -/
theorem changes_of_move (known : t < o.tickets)
    (stays : ∀ task, o.task? t = some task → task.changes = true) (moved : m.apply o = some o')
    (later : Task) (at_' : o'.task? t = some later) : later.changes = true := by
  cases own : m.isBy t with
  | false =>
      rcases (keeps_of_move own moved).task? known with kept | gone
      · exact stays later (kept.symm.trans at_')
      · cases gone.symm.trans at_'
  | true =>
      obtain ⟨task, at_, step | ⟨deadline, rfl⟩⟩ := step_of_isBy own moved
      · exact changes_of_step (stays task at_) step at_'
      · cases stays _ at_

/-- Nobody gets on under a ticket that was not given out. -/
theorem Run.unasked (run : Run first turns o) (new : IsNew first) (late : o.tickets ≤ t) :
    ∀ x ∈ turns, x.move.isBy t = false := by
  induction run with
  | start =>
      intro x member
      cases member
  | next run moved ih =>
      have early := Nat.le_trans (tickets_le moved) late
      intro x member
      rcases List.mem_append.mp member with before | last
      · exact ih early x before
      · rw [List.mem_singleton.mp last]
        exact isBy_of_none ((run.isBacked new.isBacked).1.fresh early) moved

/-- A request that was to change an event or to book seats is so in all its turns. -/
theorem Run.changes (run : Run first turns o) (new : IsNew first) {x : Turn} {r : Request}
    (member : x ∈ turns) (asked : x.move = .ask r) (changes : r.changes = true) :
    x.before.tickets < o.tickets ∧
      (∀ task, o.task? x.before.tickets = some task → task.changes = true) ∧
      ∀ y ∈ turns, y.result? x.before.tickets = y.answer? x.before.tickets := by
  have idle {t : Ticket} {y : Turn} (other : y.move.isBy t = false) :
      y.result? t = y.answer? t := by
    simp [Turn.result?, Turn.answer?, other]
  induction run with
  | start => cases member
  | @next turns o o' m run moved ih =>
      rcases List.mem_append.mp member with early | last
      · obtain ⟨known, stays, same⟩ := ih early
        generalize x.before.tickets = t at known stays same
        refine ⟨Nat.lt_of_lt_of_le known (tickets_le moved), ?_, ?_⟩
        · exact changes_of_move known stays moved
        · intro y member
          rcases List.mem_append.mp member with before | last
          · exact same y before
          · obtain rfl := List.mem_singleton.mp last
            cases own : m.isBy t with
            | false => exact idle own
            | true =>
                obtain ⟨task, at_, -⟩ := step_of_isBy own moved
                simp [Turn.result?, at_, stays task at_]
      · obtain rfl := List.mem_singleton.mp last
        obtain rfl : m = .ask r := asked
        cases moved
        have fresh := (run.isBacked new.isBacked).1.fresh (Nat.le_refl o.tickets)
        refine ⟨Nat.lt_succ_self _, ?_, ?_⟩
        · intro later at_
          cases (task?_ask r fresh).symm.trans at_
          exact changes
        · intro y member
          rcases List.mem_append.mp member with before | last
          · exact idle (run.unasked new (Nat.le_refl _) y before)
          · obtain rfl := List.mem_singleton.mp last
            exact idle rfl

theorem Run.resultsTo_eq (run : Run first turns o) (new : IsNew first) {x : Turn} {r : Request}
    (member : x ∈ turns) (asked : x.move = .ask r) (changes : r.changes = true) :
    resultsTo x.before.tickets turns = answersTo x.before.tickets turns :=
  List.filterMap_congr (run.changes new member asked changes).2.2

theorem Request.not_bystander {r : Request} (changes : r.changes = true) :
    r.isBystander = false := by
  cases r with
  | ledger kind call => cases kind <;> first | rfl | cases changes
  | _ => first | rfl | cases changes

theorem Move.eq_ask_of_deed? {r : Request} (deed : m.deed? o = some (.ask t r)) :
    m = .ask r ∧ o.tickets = t := by
  cases m with
  | ask r' =>
      simp only [Move.deed?] at deed
      split at deed <;> cases deed
      exact ⟨rfl, rfl⟩
  | turn a => cases a <;> simp [Move.deed?, Option.bind_eq_some_iff] at deed
  | _ => simp [Move.deed?] at deed

/-- A request that is seen to be made in one run is made in the other. -/
theorem asked_of_glimpses (same : glimpses turns' = (glimpses turns).map (Glimpse.renamed ρ))
    {x : Turn} {r : Request} (member : x ∈ turns) (asked : x.move = .ask r)
    (changes : r.changes = true) :
    ∃ x' ∈ turns', x'.move = .ask r ∧ x'.before.tickets = ρ x.before.tickets := by
  have seen : x.glimpse? = some ⟨.ask x.before.tickets r, x.before.now, x.before.clock⟩ := by
    simp [Turn.glimpse?, asked, Move.deed?, Request.not_bystander changes]
  have shown := List.mem_map_of_mem (f := Glimpse.renamed ρ)
    (List.mem_filterMap.mpr ⟨x, member, seen⟩)
  rw [← glimpses, ← same] at shown
  obtain ⟨x', member', seen'⟩ := List.mem_filterMap.mp shown
  obtain ⟨d, deed, g⟩ := Option.map_eq_some_iff.mp seen'
  obtain rfl : d = .ask (ρ x.before.tickets) r := congrArg Glimpse.deed g
  exact ⟨x', member', Move.eq_ask_of_deed? deed⟩

/-- The effort to tell others and to settle bookings never has a say in what comes of a
request. Take two runs, in offices with the same set-up, with the same glimpses: the same
requests that have a say in rows, and the same turns of theirs, at the same instants and
times of day and with the same luck in the snapshots. All else may differ: what the bus
does with a message, the size of the pool, its deciders and whether it is shut, its
workers, the consumers, and who settles what. Then every request to change an event or to
book seats is answered the same in both, the events are the same and so are the bookings,
but for their statuses. Nor does anything of it hold a request up: who can get on in one
office can get on at that instant in the other. -/
theorem Run.outcome_eq (run : Run first turns o) (run' : Run first' turns' o') (new : IsNew first)
    (new' : IsNew first') (setup : first'.setup = first.setup) (inj : Function.Injective ρ)
    (same : glimpses turns' = (glimpses turns).map (Glimpse.renamed ρ)) :
    (∀ x ∈ turns, ∀ r, x.move = .ask r → r.changes = true →
      answersTo (ρ x.before.tickets) turns' = answersTo x.before.tickets turns) ∧
    o'.ledger.books.events = o.ledger.books.events ∧
    o'.ledger.books.bookings.map Booking.veiled = o.ledger.books.bookings.map Booking.veiled ∧
    ∀ t seen, o.seen? t = some seen → o'.now = o.now →
      (step (.caller (ρ t)) o').isSome = (step (.caller t) o).isSome := by
  obtain ⟨twin, results⟩ := run.twin run' new new' setup inj same
  refine ⟨?_, ?_, ?_, ?_⟩
  · intro x member r asked changes
    obtain ⟨x', member', asked', ticket⟩ := asked_of_glimpses same member asked changes
    rw [← run.resultsTo_eq new member asked changes, ← results, ← ticket]
    exact (run'.resultsTo_eq new' member' asked' changes).symm
  · rw [← Ledger.events_veiled id, twin.ledger, Ledger.events_veiled]
  · rw [← Ledger.bookings_veiled id, twin.ledger, Ledger.bookings_veiled]
  · intro t seen at_ now
    obtain ⟨task, here, seen_⟩ := Option.bind_eq_some_iff.mp at_
    obtain ⟨task', there, seen'⟩ := Option.bind_eq_some_iff.mp ((twin.seen t).trans at_)
    simp only [Office.step, stepCaller, here, there, Option.bind_some]
    exact twin.canStep inj t now seen_ seen'

end Runs

/-- A talk is put on sale, a user becomes known, asks for two seats of the talk and gets
them. The tickets count from here. -/
def trade (t : Ticket) : List Move :=
  [.ask (.register ⟨.ofNat 1, "Talk", .epoch, .epoch, 3, ⟨2500⟩⟩), .turn (.caller t),
    .turn (.caller t),
    .write ⟨[(⟨1⟩, ⟨⟨1⟩, .ofNat 1, "Talk", .epoch, .epoch, 3, ⟨2500⟩, 1⟩)], 0⟩
      ⟨[(⟨7⟩, ⟨⟨7⟩, .ofNat 2, 1⟩)], 0⟩,
    .ask (.create (.ofNat 1) (.ofNat 2) 2)] ++ List.replicate 6 (.turn (.caller (t + 1)))

/-- What is seen of the trade. -/
def traded (t : Ticket) : List Glimpse :=
  let at_ (d : Deed) : Glimpse := ⟨d, 0, .epoch⟩
  [at_ (.ask t (.register ⟨.ofNat 1, "Talk", .epoch, .epoch, 3, ⟨2500⟩⟩)),
    at_ (.step t ⟨none, none⟩), at_ (.step t ⟨none, none⟩),
    at_ (.ask (t + 1) (.create (.ofNat 1) (.ofNat 2) 2)),
    at_ (.step (t + 1) ⟨some ⟨⟨1⟩, .ofNat 1, "Talk", .epoch, .epoch, 3, ⟨2500⟩, 1⟩, none⟩),
    at_ (.step (t + 1) ⟨none, some ⟨⟨7⟩, .ofNat 2, 1⟩⟩)] ++
    List.replicate 4 (at_ (.step (t + 1) ⟨none, none⟩))

/-- A day on which all goes well, and a worker settles the booking. -/
def goodDay : List Move := trade 0 ++ List.replicate 4 (.turn (.worker 0))

/-- A day on which nothing can be published, and the pool is shut before the trade. -/
def badDay : List Move :=
  [.wire { Bus.empty with failPublishes := true }, .ask (.closePool ⟨0⟩), .turn (.caller 0)] ++
    trade 1

/-- An office with more workers and less room for jobs. -/
def cramped : Office := opened .standard .epoch (.of 3 1) (.fixed .failed) [] none

/-- The request for seats has another ticket on the bad day. Its answer is the same, and so
is the talk; the booking stays pending and nobody is told. -/
theorem outcome_eq_badDay :
    glimpses (cramped.play badDay) =
      (glimpses (vacant.play goodDay)).map (Glimpse.renamed (· + 1)) ∧
    (∃ view, answersTo 1 (vacant.play goodDay) = [.booking (.ok view)] ∧
      answersTo 2 (cramped.play badDay) = [.booking (.ok view)]) ∧
    (cramped.played badDay).ledger.books.events = (vacant.played goodDay).ledger.books.events ∧
    (cramped.played badDay).ledger.books.bookings.map (·.status) = [.pending] ∧
    (vacant.played goodDay).ledger.books.bookings.map (·.status) = [.success] ∧
    (cramped.played badDay).bus.published.length = 0 ∧
    (vacant.played goodDay).bus.published.length = 2 := by
  have run : Run vacant ([] ++ vacant.play goodDay) (vacant.played goodDay) := Run.start.play rfl
  have run' : Run cramped ([] ++ cramped.play badDay) (cramped.played badDay) :=
    Run.start.play rfl
  have here : glimpses (vacant.play goodDay) = traded 0 := rfl
  have there : glimpses (cramped.play badDay) = traded 1 := rfl
  have same : glimpses (cramped.play badDay) =
      (glimpses (vacant.play goodDay)).map (Glimpse.renamed (· + 1)) := by
    rw [here, there]
    rfl
  obtain ⟨answers, events, -⟩ := run.outcome_eq run' (.opened (fun _ => .refl _) _ _ _ _ _)
    (.opened (fun _ => .refl _) _ _ _ _ _) rfl (add_left_injective 1) same
  have asked : (vacant.play goodDay)[4] ∈ vacant.play goodDay := List.getElem_mem _
  have answered : answersTo 2 (cramped.play badDay) = answersTo 1 (vacant.play goodDay) :=
    answers _ asked _ rfl rfl
  exact ⟨same, ⟨_, rfl, answered⟩, events, rfl, rfl, rfl, rfl⟩

end BoxOffice.Office
