import BoxOffice.Proofs.Office.Handover

/-!
# Identifiers of bookings

A request for seats draws an identifier, keeps it in hand while it tries to book,
and puts it on the booking that it makes. Where seats are booked through the
service alone, the identifiers of all bookings and those in hand are among the ones
that were drawn, each of them once. Everything else may happen: bookings are
settled in the pool or outside of it, jobs are submitted from outside, and requests
are given up with their identifiers in hand. So no two bookings share an
identifier, as long as identifiers have not gone round.
-/

namespace BoxOffice

namespace Office

open Ledger (Ticket Books)

/-! ### Bookings without the service -/

/-- Whether seats are asked for at the ledger itself, without the service. -/
def Request.isDirect : Request → Bool
  | .ledger .receipt _ => true
  | _ => false

def Task.isDirect : Task → Bool
  | .asked r => r.isDirect
  | .atLedger .receipt _ _ .answer => true
  | _ => false

def Move.isDirect : Move → Bool
  | .ask r => r.isDirect
  | _ => false

/-- Seats are booked through the service alone. -/
def IsServed (turns : List Turn) : Prop := ∀ x ∈ turns, x.move.isDirect = false

/-- The identifier for a booking that a request has in hand. -/
def label? (o : Office) (t : Ticket) : Option PublicId := (o.stake t).identifier?

/-- What a move adds to the identifiers of bookings comes from the hands of one
request, what comes there was just drawn, and the request does not book without the
service. -/
structure Labels (o : Office) (t : Ticket) (names drawn : List PublicId) (o' : Office) : Prop where
  known : t < o.tickets ∨ o'.label? t = o.label? t
  others : ∀ u, u ≠ t → o'.label? u = o.label? u
  named : o'.ledger.books.accounts.names = o.ledger.books.accounts.names ++ names
  given : o'.drawn = o.drawn ++ drawn
  used : (names ++ (o'.label? t).toList).Subperm (drawn ++ (o.label? t).toList)

section Moves

variable {o o' : Office} {m : Move} {t : Ticket} {task : Task}

theorem label?_of_none (idle : o.task? t = none) : o.label? t = none := by
  rw [label?, stake_of_none idle]
  rfl

theorem label?_of_task (at_ : o.task? t = some task) : o.label? t = task.stake.identifier? := by
  rw [label?, stake_of_task at_]

theorem label?_congr (same : o'.task? t = o.task? t) : o'.label? t = o.label? t :=
  congrArg Stake.identifier? (stake_congr same)

theorem Task.stake_of_direct (direct : task.isDirect = true) : task.stake = .own := by
  cases task with
  | asked r =>
      rw [stake_asked]
      cases r with
      | ledger kind call => cases kind <;> first | rfl | cases direct
      | _ => cases direct
  | atLedger kind stage due purpose =>
      cases purpose with
      | answer => cases kind <;> first | rfl | cases direct
      | _ => cases direct
  | _ => cases direct

/-- A request that is no turn of its own keeps its identifier, or is given up. -/
theorem label?_of_move (backed : IsBacked o) (other : m.isBy t = false) (patient : m ≠ .abandon t)
    (moved : m.apply o = some o') : o'.label? t = o.label? t := by
  rcases task?_of_move backed other moved with same | ⟨given_up, -⟩ | ⟨r, rfl, fresh, asked⟩
  · exact label?_congr same
  · exact absurd given_up patient
  · rw [label?_of_none fresh, label?_of_task asked, stake_asked]
    split <;> rfl

/-- A move that neither books nor draws an identifier. -/
theorem Labels.still (names : o'.ledger.books.accounts.names = o.ledger.books.accounts.names)
    (ids : o'.idsDrawn = o.idsDrawn) (labels : ∀ u, u ≠ t → o'.label? u = o.label? u)
    (own : t < o.tickets ∧ o'.label? t = none ∨ o'.label? t = o.label? t) :
    Labels o t [] [] o' where
  known := own.imp And.left id
  others := labels
  named := names.trans (List.append_nil _).symm
  given := (drawn_congr ids).trans (List.append_nil _).symm
  used := by
    rcases own with ⟨-, gone⟩ | same
    · rw [gone]
      exact List.nil_subperm
    · rw [same]

theorem Balances.labels {x : Turn} {bills : List Bill} {names drawn : List PublicId}
    (balances : Balances x t bills names drawn) : Labels x.before t names drawn x.after where
  known := balances.known.imp id (congrArg Stake.identifier?)
  others u other := congrArg Stake.identifier? (balances.others u other)
  named := balances.named
  given := balances.given
  used := ((List.sublist_append_left names _).append (List.Sublist.refl _)).subperm.trans
    balances.used

/-! ### Turns of requests -/

/-- A settlement that somebody asked for leaves the identifiers of bookings alone. -/
theorem labels_of_settlement (own : task.stake = .own) (served : task.isDirect = false)
    (step : o.stepTask t task = some o') :
    o'.ledger.books.accounts.names = o.ledger.books.accounts.names ∧ o'.stock = o.stock ∧
      (o'.task? t = none ∨ ∃ run, o'.task? t = some (.settling run)) := by
  cases task with
  | asked r =>
      cases step
      cases r with
      | ledger kind call =>
          cases call with
          | settle d =>
              simp only [Office.begin, call, proceed, Ledger.start]
              cases settled : o.ledger.settle d o.clock with
              | error e => exact ⟨rfl, rfl, .inl (task?_finish _ t _)⟩
              | ok paid =>
                  obtain ⟨payment, l⟩ := paid
                  refine ⟨?_, rfl, .inl (task?_finish _ t _)⟩
                  exact congrArg (·.names) (Ledger.paid_of_settle settled).2
          | book r => cases served
          | _ => cases own
      | settle job => exact ⟨rfl, rfl, .inr ⟨_, task?_setTask o t _⟩⟩
      | _ => cases own
  | atLedger kind stage due purpose =>
      cases purpose with
      | answer =>
          cases stage with
          | booking id => cases served
          | _ => cases own
      | _ => cases stage; cases own
  | settling run =>
      have stock := stock_stepTask rfl step
      simp only [stepTask] at step
      obtain ⟨⟨progress, o₁⟩, settled, rfl⟩ := Option.map_eq_some_iff.mp step
      have names : o₁.ledger.books.accounts.names = o.ledger.books.accounts.names := by
        cases settles_of_step settled with
        | goesOn core => exact congrArg (·.ledger.books.accounts.names) core
        | ends core => exact congrArg (·.ledger.books.accounts.names) core
        | records recorded => exact congrArg (·.names) (Ledger.paid_of_settle recorded).2
      simp only at stock ⊢
      split at stock
      · exact ⟨names, stock, .inr ⟨_, task?_setTask o₁ t _⟩⟩
      · exact ⟨names, stock, .inl (task?_finish o₁ t _)⟩
      · exact ⟨names, stock, .inl (task?_finish o₁ t _)⟩
  | _ => cases own

/-- What a turn of a request does to identifiers. -/
theorem labels_of_step (backed : IsBacked o) (at_ : o.task? t = some task)
    (served : task.isDirect = false) (step : o.stepTask t task = some o') :
    (∃ names drawn, Labels o t names drawn o') ∧
      ∀ task', o'.task? t = some task' → task'.isDirect = false := by
  have others (u : Ticket) (other : u ≠ t) : o'.task? u = o.task? u :=
    (apart_stepTask step).tasks u other
  by_cases own : task.stake = .own
  · obtain ⟨names, stock, after⟩ := labels_of_settlement own served step
    have gone : o'.label? t = none := by
      rcases after with idle | ⟨run, settling⟩
      · exact label?_of_none idle
      · exact label?_of_task settling
    refine ⟨⟨[], [], .still names (congrArg Stock.idsDrawn stock)
      (fun u other => label?_congr (others u other)) (.inl ⟨stake_lt backed at_, gone⟩)⟩, ?_⟩
    intro task' at_'
    rcases after with idle | ⟨run, settling⟩
    · cases idle.symm.trans at_'
    · cases settling.symm.trans at_'
      rfl
  · have trades := trades_of_step backed at_ own step
    obtain ⟨_, _, _, balances⟩ := balances_of_trades backed at_ trades fun u other =>
      stake_congr (others u other)
    refine ⟨⟨_, _, balances.labels⟩, fun task' at_' => Bool.eq_false_iff.mpr fun direct => ?_⟩
    have after : o'.stake t = .own := (stake_of_task at_').trans (Task.stake_of_direct direct)
    cases trades with
    | rests _ _ _ stake =>
        rcases stake with same | ⟨gone, -⟩
        · exact own (same.symm.trans after)
        · cases gone.symm.trans after
    | draws _ _ _ stake => rcases stake with stake | stake <;> cases stake.symm.trans after
    | makes _ _ _ stake => cases stake.symm.trans after
    | hands _ _ _ stake => cases stake.symm.trans after
    | closes _ _ _ _ stake => rcases stake with stake | ⟨stake, -⟩ <;> cases stake.symm.trans after

/-! ### Moves -/

/-- Whatever a worker does, it draws no identifier and makes no booking. -/
theorem still_stepWorker {i : Nat} (step : o.stepWorker i = some o') :
    o'.ledger.books.accounts.names = o.ledger.books.accounts.names ∧ o'.idsDrawn = o.idsDrawn := by
  constructor
  · rcases (workerStep_of_step step).core with same | ⟨_, _, _, _, l, _, settled, same⟩
    · exact congrArg (·.ledger.books.accounts.names) same
    · have ledger : o'.ledger = l := congrArg Core.ledger same
      rw [ledger]
      exact congrArg (·.names) (Ledger.paid_of_settle settled).2
  · unfold stepWorker at step
    obtain ⟨⟨event, pool, o₁⟩, worked, rfl⟩ := Option.map_eq_some_iff.mp step
    unfold Pool.work at worked
    split at worked
    · cases worked
    · split at worked
      · split at worked <;> cases worked
        rfl
      · cases worked
        rfl
    · rename_i job run deadline _
      cases stepped : o.stepSettlement false (.worker i) run with
      | none =>
          have blocked : poolHandler.advance i o.now run o = none := by simp [poolHandler, stepped]
          rw [blocked] at worked
          simp only at worked
          split at worked <;> cases worked
          exact congrArg (·.stock.idsDrawn) (backdrop_cancelSettlement o (.worker i) run)
      | some result =>
          obtain ⟨progress, o₂⟩ := result
          have kept := congrArg (·.stock.idsDrawn) (backdrop_stepSettlement stepped)
          simp only [poolHandler, stepped, Option.map_some] at worked
          rcases progress with outcome | run'
          · cases outcome <;> cases worked <;> exact kept
          · cases worked
            exact kept

/-- A move that is no turn of a request draws no identifier. -/
theorem idsDrawn_of_move (nobody : ∀ t, m.isBy t = false) (moved : m.apply o = some o') :
    o'.idsDrawn = o.idsDrawn := by
  by_cases aside : m.isAside = true
  · exact congrArg Stock.idsDrawn (stock_of_aside aside moved)
  · cases m with
    | turn a =>
        cases a with
        | caller t => cases (beq_self_eq_true t).symm.trans (nobody t)
        | worker i => exact (still_stepWorker moved).2
        | application => exact (governs_stepApplication moved).idsDrawn
        | consumer i => exact absurd rfl aside
        | unlocking t => exact absurd rfl aside
    | hurry a =>
        cases a with
        | caller t => cases (beq_self_eq_true t).symm.trans (nobody t)
        | application => exact (governs_hurryApplication moved).idsDrawn
        | worker i => cases moved
        | consumer i => cases moved
        | unlocking t => cases moved
    | abandon t =>
        cases moved
        exact congrArg (·.stock.idsDrawn) (backdrop_abandon o t)
    | submit job =>
        cases moved
        unfold submit
        cases o.pool.submit job <;> rfl
    | _ => exact absurd rfl aside

/-- A move that is no turn of a request makes no booking. -/
theorem names_of_move (nobody : ∀ t, m.isBy t = false) (moved : m.apply o = some o') :
    o'.ledger.books.accounts.names = o.ledger.books.accounts.names := by
  by_cases works : ∃ i, m = .turn (.worker i)
  · obtain ⟨i, rfl⟩ := works
    exact (still_stepWorker moved).1
  · rw [books_of_move nobody (fun i own => works ⟨i, own⟩) moved]

/-- What every move does to identifiers, where seats are booked through the service. -/
theorem labels_of_move (backed : IsBacked o)
    (served : ∀ t task, o.task? t = some task → task.isDirect = false)
    (moved : m.apply o = some o') : ∃ t names drawn, Labels o t names drawn o' := by
  have labels (u : Ticket) (other : m.isBy u = false) (patient : m ≠ .abandon u) :=
    label?_of_move backed other patient moved
  by_cases own : ∃ t, m.isBy t = true
  · obtain ⟨t, own⟩ := own
    rcases Move.eq_of_isBy own with rfl | rfl
    · obtain ⟨task, at_, step⟩ := Option.bind_eq_some_iff.mp moved
      exact ⟨t, (labels_of_step backed at_ (served t task at_) step).1⟩
    · obtain ⟨deadline, at_, after⟩ := hurried_of_move moved
      refine ⟨t, [], [], .still ?_ ?_ (fun u other => ?_) (.inl ⟨stake_lt backed at_, ?_⟩)⟩
      · rw [after]
        exact congrArg (·.books.accounts.names) (alike_abortPool o).ledger
      · rw [after]
        exact congrArg Stock.idsDrawn (stock_abortPool o)
      · exact labels u (isBy_of_ne own other) (by rintro ⟨⟩)
      · rw [after]
        exact label?_of_none (task?_finish _ t _)
  · have nobody (t : Ticket) : m.isBy t = false := Bool.eq_false_iff.mpr fun by_ => own ⟨t, by_⟩
    have names := names_of_move nobody moved
    have ids := idsDrawn_of_move nobody moved
    by_cases leaves : ∃ t, m = .abandon t
    · obtain ⟨t, rfl⟩ := leaves
      refine ⟨t, [], [], .still names ids (fun u other => ?_) ?_⟩
      · exact labels u rfl fun same => other (Move.abandon.inj same).symm
      · cases moved
        have gone : (o.abandon t).label? t = none :=
          label?_of_none ((Keyed.get?_erase t t _).trans (if_pos rfl))
        rcases Nat.lt_or_ge t o.tickets with known | late
        · exact .inl ⟨known, gone⟩
        · exact .inr (gone.trans (label?_of_none (backed.fresh late)).symm)
    · have all (u : Ticket) : o'.label? u = o.label? u :=
        labels u (nobody u) fun same => leaves ⟨u, same⟩
      exact ⟨0, [], [], .still names ids (fun u _ => all u) (.inr (all 0))⟩

/-- No request begins to book without the service but one that was made so. -/
theorem served_of_move (backed : IsBacked o) (indirect : m.isDirect = false)
    (served : ∀ t task, o.task? t = some task → task.isDirect = false)
    (moved : m.apply o = some o') :
    ∀ t task, o'.task? t = some task → task.isDirect = false := by
  intro t task at_
  cases own : m.isBy t with
  | true =>
      rcases Move.eq_of_isBy own with rfl | rfl
      · obtain ⟨task₀, before, step⟩ := Option.bind_eq_some_iff.mp moved
        exact (labels_of_step backed before (served t task₀ before) step).2 task at_
      · obtain ⟨_, _, rfl⟩ := hurried_of_move moved
        cases (task?_finish o.abortPool t (.drained false)).symm.trans at_
  | false =>
      rcases task?_of_move backed own moved with same | ⟨-, gone⟩ | ⟨r, rfl, -, asked⟩
      · exact served t task (same.symm.trans at_)
      · cases gone.symm.trans at_
      · cases asked.symm.trans at_
        exact indirect

end Moves

/-! ### Runs -/

/-- Identifiers of bookings and those in hand were drawn, each for one of them. Tickets
that were not given out have nothing in hand, so any bound on the tickets will do. -/
structure IsNamed (o : Office) : Prop where
  names : ∀ n, o.tickets ≤ n → (o.ledger.books.accounts.names ++
    (List.range n).filterMap o.label?).Subperm o.drawn
  served : ∀ t task, o.task? t = some task → task.isDirect = false

section Runs

variable {first o o' : Office} {turns : List Turn} {m : Move} {t : Ticket}

theorem IsNew.named (new : IsNew o) : IsNamed o := by
  cases new with
  | @opened setup scans clock sizing decider consumers application =>
      refine ⟨fun n _ => ?_, fun t task at_ => by cases at_⟩
      have empty : (List.range n).filterMap (Office.opened setup clock sizing decider consumers
          application).label? = [] := List.filterMap_eq_nil_iff.mpr fun _ _ => rfl
      rw [empty]
      exact List.nil_subperm

theorem IsNamed.move (named : IsNamed o) (backed : IsBacked o) (indirect : m.isDirect = false)
    (moved : m.apply o = some o') : IsNamed o' := by
  obtain ⟨t, names, drawn, labels⟩ := labels_of_move backed named.served moved
  refine ⟨fun n late => ?_, served_of_move backed indirect named.served moved⟩
  rw [List.subperm_ext_iff]
  intro name _
  have early := Nat.le_trans (tickets_le moved) late
  have before := (named.names n early).count_le name
  have used := labels.used.count_le name
  have hands := count_tickets (labels.known.imp (fun known => Nat.lt_of_lt_of_le known early) id)
    labels.others name
  rw [labels.named, labels.given]
  simp only [List.count_append] at before used hands ⊢
  omega

/-- Identifiers are drawn and not put back. -/
theorem IsNamed.idsDrawn_le (named : IsNamed o) (backed : IsBacked o)
    (moved : m.apply o = some o') : o.idsDrawn ≤ o'.idsDrawn := by
  obtain ⟨t, names, drawn, labels⟩ := labels_of_move backed named.served moved
  have grown := congrArg List.length labels.given
  simp only [Office.drawn, List.length_append, List.length_map, List.length_range] at grown
  omega

theorem Run.named (run : Run first turns o) (new : IsNew first) (served : IsServed turns) :
    IsNamed o := by
  induction run with
  | start => exact new.named
  | @next turns o o' m run moved ih =>
      have last : (⟨m, o, o'⟩ : Turn) ∈ turns ++ [⟨m, o, o'⟩] :=
        List.mem_concat_self
      have named := ih fun x member => served x (List.mem_append_left _ member)
      exact named.move (run.isBacked new.isBacked).1 (served _ last) moved

/-- No two bookings share an identifier, before identifiers have gone round. -/
theorem IsNamed.nodup (named : IsNamed o) (few : o.idsDrawn ≤ 2 ^ 64) :
    (o.ledger.books.bookings.map (·.publicId)).Nodup := by
  obtain ⟨names, same, within⟩ := named.names o.tickets (Nat.le_refl _)
  exact (same.nodup_iff.mp (within.nodup (nodup_drawn few))).of_append_left

end Runs

end Office

end BoxOffice
