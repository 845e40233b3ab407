import BoxOffice.Proofs.Office.Shutdown
import Mathlib.Data.List.Perm.Subperm

/-!
# The trail of a booking

Every booking of an office in which seats are booked through the service alone is
in the hands of its request, was given to the pool as a job, or was left behind by
a request that was given up. The identifiers of bookings and payments are among
those that were drawn, each used once. `IsTraced` says both of a run; it is kept
because every turn adds to the bookings and the identifiers just what it takes from
the hands of one request or puts there, which `Balances` says.
-/

namespace BoxOffice

/-- What a job is to be paid for. -/
def Settlement.Job.bill (job : Settlement.Job) : Bill := ⟨job.bookingId, job.userId, job.amount⟩

namespace Office

open Ledger (Ticket Books)

/-! ### What a move deals with -/

/-- Whether a move is nothing to bookings and to the pool. -/
def Move.isAside : Move → Bool
  | .turn (.caller _) | .turn (.worker _) | .turn .application => false
  | .hurry (.caller _) | .hurry .application => false
  | .abandon _ | .submit _ => false
  | _ => true

/-- Whether a move leaves bookings to the service and settlements to the pool, and
gives the pool no job from outside. -/
def Move.isOrdinary : Move → Bool
  | .ask r => !r.isOwn
  | .submit _ => false
  | _ => true

/-- What an ordinary move comes to, as far as bookings and the pool go. -/
inductive Deals (o : Office) : Move → Office → Prop
  | aside {m : Move} {o' : Office} (aside : m.isAside = true)
      (books : o'.ledger.books = o.ledger.books) (stock : o'.stock = o.stock)
      (stakes : ∀ t, o'.stake t = o.stake t) : Deals o m o'
  | leaves {t : Ticket} {o' : Office} (books : o'.ledger.books = o.ledger.books)
      (stock : o'.stock = o.stock) (gone : o'.stake t = .nothing)
      (others : ∀ u, u ≠ t → o'.stake u = o.stake u) : Deals o (.abandon t) o'
  | trades {t : Ticket} {task : Task} {o' : Office} (at_ : o.task? t = some task)
      (trades : Trades o t task o') (others : ∀ u, u ≠ t → o'.stake u = o.stake u) :
      Deals o (.turn (.caller t)) o'
  | hurries {t : Ticket} {o' : Office} (waited : o.stake t = .workers)
      (books : o'.ledger.books = o.ledger.books)
      (stock : o'.stock = { o.stock with pool := o.pool.aborted }) (gone : o'.stake t = .nothing)
      (others : ∀ u, u ≠ t → o'.stake u = o.stake u) : Deals o (.hurry (.caller t)) o'
  | toils {i : Nat} {o' : Office} (toils : Toils o i o'.pool o'.ledger)
      (stock : o'.stock = { o.stock with pool := o'.pool })
      (stakes : ∀ t, o'.stake t = o.stake t) : Deals o (.turn (.worker i)) o'
  | governs {m : Move} {o' : Office} (own : m = .turn .application ∨ m = .hurry .application)
      (books : o'.ledger.books = o.ledger.books) (governs : Governs o o')
      (stakes : ∀ t, o'.stake t = o.stake t) : Deals o m o'

section Moves

variable {o o' : Office} {m : Move} {t : Ticket}

theorem stock_of_aside (aside : m.isAside = true) (moved : m.apply o = some o') :
    o'.stock = o.stock := by
  cases m with
  | turn a =>
      cases a with
      | consumer i =>
          obtain ⟨c, _, acts⟩ := acts_of_step moved
          exact stock_acts acts
      | unlocking t =>
          obtain ⟨u, _, _, rfl⟩ := stepUnlock_eq_some moved
          exact congrArg Backdrop.stock (backdrop_unlock _ u.key)
      | _ => cases aside
  | hurry a =>
      cases a with
      | worker i => cases moved
      | consumer i => cases moved
      | unlocking t => cases moved
      | _ => cases aside
  | overlook i =>
      obtain ⟨c, _, _, acts⟩ := acts_of_overlook moved
      exact stock_acts acts
  | abandon t => cases aside
  | submit job => cases aside
  | pass now =>
      simp only [Move.apply] at moved
      split at moved <;> cases moved
      rfl
  | unlock key =>
      cases moved
      exact congrArg Backdrop.stock (backdrop_unlock o key)
  | announce c =>
      cases moved
      exact stock_announce o c
  | announceUser c =>
      cases moved
      exact stock_announceUser o c
  | _ =>
      cases moved
      rfl

/-- A request that neither has its turn nor is given up keeps what it has in hand. -/
theorem stake_of_move (backed : IsBacked o) (ordinary : m.isOrdinary = true)
    (other : m.isBy t = false) (patient : m ≠ .abandon t) (moved : m.apply o = some o') :
    o'.stake t = o.stake t := by
  rcases task?_of_move backed other moved with same | ⟨given_up, -⟩ | ⟨r, rfl, fresh, asked⟩
  · exact stake_congr same
  · exact absurd given_up patient
  · have open_ : r.isOwn = false := by simpa [Move.isOrdinary] using ordinary
    rw [stake_of_none fresh, stake_of_task asked, stake_asked, open_]
    rfl

/-- Every ordinary move deals, when no request has a booking or settlement of its own
and workers get their decisions in time. -/
theorem deals_of_move (backed : IsBacked o) (open_ : ∀ t, o.stake t ≠ .own)
    (ordinary : m.isOrdinary = true)
    (timely : ∀ i, m = .turn (.worker i) → o.decidesInTime i = true)
    (moved : m.apply o = some o') : Deals o m o' := by
  have stake (t : Ticket) (other : m.isBy t = false) (patient : m ≠ .abandon t) :=
    stake_of_move backed ordinary other patient moved
  by_cases aside : m.isAside = true
  · have nobody (t : Ticket) : m.isBy t = false := by
      refine Bool.eq_false_iff.mpr fun own => ?_
      rcases Move.eq_of_isBy own with rfl | rfl <;> cases aside
    have books := books_of_move nobody (by rintro i rfl; cases aside) moved
    exact .aside aside books (stock_of_aside aside moved) fun t =>
      stake t (nobody t) (by rintro rfl; cases aside)
  · cases m with
    | turn a =>
        cases a with
        | caller t =>
            obtain ⟨task, at_, step⟩ := Option.bind_eq_some_iff.mp moved
            have free : task.stake ≠ .own := stake_of_task at_ ▸ open_ t
            exact .trades at_ (trades_of_step backed at_ free step) fun u other =>
              stake u (isBy_of_ne (beq_self_eq_true t) other) (by rintro ⟨⟩)
        | worker i =>
            obtain ⟨toils, stock⟩ := toils_of_step (timely i rfl) moved
            exact .toils toils stock fun t => stake t rfl (by rintro ⟨⟩)
        | application =>
            have books := congrArg Ledger.books (alike_stepApplication moved).ledger
            exact .governs (.inl rfl) books (governs_stepApplication moved) fun t =>
              stake t rfl (by rintro ⟨⟩)
        | consumer i => exact absurd rfl aside
        | unlocking t => exact absurd rfl aside
    | hurry a =>
        cases a with
        | caller t =>
            have others (u : Ticket) (other : u ≠ t) :=
              stake u (isBy_of_ne (beq_self_eq_true t) other) (by rintro ⟨⟩)
            obtain ⟨deadline, at_, rfl⟩ := hurried_of_move moved
            exact .hurries (stake_of_task at_) (congrArg Ledger.books (alike_abortPool o).ledger)
              (stock_abortPool o) (stake_finish _ t _) others
        | application =>
            have books := congrArg Ledger.books (alike_hurryApplication moved).ledger
            exact .governs (.inr rfl) books (governs_hurryApplication moved) fun t =>
              stake t rfl (by rintro ⟨⟩)
        | worker i => cases moved
        | consumer i => cases moved
        | unlocking t => cases moved
    | abandon t =>
        have books := books_of_move (fun _ => rfl) (by rintro i ⟨⟩) moved
        cases moved
        refine .leaves books (congrArg Backdrop.stock (backdrop_abandon o t)) ?_ ?_
        · exact stake_of_none ((Keyed.get?_erase t t _).trans (if_pos rfl))
        · intro u other
          exact stake u rfl fun same => other (Move.abandon.inj same).symm
    | submit job => cases ordinary
    | _ => exact absurd rfl aside

end Moves

/-! ### What a turn does to bookings and identifiers -/

namespace Turn

/-- The job that a turn gives to the pool, whether the pool takes it or not. -/
def submission? (x : Turn) : Option Settlement.Job :=
  match x.move with
  | .turn (.caller t) =>
    ((x.before.task? t).bind Task.hands?).map fun b => .ofBooking b x.before.drawId.1
  | _ => none

/-- The bill of a booking whose request is given up before it was handed over. -/
def stranded? (x : Turn) : Option Bill :=
  match x.move with
  | .abandon t => (x.before.stake t).bill?
  | _ => none

end Turn

/-- The jobs that the turns of a run have given to the pool. -/
def submissions (turns : List Turn) : List Settlement.Job := turns.filterMap (·.submission?)

/-- The bills of the bookings that requests have left behind. -/
def stranded (turns : List Turn) : List Bill := turns.filterMap (·.stranded?)

/-- The identifiers that were drawn, in order. -/
def drawn (o : Office) : List PublicId := (List.range o.idsDrawn).map fun n => .sequential (n + 1)

/-- A turn touches what one request has in hand, and what it adds to the bookings and
to the identifiers in use comes from there, goes there, or was just drawn. -/
structure Balances (x : Turn) (t : Ticket) (bills : List Bill) (names drawn : List PublicId) :
    Prop where
  known : t < x.before.tickets ∨ x.after.stake t = x.before.stake t
  others : ∀ u, u ≠ t → x.after.stake u = x.before.stake u
  stored : x.after.ledger.books.accounts.bills = x.before.ledger.books.accounts.bills ++ bills
  named : x.after.ledger.books.accounts.names = x.before.ledger.books.accounts.names ++ names
  given : x.after.drawn = x.before.drawn ++ drawn
  due : (bills ++ (x.before.stake t).bill?.toList).Perm ((x.after.stake t).bill?.toList ++
    x.stranded?.toList ++ x.submission?.toList.map (·.bill))
  used : (names ++ x.submission?.toList.map (·.paymentPublicId) ++
      (x.after.stake t).identifier?.toList).Subperm
    (drawn ++ (x.before.stake t).identifier?.toList)

section Turns

variable {o o' : Office} {m : Move} {t : Ticket}

theorem drawn_congr (same : o'.idsDrawn = o.idsDrawn) : o'.drawn = o.drawn := by
  rw [drawn, same, drawn]

theorem drawn_next (next : o'.idsDrawn = o.idsDrawn + 1) : o'.drawn = o.drawn ++ [o.drawId.1] := by
  rw [drawn, next, List.range_succ, List.map_append]
  rfl

/-- A booking that is handed over is given to the pool under a new identifier. -/
theorem stock_handOver (o : Office) (b : Booking) :
    (o.handOver b).stock =
      ⟨(o.pool.submit (.ofBooking b o.drawId.1)).toOption.getD o.pool, o.idsDrawn + 1,
        o.stock.draining⟩ := by
  rw [handOver_eq]
  unfold submit
  show Stock.mk _ _ _ = _
  cases result : o.drawId.2.pool.submit (.ofBooking b o.drawId.1) with
  | error refusal =>
      rw [show o.pool.submit _ = _ from result]
      rfl
  | ok pool =>
      rw [show o.pool.submit _ = _ from result]
      rfl

/-- A turn that makes no booking and draws no identifier. -/
theorem Balances.kept {x : Turn}
    (known : t < x.before.tickets ∨ x.after.stake t = x.before.stake t)
    (others : ∀ u, u ≠ t → x.after.stake u = x.before.stake u)
    (bills : x.after.ledger.books.accounts.bills = x.before.ledger.books.accounts.bills)
    (names : x.after.ledger.books.accounts.names = x.before.ledger.books.accounts.names)
    (ids : x.after.idsDrawn = x.before.idsDrawn)
    (due : (x.before.stake t).bill?.toList.Perm ((x.after.stake t).bill?.toList ++
      x.stranded?.toList ++ x.submission?.toList.map (·.bill)))
    (used : (x.submission?.toList.map (·.paymentPublicId) ++
        (x.after.stake t).identifier?.toList).Subperm (x.before.stake t).identifier?.toList) :
    Balances x t [] [] [] where
  known := known
  others := others
  stored := bills.trans (List.append_nil _).symm
  named := names.trans (List.append_nil _).symm
  given := (drawn_congr ids).trans (List.append_nil _).symm
  due := due
  used := used

/-- A turn that leaves bookings, identifiers and the hands of all requests alone. -/
theorem Balances.still (bills : o'.ledger.books.accounts.bills = o.ledger.books.accounts.bills)
    (names : o'.ledger.books.accounts.names = o.ledger.books.accounts.names)
    (ids : o'.idsDrawn = o.idsDrawn) (stakes : ∀ t, o'.stake t = o.stake t)
    (unsubmitted : (⟨m, o, o'⟩ : Turn).submission? = none)
    (unstranded : (⟨m, o, o'⟩ : Turn).stranded? = none) : Balances ⟨m, o, o'⟩ t [] [] [] := by
  refine .kept (.inr (stakes t)) (fun u _ => stakes u) bills names ids ?_ ?_
  · rw [unsubmitted, unstranded, stakes t]
    simp
  · rw [unsubmitted, stakes t]
    exact .refl _

theorem submission?_eq {task : Task} (o' : Office) (at_ : o.task? t = some task) :
    (⟨.turn (.caller t), o, o'⟩ : Turn).submission? =
      task.hands?.map fun b => .ofBooking b o.drawId.1 := by
  simp only [Turn.submission?, at_, Option.bind_some]

theorem stake_lt (backed : IsBacked o) {task : Task} (at_ : o.task? t = some task) :
    t < o.tickets :=
  Nat.lt_of_not_le fun late => by cases (backed.fresh late).symm.trans at_

/-- A step of a request that makes no booking, draws no identifier and hands nothing over.
What the request had in hand it has still, or it was no bill and is let go. -/
theorem Balances.letsGo {task : Task} (known : t < o.tickets) (at_ : o.task? t = some task)
    (others : ∀ u, u ≠ t → o'.stake u = o.stake u) (keeps : task.hands? = none)
    (accounts : o'.ledger.books.accounts = o.ledger.books.accounts)
    (ids : o'.idsDrawn = o.idsDrawn)
    (stake : o'.stake t = task.stake ∨ task.stake.bill? = none ∧
      (o'.stake t).bill? = none ∧ (o'.stake t).identifier? = none) :
    Balances ⟨.turn (.caller t), o, o'⟩ t [] [] [] := by
  have submission := submission?_eq o' at_
  rw [keeps] at submission
  have before := stake_of_task at_
  refine .kept (.inl known) others (congrArg (·.bills) accounts) (congrArg (·.names) accounts)
    ids ?_ ?_
  · rw [submission, before]
    rcases stake with same | ⟨clear, none_, -⟩
    · rw [same]
      simp [Turn.stranded?]
    · rw [none_, clear]
      simp [Turn.stranded?]
  · rw [submission, before]
    rcases stake with same | ⟨-, -, none_⟩
    · rw [same]
      exact .refl _
    · rw [none_]
      simp [List.nil_subperm]

/-- What a step of a request adds. -/
theorem balances_of_trades (backed : IsBacked o) {task : Task} (at_ : o.task? t = some task)
    (trades : Trades o t task o') (others : ∀ u, u ≠ t → o'.stake u = o.stake u) :
    ∃ bills names drawn, Balances ⟨.turn (.caller t), o, o'⟩ t bills names drawn := by
  have known := stake_lt backed at_
  have submission := submission?_eq o' at_
  have before := stake_of_task at_
  cases trades with
  | rests keeps accounts stock stake =>
      refine ⟨[], [], [], .letsGo known at_ others keeps accounts
        (congrArg Stock.idsDrawn stock) ?_⟩
      refine stake.imp_right fun ⟨gone, clear⟩ => ?_
      rw [gone]
      exact ⟨clear, rfl, rfl⟩
  | draws empty accounts stock stake =>
      have keeps : task.hands? = none := Task.hands?_of_clear (by rw [empty]; rfl)
      rw [keeps] at submission
      refine ⟨[], [], [o.drawId.1], .inl known, others, ?_, ?_, ?_, ?_, ?_⟩
      · rw [accounts, List.append_nil]
      · rw [accounts, List.append_nil]
      · exact drawn_next (congrArg Stock.idsDrawn stock)
      · rw [submission, before, empty]
        rcases stake with drawn | gone
        · rw [drawn]
          simp [Turn.stranded?, Stake.bill?]
        · rw [gone]
          simp [Turn.stranded?, Stake.bill?]
      · rw [submission, before, empty]
        rcases stake with drawn | gone
        · rw [drawn]
          simp [Stake.identifier?]
        · rw [gone]
          simp [Stake.identifier?]
  | @makes id bill drawn accounts stock stake =>
      have keeps : task.hands? = none := Task.hands?_of_clear (by rw [drawn]; rfl)
      rw [keeps] at submission
      refine ⟨[bill], [id], [], .inl known, others, ?_, ?_, ?_, ?_, ?_⟩
      · rw [accounts]
      · rw [accounts]
      · rw [drawn_congr (congrArg Stock.idsDrawn stock), List.append_nil]
      · rw [submission, before, drawn, stake]
        simp [Turn.stranded?, Stake.bill?]
      · rw [submission, before, drawn, stake]
        simp [Stake.identifier?]
  | @hands event receipt task_ accounts stock stake =>
      subst task_
      have stock := stock.trans (stock_handOver o receipt.booking)
      refine ⟨[], [], [o.drawId.1], .inl known, others, ?_, ?_, ?_, ?_, ?_⟩
      · rw [accounts, List.append_nil]
      · rw [accounts, List.append_nil]
      · exact drawn_next (congrArg Stock.idsDrawn stock)
      · rw [submission, before, stake]
        simp [Turn.stranded?, Task.stake, Stake.bill?, Task.hands?, Settlement.Job.ofBooking,
          Settlement.Job.bill, Booking.bill]
      · rw [submission, before, stake]
        simp [Task.stake, Stake.identifier?, Task.hands?, Settlement.Job.ofBooking]
  | @closes grace task_ accounts stock answered stake =>
      subst task_
      have ids : o'.idsDrawn = o.idsDrawn :=
        congrArg Stock.idsDrawn (stock.trans (stock_closePool o grace))
      refine ⟨[], [], [], .letsGo known at_ others rfl accounts ids (.inr ?_)⟩
      rcases stake with gone | ⟨waits, -⟩
      · rw [gone]
        exact ⟨rfl, rfl, rfl⟩
      · rw [waits]
        exact ⟨rfl, rfl, rfl⟩

/-- What is no request's turn hands no job over, and whoever is not given up leaves no
booking behind. -/
theorem Turn.silent_of_aside (o o' : Office) (aside : m.isAside = true) :
    (⟨m, o, o'⟩ : Turn).submission? = none ∧ (⟨m, o, o'⟩ : Turn).stranded? = none := by
  cases m with
  | turn a =>
      cases a with
      | caller t => cases aside
      | _ => exact ⟨rfl, rfl⟩
  | abandon t => cases aside
  | _ => exact ⟨rfl, rfl⟩

theorem balances_of_deals (backed : IsBacked o) (deals : Deals o m o') :
    ∃ t bills names drawn, Balances ⟨m, o, o'⟩ t bills names drawn := by
  cases deals with
  | aside aside books stock stakes =>
      obtain ⟨unsubmitted, unstranded⟩ := Turn.silent_of_aside o o' aside
      have accounts := congrArg Books.accounts books
      exact ⟨0, [], [], [], .still (congrArg (·.bills) accounts) (congrArg (·.names) accounts)
        (congrArg Stock.idsDrawn stock) stakes unsubmitted unstranded⟩
  | @leaves t _ books stock gone others =>
      have accounts := congrArg Books.accounts books
      refine ⟨t, [], [], [], .kept ?_ others (congrArg (·.bills) accounts)
        (congrArg (·.names) accounts) (congrArg Stock.idsDrawn stock) ?_ ?_⟩
      · rcases Nat.lt_or_ge t o.tickets with known | late
        · exact .inl known
        · exact .inr (gone.trans (stake_of_none (backed.fresh late)).symm)
      · rw [gone]
        simp [Turn.submission?, Turn.stranded?, Stake.bill?]
      · rw [gone]
        simp [Turn.submission?, Stake.identifier?, List.nil_subperm]
  | trades at_ trades others => exact ⟨_, balances_of_trades backed at_ trades others⟩
  | @hurries t _ waited books stock gone others =>
      have accounts := congrArg Books.accounts books
      have known : t < o.tickets := by
        refine Nat.lt_of_not_le fun late => ?_
        cases (stake_of_none (backed.fresh late)).symm.trans waited
      refine ⟨t, [], [], [], .kept (.inl known) others (congrArg (·.bills) accounts)
        (congrArg (·.names) accounts) (congrArg Stock.idsDrawn stock) ?_ ?_⟩
      · rw [gone, waited]
        exact .refl _
      · rw [gone, waited]
        exact List.nil_subperm
  | toils toils stock stakes =>
      have kept : o'.ledger.books.accounts.bills = o.ledger.books.accounts.bills ∧
          o'.ledger.books.accounts.names = o.ledger.books.accounts.names := by
        generalize o'.pool = p, o'.ledger = l at toils
        cases toils with
        | records busy recorded =>
            obtain ⟨-, accounts⟩ := Ledger.paid_of_settle recorded
            rw [accounts]
            exact ⟨rfl, rfl⟩
        | _ => exact ⟨rfl, rfl⟩
      exact ⟨0, [], [], [], .still kept.1 kept.2 (congrArg Stock.idsDrawn stock) stakes rfl rfl⟩
  | governs own books governs stakes =>
      have accounts := congrArg Books.accounts books
      refine ⟨0, [], [], [], .still (congrArg (·.bills) accounts) (congrArg (·.names) accounts)
        governs.idsDrawn stakes ?_ ?_⟩ <;> rcases own with rfl | rfl <;> rfl

end Turns

/-! ### Runs -/

/-- Seats are booked through the service alone and settled by the pool alone. When a
worker gets on, nobody holds the row of a booking, and the worker gets its decision in
time. -/
structure IsUndisturbed (turns : List Turn) : Prop where
  ordinary : ∀ x ∈ turns, x.move.isOrdinary = true
  free : ∀ x ∈ turns, ∀ i, x.move = .turn (.worker i) → ∀ c ∈ x.before.ledger.bookings,
    c.lock.isFree = true
  decided : ∀ x ∈ turns, ∀ i, x.move = .turn (.worker i) → x.before.decidesInTime i = true

theorem IsUndisturbed.init {turns : List Turn} {x : Turn}
    (undisturbed : IsUndisturbed (turns ++ [x])) : IsUndisturbed turns where
  ordinary x member := undisturbed.ordinary x (List.mem_append_left _ member)
  free x member := undisturbed.free x (List.mem_append_left _ member)
  decided x member := undisturbed.decided x (List.mem_append_left _ member)

/-- Where the bookings of an office are and what its identifiers are used for. Tickets
that were not given out have nothing in hand, so any bound on the tickets will do. -/
structure IsTraced (turns : List Turn) (o : Office) : Prop where
  /-- A booking is in hand, was submitted or was left behind. -/
  bills : ∀ n, o.tickets ≤ n → o.ledger.books.accounts.bills.Perm
    ((List.range n).filterMap (fun t => (o.stake t).bill?) ++ stranded turns ++
      (submissions turns).map (·.bill))
  /-- Identifiers of bookings, of jobs and in hand were drawn, each for one of them. -/
  names : ∀ n, o.tickets ≤ n → (o.ledger.books.accounts.names ++
      (submissions turns).map (·.paymentPublicId) ++
      (List.range n).filterMap (fun t => (o.stake t).identifier?)).Subperm o.drawn
  open_ : ∀ t, o.stake t ≠ .own

section Runs

variable {first o o' : Office} {turns : List Turn} {m : Move} {x : Turn} {t : Ticket}

/-- How often something is in hand, over all tickets, when one request has its turn. -/
theorem count_tickets {α : Type} [DecidableEq α] {f g : Ticket → Option α} {n : Nat}
    (known : t < n ∨ g t = f t) (others : ∀ u, u ≠ t → g u = f u) (a : α) :
    ((List.range n).filterMap g).count a + (f t).toList.count a =
      ((List.range n).filterMap f).count a + (g t).toList.count a := by
  rcases known with known | same
  · obtain ⟨rest, before, after⟩ := perm_tickets known others
    rw [before.count_eq, after.count_eq, List.count_append, List.count_append]
    omega
  · have all : g = f := by
      funext u
      by_cases own : u = t
      · rw [own, same]
      · exact others u own
    rw [all]

theorem filterMap_concat {α β : Type} (f : α → Option β) (l : List α) (a : α) :
    (l ++ [a]).filterMap f = l.filterMap f ++ (f a).toList := by
  rw [List.filterMap_append, List.filterMap_cons]
  cases f a <;> rfl

theorem IsNew.traced (new : IsNew o) : IsTraced [] o := by
  cases new with
  | @opened setup scans clock sizing decider consumers application =>
      have empty (n : Nat) {α : Type} (f : Stake → Option α) (none_ : f .nothing = none) :
          (List.range n).filterMap (fun t => f ((Office.opened setup clock sizing decider consumers
            application).stake t)) = [] :=
        List.filterMap_eq_nil_iff.mpr fun _ _ => none_
      refine ⟨fun n _ => ?_, fun n _ => ?_, fun t => ?_⟩
      · rw [empty n Stake.bill? rfl]
        exact .refl _
      · rw [empty n Stake.identifier? rfl]
        exact List.nil_subperm
      · exact Stake.noConfusion

/-- No turn gives a request a booking or settlement of its own. -/
theorem open_of_deals (open_ : ∀ t, o.stake t ≠ .own) (deals : Deals o m o') (t : Ticket) :
    o'.stake t ≠ .own := by
  cases deals with
  | aside _ _ _ stakes => exact stakes t ▸ open_ t
  | toils _ _ stakes => exact stakes t ▸ open_ t
  | governs _ _ _ stakes => exact stakes t ▸ open_ t
  | @leaves u _ _ _ gone others =>
      by_cases own : t = u
      · rw [own, gone]
        exact Stake.noConfusion
      · exact others t own ▸ open_ t
  | @hurries u _ _ _ _ gone others =>
      by_cases own : t = u
      · rw [own, gone]
        exact Stake.noConfusion
      · exact others t own ▸ open_ t
  | @trades u task _ at_ trades others =>
      by_cases own : t = u
      · subst own
        have before : task.stake ≠ .own := stake_of_task at_ ▸ open_ t
        cases trades with
        | rests _ _ _ stake =>
            rcases stake with same | ⟨gone, -⟩
            · exact same ▸ before
            · exact gone ▸ Stake.noConfusion
        | draws _ _ _ stake => rcases stake with stake | stake <;> exact stake ▸ Stake.noConfusion
        | makes _ _ _ stake => exact stake ▸ Stake.noConfusion
        | hands _ _ _ stake => exact stake ▸ Stake.noConfusion
        | closes _ _ _ _ stake =>
            rcases stake with stake | ⟨stake, -⟩ <;> exact stake ▸ Stake.noConfusion
      · exact others t own ▸ open_ t

/-- One more turn keeps track of all bookings and identifiers. -/
theorem IsTraced.turn {bills : List Bill} {names drawn : List PublicId}
    (traced : IsTraced turns x.before) (tickets : x.before.tickets ≤ x.after.tickets)
    (balances : Balances x t bills names drawn) (open_ : ∀ t, x.after.stake t ≠ .own) :
    IsTraced (turns ++ [x]) x.after := by
  have swap {α : Type} [DecidableEq α] (f : Stake → Option α) {n : Nat}
      (late : x.after.tickets ≤ n) (a : α) := by
    refine count_tickets (f := fun t => f (x.before.stake t)) (g := fun t => f (x.after.stake t))
      (n := n) ?_ (fun u other => congrArg f (balances.others u other)) a
    rcases balances.known with known | same
    · exact .inl (Nat.lt_of_lt_of_le known (Nat.le_trans tickets late))
    · exact .inr (congrArg f same)
  refine ⟨fun n late => ?_, fun n late => ?_, open_⟩
  · rw [List.perm_iff_count]
    intro bill
    have before := (traced.bills n (Nat.le_trans tickets late)).count_eq bill
    have due := balances.due.count_eq bill
    have hands := swap Stake.bill? late bill
    rw [balances.stored, stranded, submissions, filterMap_concat, filterMap_concat, List.map_append]
    simp only [List.count_append] at before due hands ⊢
    simp only [stranded, submissions] at before
    omega
  · rw [List.subperm_ext_iff]
    intro name _
    have before := (traced.names n (Nat.le_trans tickets late)).count_le name
    have used := balances.used.count_le name
    have hands := swap Stake.identifier? late name
    rw [balances.named, balances.given, submissions, filterMap_concat, List.map_append]
    simp only [List.count_append] at before used hands ⊢
    simp only [submissions] at before
    omega

/-- What a run has come to deals in each of its turns, and keeps track. -/
theorem Run.traced (run : Run first turns o) (new : IsNew first) (undisturbed : IsUndisturbed turns) :
    IsTraced turns o := by
  induction run with
  | start => exact new.traced
  | @next turns o o' m run moved ih =>
      have traced := ih undisturbed.init
      have last : (⟨m, o, o'⟩ : Turn) ∈ turns ++ [⟨m, o, o'⟩] :=
        List.mem_append_right _ (List.mem_singleton_self _)
      have backed := (run.isBacked new.isBacked).1
      have deals := deals_of_move backed traced.open_ (undisturbed.ordinary _ last)
        (undisturbed.decided _ last) moved
      obtain ⟨t, bills, names, drawn, balances⟩ := balances_of_deals backed deals
      exact traced.turn (x := ⟨m, o, o'⟩) (tickets_le moved) balances
        (open_of_deals traced.open_ deals)

end Runs

end Office

end BoxOffice
