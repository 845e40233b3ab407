import BoxOffice.Proofs.Office.Backing

/-!
# Offices that are reached

`Backing` matches the steps of requests by steps of the traffic at the ledger.
Here every move is matched, so the ledger of an office that some run reaches
from a new one is that of a reachable traffic. `IsBacked` says so of one office.
What is proved of all traffic is handed on: a call of a request that begins or
gets on has the effect that the books say, and the books change from move to
move as they do under calls that have the ledger for themselves.
-/

namespace BoxOffice.Office

open Ledger (Ticket Traffic Call Stage Progress Books Effect Fits)

variable {o o' : Office} {w w' : Traffic} {t : Ticket}

/-! ### Moves -/

namespace HasTraffic

/-- A move that is nothing to requests and rows is nothing to the traffic. -/
theorem idle (has : HasTraffic o w) (same : o'.core = o.core) : Leads w o' :=
  (has.congr same).leads

/-- What becomes of the call or the visit of one request is nothing to the others. -/
theorem leaves (has : HasTraffic o w) {task : Task} (at_ : o.task? t = some task)
    (calls : ∀ u, u ≠ t → w'.call? u = w.call? u)
    (visitors : ∀ u, u ≠ t → Keyed.get? u w'.visitors = Keyed.get? u w.visitors) :
    Others t o w' := by
  have known := has.known at_
  constructor
  · intro u p other found
    rw [calls u other] at found
    exact has.pending found
  · intro u kind stage due purpose other found
    rw [calls u other]
    exact has.open_ found
  · intro u key other found
    rw [visitors u other]
    exact has.waits found
  · intro u key task other found at_
    rw [visitors u other] at found
    exact has.visits found at_
  · intro u key found
    obtain ⟨visits, idle⟩ := has.holds found
    have other : u ≠ t := by
      rintro rfl
      cases idle.symm.trans at_
    exact ⟨(visitors u other).trans visits, fun _ => idle⟩
  · intro u late
    have other : u ≠ t := by
      rintro rfl
      exact Nat.lt_irrefl _ (Nat.lt_of_lt_of_le known late)
    obtain ⟨free, idle⟩ := has.given late
    exact ⟨other, ⟨(calls u other).trans free.1, (visitors u other).trans free.2⟩, idle⟩

/-- A request that is given up lets go of all that it holds or waits for. -/
theorem abandon (has : HasTraffic o w) (t : Ticket) : Leads w (o.abandon t) := by
  have apart := apart_abandon o t
  unfold Office.abandon at apart ⊢
  cases at_ : o.task? t with
  | none =>
      refine HasTraffic.leads (has.same has.ledger (fun _ => rfl) rfl (fun u => ?_) (Nat.le_refl _) rfl)
      by_cases own : u = t
      · subst own
        exact ((Keyed.get?_erase u u o.tasks).trans (if_pos rfl)).trans at_.symm
      · exact (Keyed.get?_erase t u o.tasks).trans (if_neg own)
  | some task =>
      simp only [at_] at apart ⊢
      cases task with
      | atLedger kind stage due purpose =>
          obtain ⟨call, began, pending⟩ := has.open_ at_
          have step : Traffic.Step w (.drop t) (w.dropped t ⟨call, stage, began⟩) := .drop pending
          refine Leads.after (HasTraffic.leads ?_) step
          have others : Others t o (w.dropped t ⟨call, stage, began⟩) :=
            has.leaves at_
              (fun u other => (Traffic.call?_dropped w t u _).trans (if_neg other)) fun _ _ => rfl
          refine others.retask apart ?_ rfl ?_ (away_erase _)
          · exact congrArg (·.abandon t stage) has.ledger
          · exact ⟨(Traffic.call?_dropped w t t _).trans (if_pos rfl), has.absent at_⟩
      | holding key =>
          have visits := has.waits at_
          have step : Traffic.Step w (.depart t) (w.departed t key) := .depart visits
          refine Leads.after (HasTraffic.leads ?_) step
          have others : Others t o (w.departed t key) :=
            has.leaves at_ (fun _ _ => rfl)
              fun u other => (Keyed.get?_erase t u w.visitors).trans (if_neg other)
          have unasked : w.call? t = none := by
            cases pending : w.call? t with
            | none => rfl
            | some p =>
                obtain ⟨due, purpose, open_, -⟩ := has.pending pending
                cases open_.symm.trans at_
          refine others.retask apart ?_ rfl ?_ (away_erase _)
          · exact congrArg (·.left t key) has.ledger
          · exact ⟨unasked, (Keyed.get?_erase t t w.visitors).trans (if_pos rfl)⟩
      | settling run =>
          have kept := alike_cancelSettlement o (.caller t) run
          exact has.stay at_ rfl apart kept.ledger kept.held (away_erase _)
      | _ => exact has.stay at_ rfl apart rfl rfl (away_erase _)

/-- A new request is no call yet. -/
theorem ask (has : HasTraffic o w) (r : Request) : HasTraffic (o.ask r).2 w := by
  have fresh := has.given (Nat.le_refl o.tickets)
  have others : Others o.tickets { o with tickets := o.tickets + 1 } w := by
    refine ⟨fun _ => has.pending, fun _ => has.open_, fun _ => has.waits, fun _ => has.visits,
      fun found => ⟨(has.holds found).1, fun _ => (has.holds found).2⟩, fun {u} late => ?_⟩
    exact ⟨Nat.ne_of_gt late, has.given (Nat.le_of_succ_le late)⟩
  refine others.retask ⟨rfl, rfl, fun u other => task?_ask_of_ne o r other, fun _ _ => rfl, id⟩
    has.ledger rfl fresh.1 fun task later => ?_
  cases (task?_ask r fresh.2).symm.trans later
  rfl

/-- A step of a worker is a payment that is recorded, or nothing to the ledger. -/
theorem work (has : HasTraffic o w) (scans : ScansAll o) {i : Nat} (step : WorkerStep o i o') :
    Leads w o' := by
  rcases step.core with same | ⟨_, _, _, _, l, _, recorded, same⟩
  · exact has.idle same
  · obtain ⟨as, w', run, has'⟩ := has.settled scans recorded
    exact ⟨as, w', run, has'.congr same⟩

/-- Every move is matched by steps of the traffic. -/
theorem move (has : HasTraffic o w) (scans : ScansAll o) {m : Move} (moved : Moves o m o') :
    Leads w o' := by
  cases moved with
  | alike _ alike => exact has.idle alike.core
  | step at_ step => exact has.stepTask at_ scans step
  | @hurried t deadline at_ =>
      have kept := alike_abortPool o
      exact has.stay at_ rfl (kept.apart.trans (apart_finish _ t _)) kept.ledger kept.held
        (away_erase _)
  | worked step => exact has.work scans step
  | unlocked _ alike key => exact (has.congr alike.core).unlock key
  | ask r => exact (has.ask r).leads
  | abandon t => exact has.abandon t
  | take => exact HasTraffic.leads (has.same has.ledger (fun _ => rfl) rfl (fun _ => rfl) (Nat.le_refl _) rfl)
  | later key span =>
      exact HasTraffic.leads (has.same has.ledger (fun _ => rfl) rfl (fun _ => rfl) (Nat.le_succ _) rfl)
  | failInsert =>
      have step : Traffic.Step w .failInsert (w.withLedger w.ledger.failInsert) := .failInsert
      refine Leads.after (HasTraffic.leads ?_) step
      exact has.same (congrArg (·.failInsert) has.ledger) (fun _ => rfl) rfl (fun _ => rfl)
        (Nat.le_refl _) rfl
  | setHold hold =>
      have step : Traffic.Step w (.setHold hold) (w.withLedger (w.ledger.setHold hold)) := .setHold
      refine Leads.after (HasTraffic.leads ?_) step
      exact has.same (congrArg (·.setHold hold) has.ledger) (fun _ => rfl) rfl (fun _ => rfl)
        (Nat.le_refl _) rfl

end HasTraffic

/-- The set-up is never changed. -/
theorem Moves.setup {m : Move} (moved : Moves o m o') : o'.setup = o.setup := by
  cases moved with
  | alike _ alike => exact alike.setup
  | step _ step => exact (apart_stepTask step).setup
  | hurried _ => exact (alike_abortPool o).setup
  | worked step =>
      rcases step.core with same | ⟨_, _, _, _, _, _, _, same⟩
      · exact congrArg Core.setup same
      · exact congrArg Core.setup same
  | unlocked _ alike key => exact (setup_unlock _ key).trans alike.setup
  | abandon t => exact (apart_abandon o t).setup
  | _ => rfl

/-! ### New offices and what comes of them -/

/-- An office opens with nothing in it. -/
inductive IsNew : Office → Prop
  | opened {setup : Setup} (scans : ∀ ids, (setup.scan ids).Perm ids) (clock : Timestamp)
      (sizing : Pool.Sizing) (decider : Settlement.Decider) (consumers : List Consumer)
      (application : Option Application) :
      IsNew (Office.opened setup clock sizing decider consumers application)

/-- The ledger of an office is that of a reachable traffic. -/
structure IsBacked (o : Office) : Prop where
  scans : ScansAll o
  traffic : ∃ w : Traffic, w.Reachable ∧ HasTraffic o w

theorem IsNew.isBacked (new : IsNew o) : IsBacked o := by
  cases new with
  | opened scans clock sizing decider consumers application =>
      exact ⟨scans, .opened, .opened, .opened _ clock sizing decider consumers application⟩

namespace IsBacked

/-- A move changes the books as calls do that have the ledger for themselves. -/
theorem move (backed : IsBacked o) {m : Move} (moved : m.apply o = some o') :
    IsBacked o' ∧ Books.Since o.ledger.books o'.ledger.books := by
  obtain ⟨w, reachable, has⟩ := backed.traffic
  have moves := moves_of_apply moved
  obtain ⟨as, w', run, has'⟩ := has.move backed.scans moves
  refine ⟨⟨?_, w', ?_, has'⟩, ?_⟩
  · unfold ScansAll
    rw [moves.setup]
    exact backed.scans
  · obtain ⟨before, first⟩ := reachable
    exact ⟨before ++ as, first.trans run⟩
  · rw [← has.ledger, ← has'.ledger]
    exact (run.since reachable.sound).1

/-- A call that begins has the effect that the books say. -/
theorem started (backed : IsBacked o) (t : Ticket) {k : Call.Kind} (c : Call k) :
    Effect o.ledger o.clock c none (o.ledger.start t o.setup.scan o.clock c) := by
  obtain ⟨w, reachable, has⟩ := backed.traffic
  rw [Others.start_scan, ← has.ledger]
  exact reachable.sound.effect_begun c o.clock (backed.scans _)

/-- A request with a call open is at a stage of that call, and the call gets on with
the effect that the books say. -/
theorem pursued (backed : IsBacked o) {k : Call.Kind} {stage : Stage k} {due : Nat}
    {purpose : Purpose k} (at_ : o.task? t = some (.atLedger k stage due purpose)) :
    ∃ call, Serves purpose call ∧ Fits o.ledger call stage ∧
      Effect o.ledger o.clock call (o.ledger.foretold stage) (o.ledger.resume t o.clock stage) := by
  obtain ⟨w, reachable, has⟩ := backed.traffic
  obtain ⟨call, began, pending⟩ := has.open_ at_
  obtain ⟨due', purpose', same, serves⟩ := has.pending pending
  cases at_.symm.trans same
  rw [← has.ledger]
  exact ⟨call, serves, reachable.sound.fits pending,
    reachable.sound.effect_resumed o.clock pending⟩

theorem resumed (backed : IsBacked o) {k : Call.Kind} {stage : Stage k} {due : Nat}
    {purpose : Purpose k} (at_ : o.task? t = some (.atLedger k stage due purpose)) :
    ∃ call, Serves purpose call ∧
      Effect o.ledger o.clock call (o.ledger.foretold stage) (o.ledger.resume t o.clock stage) := by
  obtain ⟨call, serves, -, effect⟩ := backed.pursued at_
  exact ⟨call, serves, effect⟩

theorem numbered (backed : IsBacked o) : o.ledger.books.IsNumbered := by
  obtain ⟨w, reachable, has⟩ := backed.traffic
  rw [← has.ledger]
  exact reachable.sound.numbered

/-- Nobody has a ticket that was not given out. -/
theorem fresh (backed : IsBacked o) (late : o.tickets ≤ t) : o.task? t = none := by
  obtain ⟨w, -, has⟩ := backed.traffic
  exact (has.given late).2

end IsBacked

/-- Every office that a run reaches is backed, and its books come of those at first. -/
theorem Run.isBacked {first : Office} {turns : List Turn} (run : Run first turns o)
    (backed : IsBacked first) : IsBacked o ∧ Books.Since first.ledger.books o.ledger.books := by
  induction run with
  | start => exact ⟨backed, .here⟩
  | next run moved ih =>
      obtain ⟨backed', since⟩ := ih
      obtain ⟨backed'', later⟩ := backed'.move moved
      exact ⟨backed'', since.trans later⟩

end BoxOffice.Office
