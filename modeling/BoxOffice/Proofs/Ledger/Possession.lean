import BoxOffice.Proofs.Ledger.Reachable

/-!
# Who keeps a row has it

`Custody` says of every open transaction whose business it is. Here is the other direction:
a call that keeps a row locked between its steps holds the lock, and its transaction is open.
Nobody else can take it away: whoever asks for the row or lets go of it leaves it with the one
who holds it, and whoever changes the row has found it free or holds it himself. So a call that
has locked the row of an event for a booking waits for nobody, and its next step is its last.
-/

namespace BoxOffice.Ledger

/-- A ticket holds the row of an event and has a transaction open on it. -/
def Possesses (l : Ledger) (t : Ticket) (id : EventId) : Prop :=
  ∃ cell tr, l.eventCell? id = some cell ∧ cell.lock.holder = some t ∧ cell.transaction = some tr

/-- Whatever a ticket possesses it possesses afterwards. -/
def Leaves (t : Ticket) (l l' : Ledger) : Prop := ∀ id, l.Possesses t id → l'.Possesses t id

variable {l l' : Ledger} {t u : Ticket} {id : EventId}

namespace Leaves

theorem refl (l : Ledger) : Leaves t l l := fun _ possesses => possesses

theorem trans {l'' : Ledger} (first : Leaves t l l') (second : Leaves t l' l'') : Leaves t l l'' :=
  fun id possesses => second id (first id possesses)

/-! ### Changed cells -/

theorem of_events (same : l'.events = l.events) : Leaves t l l' := by
  rintro id ⟨cell, tr, found, rest⟩
  refine ⟨cell, tr, ?_, rest⟩
  unfold eventCell? at found ⊢
  rw [same]
  exact found

/-- The cell of an event may be changed if its holder keeps it with a transaction. -/
theorem setEvent {old cell : EventCell} (found : l.eventCell? id = some old)
    (stays : ∀ tr, old.lock.holder = some t → old.transaction = some tr →
      cell.lock.holder = some t ∧ ∃ tr, cell.transaction = some tr) :
    Leaves t l (l.setEventCell id cell) := by
  rintro id' ⟨cell', tr, found', held, open_⟩
  by_cases own : id' = id
  · subst own
    obtain rfl : old = cell' := Option.some.inj (found.symm.trans found')
    obtain ⟨held', tr', open'⟩ := stays tr held open_
    exact ⟨cell, tr', (eventCell?_setEventCell found cell id').trans (if_pos rfl), held', open'⟩
  · have same := (eventCell?_setEventCell found cell id').trans (if_neg own)
    exact ⟨cell', tr, same.trans found', held, open_⟩

/-- Who holds a row may do with it what he likes, as far as others are concerned. -/
theorem setEvent_of_holder {old cell : EventCell} (found : l.eventCell? id = some old)
    (held : old.lock.holder = some u) (other : t ≠ u) : Leaves t l (l.setEventCell id cell) := by
  refine .setEvent found fun tr holds _ => ?_
  exact absurd (Option.some.inj (holds.symm.trans held)) other

/-- Whoever finds a row free may do with it what he likes. -/
theorem setEvent_of_free {old cell : EventCell} (found : l.eventCell? id = some old)
    (free : old.lock.isFree = true) : Leaves t l (l.setEventCell id cell) := by
  refine .setEvent found fun tr held _ => ?_
  rw [Lock.not_isFree held] at free
  cases free

/-- A lock may be changed if its holder keeps it. -/
theorem relock {old : EventCell} {lock : Lock} (found : l.eventCell? id = some old)
    (held : old.lock.holder = some t → lock.holder = some t) :
    Leaves t l (l.setEventCell id { old with lock := lock }) :=
  .setEvent found fun tr holds open_ => ⟨held holds, tr, open_⟩

/-! ### Operations -/

theorem register (l : Ledger) (d : EventDraft) : Leaves t l (l.register d).2 := by
  rintro id ⟨cell, tr, found, rest⟩
  refine ⟨cell, tr, ?_, rest⟩
  unfold Ledger.register eventCell?
  simp only [Numbered.get?_append]
  rw [if_neg]
  · exact found
  · rintro fresh
    unfold eventCell? at found
    rw [fresh, Numbered.get?_next] at found
    cases found

theorem leaveEvent (l : Ledger) (other : t ≠ u) (id : EventId) :
    Leaves t l (l.leaveEvent u id) := by
  unfold Ledger.leaveEvent
  split
  · exact .refl l
  · rename_i cell found
    refine .setEvent found fun tr held open_ => ⟨Lock.holder_without held other, tr, ?_⟩
    rw [held, if_neg]
    · exact open_
    · rintro same
      exact other (Option.some.inj same)

theorem leaveBooking (l : Ledger) (b : BookingId) : Leaves t l (l.leaveBooking u b) := by
  unfold Ledger.leaveBooking
  split
  · exact .refl l
  · exact .of_events rfl

theorem asked (l : Ledger) (other : t ≠ u) (key : Office.RowKey) :
    Leaves t l (l.asked u key) := by
  cases key with
  | event id =>
      simp only [Ledger.asked, acquireEvent]
      split
      · exact .refl l
      · rename_i cell found
        exact .relock found fun held => Lock.holder_acquire held other
  | booking id =>
      simp only [Ledger.asked, acquireBooking]
      split
      · exact .refl l
      · exact .of_events rfl

theorem left (l : Ledger) (other : t ≠ u) (key : Office.RowKey) : Leaves t l (l.left u key) := by
  cases key with
  | event id => exact .leaveEvent l other id
  | booking id => exact .leaveBooking l id

theorem abandon (l : Ledger) (other : t ≠ u) {k : Call.Kind} (stage : Stage k) :
    Leaves t l (l.abandon u stage) := by
  cases stage with
  | removing id =>
      simp only [Ledger.abandon]
      split
      · exact (Leaves.leaveBooking l _).trans (.leaveEvent _ other id)
      · exact .leaveEvent l other id
  | booking id => exact .leaveEvent l other id
  | reading id => exact .leaveEvent l other id
  | scanning wanted rest =>
      cases rest with
      | nil => exact .refl l
      | cons b rest => exact .leaveBooking l b

/-! ### Steps of calls -/

theorem started {order : List BookingId} {now : Timestamp} {k : Call.Kind} {call : Call k}
    {result : Progress k × Ledger} (step : Started l u order now call result) :
    Leaves t l result.2 := by
  cases step with
  | registered d => exact .register l d
  | answered _ => exact .refl l
  | passing _ => exact .refl l
  | revised found free _ => exact .setEvent_of_free (presentCell?_eq_some.mp found).1 free
  | removing found free => exact .setEvent_of_free (presentCell?_eq_some.mp found).1 free
  | booking found free _ => exact .setEvent_of_free (presentCell?_eq_some.mp found).1 free
  | reading _ => exact .refl l
  | scanning => exact .refl l
  | settled _ _ _ => exact .of_events rfl

theorem resumed {now : Timestamp} {k : Call.Kind} {stage : Stage k} {result : Progress k × Ledger}
    (step : Resumed l u now stage result) (other : t ≠ u) : Leaves t l result.2 := by
  have own {id : EventId} {cell cell' : EventCell} {tr : Transaction}
      (held : l.transactionOf? u id = some (cell, tr)) : Leaves t l (l.setEventCell id cell') := by
    obtain ⟨found, holds, -⟩ := transactionOf?_eq_some.mp held
    exact .setEvent_of_holder found holds other
  cases step with
  | idle _ => exact .refl l
  | unknown held _ => exact own held
  | waiting _ _ => exact .of_events rfl
  | inUse held _ _ => exact (own held).trans (.of_events rfl)
  | passed held _ _ => exact (own held).trans (.of_events rfl)
  | removed held => exact own held
  | failed held => exact (own held).trans (.of_events rfl)
  | committed held => exact (own held).trans (.of_events rfl)
  | read found => exact .relock found fun held => Lock.holder_visit held other
  | unread found => exact .relock found fun held => Lock.holder_visit held other
  | exhausted => exact .refl l
  | met _ _ => exact .of_events rfl
  | skipped _ _ => exact .of_events rfl
  | unseen _ => exact .of_events rfl

end Leaves

/-! ### The call itself -/

/-- A call that begins to keep a row has it. -/
theorem Possesses.started {order : List BookingId} {now : Timestamp} {k : Call.Kind}
    {call : Call k} {stage : Stage k} {began : Nat}
    (step : Started l t order now call (.further stage, l'))
    (keeps : Pending.keeps? ⟨call, stage, began⟩ = some id) : l'.Possesses t id := by
  have own {id : EventId} {cell : EventCell} (tr : Transaction)
      (found : l.presentCell? id = some cell) :
      (l.setEventCell id
        { cell with lock := cell.lock.takenBy t, transaction := some tr }).Possesses t id := by
    obtain ⟨found, -⟩ := presentCell?_eq_some.mp found
    exact ⟨_, tr, (eventCell?_setEventCell found _ id).trans (if_pos rfl), rfl, rfl⟩
  cases step with
  | removing found _ =>
      cases keeps
      exact own _ found
  | booking found _ _ =>
      cases keeps
      exact own _ found
  | reading _ => cases keeps
  | scanning => cases keeps

/-- A call that goes on keeping a row has it still. -/
theorem Possesses.resumed {now : Timestamp} {k : Call.Kind} {call : Call k}
    {stage stage' : Stage k} {began : Nat} (step : Resumed l t now stage (.further stage', l'))
    (had : ∀ id, Pending.keeps? ⟨call, stage, began⟩ = some id → l.Possesses t id)
    (keeps : Pending.keeps? ⟨call, stage', began⟩ = some id) : l'.Possesses t id := by
  -- What is left of a removal changes, and the removal stays open.
  have onward {id : EventId} {cell : EventCell} {tr : Transaction} (tr' : Transaction)
      (held : l.transactionOf? t id = some (cell, tr)) :
      Leaves t l (l.setEventCell id { cell with transaction := some tr' }) := by
    obtain ⟨found, -, -⟩ := transactionOf?_eq_some.mp held
    exact .setEvent found fun _ holds _ => ⟨holds, tr', rfl⟩
  cases step with
  | idle _ => exact had id keeps
  | unknown held _ => exact onward _ held id (had id keeps)
  | waiting _ _ => exact Leaves.of_events (l := l) rfl id (had id keeps)
  | passed held _ _ =>
      exact ((onward _ held).trans (Leaves.of_events rfl)) id (had id keeps)
  | unread _ => cases keeps
  | skipped _ _ => cases keeps
  | unseen _ => cases keeps

namespace Traffic

variable {w w' : Traffic}

/-- Every call that keeps a row has it. -/
def KeepersPossess (w : Traffic) : Prop :=
  ∀ t p id, w.call? t = some p → p.keeps? = some id → w.ledger.Possesses t id

/-- A step of one call leaves the others what they have. -/
theorem KeepersPossess.advanced (kept : w.KeepersPossess) {k : Call.Kind} {call : Call k}
    {began : Nat} {result : Progress k × Ledger}
    (others : ∀ u, u ≠ t → Leaves u w.ledger result.2)
    (own : ∀ stage id, result.1 = .further stage →
      Pending.keeps? ⟨call, stage, began⟩ = some id → result.2.Possesses t id) :
    (w.advanced t call began result).KeepersPossess := by
  intro u p id pending keeps
  rw [call?_advanced] at pending
  rw [ledger_advanced]
  by_cases same : u = t
  · subst same
    obtain ⟨progress, l⟩ := result
    cases progress with
    | done answer => cases (if_pos rfl).symm.trans pending
    | further stage =>
        obtain rfl : _ = p := Option.some.inj ((if_pos rfl).symm.trans pending)
        exact own stage id rfl keeps
  · rw [callsAfter_of_ne same] at pending
    exact others u same id (kept u p id pending keeps)

/-- What leaves those who have a call open what they have keeps it so. -/
theorem KeepersPossess.of_leaves (kept : w.KeepersPossess)
    (fewer : ∀ u p, w'.call? u = some p → w.call? u = some p)
    (leaves : ∀ u p, w'.call? u = some p → Leaves u w.ledger w'.ledger) : w'.KeepersPossess := by
  intro u p id pending keeps
  exact leaves u p pending id (kept u p id (fewer u p pending) keeps)

theorem KeepersPossess.step (sound : IsSound w) (kept : w.KeepersPossess) {a : Action}
    (step : Step w a w') : w'.KeepersPossess := by
  cases step with
  | @begin t k call order now free all =>
      have begun := Ledger.started w.ledger t order now call
      unfold Traffic.begun
      refine kept.advanced (fun u other => .started begun) fun stage id further keeps => ?_
      cases result : w.ledger.start t (fun _ => order) now call with
      | mk progress l =>
          rw [result] at begun further
          subst further
          exact .started begun keeps
  | @resume t p now pending =>
      have resumed := Ledger.resumed w.ledger t now p.stage
      unfold Traffic.resumed
      refine kept.advanced (fun u other => .resumed resumed other) fun stage id further keeps => ?_
      cases result : w.ledger.resume t now p.stage with
      | mk progress l =>
          rw [result] at resumed further
          subst further
          exact .resumed resumed (fun id keeps => kept t p id pending keeps) keeps
  | @drop t p pending =>
      have other {u : Ticket} {q : Pending} (pending' : (w.dropped t p).call? u = some q) :
          u ≠ t ∧ w.call? u = some q := by
        rw [call?_dropped] at pending'
        split at pending'
        · cases pending'
        · exact ⟨‹_›, pending'⟩
      refine kept.of_leaves (fun u q pending' => (other pending').2) fun u q pending' => ?_
      exact .abandon w.ledger (other pending').1 p.stage
  | @visit t key comes =>
      refine kept.of_leaves (fun _ _ pending => pending) fun u p pending => .asked w.ledger ?_ key
      rintro rfl
      rcases comes with free | present
      · cases free.1.symm.trans pending
      · cases (sound.apart present).symm.trans pending
  | @depart t key present =>
      refine kept.of_leaves (fun _ _ pending => pending) fun u p pending => .left w.ledger ?_ key
      rintro rfl
      cases (sound.apart present).symm.trans pending
  | failInsert => exact kept.of_leaves (fun _ _ pending => pending) fun _ _ _ => .of_events rfl
  | setHold => exact kept.of_leaves (fun _ _ pending => pending) fun _ _ _ => .of_events rfl

/-- In every reachable traffic a call that keeps a row has it. -/
theorem Reachable.keepersPossess (reachable : Reachable w) : w.KeepersPossess := by
  refine reachable.induct ?_ fun reachable kept step => kept.step reachable.sound step
  intro t p id pending
  cases pending

/-- A call that has locked a row for a booking has that booking open. -/
theorem Reachable.booking_open (reachable : Reachable w) {r : Booking.Request} {id : EventId}
    {began : Nat} (pending : w.call? t = some ⟨.book r, .booking id, began⟩) :
    ∃ cell, w.ledger.transactionOf? t id = some (cell, .booking r) := by
  obtain ⟨cell, tr, found, held, open_⟩ := reachable.keepersPossess t _ id pending rfl
  obtain ⟨p, pending', owned, -⟩ := reachable.sound.custody.keeps_of_holder found open_ held
  obtain rfl : _ = p := Option.some.inj (pending.symm.trans pending')
  refine ⟨cell, transactionOf?_eq_some.mpr ⟨found, held, ?_⟩⟩
  cases owned
  exact open_

end Traffic

/-- A booking that is open can go on. -/
theorem canResume_of_open {cell : EventCell} {r : Booking.Request}
    (held : l.transactionOf? t id = some (cell, .booking r)) :
    l.canResume t (.booking id) = true := by
  simp only [canResume, held]

/-- The next step of an open booking is its last. -/
theorem resume_of_open {cell : EventCell} {r : Booking.Request} (now : Timestamp)
    (held : l.transactionOf? t id = some (cell, .booking r)) :
    ∃ answer l', l.resume t now (.booking id) = (.done answer, l') := by
  cases fails : l.failNextInsert with
  | true =>
      simp only [resume, commitBooking, held, fails, if_true]
      exact ⟨_, _, rfl⟩
  | false =>
      simp only [resume, commitBooking, held, fails, Bool.false_eq_true, if_false]
      exact ⟨_, _, rfl⟩

end BoxOffice.Ledger
