import BoxOffice.Proofs.Office.Convergence
import BoxOffice.Proofs.Snapshot.Redelivery
import BoxOffice.Proofs.Snapshot.Rows

/-!
# Events that were removed

A removal takes the snapshot of its event away and leaves nothing behind, no version
either. A creation or a revision that is handled later finds nothing there and is
stored, though its event is gone. So the order in which messages are handled decides
whether a removed event comes back, and it may: see `removed_event_revived`. The last
turn that brings a snapshot of the event or removes it decides, as `IsDecided` says of
every run. `Run.aftermath` draws the conclusions for a removed event.
-/

namespace BoxOffice.Office

open Snapshot (Last)

/-! ### Turns that decide -/

/-- In this turn the message of a change is handled, and does not fail. -/
def Turn.Handles (x : Turn) (c : EventChange) : Prop :=
  ∃ m handled, x.inHand? = some m ∧ EventChange.ofMessage m = .ok (some c) ∧
    Snapshot.handleEvent x.before.events m = (.ok handled, x.after.events)

/-- In this turn a message is handled that brings a snapshot of an event. -/
def Turn.Brings (id : EventId) (x : Turn) : Prop :=
  ∃ c s, x.Handles c ∧ c.snapshot? = some s ∧ s.id = id

/-- In this turn the removal of an event is handled. -/
def Turn.Removes (id : EventId) (x : Turn) : Prop := ∃ r, x.Handles (.deleted r) ∧ r.id = id

section Turns

variable {o o' : Office} {m : Move} {x : Turn} {c c' : EventChange} {id : EventId}

theorem Turn.Handles.eq (handles : x.Handles c) (handles' : x.Handles c') : c = c' := by
  obtain ⟨m, _, inHand, read, -⟩ := handles
  obtain ⟨m', _, inHand', read', -⟩ := handles'
  cases inHand.symm.trans inHand'
  cases read.symm.trans read'
  rfl

theorem Turn.Removes.not_brings (removes : x.Removes id) : ¬ x.Brings id := by
  rintro ⟨c, s, handles, brought, -⟩
  obtain ⟨r, handles', -⟩ := removes
  cases handles.eq handles'
  cases brought

/-- The snapshot of an event after a change was handled. -/
theorem Turn.Handles.get? (handles : x.Handles c) (id : EventId) :
    x.after.events.get? id = Snapshot.events.rowNext id (x.before.events.get? id) c := by
  obtain ⟨m, handled, -, read, result⟩ := handles
  have calm : x.before.events.failures = 0 := by
    by_contra failing
    obtain ⟨⟨e, fails⟩, -⟩ := Snapshot.events.handle_failing read failing
    cases (congrArg Prod.fst result).symm.trans fails
  have row := Snapshot.Domain.get?_handle (d := Snapshot.events) x.before.events m id
  rw [if_pos calm, Snapshot.Domain.change?_eq_some.mpr read] at row
  rwa [show Snapshot.events.handle x.before.events m = _ from result] at row

/-- A consumer changes snapshots of events only when it handles a change. -/
theorem Consumes.rows {i : Nat} {k : Consumer} (found : o.consumers[i]? = some k)
    (consumes : Consumes o i k o') :
    o'.events.rows = o.events.rows ∨ ∃ c, Turn.Handles ⟨.turn (.consumer i), o, o'⟩ c := by
  cases consumes with
  | looks _ _ _ _ events => exact .inl (congrArg _ events)
  | settles _ _ _ events _ => exact .inl (congrArg _ events)
  | @handles d _ _ at_ handler _ events bus =>
      have inHand : Turn.inHand? ⟨.turn (.consumer i), o, o'⟩ = some d.message := by
        simp only [Turn.inHand?, found, Option.bind_some, handler, at_]
        rfl
      cases result : (Snapshot.handleEvent o.events d.message).1 with
      | error e =>
          refine .inl ((congrArg _ events).trans ?_)
          refine Snapshot.Domain.rows_of_not_applied (d := Snapshot.events) _ _ ?_
          rw [show (Snapshot.events.handle o.events d.message).1 = _ from result]
          simp
      | ok handled =>
          cases read : Snapshot.events.change? d.message with
          | some c =>
              exact .inr ⟨c, d.message, handled, inHand, Snapshot.Domain.change?_eq_some.mp read,
                Prod.ext result events.symm⟩
          | none =>
              have unread := Snapshot.Domain.change?_eq_none.mp read
              refine .inl ((congrArg _ events).trans (congrArg _ ?_))
              exact (Snapshot.events.handle_unread o.events unread).2

/-- Snapshots of events change only when a consumer handles a change. -/
theorem handles_of_move {news : Option EventChange} (talks : Talks o m o' news)
    (honest : Turn.isHonest ⟨m, o, o'⟩ = true) (moved : m.apply o = some o') :
    o'.events.rows = o.events.rows ∨ ∃ c, Turn.Handles ⟨m, o, o'⟩ c := by
  cases rewires_of_move talks moved with
  | rests same => exact .inl (congrArg (·.events.rows) same)
  | utters _ uttered => exact .inl (congrArg (·.events.rows) uttered)
  | consumes found acts => exact (consumes_of_acts acts).rows found
  | overlooks found free acts =>
      cases consumes_of_acts acts with
      | looks _ _ _ _ events => exact .inl (congrArg _ events)
      | settles _ _ _ events _ => exact .inl (congrArg _ events)
      | handles at_ => simp [at_, Consumer.Stage.message?] at free
  | written events users => exact .inl (of_decide_eq_true honest)
  | wired bus => cases honest
  | announced c => cases honest
  | announcedUser c => exact .inl (congrArg (·.events.rows) (wires_announceUser o c))

/-- A change that is no removal takes no snapshot away. -/
theorem isSome_rowNext (keeps : c.isRemoval = false) (about : c.eventId = id)
    (before : Option EventSnapshot) :
    (Snapshot.events.rowNext id before c).isSome = (before.isSome || c.snapshot?.isSome) := by
  have version : (Snapshot.events.edit c).version? ≠ none := by
    cases c with
    | deleted r => cases keeps
    | _ => exact Option.some_ne_none _
  rw [Snapshot.events.rowNext_of_entity _ about, Snapshot.Edit.isSome_row version]
  cases c <;> rfl

/-- A turn that handles a change decides about a snapshot, or leaves it there. -/
theorem Turn.Handles.decides (handles : x.Handles c) (id : EventId) :
    (x.Brings id ∧ (x.after.events.get? id).isSome) ∨
      (x.Removes id ∧ x.after.events.get? id = none) ∨
      (¬ x.Brings id ∧ ¬ x.Removes id ∧
        (x.after.events.get? id).isSome = (x.before.events.get? id).isSome) := by
  have brings_iff : x.Brings id ↔ c.eventId = id ∧ c.snapshot?.isSome := by
    constructor
    · rintro ⟨c', s, handles', brought, about⟩
      cases handles.eq handles'
      exact ⟨(EventChange.eventId_of_snapshot? brought).trans about, by rw [brought]; rfl⟩
    · rintro ⟨about, brought⟩
      obtain ⟨s, brought⟩ := Option.isSome_iff_exists.mp brought
      exact ⟨c, s, handles, brought, (EventChange.eventId_of_snapshot? brought).symm.trans about⟩
  have removes_iff : x.Removes id ↔ c.eventId = id ∧ c.isRemoval = true := by
    constructor
    · rintro ⟨r, handles', about⟩
      cases handles.eq handles'
      exact ⟨about, rfl⟩
    · rintro ⟨about, removal⟩
      cases c with
      | deleted r => exact ⟨r, handles, about⟩
      | _ => cases removal
  rw [handles.get? id, brings_iff, removes_iff]
  by_cases about : c.eventId = id
  · cases removal : c.isRemoval with
    | true =>
        rw [Snapshot.events.rowNext_of_entity _ about]
        cases c with
        | deleted r => exact .inr (.inl ⟨⟨about, rfl⟩, Snapshot.Edit.row_remove _⟩)
        | _ => cases removal
    | false =>
        rw [isSome_rowNext removal about]
        cases brought : c.snapshot? with
        | some s => exact .inl ⟨⟨about, rfl⟩, Bool.or_true _⟩
        | none => exact .inr (.inr ⟨by simp, by simp, Bool.or_false _⟩)
  · rw [Snapshot.events.rowNext_of_ne _ about]
    exact .inr (.inr ⟨fun brings => about brings.1, fun removes => about removes.1, rfl⟩)

/-- The message of a change that is acknowledged was handled. -/
theorem Turn.handles_of_acknowledges {message : Message} (moved : m.apply o = some o')
    (acknowledges : Turn.acknowledges ⟨m, o, o'⟩ message = true)
    (tells : EventChange.Tells message c) : Turn.Handles ⟨m, o, o'⟩ c := by
  obtain ⟨d, inHand, same⟩ : ∃ d, Turn.inHand? ⟨m, o, o'⟩ = some d ∧ d.Repeats message := by
    unfold Turn.acknowledges at acknowledges
    split at acknowledges
    · rename_i d inHand
      refine ⟨d, inHand, ?_⟩
      rw [← of_decide_eq_true (Bool.and_eq_true_iff.mp acknowledges).1]
      exact ⟨rfl, rfl⟩
    · cases acknowledges
  obtain ⟨d', handled, same', -, result⟩ := Turn.handled_of_acknowledges moved acknowledges
  have alike : EventChange.ofMessage d = EventChange.ofMessage d' :=
    same.ofMessage.trans same'.ofMessage.symm
  have read : EventChange.ofMessage d' = .ok (some c) := by
    rcases Snapshot.handleEvent_cases o.events d' with ⟨-, ignored⟩ | ⟨c', read, -⟩
    · cases (same'.tells tells).eq_of_read (ignored handled (congrArg Prod.fst result))
    · cases (same'.tells tells).eq_of_read read
      exact read
  exact ⟨d, handled, inHand, alike.trans read,
    (Snapshot.events.handle_congr o.events alike).trans result⟩

end Turns

/-! ### The turn that decides -/

/-- The last of the turns that bring a snapshot of an event or remove it. -/
def IsLast (id : EventId) : List Turn → Option Turn → Prop :=
  Last fun _ x => x.Brings id ∨ x.Removes id

/-- There is a snapshot of an event just when the last turn that has decided about it has
brought one. -/
def IsDecided (id : EventId) (turns : List Turn) (o : Office) : Prop :=
  ∃ last, IsLast id turns last ∧
    ((o.events.get? id).isSome ↔ ∃ x, last = some x ∧ x.Brings id)

section Runs

variable {first o o' : Office} {turns : List Turn} {m : Move} {c : EventChange} {id : EventId}

theorem IsDecided.opened (new : IsNew o) : IsDecided id [] o := by
  refine ⟨none, .nil, ?_⟩
  constructor
  · intro stored
    cases new
    cases stored
  · rintro ⟨x, missing, -⟩
    cases missing

theorem IsDecided.handles (decided : IsDecided id turns o)
    (handles : Turn.Handles ⟨m, o, o'⟩ c) : IsDecided id (turns ++ [⟨m, o, o'⟩]) o' := by
  obtain ⟨last, isLast, stored⟩ := decided
  rcases handles.decides id with ⟨brings, there⟩ | ⟨removes, gone⟩ | ⟨silent, kept, same⟩
  · exact ⟨_, .concat (.inl brings), fun _ => ⟨_, rfl, brings⟩, fun _ => there⟩
  · refine ⟨_, .concat (.inr removes), ?_⟩
    constructor
    · intro there
      rw [show o'.events.get? id = none from gone] at there
      cases there
    · rintro ⟨x, same, brings⟩
      cases same
      exact absurd brings removes.not_brings
  · refine ⟨last, isLast.skip (not_or.mpr ⟨silent, kept⟩), ?_⟩
    rwa [show (o'.events.get? id).isSome = _ from same]

theorem IsDecided.rests (decided : IsDecided id turns o)
    (unheard : ¬ ∃ c, Turn.Handles ⟨m, o, o'⟩ c) (rows : o'.events.rows = o.events.rows) :
    IsDecided id (turns ++ [⟨m, o, o'⟩]) o' := by
  obtain ⟨last, isLast, stored⟩ := decided
  refine ⟨last, isLast.skip ?_, ?_⟩
  · rintro (⟨c, s, handles, -⟩ | ⟨r, handles, -⟩)
    · exact unheard ⟨c, handles⟩
    · exact unheard ⟨_, handles⟩
  · rwa [Snapshot.Table.get?, rows]

theorem Run.isDecided (run : Run first turns o) (new : IsNew first)
    (honest : turns.all Turn.isHonest = true) (id : EventId) : IsDecided id turns o := by
  induction run with
  | start => exact .opened new
  | @next turns o o' m run moved ih =>
      rw [List.all_append, Bool.and_eq_true_iff] at honest
      have decided := ih honest.1
      by_cases heard : ∃ c, Turn.Handles ⟨m, o, o'⟩ c
      · obtain ⟨c, handles⟩ := heard
        exact decided.handles handles
      · obtain ⟨news, talks⟩ := run.talks new moved
        have honest : Turn.isHonest ⟨m, o, o'⟩ = true := by simpa using honest.2
        exact decided.rests heard ((handles_of_move talks honest moved).resolve_right heard)

/-- The removal of an event is handled when all messages are acknowledged. -/
theorem Run.removes (run : Run first turns o) (new : IsNew first)
    (idle : ∀ c ∈ first.consumers, c.stage = .subscribing)
    (genuine : ∀ x ∈ turns, x.move.IsGenuine x.before) (candid : IsCandid turns)
    (done : ∀ t, o.task? t = none)
    (acknowledged : ∀ m ∈ o.eventMessages, ∃ x ∈ turns, x.acknowledges m = true)
    (committed : history id turns ≠ []) (gone : o.ledger.books.row? id = none) :
    ∃ x ∈ turns, x.Removes id := by
  obtain ⟨said, told, faithful⟩ := run.faithful new idle genuine candid
  have account := faithful.chronicle.account id
  rw [gone] at account
  obtain ⟨made, -, -, told_⟩ := account.exact
  have last := List.getLast?_eq_some_getLast committed
  have about : ((history id turns).getLast committed).id = id :=
    account.same.1 _ (List.getLast_mem committed)
  generalize (history id turns).getLast committed = row at last about
  have removal : EventChange.deleted ⟨row.id, row.publicId, row.version⟩ ∈
      told.filter (·.eventId = id) := by
    rw [told_, obituary, last]
    exact List.mem_append_right _ (List.mem_singleton_self _)
  have member := (List.mem_filter.mp removal).1
  obtain ⟨st, uttered, change⟩ := List.mem_map.mp ((faithful.balanced.perm done).mem_iff.mpr member)
  have on : st.message ∈ o.eventMessages :=
    faithful.balanced.spoken ▸ List.mem_map_of_mem uttered
  obtain ⟨x, turn, acknowledges⟩ := acknowledged _ on
  obtain ⟨before, after, rfl⟩ := List.append_of_mem turn
  obtain ⟨-, moved, -⟩ := run.split
  have tells : EventChange.Tells st.message (.deleted ⟨row.id, row.publicId, row.version⟩) :=
    change ▸ st.change.tells_toMessage _
  exact ⟨x, turn, _, Turn.handles_of_acknowledges moved acknowledges tells, about⟩

/-- What is stored in the end of an event that was removed. -/
structure Aftermath (turns : List Turn) (o : Office) (id : EventId) : Prop where
  removed : ∃ x ∈ turns, x.Removes id
  /-- There is a snapshot just when the last turn that decides brings one. -/
  last : ∃ x, IsLast id turns (some x) ∧ ((o.events.get? id).isSome ↔ x.Brings id)
  /-- There is none when none is brought after the removal. -/
  absent : (∀ before x after, turns = before ++ x :: after → x.Removes id →
    ∀ y ∈ after, ¬ y.Brings id) → o.events.get? id = none
  copy : ∀ s, o.events.get? id = some s → IsCopy id (history id turns) s

/-- When all messages about events are acknowledged and nobody owes another one, the
removal of each event that is gone was handled. A snapshot of it is stored just when
a message that brings one was handled after that, with no other removal later. -/
theorem Run.aftermath (run : Run first turns o) (new : IsNew first)
    (idle : ∀ c ∈ first.consumers, c.stage = .subscribing)
    (honest : turns.all Turn.isHonest = true) (candid : IsCandid turns)
    (done : ∀ t, o.task? t = none)
    (acknowledged : ∀ m ∈ o.eventMessages, ∃ x ∈ turns, x.acknowledges m = true)
    (committed : history id turns ≠ []) (gone : o.ledger.books.row? id = none) :
    Aftermath turns o id := by
  have genuine := isGenuine_of_isHonest honest
  obtain ⟨x, turn, removes⟩ := run.removes new idle genuine candid done acknowledged committed gone
  obtain ⟨last, isLast, stored⟩ := run.isDecided new honest id
  obtain ⟨y, rfl⟩ := Last.exists_of_mem isLast turn (.inr removes)
  have stored : (o.events.get? id).isSome ↔ y.Brings id := by simpa using stored
  have copy (s : EventSnapshot) (found : o.events.get? id = some s) :
      IsCopy id (history id turns) s :=
    run.storesCopies new idle genuine (Keyed.mem_of_get? found)
  refine ⟨⟨x, turn, removes⟩, ⟨y, isLast, stored⟩, ?_, copy⟩
  intro inOrder
  rw [← Option.not_isSome_iff_eq_none, stored]
  intro brings
  -- The removal stands before the turn that is last, so that one cannot bring anything.
  cases isLast with
  | entry holds never =>
      rename_i before after
      rcases List.mem_append.mp turn with early | late
      · obtain ⟨before', mid, rfl⟩ := List.append_of_mem early
        refine inOrder before' x (mid ++ y :: after) (by simp) removes y ?_ brings
        exact List.mem_append_right _ List.mem_cons_self
      · rcases List.mem_cons.mp late with rfl | later
        · exact removes.not_brings brings
        · obtain ⟨mid, rest, rfl⟩ := List.append_of_mem later
          exact never mid x rest rfl (.inr removes)

end Runs

/-- A talk is put on sale. The snapshot cannot be written, so that the message comes again
after the one about the removal of the talk. -/
def reviving : List Move :=
  [.turn (.consumer 0), .ask (.register ⟨.ofNat 1, "Talk", .epoch, .epoch, 3, ⟨2500⟩⟩),
    .turn (.caller 0), .turn (.caller 0), .turn (.consumer 0), .write ⟨[], 1⟩ .empty,
    .ask (.remove ⟨1⟩)] ++ List.replicate 3 (.turn (.caller 1)) ++
    List.replicate 5 (.turn (.consumer 0))

theorem run_reviving : Run attended (attended.play reviving) (attended.played reviving) := by
  have played := Run.start.play (show attended.canPlay reviving = true by decide +kernel)
  rwa [List.nil_append] at played

theorem honest_reviving : (attended.play reviving).all Turn.isHonest = true := by decide +kernel

theorem candid_reviving : IsCandid (attended.play reviving) :=
  isCandid_of_isPlain (by decide +kernel)

theorem done_reviving (t : Ledger.Ticket) : (attended.played reviving).task? t = none := by
  have none_ : (attended.played reviving).tasks = [] := by decide +kernel
  rw [task?, none_, Keyed.get?_nil]

theorem acknowledged_reviving : ∀ m ∈ (attended.played reviving).eventMessages,
    ∃ x ∈ attended.play reviving, x.acknowledges m = true := by
  have all : ((attended.played reviving).eventMessages.all fun m =>
      (attended.play reviving).any fun x => x.acknowledges m) = true := by decide +kernel
  exact fun m member => List.any_eq_true.mp (List.all_eq_true.mp all m member)

theorem committed_reviving : history ⟨1⟩ (attended.play reviving) ≠ [] := by decide +kernel

theorem row?_reviving : (attended.played reviving).ledger.books.row? ⟨1⟩ = none := by
  decide +kernel

theorem aftermath_reviving : ((attended.play reviving).all Turn.isHonest = true ∧
    IsCandid (attended.play reviving) ∧ history ⟨1⟩ (attended.play reviving) ≠ []) ∧
      Aftermath (attended.play reviving) (attended.played reviving) ⟨1⟩ :=
  ⟨⟨honest_reviving, candid_reviving, committed_reviving⟩,
    run_reviving.aftermath isNew_attended (by decide) honest_reviving candid_reviving
      done_reviving acknowledged_reviving committed_reviving row?_reviving⟩

/-- An event that was removed comes back: no message is a dead letter, all are
acknowledged, and a snapshot of the event is stored. -/
theorem removed_event_revived :
    Run attended (attended.play reviving) (attended.played reviving) ∧ IsNew attended ∧
      (attended.play reviving).all Turn.isHonest = true ∧ IsCandid (attended.play reviving) ∧
      (∀ t, (attended.played reviving).task? t = none) ∧
      (∀ m ∈ (attended.played reviving).eventMessages,
        ∃ x ∈ attended.play reviving, x.acknowledges m = true) ∧
      (attended.played reviving).bus.deadLetters = [] ∧
      history ⟨1⟩ (attended.play reviving) ≠ [] ∧
      (attended.played reviving).ledger.books.row? ⟨1⟩ = none ∧
      (attended.played reviving).events.get? ⟨1⟩ = some (talkSnapshot 3 1) :=
  ⟨run_reviving, isNew_attended, honest_reviving, candid_reviving, done_reviving,
    acknowledged_reviving, by decide +kernel, committed_reviving, row?_reviving,
    by decide +kernel⟩

end BoxOffice.Office
