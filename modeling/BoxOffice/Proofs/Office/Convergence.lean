import BoxOffice.Proofs.Office.Copies

/-!
# How far snapshots converge

When nobody is at work and all messages are acknowledged, the snapshot of an event has
the version and the seats of its row, whatever the order was in which the messages
were handled. A count of seats raises the version of a snapshot and brings none of the
other fields. A revision that is handled after it is older then, and is skipped. So
title, dates and price may stay those of an earlier commit, and they are right when
the last commit brought them.
-/

namespace BoxOffice

namespace Snapshot

variable {before : Option EventSnapshot} {stored s : EventSnapshot} {c : EventChange}

/-- Versions of snapshots rise. -/
theorem Stores.rises (stores : Stores (some stored) c s) : stored.version ≤ s.version := by
  cases stores with
  | replaced newer => exact newer
  | counted newer => exact newer

theorem Stores.version (stores : Stores before c s) : s.version = c.version := by
  cases stores <;> rfl

end Snapshot

/-- A consumer acknowledges a message only when it was handled. -/
theorem Consumer.handled_of_ack {n : Nat} {m : Message} {outcome : Outcome}
    (ack : (verdict n m outcome).1 = .ack) : ∃ handled, outcome = .handled (.ok handled) := by
  have redelivered (reason : String) : (redeliver n m reason).1 ≠ .ack := by
    unfold redeliver
    split <;> simp
  cases outcome with
  | handled result =>
      cases result with
      | ok handled => exact ⟨handled, rfl⟩
      | error e =>
          simp only [verdict] at ack
          split at ack
          · exact absurd ack (redelivered _)
          · cases ack
  | panicked text => cases ack
  | timedOut => exact absurd ack (redelivered _)

namespace Office

/-! ### Snapshots that are new enough -/

/-- The snapshot of an event has a version or a later one, unless the event is told to
be gone. -/
def Holds (told : List EventChange) (t : Snapshot.EventTable) (id : EventId) (version : Nat) : Prop :=
  (∃ r, .deleted r ∈ told ∧ r.id = id) ∨ ∃ s, t.get? id = some s ∧ version ≤ s.version

section Holds

variable {told told' : List EventChange} {t t' : Snapshot.EventTable} {id : EventId} {version : Nat}
  {c : EventChange} {result : Except Snapshot.HandlerError Snapshot.Handled}

theorem Holds.mono (holds : Holds told t id version) (more : ∀ c ∈ told, c ∈ told') :
    Holds told' t id version :=
  holds.imp_left fun ⟨r, member, about⟩ => ⟨r, more _ member, about⟩

theorem Holds.congr (holds : Holds told t id version) (rows : t'.rows = t.rows) :
    Holds told t' id version := by
  unfold Holds Snapshot.Table.get?
  rwa [rows]

/-- No message makes a snapshot older. -/
theorem Holds.writes (holds : Holds told t id version) (writes : Snapshot.Writes t c (result, t'))
    (member : c ∈ told) : Holds told t' id version := by
  rcases holds with gone | ⟨s, found, newer⟩
  · exact .inl gone
  · rcases writes.get? id with same | ⟨r, rfl, about⟩ | ⟨-, s', stores, stored⟩
    · exact .inr ⟨s, same.trans found, newer⟩
    · exact .inl ⟨r, member, about⟩
    · rw [found] at stores
      exact .inr ⟨s', stored, Nat.le_trans newer stores.rises⟩

/-- A change that was handled is in the snapshot, or something newer is. Only a count
of seats needs a snapshot for that. -/
theorem holds_of_writes {handled : Snapshot.Handled}
    (writes : Snapshot.Writes t c (.ok handled, t')) (member : c ∈ told)
    (first : ∀ s stored, c = .created s → t.get? s.id = some stored → s.version ≤ stored.version)
    (counted : ∀ count, c = .seatsUpdated count → Holds told t count.id 0) :
    Holds told t' c.eventId c.version := by
  cases writes with
  | skips cause rows =>
      refine Holds.congr ?_ rows
      generalize at_ : t.get? c.eventId = before at cause
      cases cause with
      | present stored s => exact .inr ⟨stored, at_, first s stored rfl at_⟩
      | older newer => exact .inr ⟨_, at_, Nat.le_of_lt newer⟩
      | olderCount newer => exact .inr ⟨_, at_, Nat.le_of_lt newer⟩
      | unknown count =>
          rcases counted count rfl with gone | ⟨s, found, -⟩
          · exact .inl gone
          · cases at_.symm.trans found
      | gone r => exact .inl ⟨r, member, rfl⟩
  | @stores s _ stores rows =>
      refine .inr ⟨s, ?_, Nat.le_of_eq stores.version.symm⟩
      rw [Snapshot.Table.get?, rows, Keyed.get?_put_self]
  | erases removal rows =>
      subst removal
      exact .inl ⟨_, member, rfl⟩

end Holds

/-! ### Messages that are acknowledged -/

/-- The message that the consumer has in hand whose turn it is, if it keeps the
snapshots of events. -/
def Turn.inHand? (x : Turn) : Option Message :=
  match x.move with
  | .turn (.consumer i) =>
    (x.before.consumers[i]?).bind fun c => if c.handler = .events then c.stage.message? else none
  | _ => none

/-- Whether a turn acknowledges a message, after any number of redeliveries. -/
def Turn.acknowledges (x : Turn) (m : Message) : Bool :=
  match x.inHand? with
  | some d => { d with redeliveries := m.redeliveries } = m &&
    (x.after.bus.settled.drop x.before.bus.settled.length).any fun settled =>
      settled.message = d && settled.disposition = .ack
  | none => false

section Acknowledged

variable {o o' : Office} {m : Message} {move : Move}

/-- A message in hand is held by a consumer of changes of events whose turn it is. -/
theorem Turn.exists_of_inHand? {x : Turn} {d : Message} (inHand : x.inHand? = some d) :
    ∃ i c, x.move = .turn (.consumer i) ∧ x.before.consumers[i]? = some c ∧ c.handler = .events ∧
      c.stage.message? = some d := by
  unfold Turn.inHand? at inHand
  split at inHand
  · rename_i i made
    obtain ⟨c, found, held⟩ := Option.bind_eq_some_iff.mp inHand
    split at held
    · rename_i handler
      exact ⟨i, c, made, found, handler, held⟩
    · cases held
  · cases inHand

/-- Only a message that was handled is acknowledged. -/
theorem Turn.handled_of_acknowledges (moved : move.apply o = some o')
    (acknowledges : Turn.acknowledges ⟨move, o, o'⟩ m = true) :
    ∃ d handled, d.Repeats m ∧ d ∈ o.wires.messages ∧
      Snapshot.handleEvent o.events d = (.ok handled, o'.events) := by
  unfold Turn.acknowledges at acknowledges
  split at acknowledges
  · rename_i d inHand
    obtain ⟨i, c, made, found, handler, held⟩ := Turn.exists_of_inHand? inHand
    obtain rfl : move = .turn (.consumer i) := made
    obtain ⟨same, noted⟩ := Bool.and_eq_true_iff.mp acknowledges
    obtain ⟨noted, member, right⟩ := List.any_eq_true.mp noted
    have acked : noted.disposition = .ack := of_decide_eq_true (Bool.and_eq_true_iff.mp right).2
    have repeats : d.Repeats m := by
      rw [← of_decide_eq_true same]
      exact ⟨rfl, rfl⟩
    have there : d ∈ o.wires.messages :=
      mem_wires_messages.mpr (.inr ⟨c, List.mem_of_getElem? found, held⟩)
    have decided {d' : Bus.Delivery} {how : Bus.Disposition}
        (bus : o'.bus = (o.bus.settle d' how).2) : how = .ack := by
      rw [bus] at member
      exact (Bus.eq_of_mem_settled member).2.symm.trans acked
    obtain ⟨c', found', acts⟩ := acts_of_step moved
    obtain rfl : c = c' := Option.some.inj (found.symm.trans found')
    cases consumes_of_acts acts with
    | looks _ _ _ settled _ =>
        rw [settled, List.drop_length] at member
        cases member
    | @handles d' _ _ at_ _ _ events bus =>
        obtain rfl : d'.message = d := by
          rw [at_] at held
          exact Option.some.inj held
        obtain ⟨handled, result⟩ := Consumer.handled_of_ack (decided bus)
        exact ⟨_, handled, repeats, there,
          Prod.ext (Consumer.Outcome.handled.inj result) events.symm⟩
    | settles _ other _ _ bus =>
        obtain ⟨handled, result⟩ := Consumer.handled_of_ack (decided bus)
        cases (other handler).symm.trans result
  · cases acknowledges

end Acknowledged

/-! ### Keeping up -/

section Uniqueness

variable {turns : List Turn} {o : Office} {told : List EventChange} {c c' : EventChange}

/-- A version of an event is told by one change. -/
theorem Chronicle.change_eq (chronicle : Chronicle turns o told) (member : c ∈ told)
    (member' : c' ∈ told) (news : c.isRemoval = false) (news' : c'.isRemoval = false)
    (about : c.eventId = c'.eventId) (same : c.version = c'.version) : c = c' := by
  have kept {c₀ : EventChange} (member : c₀ ∈ told) (about : c₀.eventId = c'.eventId) :
      c₀ ∈ told.filter (·.eventId = c'.eventId) :=
    List.mem_filter.mpr ⟨member, decide_eq_true about⟩
  exact (chronicle.account c'.eventId).change_eq (kept member about) (kept member' rfl) news news' same

/-- A snapshot with the version of a change that brings one is just that one. -/
theorem Chronicle.snapshot_eq {id : EventId} {s s' : EventSnapshot}
    (chronicle : Chronicle turns o told) (composed : Composed told id s) (member : c ∈ told)
    (brings : c.snapshot? = some s') (about : c.eventId = id) (same : s.version = s'.version) :
    s = s' := by
  have version := EventChange.version_of_snapshot? brings
  have news := EventChange.isRemoval_of_snapshot? brings
  cases composed with
  | @brought c₀ _ member₀ brings₀ about₀ =>
      have version₀ := EventChange.version_of_snapshot? brings₀
      have news₀ := EventChange.isRemoval_of_snapshot? brings₀
      obtain rfl : c₀ = c := chronicle.change_eq member₀ member news₀ news (about₀.trans about.symm)
        (by rw [version₀, same, version])
      exact Option.some.inj (brings₀.symm.trans brings)
  | @counted _ _ count _ _ _ counts counts_about _ =>
      obtain rfl : .seatsUpdated count = c := chronicle.change_eq counts member rfl news
        (counts_about.trans about.symm) (version.trans same.symm).symm
      cases brings

/-- A registration is the first commit of all. -/
theorem Chronicle.first {s stored : EventSnapshot} (chronicle : Chronicle turns o told)
    (member : .created s ∈ told) (composed : Composed told s.id stored) :
    s.version ≤ stored.version := by
  have account := chronicle.account s.id
  obtain ⟨row, there, tells⟩ := account.tells
    (List.mem_filter.mpr ⟨member, decide_eq_true rfl⟩) rfl
  obtain ⟨row', there', version, -⟩ := (account.isCopy composed.filter).commit
  obtain ⟨i, bound, rfl⟩ := List.mem_iff_getElem.mp there'
  rw [account.version_getElem] at version
  cases tells with
  | created first =>
      show row.version ≤ stored.version
      omega

end Uniqueness

/-- Snapshots keep up with what is acknowledged, and whoever books seats of an event
has found a snapshot of it. -/
structure KeepsUp (turns : List Turn) (o : Office) (told : List EventChange) : Prop where
  known : ∀ t task event, o.task? t = some task → task.event? = some event →
    Holds told o.events event.id 0
  counted : ∀ count, .seatsUpdated count ∈ told → Holds told o.events count.id 0
  applied : ∀ x ∈ turns, ∀ m c, x.acknowledges m = true → EventChange.Tells m c →
    c ∈ told ∧ Holds told o.events c.eventId c.version

section KeepsUp

variable {first o o' : Office} {turns : List Turn} {m : Move} {told : List EventChange}
  {news : Option EventChange} {id : EventId} {version : Nat}

/-- A move makes no snapshot older. -/
theorem Reflects.holds (reflects : Reflects o told) (conveys : Conveys o o')
    (holds : Holds told o.events id version) : Holds told o'.events id version := by
  rcases conveys.events with same | ⟨m, there, handled⟩
  · exact holds.congr same
  · rcases Snapshot.handleEvent_cases o.events m with ⟨same, -⟩ | ⟨c, read, writes⟩
    · rwa [handled, same]
    · rw [handled]
      exact holds.writes writes (reflects.vouched m there c read)

/-- An event that is found has a snapshot. -/
theorem Reflects.found (reflects : Reflects o told) {publicId : PublicId} {event : EventSnapshot}
    (found : o.events.find? publicId = some event) : Holds told o.events event.id 0 := by
  obtain ⟨⟨id, s⟩, listed, rfl⟩ := Option.map_eq_some_iff.mp found
  have member := List.mem_of_find?_eq_some listed
  obtain rfl : s.id = id := (reflects.stored _ member).about
  obtain ⟨s', at_⟩ := Option.isSome_iff_exists.mp (Keyed.isSome_get?_of_mem member)
  exact .inr ⟨s', at_, Nat.zero_le _⟩

/-- A message that is acknowledged now was handled. -/
theorem KeepsUp.acknowledged (keepsUp : KeepsUp turns o told) (chronicle : Chronicle turns o told)
    (reflects : Reflects o told) (moved : m.apply o = some o') {message : Message} {c : EventChange}
    (acknowledges : Turn.acknowledges ⟨m, o, o'⟩ message = true)
    (tells : EventChange.Tells message c) :
    c ∈ told ∧ Holds told o'.events c.eventId c.version := by
  obtain ⟨d, handled, repeats, there, result⟩ := Turn.handled_of_acknowledges moved acknowledges
  have tells := repeats.tells tells
  rcases Snapshot.handleEvent_cases o.events d with ⟨-, ignored⟩ | ⟨c', read, writes⟩
  · cases tells.eq_of_read (ignored handled (congrArg Prod.fst result))
  · cases tells.eq_of_read read
    have member := reflects.vouched d there c read
    rw [result] at writes
    refine ⟨member, holds_of_writes writes member ?_ ?_⟩
    · rintro s stored rfl at_
      exact chronicle.first member (reflects.stored _ (Keyed.mem_of_get? at_))
    · rintro count rfl
      exact keepsUp.counted count member

theorem KeepsUp.opened (new : IsNew o) : KeepsUp [] o [] := by
  refine ⟨fun t task event at_ => ?_, fun count member => ?_, fun x member => ?_⟩
  · cases new
    cases at_
  · cases member
  · cases member

theorem KeepsUp.move (keepsUp : KeepsUp turns o told) (chronicle : Chronicle turns o told)
    (reflects : Reflects o told) (run : Run first turns o) (new : IsNew first)
    (public_ : ∀ x ∈ turns, ∀ r, x.move = .ask r → r.isSecret = false)
    (talks : Talks o m o' news) (conveys : Conveys o o') (moved : m.apply o = some o') :
    KeepsUp (turns ++ [⟨m, o, o'⟩]) o' (told ++ news.toList) := by
  have more (c : EventChange) (member : c ∈ told) : c ∈ told ++ news.toList :=
    List.mem_append_left _ member
  have still {id : EventId} {version : Nat} (holds : Holds told o.events id version) :
      Holds (told ++ news.toList) o'.events id version := (reflects.holds conveys holds).mono more
  constructor
  · intro t task event at_ about
    rcases leads_of_move (run.isBacked new.isBacked).1 (run.fit new) moved at_ with
      before | ⟨r, _, rfl⟩ | ⟨task₀, before, leads⟩
    · exact still (keepsUp.known t task event before about)
    · cases about
    · rcases leads.event event about with same | ⟨publicId, found⟩
      · exact still (keepsUp.known t task₀ event before same)
      · exact still (reflects.found found)
  · intro count member
    rcases List.mem_append.mp member with early | late
    · exact still (keepsUp.counted count early)
    · cases talks with
      | rests => cases late
      | utters => cases late
      | commits _ _ _ _ _ _ counts =>
          obtain ⟨task, event, at_, about, same⟩ := counts count (List.mem_singleton.mp late).symm
          exact same ▸ still (keepsUp.known _ task event at_ about)
      | hides _ at_ secret => cases (run.notSecret new public_ _ _ at_).symm.trans secret
  · intro x member message c acknowledges tells
    rcases List.mem_append.mp member with early | late
    · obtain ⟨told_, holds⟩ := keepsUp.applied x early message c acknowledges tells
      exact ⟨more c told_, still holds⟩
    · obtain rfl := List.mem_singleton.mp late
      obtain ⟨told_, holds⟩ := keepsUp.acknowledged chronicle reflects moved acknowledges tells
      exact ⟨more c told_, holds.mono more⟩

end KeepsUp

/-! ### Convergence -/

/-- All that was proved of a run whose messages are neither forged nor hidden. -/
structure IsFaithful (turns : List Turn) (o : Office) (said : List Statement)
    (told : List EventChange) : Prop where
  chronicle : Chronicle turns o told
  balanced : IsBalanced o said told
  reflects : Reflects o told
  keepsUp : KeepsUp turns o told

theorem Run.faithful {first o : Office} {turns : List Turn} (run : Run first turns o)
    (new : IsNew first) (idle : ∀ c ∈ first.consumers, c.stage = .subscribing)
    (genuine : ∀ x ∈ turns, x.move.IsGenuine x.before) (candid : IsCandid turns) :
    ∃ said told, IsFaithful turns o said told := by
  induction run with
  | start => exact ⟨[], [], .opened new, .opened new, .opened new idle, .opened new⟩
  | @next turns o o' m run moved ih =>
      obtain ⟨said, told, chronicle, balanced, reflects, keepsUp⟩ :=
        ih (fun x member => genuine x (List.mem_append_left _ member)) candid.init
      obtain ⟨news, talks⟩ := run.talks new moved
      have conveys := conveys_of_move talks
        (genuine _ (List.mem_append_right _ (List.mem_singleton_self _))) moved
      obtain ⟨said', balanced'⟩ := balanced.move run new candid moved talks
      exact ⟨said', _, chronicle.move (run.isBacked new.isBacked).1.numbered talks, balanced',
        reflects.move talks conveys,
        keepsUp.move chronicle reflects run new candid.init.open_ talks conveys moved⟩

section Faithful

variable {o : Office} {turns : List Turn} {said : List Statement} {told : List EventChange}

/-- What a message tells that was acknowledged has come to the snapshots. -/
theorem IsFaithful.applied (faithful : IsFaithful turns o said told)
    (acknowledged : ∀ m ∈ o.eventMessages, ∃ x ∈ turns, x.acknowledges m = true) {m : Message}
    {c : EventChange} (on : m ∈ o.eventMessages) (tells : EventChange.Tells m c) :
    c ∈ told ∧ Holds told o.events c.eventId c.version := by
  obtain ⟨x, turn, acknowledges⟩ := acknowledged m on
  exact faithful.keepsUp.applied x turn m c acknowledges tells

/-- The last commit of a row was told, so there is a snapshot as new as the row. -/
theorem IsFaithful.isNewEnough (faithful : IsFaithful turns o said told)
    (done : ∀ t, o.task? t = none)
    (acknowledged : ∀ m ∈ o.eventMessages, ∃ x ∈ turns, x.acknowledges m = true)
    {id : EventId} {row : EventRow} (found : o.ledger.books.row? id = some row) :
    ∃ s, o.events.get? id = some s ∧ row.version ≤ s.version := by
  have account := faithful.chronicle.account id
  rw [found] at account
  obtain ⟨-, -, last, -⟩ := account.current
  obtain ⟨c, member, tells⟩ := account.isTold (List.mem_of_getLast? last)
  obtain ⟨member, same⟩ := List.mem_filter.mp member
  have same : c.eventId = id := of_decide_eq_true same
  obtain ⟨st, uttered, rfl⟩ := List.mem_map.mp ((faithful.balanced.perm done).mem_iff.mpr member)
  have on : st.message ∈ o.eventMessages :=
    faithful.balanced.spoken ▸ List.mem_map_of_mem uttered
  rcases (faithful.applied acknowledged on (st.change.tells_toMessage _)).2 with
    ⟨r, removed, gone⟩ | holds
  · cases account.no_removal (List.mem_filter.mpr ⟨removed, decide_eq_true (gone.trans same)⟩)
  · rwa [same, tells.version] at holds

end Faithful

/-- What the snapshot of an event has of its row in the end. -/
structure Converged (rows : List EventRow) (row : EventRow) (messages : List Message)
    (s : EventSnapshot) : Prop where
  id : s.id = row.id
  publicId : s.publicId = row.publicId
  version : s.version = row.version
  availableSeats : s.availableSeats = row.availableSeats
  /-- All other fields are those that one of the commits had. -/
  full : ∃ earlier ∈ rows, s = { EventSnapshot.ofRow earlier with
    availableSeats := row.availableSeats, version := row.version }
  /-- When the last commit was told as a whole, the snapshot is right as a whole. -/
  whole : (∃ m ∈ messages, EventChange.Tells m (.created (.ofRow row)) ∨
    EventChange.Tells m (.updated (.ofRow row))) → s = .ofRow row

/-- When all messages about events are acknowledged and nobody owes another one, each
event that is still sold has a snapshot, with the version and the seats of its row. -/
theorem Run.converges {first o : Office} {turns : List Turn} (run : Run first turns o)
    (new : IsNew first) (idle : ∀ c ∈ first.consumers, c.stage = .subscribing)
    (genuine : ∀ x ∈ turns, x.move.IsGenuine x.before) (candid : IsCandid turns)
    (done : ∀ t, o.task? t = none)
    (acknowledged : ∀ m ∈ o.eventMessages, ∃ x ∈ turns, x.acknowledges m = true)
    {id : EventId} {row : EventRow} (found : o.ledger.books.row? id = some row) :
    ∃ s, o.events.get? id = some s ∧ Converged (history id turns) row o.eventMessages s := by
  obtain ⟨said, told, faithful⟩ := run.faithful new idle genuine candid
  have account := faithful.chronicle.account id
  rw [found] at account
  obtain ⟨about, -, last, -⟩ := account.current
  have there : row ∈ history id turns := List.mem_of_getLast? last
  obtain ⟨s, stored, newer⟩ := faithful.isNewEnough done acknowledged found
  have composed := faithful.reflects.stored _ (Keyed.mem_of_get? stored)
  obtain ⟨sId, -, sole, ⟨row', last', older⟩, publicId, full⟩ := account.isCopy composed.filter
  obtain rfl : row = row' := Option.some.inj (last.symm.trans last')
  have version : s.version = row.version := Nat.le_antisymm older newer
  have seats := sole row there version.symm
  refine ⟨s, stored, sId.trans about.symm, (publicId row there).symm, version, seats.symm, ?_, ?_⟩
  · obtain ⟨earlier, member, -, made⟩ := full
    refine ⟨earlier, member, ?_⟩
    rwa [version, ← seats] at made
  · have whole {m : Message} {c : EventChange} (on : m ∈ o.eventMessages)
        (tells : EventChange.Tells m c) (brings : c.snapshot? = some (.ofRow row))
        (same : c.eventId = id) : s = .ofRow row :=
      faithful.chronicle.snapshot_eq composed (faithful.applied acknowledged on tells).1 brings same
        version
    rintro ⟨m, on, created | updated⟩
    · exact whole on created rfl about
    · exact whole on updated rfl about

theorem candid_overtaking : IsCandid (attended.play overtaking) :=
  isCandid_of_isPlain (by decide +kernel)

theorem done_overtaking (t : Ledger.Ticket) : (attended.played overtaking).task? t = none := by
  have none_ : (attended.played overtaking).tasks = [] := by decide +kernel
  rw [task?, none_, Keyed.get?_nil]

theorem acknowledged_overtaking : ∀ m ∈ (attended.played overtaking).eventMessages,
    ∃ x ∈ attended.play overtaking, x.acknowledges m = true := by
  have all : ((attended.played overtaking).eventMessages.all fun m =>
      (attended.play overtaking).any fun x => x.acknowledges m) = true := by decide +kernel
  exact fun m member => List.any_eq_true.mp (List.all_eq_true.mp all m member)

/-- The row of the talk in the end. -/
def lecture : EventRow := ⟨⟨1⟩, .ofNat 1, "Lecture", .epoch, .epoch, 3, 1, ⟨2500⟩, 3⟩

theorem row?_overtaking : (attended.played overtaking).ledger.books.row? ⟨1⟩ = some lecture := by
  decide +kernel

theorem converges_overtaking : ∃ row, (attended.played overtaking).ledger.books.row? ⟨1⟩ = some row ∧
    row.version = 3 ∧ ∃ s, (attended.played overtaking).events.get? ⟨1⟩ = some s ∧
      Converged (history ⟨1⟩ (attended.play overtaking)) row
        (attended.played overtaking).eventMessages s :=
  ⟨lecture, row?_overtaking, rfl,
    run_overtaking.converges isNew_attended (by decide) genuine_overtaking
      candid_overtaking done_overtaking acknowledged_overtaking row?_overtaking⟩

/-- A revision that a count of seats has overtaken is lost: no message is a dead letter,
all are acknowledged, and the snapshot keeps the title from before. -/
theorem overtaken_revision_lost :
    Run attended (attended.play overtaking) (attended.played overtaking) ∧ IsNew attended ∧
      (∀ x ∈ attended.play overtaking, x.move.IsGenuine x.before) ∧
      IsCandid (attended.play overtaking) ∧
      (∀ t, (attended.played overtaking).task? t = none) ∧
      (∀ m ∈ (attended.played overtaking).eventMessages,
        ∃ x ∈ attended.play overtaking, x.acknowledges m = true) ∧
      (attended.played overtaking).bus.deadLetters = [] ∧
      ∃ row s, (attended.played overtaking).ledger.books.row? ⟨1⟩ = some row ∧
        (attended.played overtaking).events.get? ⟨1⟩ = some s ∧
        row.title = "Lecture" ∧ s.title = "Talk" ∧ s ≠ .ofRow row := by
  exact ⟨run_overtaking, isNew_attended, genuine_overtaking,
    candid_overtaking, done_overtaking, acknowledged_overtaking, by decide +kernel, lecture,
    talkSnapshot 1 3, row?_overtaking, by decide +kernel, rfl, rfl, by decide⟩

end Office

end BoxOffice
