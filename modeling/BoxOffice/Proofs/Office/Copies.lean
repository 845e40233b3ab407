import BoxOffice.Proofs.Office.Conveying

/-!
# Snapshots are copies of commits

A count of seats that is handled late goes onto a snapshot that was taken at another
commit, so a snapshot may be made of two messages. Both tell of commits of the same
row. The version and the seats come from one of them, and all else of the snapshot
from a commit that was not later. This does not depend on the order in which messages
are handled, on how often they are, or on whether they are handled at all.
-/

namespace BoxOffice

/-- A routing key that is read is one of those of changes. -/
theorem EventChange.routingKey_mem_of_read {m : Message} {c : EventChange}
    (read : ofMessage m = .ok (some c)) : m.routingKey ∈ keys := by
  unfold ofMessage at read
  split at read
  · rename_i same
    simp [same, keys]
  · split at read
    · rename_i same
      simp [same, keys]
    · split at read
      · rename_i same
        simp [same, keys]
      · split at read
        · rename_i same
          simp [same, keys]
        · cases read

/-- A message that tells of a change is read as no other one. -/
theorem EventChange.Tells.eq_of_read {m : Message} {c : EventChange} {read : Option EventChange}
    (tells : Tells m c) (ok : ofMessage m = .ok read) : read = some c := by
  have restores := tells.restores
  rw [ok] at restores
  exact restores.eq_of_ok rfl

theorem EventChange.isRemoval_of_snapshot? {c : EventChange} {s : EventSnapshot}
    (brings : c.snapshot? = some s) : c.isRemoval = false := by
  cases c <;> first | rfl | cases brings

namespace Office

open Ledger (Ticket)

/-! ### What is told of a row -/

section Account

variable {id : EventId} {rows : List EventRow} {now : Option EventRow} {row row' : EventRow}
  {told : List EventChange} {c c' : EventChange}

theorem TellsOf.version (tells : TellsOf row c) : c.version = row.version := by
  cases tells <;> rfl

theorem TellsOf.snapshot {s : EventSnapshot} (tells : TellsOf row c) (brings : c.snapshot? = some s) :
    s = .ofRow row := by
  cases tells <;> cases brings <;> rfl

/-- The commit at a place has the version that counts the commits up to there. -/
theorem Account.version_getElem (account : Account id rows now told) {i : Nat}
    (bound : i < rows.length) : rows[i].version = 1 + i := by
  have at_ : (rows.map (·.version))[i]? = (List.range' 1 rows.length)[i]? := by
    rw [account.versions]
  rw [List.getElem?_map, List.getElem?_eq_getElem bound, List.getElem?_range' bound] at at_
  simpa using at_

/-- All that is told of an event, but its removal, has a place of its own in the history. -/
theorem Account.made (account : Account id rows now told) : ∃ made : List EventChange,
    List.Forall₂ TellsOf rows made ∧ ∀ c ∈ told, c.isRemoval = false → c ∈ made := by
  obtain ⟨made, tells, -, rfl⟩ := account.exact
  refine ⟨made, tells, fun c member news => ?_⟩
  rcases List.mem_append.mp member with early | late
  · exact early
  · cases now with
    | some row => cases late
    | none =>
        obtain ⟨last, -, rfl⟩ := Option.map_eq_some_iff.mp (Option.mem_toList.mp late)
        cases news

theorem Account.tells (account : Account id rows now told) (member : c ∈ told)
    (news : c.isRemoval = false) : ∃ row ∈ rows, TellsOf row c := by
  obtain ⟨made, tells, all⟩ := account.made
  obtain ⟨i, bound, rfl⟩ := List.mem_iff_getElem.mp (all c member news)
  have short : i < rows.length := tells.length_eq ▸ bound
  exact ⟨rows[i], List.getElem_mem short, tells.get short bound⟩

/-- Every commit is told. -/
theorem Account.isTold (account : Account id rows now told) (member : row ∈ rows) :
    ∃ c ∈ told, TellsOf row c := by
  obtain ⟨made, tells, -, rfl⟩ := account.exact
  obtain ⟨i, bound, rfl⟩ := List.mem_iff_getElem.mp member
  have short : i < made.length := tells.length_eq ▸ bound
  exact ⟨made[i], List.mem_append_left _ (List.getElem_mem short), tells.get bound short⟩

/-- No removal is told of a row that there is. -/
theorem Account.no_removal (account : Account id rows (some row) told) (member : c ∈ told) :
    c.isRemoval = false := by
  obtain ⟨made, -, news, rfl⟩ := account.exact
  rw [obituary, List.append_nil] at member
  exact news c member

/-- A version is told by one change. -/
theorem Account.change_eq (account : Account id rows now told) (member : c ∈ told)
    (member' : c' ∈ told) (news : c.isRemoval = false) (news' : c'.isRemoval = false)
    (same : c.version = c'.version) : c = c' := by
  obtain ⟨made, tells, all⟩ := account.made
  have version {i : Nat} (bound : i < made.length) : made[i].version = 1 + i := by
    have short : i < rows.length := tells.length_eq ▸ bound
    exact (tells.get short bound).version.trans (account.version_getElem short)
  obtain ⟨i, bound, rfl⟩ := List.mem_iff_getElem.mp (all c member news)
  obtain ⟨j, bound', rfl⟩ := List.mem_iff_getElem.mp (all c' member' news')
  rw [version, version] at same
  obtain rfl : i = j := Nat.add_left_cancel same
  rfl

/-- A version is that of one commit. -/
theorem Account.row_eq (account : Account id rows now told) (member : row ∈ rows)
    (member' : row' ∈ rows) (same : row.version = row'.version) : row = row' := by
  obtain ⟨i, bound, rfl⟩ := List.mem_iff_getElem.mp member
  obtain ⟨j, bound', rfl⟩ := List.mem_iff_getElem.mp member'
  rw [account.version_getElem, account.version_getElem] at same
  obtain rfl : i = j := Nat.add_left_cancel same
  rfl

end Account

/-! ### Snapshots that are made of changes -/

/-- A snapshot of an event that is made of changes: one of them brings it, and a later
one may have set the seats. -/
inductive Composed (told : List EventChange) (id : EventId) : EventSnapshot → Prop
  | brought {c : EventChange} {s : EventSnapshot} (member : c ∈ told)
      (brings : c.snapshot? = some s) (about : c.eventId = id) : Composed told id s
  | counted {c : EventChange} {s : EventSnapshot} {count : SeatCount} (member : c ∈ told)
      (brings : c.snapshot? = some s) (about : c.eventId = id)
      (counts : .seatsUpdated count ∈ told) (same : count.id = id)
      (later : s.version ≤ count.version) :
      Composed told id { s with availableSeats := count.availableSeats, version := count.version }

section Composed

variable {told told' : List EventChange} {id : EventId} {c : EventChange} {s : EventSnapshot}
  {t t' : Snapshot.EventTable}

theorem Composed.about (composed : Composed told id s) : s.id = id := by
  cases composed with
  | brought _ brings about => exact (EventChange.eventId_of_snapshot? brings).symm.trans about
  | counted _ brings about => exact (EventChange.eventId_of_snapshot? brings).symm.trans about

theorem Composed.mono (composed : Composed told id s) (more : ∀ c ∈ told, c ∈ told') :
    Composed told' id s := by
  cases composed with
  | brought member brings about => exact .brought (more _ member) brings about
  | counted member brings about counts same later =>
      exact .counted (more _ member) brings about (more _ counts) same later

/-- A snapshot that a change leaves is made of changes when the one before it was. -/
theorem Composed.stores {before : Option EventSnapshot} (stores : Snapshot.Stores before c s)
    (member : c ∈ told) (stored : ∀ s, before = some s → Composed told c.eventId s) :
    Composed told c.eventId s := by
  cases stores with
  | created => exact .brought member rfl rfl
  | inserted => exact .brought member rfl rfl
  | replaced => exact .brought member rfl rfl
  | counted newer =>
      cases stored _ rfl with
      | brought full brings about => exact .counted full brings about member rfl newer
      | @counted _ s _ full brings about _ _ later =>
          exact .counted (s := s) full brings about member rfl (Nat.le_trans later newer)

theorem composed_of_writes {result : Except Snapshot.HandlerError Snapshot.Handled}
    (writes : Snapshot.Writes t c (result, t')) (member : c ∈ told)
    (stored : ∀ row ∈ t.rows, Composed told row.1 row.2) :
    ∀ row ∈ t'.rows, Composed told row.1 row.2 := by
  intro row member'
  cases writes with
  | fails _ rows => exact stored row (rows ▸ member')
  | skips _ rows => exact stored row (rows ▸ member')
  | stores stores rows =>
      rw [rows] at member'
      rcases Keyed.mem_of_mem_put member' with rfl | old
      · exact .stores stores member fun s found => stored _ (Keyed.mem_of_get? found)
      · exact stored row old
  | erases _ rows =>
      rw [rows] at member'
      exact stored row (Keyed.mem_of_mem_erase member')

end Composed

/-- Nothing is owed, on its way or stored but what the commits have to tell. -/
structure Reflects (o : Office) (told : List EventChange) : Prop where
  owed : ∀ t c, o.owes t = some c → c ∈ told
  vouched : ∀ m ∈ o.wires.messages, ∀ c, EventChange.ofMessage m = .ok (some c) → c ∈ told
  stored : ∀ row ∈ o.events.rows, Composed told row.1 row.2

section Reflects

variable {o o' : Office} {m : Move} {told : List EventChange} {news : Option EventChange}

/-- An office without messages and snapshots reflects whatever there is. -/
theorem Reflects.opened (new : IsNew o) (idle : ∀ c ∈ o.consumers, c.stage = .subscribing) :
    Reflects o [] := by
  have silent (m : Message) : m ∉ o.wires.messages := by
    rw [mem_wires_messages]
    rintro (onBus | ⟨c, member, holds⟩)
    · cases new
      cases onBus
    · rw [idle c member] at holds
      cases holds
  refine ⟨fun t c owed => ?_, fun m member => absurd member (silent m), fun row member => ?_⟩
  · cases new
    cases owed
  · cases new
    cases member

/-- What is owed after a move was owed before, or is what the move has changed. -/
theorem Talks.owed {t : Ticket} {c : EventChange} (talks : Talks o m o' news)
    (owed : o'.owes t = some c) : o.owes t = some c ∨ news = some c := by
  cases talks with
  | rests _ owes =>
      rcases owes t with same | ⟨_, gone⟩
      · exact .inl (same ▸ owed)
      · cases gone.symm.trans owed
  | @commits u _ _ _ _ owes others =>
      by_cases own : t = u
      · subst own
        exact .inr (owes.symm.trans owed)
      · exact .inl (others t own ▸ owed)
  | hides _ _ _ _ owes => exact .inl (owes t ▸ owed)
  | @utters u _ _ _ done others =>
      by_cases own : t = u
      · subst own
        cases done.symm.trans owed
      · exact .inl (others t own ▸ owed)

theorem Reflects.move (reflects : Reflects o told) (talks : Talks o m o' news)
    (conveys : Conveys o o') : Reflects o' (told ++ news.toList) := by
  have more (c : EventChange) (member : c ∈ told) : c ∈ told ++ news.toList :=
    List.mem_append_left _ member
  constructor
  · intro t c owed
    rcases talks.owed owed with before | rfl
    · exact more c (reflects.owed t c before)
    · exact List.mem_append_right _ (List.mem_singleton_self c)
  · intro m member c read
    rcases conveys.messages m member (EventChange.routingKey_mem_of_read read) with
      ⟨m', there, repeats⟩ | ⟨t, c', owed, tells⟩
    · exact more c (reflects.vouched m' there c (repeats.ofMessage ▸ read))
    · cases tells.eq_of_read read
      exact more c (reflects.owed t c owed)
  · intro row member
    refine Composed.mono ?_ more
    rcases conveys.events with same | ⟨m, there, handled⟩
    · exact reflects.stored row (same ▸ member)
    · rcases Snapshot.handleEvent_cases o.events m with ⟨same, -⟩ | ⟨c, read, writes⟩
      · rw [handled, same] at member
        exact reflects.stored row member
      · rw [handled] at member
        exact composed_of_writes writes (reflects.vouched m there c read) reflects.stored row member

end Reflects

/-! ### Copies -/

/-- A snapshot is a copy of an event: its version and its seats are those of one commit,
and all else of it is that of a commit that was not later. -/
structure IsCopy (id : EventId) (rows : List EventRow) (s : EventSnapshot) : Prop where
  about : s.id = id
  /-- The row has reached this version, and had these seats when it did. -/
  commit : ∃ row ∈ rows, row.version = s.version ∧ row.availableSeats = s.availableSeats
  /-- No other commit has the version. -/
  sole : ∀ row ∈ rows, row.version = s.version → row.availableSeats = s.availableSeats
  last : ∃ row, rows.getLast? = some row ∧ s.version ≤ row.version
  publicId : ∀ row ∈ rows, row.publicId = s.publicId
  full : ∃ row ∈ rows, row.version ≤ s.version ∧
    s = { EventSnapshot.ofRow row with availableSeats := s.availableSeats, version := s.version }

section Copies

variable {id : EventId} {rows : List EventRow} {now : Option EventRow} {told : List EventChange}
  {s : EventSnapshot}

/-- The versions of a history rise to the last one. -/
theorem Account.le_last {row : EventRow} (account : Account id rows now told) (member : row ∈ rows) :
    ∃ last, rows.getLast? = some last ∧ row.version ≤ last.version := by
  obtain ⟨i, bound, rfl⟩ := List.mem_iff_getElem.mp member
  have some_ : rows ≠ [] := List.ne_nil_of_mem member
  refine ⟨rows.getLast some_, List.getLast?_eq_some_getLast some_, ?_⟩
  rw [List.getLast_eq_getElem, account.version_getElem, account.version_getElem]
  omega

/-- What is made of the changes that tell of a history is a copy. -/
theorem Account.isCopy (account : Account id rows now told) (composed : Composed told id s) :
    IsCopy id rows s := by
  have copy {full row : EventRow} (member : full ∈ rows) (member' : row ∈ rows)
      (later : full.version ≤ row.version)
      (made : s = { EventSnapshot.ofRow full with
        availableSeats := row.availableSeats, version := row.version }) : IsCopy id rows s := by
    subst made
    obtain ⟨about, publicId⟩ := account.same
    refine ⟨about full member, ⟨row, member', rfl, rfl⟩, fun other there same => ?_,
      account.le_last member', fun other there => publicId other there full member,
      full, member, later, rfl⟩
    rw [account.row_eq there member' same]
  cases composed with
  | brought member brings about =>
      have news := EventChange.isRemoval_of_snapshot? brings
      obtain ⟨row, there, tells⟩ := account.tells member news
      exact copy there there (Nat.le_refl _) (tells.snapshot brings)
  | counted member brings about counts same later =>
      have news := EventChange.isRemoval_of_snapshot? brings
      obtain ⟨row, there, tells⟩ := account.tells member news
      obtain ⟨row', there', tells'⟩ := account.tells counts rfl
      cases tells.snapshot brings
      cases tells' with
      | booked _ publicId => exact copy there there' later rfl

end Copies

/-- Changes of one event among those of a chronicle. -/
theorem Composed.filter {told : List EventChange} {id : EventId} {s : EventSnapshot}
    (composed : Composed told id s) : Composed (told.filter (·.eventId = id)) id s := by
  have kept {c : EventChange} (member : c ∈ told) (about : c.eventId = id) :
      c ∈ told.filter (·.eventId = id) :=
    List.mem_filter.mpr ⟨member, decide_eq_true about⟩
  cases composed with
  | brought member brings about => exact .brought (kept member about) brings about
  | counted member brings about counts same later =>
      exact .counted (kept member about) brings about (kept counts same) same later

/-- A run without forged messages reflects its commits. -/
theorem Run.reflects {first o : Office} {turns : List Turn} (run : Run first turns o)
    (new : IsNew first) (idle : ∀ c ∈ first.consumers, c.stage = .subscribing)
    (genuine : ∀ x ∈ turns, x.move.IsGenuine x.before) :
    ∃ told, Chronicle turns o told ∧ Reflects o told := by
  induction run with
  | start => exact ⟨[], .opened new, .opened new idle⟩
  | @next turns o o' m run moved ih =>
      obtain ⟨told, chronicle, reflects⟩ := ih fun x member =>
        genuine x (List.mem_append_left _ member)
      obtain ⟨news, talks⟩ := run.talks new moved
      have conveys := conveys_of_move talks
        (genuine _ (List.mem_append_right _ (List.mem_singleton_self _))) moved
      exact ⟨_, chronicle.move (run.isBacked new.isBacked).1.numbered talks,
        reflects.move talks conveys⟩

/-- Every snapshot of an event that is stored at any time is a copy of its commits so
far. -/
theorem Run.storesCopies {first o : Office} {turns : List Turn} (run : Run first turns o)
    (new : IsNew first) (idle : ∀ c ∈ first.consumers, c.stage = .subscribing)
    (genuine : ∀ x ∈ turns, x.move.IsGenuine x.before) {id : EventId} {s : EventSnapshot}
    (stored : (id, s) ∈ o.events.rows) : IsCopy id (history id turns) s := by
  obtain ⟨told, chronicle, reflects⟩ := run.reflects new idle genuine
  exact (chronicle.account id).isCopy (reflects.stored _ stored).filter

/-- Whether a turn is none from outside that may forge something. -/
def Turn.isHonest (x : Turn) : Bool :=
  match x.move with
  | .announce _ | .wire _ => false
  | .write events _ => events.rows = x.before.events.rows
  | _ => true

theorem isGenuine_of_isHonest {turns : List Turn} (honest : turns.all Turn.isHonest = true) :
    ∀ x ∈ turns, x.move.IsGenuine x.before := by
  intro x member
  have honest : x.isHonest = true := List.all_eq_true.mp honest x member
  unfold Turn.isHonest at honest
  unfold Move.IsGenuine
  split at honest <;> rename_i made <;> simp_all

/-- An office with one worker, and a consumer that keeps the snapshots of events. -/
def attended : Office :=
  opened .standard .epoch (.of 1 4) (.fixed .success)
    [.standard "event-snapshots" ⟨"events", "event-snapshots", [], none⟩ .events] none

theorem isNew_attended : IsNew attended := .opened (fun _ => .refl _) _ _ _ _ _

/-- A snapshot of the talk that is put on sale: its seats and its version. -/
def talkSnapshot (seats version : Nat) : EventSnapshot :=
  ⟨⟨1⟩, .ofNat 1, "Talk", .epoch, .epoch, seats, ⟨2500⟩, version⟩

/-- A talk is put on sale and given another title, up to when the consumer has that
message in hand. -/
def revising : List Move :=
  [.turn (.consumer 0), .ask (.register ⟨.ofNat 1, "Talk", .epoch, .epoch, 3, ⟨2500⟩⟩),
    .turn (.caller 0), .turn (.caller 0), .turn (.consumer 0), .turn (.consumer 0),
    .ask (.revise ⟨1⟩ ⟨"Lecture", .epoch, .epoch, 3, ⟨2500⟩⟩), .turn (.caller 1), .turn (.caller 1),
    .turn (.consumer 0)]

/-- While the message is handled two seats are booked. Then the snapshot cannot be
written, so that the message comes again after the one about the seats. -/
def overtaking : List Move :=
  revising ++ .write ⟨[(⟨1⟩, talkSnapshot 3 1)], 1⟩ ⟨[(⟨7⟩, ⟨⟨7⟩, .ofNat 2, 1⟩)], 0⟩ ::
    .ask (.create (.ofNat 1) (.ofNat 2) 2) ::
    (List.replicate 6 (.turn (.caller 2)) ++ List.replicate 5 (.turn (.consumer 0)))

theorem run_overtaking : Run attended (attended.play overtaking) (attended.played overtaking) := by
  have played := Run.start.play (show attended.canPlay overtaking = true by decide +kernel)
  rwa [List.nil_append] at played

theorem genuine_overtaking : ∀ x ∈ attended.play overtaking, x.move.IsGenuine x.before :=
  isGenuine_of_isHonest (by decide +kernel)

theorem storesCopies_overtaking :
    (∀ x ∈ attended.play overtaking, x.move.IsGenuine x.before) ∧
      ∃ s, (⟨1⟩, s) ∈ (attended.played overtaking).events.rows ∧ s.version = 3 ∧
        s.availableSeats = 1 ∧ IsCopy ⟨1⟩ (history ⟨1⟩ (attended.play overtaking)) s := by
  obtain ⟨s, rows, version, seats⟩ : ∃ s, (attended.played overtaking).events.rows = [(⟨1⟩, s)] ∧
      s.version = 3 ∧ s.availableSeats = 1 :=
    ⟨talkSnapshot 1 3, by decide +kernel, rfl, rfl⟩
  have stored : (⟨1⟩, s) ∈ (attended.played overtaking).events.rows :=
    rows ▸ List.mem_singleton_self _
  exact ⟨genuine_overtaking, s, stored, version, seats,
    run_overtaking.storesCopies isNew_attended (by decide) genuine_overtaking stored⟩

end Office

end BoxOffice
