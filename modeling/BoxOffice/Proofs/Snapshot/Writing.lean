import BoxOffice.Proofs.Change.Decoding
import BoxOffice.Proofs.Snapshot.Edits

/-!
# What a message does to the snapshots

A change that is handled fails, is skipped, stores a snapshot or takes one away.
`Stores` and `Skips` say when, by the snapshot that is there: the newer version
stays, a count of seats keeps all else of the snapshot, and nothing is stored for
a count of seats alone.
-/

namespace BoxOffice

/-- The snapshot that a change brings with it. -/
def EventChange.snapshot? : EventChange → Option EventSnapshot
  | .created s | .updated s => some s
  | _ => none

/-- The version that a change tells of. -/
def EventChange.version : EventChange → Nat
  | .created s | .updated s => s.version
  | .deleted r => r.version
  | .seatsUpdated c => c.version

theorem EventChange.eventId_of_snapshot? {c : EventChange} {s : EventSnapshot}
    (brings : c.snapshot? = some s) : c.eventId = s.id := by
  cases c <;> cases brings <;> rfl

theorem EventChange.version_of_snapshot? {c : EventChange} {s : EventSnapshot}
    (brings : c.snapshot? = some s) : c.version = s.version := by
  cases c <;> cases brings <;> rfl

namespace Snapshot

/-- The snapshot that a change leaves in the place of the one that is there. -/
inductive Stores : Option EventSnapshot → EventChange → EventSnapshot → Prop
  | created (s : EventSnapshot) : Stores none (.created s) s
  | inserted (s : EventSnapshot) : Stores none (.updated s) s
  | replaced {stored s : EventSnapshot} (newer : stored.version ≤ s.version) :
      Stores (some stored) (.updated s) s
  | counted {stored : EventSnapshot} {c : SeatCount} (newer : stored.version ≤ c.version) :
      Stores (some stored) (.seatsUpdated c)
        { stored with availableSeats := c.availableSeats, version := c.version }

/-- A change has nothing to say where this snapshot is. -/
inductive Skips : Option EventSnapshot → EventChange → Prop
  | present (stored s : EventSnapshot) : Skips (some stored) (.created s)
  | older {stored s : EventSnapshot} (newer : s.version < stored.version) :
      Skips (some stored) (.updated s)
  | olderCount {stored : EventSnapshot} {c : SeatCount} (newer : c.version < stored.version) :
      Skips (some stored) (.seatsUpdated c)
  | unknown (c : SeatCount) : Skips none (.seatsUpdated c)
  | gone (r : Removed EventId) : Skips none (.deleted r)

/-- What comes of a change, and what it makes of the snapshots. -/
inductive Writes (t : EventTable) (c : EventChange) :
    Except HandlerError Handled × EventTable → Prop
  | fails (e : HandlerError) {t' : EventTable} (rows : t'.rows = t.rows) : Writes t c (.error e, t')
  | skips {t' : EventTable} (cause : Skips (t.get? c.eventId) c) (rows : t'.rows = t.rows) :
      Writes t c (.ok .skipped, t')
  | stores {s : EventSnapshot} {t' : EventTable} (stores : Stores (t.get? c.eventId) c s)
      (rows : t'.rows = Keyed.put c.eventId s t.rows) : Writes t c (.ok .applied, t')
  | erases {r : Removed EventId} {t' : EventTable} (removal : c = .deleted r)
      (rows : t'.rows = Keyed.erase c.eventId t.rows) : Writes t c (.ok .applied, t')

/-- What becomes of the snapshot of an event. -/
theorem Writes.get? {t t' : EventTable} {c : EventChange} {result : Except HandlerError Handled}
    (writes : Writes t c (result, t')) (id : EventId) :
    t'.get? id = t.get? id ∨ (∃ r, c = .deleted r ∧ r.id = id) ∨
      c.eventId = id ∧ ∃ s, Stores (t.get? id) c s ∧ t'.get? id = some s := by
  cases writes with
  | fails _ rows => exact .inl (by rw [Table.get?, rows, Table.get?])
  | skips _ rows => exact .inl (by rw [Table.get?, rows, Table.get?])
  | @stores s _ stores rows =>
      by_cases own : id = c.eventId
      · subst own
        exact .inr (.inr ⟨rfl, s, stores, by rw [Table.get?, rows, Keyed.get?_put_self]⟩)
      · exact .inl (by rw [Table.get?, rows, Keyed.get?_put_of_ne own, Table.get?])
  | @erases r _ removal rows =>
      subst removal
      by_cases own : id = r.id
      · exact .inr (.inl ⟨r, rfl, own.symm⟩)
      · refine .inl ?_
        rw [Table.get?, rows, Keyed.get?_erase]
        exact if_neg own

/-- What the edit of a change comes to by the snapshot that is there. -/
theorem outcome_cases (c : EventChange) (before : Option EventSnapshot) :
    match c.edit.outcome before with
    | none => Skips before c
    | some none => ∃ r, c = .deleted r
    | some (some s) => Stores before c s := by
  cases c with
  | created s =>
      cases before with
      | none => exact .created s
      | some stored => exact .present stored s
  | updated s =>
      cases before with
      | none => exact .inserted s
      | some stored =>
          by_cases older : s.version < stored.version
          · have skips : (Edit.replace s).outcome (some stored) = none := if_pos older
            rw [EventChange.edit, skips]
            exact .older older
          · have stores : (Edit.replace s).outcome (some stored) = some (some s) := if_neg older
            rw [EventChange.edit, stores]
            exact .replaced (Nat.le_of_not_lt older)
  | seatsUpdated c =>
      cases before with
      | none => exact .unknown c
      | some stored =>
          by_cases newer : stored.version ≤ c.version
          · have stores : (Edit.adjust c.adjustment).outcome (some stored) =
                some (some (c.adjustment.apply stored)) := if_pos newer
            rw [EventChange.edit, stores]
            exact .counted newer
          · have skips : (Edit.adjust c.adjustment).outcome (some stored) = none := if_neg newer
            rw [EventChange.edit, skips]
            exact .olderCount (Nat.lt_of_not_le newer)
  | deleted r =>
      cases before with
      | none => exact .gone r
      | some stored => exact ⟨r, rfl⟩

theorem writes_applyEventChange (t : EventTable) (c : EventChange) :
    Writes t c (applyEventChange t c) := by
  rw [applyEventChange_eq]
  rcases handled_write t (c.edit.write c.eventId) with ⟨-, ⟨e, fails⟩, rows⟩ | ⟨-, written⟩
  · have result : handled (t.write (c.edit.write c.eventId)) = (.error e, _) := Prod.ext fails rfl
    rw [result]
    exact .fails e rows
  · rw [written, Edit.write]
    have cases_ := outcome_cases c (t.get? c.eventId)
    unfold Table.get? at cases_
    split <;> rename_i outcome <;> rw [outcome] at cases_
    · exact .skips cases_ rfl
    · obtain ⟨r, removal⟩ := cases_
      exact .erases removal rfl
    · exact .stores cases_ rfl

/-- A message is nothing to the snapshots, or it is read as a change and has the
effect of that. -/
theorem handleEvent_cases (t : EventTable) (m : Message) :
    ((handleEvent t m).2 = t ∧ (∀ handled, (handleEvent t m).1 = .ok handled →
      EventChange.ofMessage m = .ok none)) ∨
    ∃ c, EventChange.ofMessage m = .ok (some c) ∧ Writes t c (handleEvent t m) := by
  unfold handleEvent
  cases read : EventChange.ofMessage m with
  | error e => exact .inl ⟨rfl, fun handled done => by cases done⟩
  | ok change =>
      cases change with
      | none => exact .inl ⟨rfl, fun _ _ => rfl⟩
      | some c => exact .inr ⟨c, rfl, writes_applyEventChange t c⟩

end Snapshot

end BoxOffice
