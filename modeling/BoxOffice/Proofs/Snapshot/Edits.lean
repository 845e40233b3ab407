import BoxOffice.Snapshot.Handler

/-!
# Edits of snapshots

Events and users are kept in tables of their own, and their changes do the same few
things to a snapshot: they bring one, replace it, adjust some of its fields or take
it away. `Edit` names these, and `Edit.outcome` says what comes of one by the
snapshot that is there. A `Domain` is a kind of entity with the handler of its
messages; handling one is an edit of one row, or nothing at all.
-/

namespace BoxOffice

namespace Snapshot

/-! ### Edits -/

/-- What sets some of the fields of a snapshot, its version among them, and keeps the
rest. -/
structure Adjustment (σ : Type) {ι : Type} [Versioned σ ι] where
  version : Nat
  apply : σ → σ
  version_apply : ∀ s, Versioned.version (apply s) = version
  id_apply : ∀ s, Versioned.id (apply s) = Versioned.id s
  apply_apply : ∀ s, apply (apply s) = apply s

/-- What a change does to the snapshot of its entity. -/
inductive Edit (σ : Type) {ι : Type} [Versioned σ ι]
  /-- A snapshot for an entity that has none. -/
  | insert (s : σ)
  /-- A snapshot in place of one that is not newer, or of none. -/
  | replace (s : σ)
  /-- Some fields of a snapshot that is not newer. -/
  | adjust (a : Adjustment σ)
  | remove

namespace Edit

variable {ι σ : Type} [Versioned σ ι] {e : Edit σ} {before : Option σ} {stored s : σ}

/-- The snapshot that an edit brings with it. -/
def snapshot? : Edit σ → Option σ
  | insert s | replace s => some s
  | _ => none

/-- The version that an edit has; a removal is for any version. -/
def version? : Edit σ → Option Nat
  | insert s | replace s => some (Versioned.version s)
  | adjust a => some a.version
  | remove => none

/-- What an edit has to say to the snapshot that is there: nothing, or the snapshot
that there is afterwards, if any. -/
def outcome : Edit σ → Option σ → Option (Option σ)
  | insert s, none => some (some s)
  | insert _, some _ => none
  | replace s, none => some (some s)
  | replace s, some stored =>
    if Versioned.version s < Versioned.version stored then none else some (some s)
  | adjust _, none => none
  | adjust a, some stored =>
    if Versioned.version stored ≤ a.version then some (some (a.apply stored)) else none
  | remove, none => none
  | remove, some _ => some none

/-- The snapshot after an edit. -/
def row (e : Edit σ) (before : Option σ) : Option σ := (e.outcome before).getD before

theorem eq_of_snapshot? (brings : e.snapshot? = some s) : e = insert s ∨ e = replace s := by
  cases e with
  | insert new =>
      cases brings
      exact .inl rfl
  | replace new =>
      cases brings
      exact .inr rfl
  | adjust a => cases brings
  | remove => cases brings

theorem row_replace_some (s stored : σ) : (replace s).row (some stored) =
    if Versioned.version s < Versioned.version stored then some stored else some s := by
  by_cases older : Versioned.version s < Versioned.version stored <;> simp [row, outcome, older]

theorem row_adjust_some (a : Adjustment σ) (stored : σ) : (adjust a).row (some stored) =
    if Versioned.version stored ≤ a.version then some (a.apply stored) else some stored := by
  by_cases newer : Versioned.version stored ≤ a.version <;> simp [row, outcome, newer]

@[simp]
theorem row_remove (before : Option σ) : remove.row before = none := by
  cases before <;> rfl

/-- What an edit that is no removal makes of a snapshot: it stays, or it comes to have
the version of the edit. -/
theorem row_some (keeps : e.version? ≠ none) (stored : σ) :
    e.row (some stored) = some stored ∨
      ∃ s, e.row (some stored) = some s ∧ e.version? = some (Versioned.version s) ∧
        Versioned.version stored ≤ Versioned.version s := by
  cases e with
  | insert s => exact .inl rfl
  | replace s =>
      rw [row_replace_some]
      split
      · exact .inl rfl
      · rename_i newer
        exact .inr ⟨s, rfl, rfl, Nat.le_of_not_lt newer⟩
  | adjust a =>
      rw [row_adjust_some]
      split
      · rename_i newer
        refine .inr ⟨a.apply stored, rfl, ?_, ?_⟩
        · rw [a.version_apply]
          rfl
        · rw [a.version_apply]
          exact newer
      · exact .inl rfl
  | remove => exact absurd rfl keeps

/-- There is a snapshot after an edit that is no removal if there was one before, or the
edit brings one. -/
theorem isSome_row (keeps : e.version? ≠ none) (before : Option σ) :
    (e.row before).isSome = (before.isSome || e.snapshot?.isSome) := by
  cases before with
  | none => cases e <;> rfl
  | some stored =>
      rcases row_some keeps stored with row | ⟨s, row, -⟩ <;> rw [row] <;> rfl

/-- An edit made twice is made once. -/
theorem row_row (e : Edit σ) (before : Option σ) : e.row (e.row before) = e.row before := by
  cases e with
  | insert s => cases before <;> rfl
  | replace s =>
      have again : (replace s).row (some s) = some s := by
        rw [row_replace_some, if_neg (Nat.lt_irrefl _)]
      cases before with
      | none => exact again
      | some stored =>
          rw [row_replace_some]
          split
          · rename_i older
            rw [row_replace_some, if_pos older]
          · exact again
  | adjust a =>
      cases before with
      | none => rfl
      | some stored =>
          rw [row_adjust_some]
          split
          · rw [row_adjust_some, a.version_apply, if_pos (Nat.le_refl _), a.apply_apply]
          · rename_i older
            rw [row_adjust_some, if_neg older]
  | remove => rw [row_remove, row_remove]

/-- A snapshot that is newer than an edit stays. -/
theorem row_of_lt {v : Nat} (version : e.version? = some v) (older : v < Versioned.version stored) :
    e.row (some stored) = some stored := by
  cases e with
  | insert s => rfl
  | replace s =>
      cases version
      rw [row_replace_some, if_pos older]
  | adjust a =>
      cases version
      rw [row_adjust_some, if_neg (Nat.not_le_of_lt older)]
  | remove => cases version

/-! ### Writes of edits -/

variable [DecidableEq ι]

/-- An edit of the row of an entity, with its effect. -/
def write (e : Edit σ) (id : ι) (rows : List (ι × σ)) : Effect × List (ι × σ) :=
  match e.outcome (Keyed.get? id rows) with
  | none => (.skipped, rows)
  | some none => (.applied, Keyed.erase id rows)
  | some (some s) => (.applied, Keyed.put id s rows)

variable {id : ι} {rows : List (ι × σ)}

theorem rows_of_skipped (skipped : (e.write id rows).1 = .skipped) :
    (e.write id rows).2 = rows := by
  unfold write at skipped ⊢
  split at skipped
  · rfl
  · cases skipped
  · cases skipped

/-- An edit changes no other row, and makes of its own what `row` says. -/
theorem get?_write (e : Edit σ) (id id' : ι) (rows : List (ι × σ)) :
    Keyed.get? id' (e.write id rows).2 =
      if id' = id then e.row (Keyed.get? id rows) else Keyed.get? id' rows := by
  unfold write row
  cases e.outcome (Keyed.get? id rows) with
  | none =>
      show Keyed.get? id' rows = if id' = id then Keyed.get? id rows else Keyed.get? id' rows
      split
      · rename_i own
        rw [own]
      · rfl
  | some after =>
      rw [Option.getD_some]
      cases after with
      | none => exact Keyed.get?_erase id id' rows
      | some s => exact Keyed.get?_put id id' s rows

/-- An edit that leaves its row alone leaves all rows alone. -/
theorem rows_of_row_eq (same : e.row (Keyed.get? id rows) = Keyed.get? id rows) :
    (e.write id rows).2 = rows := by
  unfold write
  unfold row at same
  cases found : e.outcome (Keyed.get? id rows) with
  | none => rfl
  | some after =>
      rw [found, Option.getD_some] at same
      cases after with
      | some s => exact Keyed.put_of_get? same.symm
      | none =>
          -- Nothing is taken away where nothing is.
          rw [← same] at found
          cases e <;> cases found

/-- Every snapshot that is stored after an edit is the one that was stored under its
number, or what the edit makes. -/
theorem mem_write {entry : ι × σ} (member : entry ∈ (e.write id rows).2) :
    entry ∈ rows ∨ entry.1 = id ∧ e.row (Keyed.get? id rows) = some entry.2 := by
  unfold write at member
  unfold row
  cases found : e.outcome (Keyed.get? id rows) with
  | none =>
      rw [found] at member
      exact .inl member
  | some after =>
      rw [found] at member
      cases after with
      | none => exact .inl (Keyed.mem_of_mem_erase member)
      | some s =>
          rcases Keyed.mem_of_mem_put member with rfl | old
          · exact .inr ⟨rfl, rfl⟩
          · exact .inl old

end Edit

/-! ### Domains -/

/-- What comes of a write. -/
theorem handled_write {ι σ : Type} (t : Table ι σ)
    (change : List (ι × σ) → Effect × List (ι × σ)) :
    (t.failures ≠ 0 ∧ (∃ e, (handled (t.write change)).1 = .error e) ∧
        (handled (t.write change)).2.rows = t.rows) ∨
      t.failures = 0 ∧
        handled (t.write change) = (.ok (.ofEffect (change t.rows).1), ⟨(change t.rows).2, 0⟩) := by
  unfold Table.write
  cases failures : t.failures with
  | zero => exact .inr ⟨rfl, by simp [handled]⟩
  | succ n => exact .inl ⟨Nat.succ_ne_zero n, ⟨_, rfl⟩, rfl⟩

/-- A kind of entity of which snapshots are kept, with the handler of the messages
about it. Handling a message that is read as a change is the edit of one row. -/
structure Domain (κ : Type) {ι : Type} (σ : Type) [DecidableEq ι] [Versioned σ ι] where
  read : Message → Except Change.Error (Option κ)
  handle : Table ι σ → Message → Except HandlerError Handled × Table ι σ
  /-- The entity that a change is about. -/
  entity : κ → ι
  edit : κ → Edit σ
  handle_malformed : ∀ t {m e}, read m = .error e → handle t m = (.error (.malformed e), t)
  handle_ignored : ∀ t {m}, read m = .ok none → handle t m = (.ok .ignored, t)
  handle_change : ∀ t {m c}, read m = .ok (some c) →
    handle t m = handled (t.write ((edit c).write (entity c)))
  /-- The snapshot that a change brings is one of the entity that it is about. -/
  id_edit : ∀ c s, (edit c).snapshot? = some s → Versioned.id s = entity c

end Snapshot

/-- A count of seats sets the seats and the version. -/
def SeatCount.adjustment (c : SeatCount) : Snapshot.Adjustment EventSnapshot where
  version := c.version
  apply s := { s with availableSeats := c.availableSeats, version := c.version }
  version_apply _ := rfl
  id_apply _ := rfl
  apply_apply _ := rfl

/-- What a change does to the snapshot of its event. -/
def EventChange.edit : EventChange → Snapshot.Edit EventSnapshot
  | .created s => .insert s
  | .updated s => .replace s
  | .seatsUpdated c => .adjust c.adjustment
  | .deleted _ => .remove

/-- What a change does to the snapshot of its user. -/
def UserChange.edit : UserChange → Snapshot.Edit UserSnapshot
  | .created s => .insert s
  | .updated s => .replace s
  | .deleted _ => .remove

namespace Snapshot

section Tables

variable {ι σ : Type} [DecidableEq ι] [Versioned σ ι] (t : Table ι σ)

theorem insert_eq (s : σ) : t.insert s = t.write ((Edit.insert s).write (Versioned.id s)) := by
  refine congrArg t.write (funext ?_)
  intro rows
  unfold Edit.write
  cases Keyed.get? (Versioned.id s) rows <;> rfl

theorem upsert_eq (s : σ) : t.upsert s = t.write ((Edit.replace s).write (Versioned.id s)) := by
  refine congrArg t.write (funext ?_)
  intro rows
  unfold Edit.write Edit.outcome
  cases Keyed.get? (Versioned.id s) rows with
  | none => rfl
  | some stored =>
      by_cases older : Versioned.version s < Versioned.version stored <;> simp [older]

theorem delete_eq (id : ι) : t.delete id = t.write ((Edit.remove (σ := σ)).write id) := by
  refine congrArg t.write (funext ?_)
  intro rows
  unfold Edit.write
  cases Keyed.get? id rows <;> rfl

end Tables

theorem updateSeats_eq (t : EventTable) (c : SeatCount) :
    t.updateSeats c.id c.availableSeats c.version =
      t.write ((Edit.adjust c.adjustment).write c.id) := by
  refine congrArg t.write (funext ?_)
  intro rows
  unfold Edit.write Edit.outcome
  cases Keyed.get? c.id rows with
  | none => rfl
  | some stored =>
      by_cases newer : stored.version ≤ c.version <;>
        simp [Versioned.version, SeatCount.adjustment, newer]

theorem applyEventChange_eq (t : EventTable) (c : EventChange) :
    applyEventChange t c = handled (t.write (c.edit.write c.eventId)) := by
  cases c with
  | created s => exact congrArg handled (insert_eq t s)
  | updated s => exact congrArg handled (upsert_eq t s)
  | seatsUpdated c => exact congrArg handled (updateSeats_eq t c)
  | deleted r => exact congrArg handled (delete_eq t r.id)

theorem applyUserChange_eq (t : UserTable) (c : UserChange) :
    applyUserChange t c = handled (t.write (c.edit.write c.userId)) := by
  cases c with
  | created s => exact congrArg handled (insert_eq t s)
  | updated s => exact congrArg handled (upsert_eq t s)
  | deleted r => exact congrArg handled (delete_eq t r.id)

/-- Snapshots of events. -/
def events : Domain EventChange EventSnapshot where
  read := EventChange.ofMessage
  handle := handleEvent
  entity := EventChange.eventId
  edit := EventChange.edit
  handle_malformed t m e read := by rw [handleEvent, read]
  handle_ignored t m read := by rw [handleEvent, read]
  handle_change t m c read := by
    rw [handleEvent, read]
    exact applyEventChange_eq t c
  id_edit c s brings := by cases c <;> cases brings <;> rfl

/-- Snapshots of users. -/
def users : Domain UserChange UserSnapshot where
  read := UserChange.ofMessage
  handle := handleUser
  entity := UserChange.userId
  edit := UserChange.edit
  handle_malformed t m e read := by rw [handleUser, read]
  handle_ignored t m read := by rw [handleUser, read]
  handle_change t m c read := by
    rw [handleUser, read]
    exact applyUserChange_eq t c
  id_edit c s brings := by cases c <;> cases brings <;> rfl

namespace Domain

variable {κ ι σ : Type} [DecidableEq ι] [Versioned σ ι] (d : Domain κ σ) {t : Table ι σ}
  {m : Message} {c : κ}

/-- The snapshot that a change brings with it. -/
def snapshot? (c : κ) : Option σ := (d.edit c).snapshot?

/-- The version of a change that is no removal. -/
def version? (c : κ) : Option Nat := (d.edit c).version?

/-- A message that does not come to be a change leaves the table as it is. -/
theorem handle_unread (t : Table ι σ) (unread : ∀ c, d.read m ≠ .ok (some c)) :
    (d.handle t m).1 ≠ .ok .applied ∧ (d.handle t m).2 = t := by
  cases read : d.read m with
  | error e => simp [d.handle_malformed t read]
  | ok change =>
      cases change with
      | none => simp [d.handle_ignored t read]
      | some c => exact absurd read (unread c)

/-- What becomes of a message is told by what it is read as. -/
theorem handle_congr {m' : Message} (t : Table ι σ) (same : d.read m = d.read m') :
    d.handle t m = d.handle t m' := by
  cases read : d.read m' with
  | error e => rw [d.handle_malformed t read, d.handle_malformed t (same.trans read)]
  | ok change =>
      cases change with
      | none => rw [d.handle_ignored t read, d.handle_ignored t (same.trans read)]
      | some c => rw [d.handle_change t read, d.handle_change t (same.trans read)]

/-- What becomes of the rows when a change is handled and its write does not fail. -/
theorem handle_calm (read : d.read m = .ok (some c)) (calm : t.failures = 0) :
    d.handle t m = (.ok (.ofEffect ((d.edit c).write (d.entity c) t.rows).1),
      ⟨((d.edit c).write (d.entity c) t.rows).2, 0⟩) := by
  rw [d.handle_change t read]
  rcases handled_write t ((d.edit c).write (d.entity c)) with ⟨failing, -⟩ | ⟨-, written⟩
  · exact absurd calm failing
  · exact written

/-- A write that fails leaves the rows as they are. -/
theorem handle_failing (read : d.read m = .ok (some c)) (failing : t.failures ≠ 0) :
    (∃ e, (d.handle t m).1 = .error e) ∧ (d.handle t m).2.rows = t.rows := by
  rw [d.handle_change t read]
  rcases handled_write t ((d.edit c).write (d.entity c)) with ⟨-, fails⟩ | ⟨calm, -⟩
  · exact fails
  · exact absurd calm failing

end Domain

end Snapshot

end BoxOffice
