import BoxOffice.Proofs.Snapshot.Deliveries

/-!
# Handling a message again

A message changes the row of its entity at most, and nothing at all unless it is
applied. Handling it once more changes nothing, be it at once or after other messages:
the version of a row does not fall while the row is there, and what is as new as the
message is what the message has left. So `redelivery_isHarmless` needs to know of the
time in between only that the entity was not removed, and that no other change of it
had the same version.
-/

namespace BoxOffice.Snapshot

/-! ### Edits that are made again -/

namespace Edit

variable {ι σ : Type} [Versioned σ ι] {e e' : Edit σ} {before : Option σ} {s : σ} {v : Nat}

/-- What an edit leaves is a snapshot of its entity. -/
theorem id_row {id : ι} (brought : ∀ s, e.snapshot? = some s → Versioned.id s = id)
    (stored : ∀ s, before = some s → Versioned.id s = id) (row : e.row before = some s) :
    Versioned.id s = id := by
  cases e with
  | insert new =>
      cases before with
      | none => exact brought s row
      | some old => exact stored s row
  | replace new =>
      cases before with
      | none => exact brought s row
      | some old =>
          rw [row_replace_some] at row
          split at row
          · exact stored s row
          · exact brought s row
  | adjust a =>
      cases before with
      | none => cases row
      | some old =>
          rw [row_adjust_some] at row
          split at row
          · cases row
            exact (a.id_apply old).trans (stored old rfl)
          · exact stored s row
  | remove =>
      rw [row_remove] at row
      cases row

/-- A snapshot is there that an edit with a version has nothing to change about. -/
def IsDone (e : Edit σ) (v : Nat) (row : Option σ) : Prop :=
  ∃ s, row = some s ∧ v ≤ Versioned.version s ∧ e.row (some s) = some s

theorem IsDone.row_eq {row : Option σ} (done : e.IsDone v row) : e.row row = row := by
  obtain ⟨s, rfl, -, same⟩ := done
  exact same

/-- An edit that changes something is done. -/
theorem isDone_of_outcome (version : e.version? = some v) {after : Option σ}
    (changes : e.outcome before = some after) : e.IsDone v (e.row before) := by
  have left : ∃ s, after = some s ∧ v ≤ Versioned.version s := by
    cases e with
    | insert new =>
        cases version
        cases before <;> cases changes
        exact ⟨new, rfl, Nat.le_refl _⟩
    | replace new =>
        cases version
        cases before with
        | none =>
            cases changes
            exact ⟨new, rfl, Nat.le_refl _⟩
        | some old =>
            rw [outcome] at changes
            split at changes <;> cases changes
            exact ⟨new, rfl, Nat.le_refl _⟩
    | adjust a =>
        cases version
        cases before with
        | none => cases changes
        | some old =>
            rw [outcome] at changes
            split at changes <;> cases changes
            exact ⟨a.apply old, rfl, Nat.le_of_eq (a.version_apply old).symm⟩
    | remove => cases version
  obtain ⟨s, rfl, new⟩ := left
  have row : e.row before = some s := by rw [Edit.row, changes, Option.getD_some]
  exact ⟨s, row, new, row ▸ e.row_row before⟩

/-- What is done stays done, whatever other versions come. -/
theorem IsDone.row {row : Option σ} (done : e.IsDone v row) (version : e.version? = some v)
    (keeps : e'.version? ≠ none) (sole : e'.version? = some v → e' = e) :
    e.IsDone v (e'.row row) := by
  obtain ⟨s, rfl, new, same⟩ := done
  rcases row_some keeps s with stays | ⟨s', row, version', rises⟩
  · exact ⟨s, stays, new, same⟩
  · refine ⟨s', row, Nat.le_trans new rises, ?_⟩
    rcases Nat.lt_or_eq_of_le (Nat.le_trans new rises) with newer | rfl
    · exact row_of_lt version newer
    · cases sole version'
      cases same.symm.trans row
      exact same

end Edit

namespace Domain

variable {κ ι σ : Type} [DecidableEq ι] [Versioned σ ι] (d : Domain κ σ)

/-! ### Rows under their own numbers -/

/-- Tables that come about by edits of single rows, some of which may be made to fail. -/
inductive Reachable : Table ι σ → Prop
  | empty : Reachable .empty
  | failNext {t : Table ι σ} (reached : Reachable t) (n : Nat) : Reachable (t.failNext n)
  | edited {t : Table ι σ} (reached : Reachable t) (c : κ) :
      Reachable (t.write ((d.edit c).write (d.entity c))).2

variable {d} {t : Table ι σ} {m : Message} {c : κ}

theorem Reachable.handle (reached : d.Reachable t) (m : Message) :
    d.Reachable (d.handle t m).2 := by
  cases read : d.change? m with
  | none => rwa [(d.handle_unread t (change?_eq_none.mp read)).2]
  | some c =>
      rw [d.handle_change t (change?_eq_some.mp read)]
      exact reached.edited c

/-- Each row is stored under the number of its entity. -/
theorem Reachable.id_eq (reached : d.Reachable t) :
    ∀ entry ∈ t.rows, Versioned.id entry.2 = entry.1 := by
  induction reached with
  | empty => simp [Table.empty]
  | failNext reached n ih => exact ih
  | @edited t reached c ih =>
      intro entry member
      rcases handled_write t ((d.edit c).write (d.entity c)) with ⟨-, -, same⟩ | ⟨-, written⟩
      · exact ih entry (same ▸ member)
      · have rows := congrArg (·.2.rows) written
        change (t.write ((d.edit c).write (d.entity c))).2.rows = _ at rows
        rw [rows] at member
        rcases Edit.mem_write member with old | ⟨about, row⟩
        · exact ih entry old
        · rw [about]
          exact Edit.id_row (d.id_edit c) (fun s found => ih _ (Keyed.mem_of_get? found)) row

/-! ### Messages that are applied -/

/-- A message that is applied is read as a change that its row has something to hear
of. -/
theorem outcome_of_applied (applied : (d.handle t m).1 = .ok .applied) :
    ∃ c after, d.read m = .ok (some c) ∧ t.failures = 0 ∧
      (d.edit c).outcome (t.get? (d.entity c)) = some after := by
  cases found : d.change? m with
  | none => exact absurd applied (d.handle_unread t (change?_eq_none.mp found)).1
  | some c =>
      have read := change?_eq_some.mp found
      by_cases calm : t.failures = 0
      · rw [d.handle_calm read calm, Edit.write] at applied
        cases changes : (d.edit c).outcome (t.get? (d.entity c)) with
        | some after => exact ⟨c, after, read, calm, changes⟩
        | none =>
            unfold Table.get? at changes
            rw [changes] at applied
            cases applied
      · obtain ⟨⟨e, fails⟩, -⟩ := d.handle_failing read calm
        cases fails.symm.trans applied

/-- A message that is not applied changes no row. -/
theorem rows_of_not_applied (t : Table ι σ) (m : Message)
    (other : (d.handle t m).1 ≠ .ok .applied) : (d.handle t m).2.rows = t.rows := by
  cases found : d.change? m with
  | none => rw [(d.handle_unread t (change?_eq_none.mp found)).2]
  | some c =>
      have read := change?_eq_some.mp found
      by_cases calm : t.failures = 0
      · rw [d.handle_calm read calm] at other ⊢
        refine Edit.rows_of_skipped ?_
        cases effect : ((d.edit c).write (d.entity c) t.rows).1 with
        | applied => exact absurd (by rw [effect]; rfl) other
        | skipped => rfl
      · exact (d.handle_failing read calm).2

/-- A change that its row has nothing to hear of changes no row. -/
theorem rows_of_row_eq (read : d.read m = .ok (some c))
    (same : (d.edit c).row (t.get? (d.entity c)) = t.get? (d.entity c)) :
    (d.handle t m).2.rows = t.rows := by
  by_cases calm : t.failures = 0
  · rw [d.handle_calm read calm]
    exact Edit.rows_of_row_eq same
  · exact (d.handle_failing read calm).2

/-- What is done stays done, as long as the entity is not removed and no other change of
it has the version. -/
theorem isDone_rowAfter {v : Nat} {cs : List κ} {row : Option σ}
    (done : (d.edit c).IsDone v row) (version : d.version? c = some v)
    (kept : ∀ c' ∈ cs, d.entity c' = d.entity c →
      d.version? c' ≠ none ∧ (d.version? c' = some v → c' = c)) :
    (d.edit c).IsDone v (d.rowAfter (d.entity c) row cs) := by
  induction cs generalizing row with
  | nil => exact done
  | cons c' cs ih =>
      refine ih ?_ fun c₀ member => kept c₀ (List.mem_cons_of_mem _ member)
      by_cases about : d.entity c' = d.entity c
      · obtain ⟨keeps, sole⟩ := kept c' List.mem_cons_self about
        rw [d.rowNext_of_entity _ about]
        exact done.row version keeps fun same => congrArg d.edit (sole same)
      · rwa [d.rowNext_of_ne _ about]

/-! ### Redelivery -/

variable (d) in
/-- Handling a message changes one row at most, and handling it again changes nothing. -/
structure IsHarmless : Prop where
  /-- What is skipped, ignored or fails changes no row. -/
  unchanged : ∀ t m, (d.handle t m).1 ≠ .ok .applied → (d.handle t m).2.rows = t.rows
  /-- What is applied changes no row but that of its entity. -/
  oneRow : ∀ t m, (d.handle t m).1 = .ok .applied → ∃ c, d.read m = .ok (some c) ∧
    ∀ id, id ≠ d.entity c → (d.handle t m).2.get? id = t.get? id
  own : ∀ t m, d.Reachable t → ∀ entry ∈ (d.handle t m).2.rows, Versioned.id entry.2 = entry.1
  /-- A message that is read like the last one changes no row. -/
  twice : ∀ t m m', t.failures = 0 → d.read m' = d.read m →
    (d.handle (d.handle t m).2 m').2.rows = (d.handle t m).2.rows
  /-- What was applied changes no row when it comes again, whatever messages came since
  then, unless one of them has removed the entity. -/
  late : ∀ t m m' c v xs, (d.handle t m).1 = .ok .applied → d.read m = .ok (some c) →
    d.read m' = d.read m → d.version? c = some v →
    (∀ c' ∈ d.changes (d.handle t m).2 xs, d.entity c' = d.entity c →
      d.version? c' ≠ none ∧ (d.version? c' = some v → c' = c)) →
    (d.handle (d.after (d.handle t m).2 xs) m').2.rows = (d.after (d.handle t m).2 xs).rows

theorem rows_twice (calm : t.failures = 0) (m : Message) :
    (d.handle (d.handle t m).2 m).2.rows = (d.handle t m).2.rows := by
  cases found : d.change? m with
  | none =>
      have unread := change?_eq_none.mp found
      rw [(d.handle_unread t unread).2, (d.handle_unread t unread).2]
  | some c =>
      have read := change?_eq_some.mp found
      refine rows_of_row_eq read ?_
      rw [get?_handle, if_pos calm, found]
      show (d.edit c).row (d.rowNext _ _ c) = d.rowNext _ _ c
      rw [d.rowNext_of_entity _ rfl, Edit.row_row]

theorem rows_late {v : Nat} {xs : List Occurrence} (applied : (d.handle t m).1 = .ok .applied)
    (read : d.read m = .ok (some c)) (version : d.version? c = some v)
    (kept : ∀ c' ∈ d.changes (d.handle t m).2 xs, d.entity c' = d.entity c →
      d.version? c' ≠ none ∧ (d.version? c' = some v → c' = c)) :
    (d.handle (d.after (d.handle t m).2 xs) m).2.rows = (d.after (d.handle t m).2 xs).rows := by
  obtain ⟨c', after, read', calm, changes⟩ := outcome_of_applied applied
  cases read.symm.trans read'
  have first : (d.edit c).IsDone v ((d.handle t m).2.get? (d.entity c)) := by
    rw [get?_handle, if_pos calm, change?_eq_some.mpr read]
    show (d.edit c).IsDone v (d.rowNext _ _ c)
    rw [d.rowNext_of_entity _ rfl]
    exact Edit.isDone_of_outcome version changes
  have still : (d.edit c).IsDone v ((d.after (d.handle t m).2 xs).get? (d.entity c)) := by
    rw [get?_after]
    exact isDone_rowAfter first version kept
  exact rows_of_row_eq read still.row_eq

theorem isHarmless (d : Domain κ σ) : d.IsHarmless where
  unchanged := rows_of_not_applied
  oneRow t m applied := by
    obtain ⟨c, after, read, calm, -⟩ := outcome_of_applied applied
    refine ⟨c, read, ?_⟩
    intro id other
    rw [get?_handle, if_pos calm, change?_eq_some.mpr read]
    exact d.rowNext_of_ne _ other.symm
  own t m reached := (reached.handle m).id_eq
  twice t m m' calm again := by
    rw [d.handle_congr _ again]
    exact rows_twice calm m
  late t m m' c v xs applied read again version kept := by
    rw [d.handle_congr _ again]
    exact rows_late applied read version kept

end Domain

/-- Messages about events and users may be handed in again: nothing but what is applied
changes a row, that of its entity, and what was applied changes none any more. -/
theorem redelivery_isHarmless : events.IsHarmless ∧ users.IsHarmless :=
  ⟨events.isHarmless, users.isHarmless⟩

/-- A recital with seats and a version. -/
def recital (seats version : Nat) : EventSnapshot :=
  ⟨⟨4⟩, .ofNat 4, "Recital", .epoch, .epoch, seats, ⟨1200⟩, version⟩

/-- Its first snapshot is stored. -/
def recitalTable : EventTable := ⟨[(⟨4⟩, recital 9 1)], 0⟩

/-- Its seats at the second version. -/
def recitalCount : EventChange := .seatsUpdated ⟨⟨4⟩, .ofNat 4, 7, 2⟩

/-- It is revised, and removed by a message whose write fails. -/
def recitalPost : List Occurrence :=
  [.delivery ((EventChange.updated (recital 5 3)).toMessage "m3"), .failNext 1,
    .delivery ((EventChange.deleted ⟨⟨4⟩, .ofNat 4, 3⟩).toMessage "m4")]

/-- The count that was applied is of no account when it comes again. -/
theorem redelivery_isHarmless_recital :
    (events.handle recitalTable (recitalCount.toMessage "m2")).1 = .ok .applied ∧
      (events.after recitalTable (.delivery (recitalCount.toMessage "m2") :: recitalPost ++
        [.delivery (recitalCount.toMessage "m2").redelivered])).rows =
        [(⟨4⟩, recital 5 3)] := by
  have read : events.read (recitalCount.toMessage "m2") = .ok (some recitalCount) :=
    Domain.change?_eq_some.mp (by decide +kernel)
  have applied : (events.handle recitalTable (recitalCount.toMessage "m2")).1 = .ok .applied := by
    rw [events.handle_calm read rfl]
    rfl
  have changes : events.changes (events.handle recitalTable (recitalCount.toMessage "m2")).2
      recitalPost = [.updated (recital 5 3)] := by
    decide +kernel
  have rows : (events.after (events.handle recitalTable (recitalCount.toMessage "m2")).2
      recitalPost).rows = [(⟨4⟩, recital 5 3)] := by
    decide +kernel
  refine ⟨applied, ?_⟩
  rw [List.cons_append, Domain.after, List.foldl_cons, List.foldl_append]
  refine (redelivery_isHarmless.1.late _ _ (recitalCount.toMessage "m2").redelivered _ 2 recitalPost
    applied read rfl rfl ?_).trans rows
  rw [changes]
  decide

end BoxOffice.Snapshot
