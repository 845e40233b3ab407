import BoxOffice.Proofs.Snapshot.Edits

/-!
# Deliveries to a table

A table of snapshots is handed messages, one after another, and some of its writes
may be made to fail. `Domain.changes` are the changes that come to the table: those of
the messages that are handled while no write has to fail. They alone decide about
the rows. `get?_after` says so of every row: it is what the changes of its entity
make of it, one after another.
-/

namespace BoxOffice.Snapshot

/-- What may happen to a table of snapshots. -/
inductive Occurrence
  /-- A message is handled. -/
  | delivery (m : Message)
  /-- A number of coming writes is made to fail. -/
  | failNext (n : Nat)
  deriving DecidableEq, Repr

namespace Domain

variable {κ ι σ : Type} [DecidableEq ι] [Versioned σ ι] (d : Domain κ σ)

/-- A table after one thing that happens to it. -/
def next (t : Table ι σ) : Occurrence → Table ι σ
  | .delivery m => (d.handle t m).2
  | .failNext n => t.failNext n

/-- A table after all that happens to it. -/
def after (t : Table ι σ) (xs : List Occurrence) : Table ι σ := xs.foldl d.next t

/-- The change that a message is read as. -/
def change? (m : Message) : Option κ :=
  match d.read m with
  | .ok change => change
  | .error _ => none

/-- The changes that come to a table, in order. A message whose write fails brings
none. -/
def changes (t : Table ι σ) : List Occurrence → List κ
  | [] => []
  | .delivery m :: xs =>
    (if t.failures = 0 then (d.change? m).toList else []) ++ changes (d.handle t m).2 xs
  | .failNext n :: xs => changes (t.failNext n) xs

/-- The snapshot of an entity after a change of any one. -/
def rowNext (id : ι) (before : Option σ) (c : κ) : Option σ :=
  if d.entity c = id then (d.edit c).row before else before

/-- The snapshot of an entity after changes, in order. -/
def rowAfter (id : ι) (before : Option σ) (cs : List κ) : Option σ := cs.foldl (d.rowNext id) before

variable {d} {t : Table ι σ} {m : Message} {c : κ} {id : ι}

theorem change?_eq_some : d.change? m = some c ↔ d.read m = .ok (some c) := by
  unfold change?
  split
  · rename_i change read
    rw [read]
    exact ⟨congrArg Except.ok, Except.ok.inj⟩
  · rename_i e read
    rw [read]
    simp

theorem change?_eq_none : d.change? m = none ↔ ∀ c, d.read m ≠ .ok (some c) := by
  simp only [Option.eq_none_iff_forall_ne_some, ne_eq, change?_eq_some]

variable (d)

theorem after_append (t : Table ι σ) (xs ys : List Occurrence) :
    d.after t (xs ++ ys) = d.after (d.after t xs) ys :=
  List.foldl_append

theorem changes_append (t : Table ι σ) (xs ys : List Occurrence) :
    d.changes t (xs ++ ys) = d.changes t xs ++ d.changes (d.after t xs) ys := by
  induction xs generalizing t with
  | nil => rfl
  | cons x xs ih =>
      cases x with
      | delivery m =>
          rw [List.cons_append, changes, ih, changes, List.append_assoc]
          rfl
      | failNext n => exact ih (t.failNext n)

theorem rowAfter_append (id : ι) (before : Option σ) (cs cs' : List κ) :
    d.rowAfter id before (cs ++ cs') = d.rowAfter id (d.rowAfter id before cs) cs' :=
  List.foldl_append

theorem rowAfter_concat (id : ι) (before : Option σ) (cs : List κ) (c : κ) :
    d.rowAfter id before (cs ++ [c]) = d.rowNext id (d.rowAfter id before cs) c :=
  d.rowAfter_append id before cs [c]

theorem rowNext_of_entity (before : Option σ) (about : d.entity c = id) :
    d.rowNext id before c = (d.edit c).row before :=
  if_pos about

theorem rowNext_of_ne (before : Option σ) (other : d.entity c ≠ id) :
    d.rowNext id before c = before :=
  if_neg other

variable {d}

/-- The row of an entity after a message: the change of the message is made, unless
the write fails. -/
theorem get?_handle (t : Table ι σ) (m : Message) (id : ι) :
    (d.handle t m).2.get? id =
      d.rowAfter id (t.get? id) (if t.failures = 0 then (d.change? m).toList else []) := by
  cases found : d.change? m with
  | none =>
      rw [(d.handle_unread t (change?_eq_none.mp found)).2, Option.toList_none, ite_self]
      rfl
  | some c =>
      have read := change?_eq_some.mp found
      split
      · rename_i calm
        rw [d.handle_calm read calm]
        show Keyed.get? id ((d.edit c).write (d.entity c) t.rows).2 = d.rowNext id (t.get? id) c
        rw [Edit.get?_write]
        by_cases about : d.entity c = id
        · rw [if_pos about.symm, d.rowNext_of_entity _ about, about]
          rfl
        · rw [if_neg (Ne.symm about), d.rowNext_of_ne _ about]
          rfl
      · rename_i failing
        rw [Table.get?, (d.handle_failing read failing).2]
        rfl

/-- The row of an entity is what the changes make of it that come to the table. -/
theorem get?_after (t : Table ι σ) (xs : List Occurrence) (id : ι) :
    (d.after t xs).get? id = d.rowAfter id (t.get? id) (d.changes t xs) := by
  induction xs generalizing t with
  | nil => rfl
  | cons x xs ih =>
      cases x with
      | delivery m =>
          rw [changes, rowAfter_append, ← get?_handle]
          exact ih (d.handle t m).2
      | failNext n => exact ih (t.failNext n)

end Domain

end BoxOffice.Snapshot
