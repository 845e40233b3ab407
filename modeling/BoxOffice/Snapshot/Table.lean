import BoxOffice.Keyed
import BoxOffice.Snapshot
import BoxOffice.Snapshot.Error

/-!
# Snapshot tables

A table keeps one snapshot for each entity. Every write is guarded by versions: an insertion takes effect
only when the entity has no snapshot, a replacement and a count of seats only when they are not older
than what is stored. A number of coming writes may be made to fail; such a write has no other effect.
-/

namespace BoxOffice

/-- What a table needs to know of a snapshot. -/
class Snapshot.Versioned (σ : Type) (ι : outParam Type) where
  id : σ → ι
  publicId : σ → PublicId
  /-- The version copied. -/
  version : σ → Nat

instance : Snapshot.Versioned EventSnapshot EventId :=
  ⟨EventSnapshot.id, EventSnapshot.publicId, EventSnapshot.version⟩

instance : Snapshot.Versioned UserSnapshot UserId :=
  ⟨UserSnapshot.id, UserSnapshot.publicId, UserSnapshot.version⟩

namespace Snapshot

/-- Whether a write changed a table. -/
inductive Effect
  | applied
  /-- The write was too old, or there was nothing to change. -/
  | skipped
  deriving DecidableEq, Repr

/-- The word for an effect. -/
def Effect.word : Effect → String
  | applied => "applied"
  | skipped => "skipped"

/-- The effect of a write that touched a number of rows. -/
def Effect.ofRows (rows : Nat) : Effect := if 0 < rows then .applied else .skipped

/-- Snapshots of one kind of entity. -/
structure Table (ι σ : Type) where
  /-- The snapshots by the number of their entity. -/
  rows : List (ι × σ)
  /-- How many of the coming writes fail. -/
  failures : Nat
  deriving Repr

namespace Table

variable {ι σ : Type} [DecidableEq ι]

/-- No snapshots. -/
def empty : Table ι σ := ⟨[], 0⟩

/-- The snapshot of an entity. -/
def get? (t : Table ι σ) (id : ι) : Option σ := Keyed.get? id t.rows

/-- Makes a number of coming writes fail. -/
def failNext (t : Table ι σ) (n : Nat) : Table ι σ := { t with failures := n }

/-- A write: it fails when it is one of those that have to. -/
def write (t : Table ι σ) (change : List (ι × σ) → Effect × List (ι × σ)) :
    Except Error Effect × Table ι σ :=
  match t.failures with
  | n + 1 => (.error (.storage "injected write failure"), { t with failures := n })
  | 0 =>
    let (effect, rows) := change t.rows
    (.ok effect, { t with rows := rows })

/-- Takes the snapshot of an entity away. -/
def delete (t : Table ι σ) (id : ι) : Except Error Effect × Table ι σ :=
  t.write fun rows =>
    match Keyed.get? id rows with
    | some _ => (.applied, Keyed.erase id rows)
    | none => (.skipped, rows)

variable [Versioned σ ι]

/-- Stores a snapshot of an entity that has none. -/
def insert (t : Table ι σ) (s : σ) : Except Error Effect × Table ι σ :=
  t.write fun rows =>
    match Keyed.get? (Versioned.id s) rows with
    | some _ => (.skipped, rows)
    | none => (.applied, Keyed.put (Versioned.id s) s rows)

/-- Stores a snapshot, in place of one that is not newer. -/
def upsert (t : Table ι σ) (s : σ) : Except Error Effect × Table ι σ :=
  t.write fun rows =>
    match Keyed.get? (Versioned.id s) rows with
    | some stored =>
      if Versioned.version s < Versioned.version stored then (.skipped, rows)
      else (.applied, Keyed.put (Versioned.id s) s rows)
    | none => (.applied, Keyed.put (Versioned.id s) s rows)

/-- The snapshot of the entity with a public identifier. -/
def find? (t : Table ι σ) (publicId : PublicId) : Option σ :=
  (t.rows.find? fun row => Versioned.publicId row.2 = publicId).map (·.2)

end Table

/-- The snapshots of events. -/
abbrev EventTable := Table EventId EventSnapshot

/-- The snapshots of users. -/
abbrev UserTable := Table UserId UserSnapshot

/-- Sets the seats and the version of an event's snapshot that is not newer. -/
def Table.updateSeats (t : EventTable) (id : EventId) (availableSeats version : Nat) :
    Except Error Effect × EventTable :=
  t.write fun rows =>
    match Keyed.get? id rows with
    | some stored =>
      if stored.version ≤ version then
        (.applied,
          Keyed.put id { stored with availableSeats := availableSeats, version := version } rows)
      else (.skipped, rows)
    | none => (.skipped, rows)

end Snapshot

end BoxOffice
