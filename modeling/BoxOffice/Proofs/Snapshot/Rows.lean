import BoxOffice.Proofs.Snapshot.Deliveries
import BoxOffice.Proofs.Snapshot.Writing
import Mathlib.Data.List.Induction
import Mathlib.Order.Bounds.Basic

/-!
# What the row of an event holds

An update replaces a snapshot and a count of seats adjusts it, under one guard: what
is older than the stored version is skipped. So after any messages the version is the
greatest there was, the seats are those of the last message with that version, and
all else comes from the last update that was as new as all before it.
`isMadeOf_after` says so of all messages but a removal of the event, and that its
version never falls on the way.
-/

namespace BoxOffice

namespace EventChange

/-- A change is an update or a count of seats of an event. -/
def Revises (id : EventId) : EventChange → Prop
  | updated s => s.id = id
  | seatsUpdated c => c.id = id
  | _ => False

/-- The seats that a change tells of. -/
def seats? : EventChange → Option Nat
  | created s | updated s => some s.availableSeats
  | seatsUpdated c => some c.availableSeats
  | deleted _ => none

/-- A change is an update of an event. -/
def Updates (id : EventId) (c : EventChange) : Prop := ∃ s, c = updated s ∧ s.id = id

variable {id : EventId} {c : EventChange}

theorem Updates.revises (updates : c.Updates id) : c.Revises id := by
  obtain ⟨s, rfl, about⟩ := updates
  exact about

theorem Revises.eventId (revises : c.Revises id) : c.eventId = id := by
  cases c with
  | updated s => exact revises
  | seatsUpdated count => exact revises
  | created s => exact revises.elim
  | deleted r => exact revises.elim

end EventChange

namespace Snapshot

/-! ### Last entries -/

/-- The last entry of a list that has a property, if one has. The property may look at
what comes before the entry. -/
inductive Last {α : Type} (p : List α → α → Prop) : List α → Option α → Prop
  | missing {l : List α} (never : ∀ before a after, l = before ++ a :: after → ¬ p before a) :
      Last p l none
  | entry {before after : List α} {a : α} (holds : p before a)
      (never : ∀ mid b rest, after = mid ++ b :: rest → ¬ p (before ++ a :: mid) b) :
      Last p (before ++ a :: after) (some a)

namespace Last

variable {α : Type} {p : List α → α → Prop} {l : List α} {a : α} {last : Option α}

theorem nil : Last p [] none := .missing fun before a after split => by simp at split

theorem concat (holds : p l a) : Last p (l ++ [a]) (some a) :=
  .entry holds fun mid b rest split => by simp at split

theorem skip (isLast : Last p l last) (other : ¬ p l a) : Last p (l ++ [a]) last := by
  cases isLast with
  | missing never =>
      refine .missing ?_
      intro before b after split
      rcases List.eq_nil_or_concat after with rfl | ⟨after', c, rfl⟩
      · obtain ⟨rfl, same⟩ := List.append_inj' split rfl
        cases same
        exact other
      · rw [List.concat_eq_append, ← List.cons_append, ← List.append_assoc] at split
        exact never before b after' (List.append_inj' split rfl).1
  | @entry before after b holds never =>
      rw [List.append_assoc, List.cons_append]
      refine .entry holds ?_
      intro mid c rest split
      rcases List.eq_nil_or_concat rest with rfl | ⟨rest', d, rfl⟩
      · obtain ⟨rfl, same⟩ := List.append_inj' split rfl
        cases same
        exact other
      · rw [List.concat_eq_append, ← List.cons_append, ← List.append_assoc] at split
        exact never mid c rest' (List.append_inj' split rfl).1

/-- A list that has an entry with a property has a last one. -/
theorem exists_of_mem {p : α → Prop} (isLast : Last (fun _ => p) l last) (member : a ∈ l)
    (holds : p a) : ∃ b, last = some b := by
  cases isLast with
  | missing never =>
      obtain ⟨before, after, rfl⟩ := List.append_of_mem member
      exact absurd holds (never before a after rfl)
  | entry => exact ⟨_, rfl⟩

end Last

/-! ### Snapshots that are made of changes -/

/-- What changes have made of the first snapshot of an event. -/
structure IsMadeOf (id : EventId) (first : EventSnapshot) (cs : List EventChange)
    (s : EventSnapshot) : Prop where
  version : IsGreatest {v | v = first.version ∨ ∃ c ∈ cs, c.Revises id ∧ c.version = v} s.version
  /-- The seats are those of the last change with that version. -/
  availableSeats : ∃ last, Last (fun _ c => c.Revises id ∧ c.version = s.version) cs last ∧
    s.availableSeats = (last.bind EventChange.seats?).getD first.availableSeats
  /-- All else is that of the last update that was as new as all before it. -/
  rest : ∃ last, Last (fun before c => c.Updates id ∧ first.version ≤ c.version ∧
      ∀ c' ∈ before, c'.Revises id → c'.version ≤ c.version) cs last ∧
    s = { (last.bind EventChange.snapshot?).getD first with
      availableSeats := s.availableSeats, version := s.version }

namespace IsMadeOf

variable {id : EventId} {first s s' : EventSnapshot} {cs : List EventChange} {c : EventChange}

theorem start : IsMadeOf id first [] first where
  version := by
    refine ⟨.inl rfl, ?_⟩
    intro v member
    rcases member with rfl | ⟨c, member, -⟩
    · exact Nat.le_refl _
    · cases member
  availableSeats := ⟨none, .nil, rfl⟩
  rest := ⟨none, .nil, rfl⟩

theorem first_le (made : IsMadeOf id first cs s) : first.version ≤ s.version :=
  made.version.2 (.inl rfl)

theorem le (made : IsMadeOf id first cs s) (member : c ∈ cs) (revises : c.Revises id) :
    c.version ≤ s.version :=
  made.version.2 (.inr ⟨c, member, revises, rfl⟩)

/-- A change that is older than what is stored, or none of this kind, makes no
difference. -/
theorem skip (made : IsMadeOf id first cs s) (older : c.Revises id → c.version < s.version) :
    IsMadeOf id first (cs ++ [c]) s := by
  obtain ⟨⟨reached, bound⟩, ⟨last, seatsLast, seats⟩, ⟨last', restLast, rest⟩⟩ := made
  constructor
  · constructor
    · refine reached.imp_right ?_
      rintro ⟨c', member, revises⟩
      exact ⟨c', List.mem_append_left _ member, revises⟩
    · intro v member
      rcases member with initial | ⟨c', member, revises, rfl⟩
      · exact bound (.inl initial)
      · rcases List.mem_append.mp member with before | now
        · exact bound (.inr ⟨c', before, revises, rfl⟩)
        · obtain rfl := List.mem_singleton.mp now
          exact Nat.le_of_lt (older revises)
  · refine ⟨last, seatsLast.skip ?_, seats⟩
    rintro ⟨revises, same⟩
    exact Nat.ne_of_lt (older revises) same
  · refine ⟨last', restLast.skip ?_, rest⟩
    -- An update as new as all before it is as new as the stored version.
    rintro ⟨updates, newFirst, newest⟩
    refine Nat.not_le_of_lt (older updates.revises) ?_
    rcases reached with initial | ⟨c', member, revises, same⟩
    · exact initial ▸ newFirst
    · exact same ▸ newest c' member revises

/-- A change that is not older than what is stored is the last with the greatest
version. -/
theorem newer (made : IsMadeOf id first cs s) (revises : c.Revises id)
    (new : s.version ≤ c.version) (version : s'.version = c.version)
    (seats : c.seats? = some s'.availableSeats)
    (rest : ∃ last, Last (fun before c => c.Updates id ∧ first.version ≤ c.version ∧
        ∀ c' ∈ before, c'.Revises id → c'.version ≤ c.version) (cs ++ [c]) last ∧
      s' = { (last.bind EventChange.snapshot?).getD first with
        availableSeats := s'.availableSeats, version := s'.version }) :
    IsMadeOf id first (cs ++ [c]) s' where
  version := by
    have now : c ∈ cs ++ [c] := List.mem_append_right _ (List.mem_singleton_self c)
    rw [version]
    refine ⟨.inr ⟨c, now, revises, rfl⟩, ?_⟩
    intro v member
    rcases member with rfl | ⟨c', member, revises', rfl⟩
    · exact Nat.le_trans made.first_le new
    · rcases List.mem_append.mp member with before | last
      · exact Nat.le_trans (made.le before revises') new
      · obtain rfl := List.mem_singleton.mp last
        exact Nat.le_refl _
  availableSeats := ⟨some c, .concat ⟨revises, version.symm⟩, by simp [seats]⟩
  rest := rest

theorem update (made : IsMadeOf id first cs s) (about : s'.id = id) (new : s.version ≤ s'.version) :
    IsMadeOf id first (cs ++ [.updated s']) s' := by
  refine made.newer about new rfl rfl ⟨some (.updated s'), .concat ⟨⟨s', rfl, about⟩, ?_, ?_⟩, rfl⟩
  · exact Nat.le_trans made.first_le new
  · exact fun c' member revises => Nat.le_trans (made.le member revises) new

theorem count (made : IsMadeOf id first cs s) {count : SeatCount} (about : count.id = id)
    (new : s.version ≤ count.version) :
    IsMadeOf id first (cs ++ [.seatsUpdated count])
      { s with availableSeats := count.availableSeats, version := count.version } := by
  refine made.newer (c := .seatsUpdated count) about new rfl rfl ?_
  obtain ⟨last, restLast, rest⟩ := made.rest
  refine ⟨last, restLast.skip ?_, ?_⟩
  · rintro ⟨⟨s', other, -⟩, -⟩
    cases other
  · rw [rest]

/-- What a change that is no removal makes of a snapshot that is made of changes. -/
theorem rowNext (made : IsMadeOf id first cs s) (kept : ∀ r, c = .deleted r → r.id ≠ id) :
    ∃ s', events.rowNext id (some s) c = some s' ∧ IsMadeOf id first (cs ++ [c]) s' := by
  by_cases about : c.eventId = id
  · rw [events.rowNext_of_entity _ about]
    cases c with
    | created s₁ => exact ⟨s, rfl, made.skip fun revises => revises.elim⟩
    | deleted r => exact absurd about (kept r rfl)
    | updated s₁ =>
        show ∃ s', (Edit.replace s₁).row (some s) = some s' ∧ _
        rw [Edit.row_replace_some]
        split
        · rename_i older
          exact ⟨s, rfl, made.skip fun _ => older⟩
        · rename_i newer
          exact ⟨s₁, rfl, made.update about (Nat.le_of_not_lt newer)⟩
    | seatsUpdated count =>
        show ∃ s', (Edit.adjust count.adjustment).row (some s) = some s' ∧ _
        rw [Edit.row_adjust_some]
        split
        · rename_i newer
          exact ⟨_, rfl, made.count about newer⟩
        · rename_i older
          exact ⟨s, rfl, made.skip fun _ => Nat.lt_of_not_le older⟩
  · rw [events.rowNext_of_ne _ about]
    exact ⟨s, rfl, made.skip fun revises => absurd revises.eventId about⟩

theorem rowAfter (first : EventSnapshot) (kept : ∀ r, .deleted r ∈ cs → r.id ≠ id) :
    ∃ s, events.rowAfter id (some first) cs = some s ∧ IsMadeOf id first cs s := by
  induction cs using List.reverseRecOn with
  | nil => exact ⟨first, rfl, .start⟩
  | append_singleton cs c ih =>
      obtain ⟨s, stored, made⟩ := ih fun r member => kept r (List.mem_append_left _ member)
      rw [events.rowAfter_concat, stored]
      refine made.rowNext fun r same => kept r (List.mem_append_right _ ?_)
      exact List.mem_singleton.mpr same.symm

/-- There is a row after any messages that do not remove the event. -/
theorem after {t : EventTable} {xs : List Occurrence} (found : t.get? id = some first)
    (kept : ∀ r, .deleted r ∈ events.changes t xs → r.id ≠ id) :
    ∃ s, (events.after t xs).get? id = some s ∧ IsMadeOf id first (events.changes t xs) s := by
  rw [Domain.get?_after, found]
  exact rowAfter first kept

end IsMadeOf

/-- The row of an event after any messages that do not remove it: what is made of its
first snapshot by the changes that come. Its version never falls on the way. -/
theorem isMadeOf_after {t : EventTable} {xs : List Occurrence} {id : EventId}
    {first : EventSnapshot} (found : t.get? id = some first)
    (kept : ∀ r, .deleted r ∈ events.changes t xs → r.id ≠ id) :
    (∃ s, (events.after t xs).get? id = some s ∧ IsMadeOf id first (events.changes t xs) s) ∧
      ∀ early mid late, xs = early ++ mid ++ late →
        ∃ s s', (events.after t early).get? id = some s ∧
          (events.after t (early ++ mid)).get? id = some s' ∧ s.version ≤ s'.version := by
  refine ⟨IsMadeOf.after found kept, ?_⟩
  rintro early mid late rfl
  rw [events.changes_append, events.changes_append] at kept
  obtain ⟨s, reached, -⟩ := IsMadeOf.after found fun r member =>
    kept r (List.mem_append_left _ (List.mem_append_left _ member))
  obtain ⟨s', reached', made⟩ := IsMadeOf.after reached fun r member =>
    kept r (List.mem_append_left _ (List.mem_append_right _ member))
  rw [← events.after_append] at reached'
  exact ⟨s, s', reached, reached', made.first_le⟩

/-- A talk with a title, seats and a version. -/
def talk (title : String) (seats version : Nat) : EventSnapshot :=
  ⟨⟨1⟩, .ofNat 1, title, .epoch, .epoch, seats, ⟨2500⟩, version⟩

/-- A count of its seats with the version that it has already, a new title, a count with
the version of that, and what is too late. -/
def talkChanges : List EventChange :=
  [.seatsUpdated ⟨⟨1⟩, .ofNat 1, 5, 2⟩, .updated (talk "Lecture" 4 3),
    .seatsUpdated ⟨⟨1⟩, .ofNat 1, 3, 3⟩, .updated (talk "Speech" 9 2), .created (talk "Talk" 6 7),
    .deleted ⟨⟨2⟩, .ofNat 2, 8⟩]

def talkPost : List Occurrence := talkChanges.map fun c => .delivery (c.toMessage "m")

/-- The snapshots before. -/
def talkTable : EventTable := ⟨[(⟨1⟩, talk "Talk" 6 2)], 0⟩

theorem isMadeOf_after_talk :
    talkTable.get? ⟨1⟩ = some (talk "Talk" 6 2) ∧
      (∀ r, .deleted r ∈ events.changes talkTable talkPost → r.id ≠ ⟨1⟩) ∧
      (events.after talkTable talkPost).get? ⟨1⟩ = some (talk "Lecture" 3 3) ∧
      IsMadeOf ⟨1⟩ (talk "Talk" 6 2) talkChanges (talk "Lecture" 3 3) := by
  have first : talkTable.get? ⟨1⟩ = some (talk "Talk" 6 2) := rfl
  have changes : events.changes talkTable talkPost = talkChanges := by decide +kernel
  have kept : ∀ r, .deleted r ∈ events.changes talkTable talkPost → r.id ≠ ⟨1⟩ := by
    rw [changes]
    simp [talkChanges]
  have stored : (events.after talkTable talkPost).get? ⟨1⟩ = some (talk "Lecture" 3 3) := by
    decide +kernel
  obtain ⟨⟨s, found, made⟩, -⟩ := isMadeOf_after first kept
  cases stored.symm.trans found
  exact ⟨first, kept, stored, changes ▸ made⟩

end Snapshot

end BoxOffice
