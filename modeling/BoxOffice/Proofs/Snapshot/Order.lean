import BoxOffice.Proofs.Snapshot.Deliveries
import Mathlib.Data.List.Basic
import Mathlib.Data.List.Induction

/-!
# The order of whole snapshots does not matter

Messages that each bring a whole snapshot of an entity may come in any order and any
number of times, with messages about other entities and failing writes in between.
Once each of them has come, the newest is stored: `newest_wins` says so of events and
of users alike, and that two such deliveries leave the same row. An insertion does not
look at versions, so a creation must not be newer than what else is said.
-/

namespace BoxOffice.Snapshot

namespace Domain

variable {κ ι σ : Type} [DecidableEq ι] [Versioned σ ι] (d : Domain κ σ)

/-- Changes of an entity that bring whole snapshots, and agree on what a version is. So
there is one creation at most. -/
structure IsWhole (id : ι) (said : List κ) : Prop where
  some_ : said ≠ []
  about : ∀ c ∈ said, d.entity c = id
  brings : ∀ c ∈ said, ∃ s, d.snapshot? c = some s
  /-- A creation is not newer than any other change. -/
  first : ∀ c ∈ said, ∀ s, d.edit c = .insert s → ∀ c' ∈ said, ∀ s', d.snapshot? c' = some s' →
    Versioned.version s ≤ Versioned.version s'
  sole : ∀ c ∈ said, ∀ c' ∈ said, ∀ s s', d.snapshot? c = some s → d.snapshot? c' = some s' →
    Versioned.version s = Versioned.version s' → s = s'

/-- The entity has no snapshot at first, each of the changes comes to the table, and no
other change of the entity does. -/
structure Delivers (t : Table ι σ) (xs : List Occurrence) (id : ι) (said : List κ) : Prop where
  absent : t.get? id = none
  all : ∀ c ∈ said, c ∈ d.changes t xs
  only : ∀ c ∈ d.changes t xs, d.entity c = id → c ∈ said

/-- A snapshot that one of the changes brings, when none brings a newer one. -/
structure IsNewest (said : List κ) (s : σ) : Prop where
  brought : ∃ c ∈ said, d.snapshot? c = some s
  newest : ∀ c ∈ said, ∀ s', d.snapshot? c = some s' → Versioned.version s' ≤ Versioned.version s

/-- Whatever the order is in which whole snapshots of an entity come, the newest is
stored in the end. -/
def NewestWins : Prop :=
  ∀ {id said}, d.IsWhole id said → ∀ {t xs}, d.Delivers t xs id said →
    ∃ s, d.IsNewest said s ∧ (d.after t xs).get? id = some s ∧
      ∀ {t' xs'}, d.Delivers t' xs' id said → (d.after t' xs').get? id = some s

variable {d} {id : ι} {said cs : List κ} {s s' : σ} {t : Table ι σ} {xs : List Occurrence}

theorem IsWhole.newest_eq (whole : d.IsWhole id said) (newest : d.IsNewest said s)
    (newest' : d.IsNewest said s') : s = s' := by
  obtain ⟨c, member, brings⟩ := newest.brought
  obtain ⟨c', member', brings'⟩ := newest'.brought
  exact whole.sole c member c' member' s s' brings brings'
    (Nat.le_antisymm (newest'.newest c member s brings) (newest.newest c' member' s' brings'))

/-- A change that comes after others leaves the newer of its snapshot and the stored
one. -/
theorem IsWhole.newest_row (whole : d.IsWhole id said) (within : ∀ c ∈ cs, c ∈ said) {c : κ}
    (member : c ∈ said) (newest : d.IsNewest cs s) :
    ∃ s', (d.edit c).row (some s) = some s' ∧ d.IsNewest (cs ++ [c]) s' := by
  obtain ⟨new, brings⟩ := whole.brings c member
  obtain ⟨c₀, member₀, brings₀⟩ := newest.brought
  have kept (older : Versioned.version new ≤ Versioned.version s) : d.IsNewest (cs ++ [c]) s := by
    refine ⟨⟨c₀, List.mem_append_left _ member₀, brings₀⟩, ?_⟩
    intro c' member' s' brings'
    rcases List.mem_append.mp member' with before | last
    · exact newest.newest c' before s' brings'
    · obtain rfl := List.mem_singleton.mp last
      obtain rfl := Option.some.inj (brings'.symm.trans brings)
      exact older
  rcases Edit.eq_of_snapshot? brings with edit | edit
  · rw [edit]
    exact ⟨s, rfl, kept (whole.first c member new edit c₀ (within c₀ member₀) s brings₀)⟩
  · rw [edit, Edit.row_replace_some]
    split
    · rename_i older
      exact ⟨s, rfl, kept (Nat.le_of_lt older)⟩
    · rename_i newer
      refine ⟨new, rfl, ⟨c, List.mem_append_right _ (List.mem_singleton_self c), brings⟩, ?_⟩
      intro c' member' s' brings'
      rcases List.mem_append.mp member' with before | last
      · exact Nat.le_trans (newest.newest c' before s' brings') (Nat.le_of_not_lt newer)
      · obtain rfl := List.mem_singleton.mp last
        obtain rfl := Option.some.inj (brings'.symm.trans brings)
        exact Nat.le_refl _

/-- The first change of an entity is stored as it is. -/
theorem IsWhole.newest_first (whole : d.IsWhole id said) {c : κ} (member : c ∈ said) :
    ∃ s, (d.edit c).row none = some s ∧ d.IsNewest [c] s := by
  obtain ⟨s, brings⟩ := whole.brings c member
  have stored : (d.edit c).row none = some s := by
    rcases Edit.eq_of_snapshot? brings with edit | edit <;> rw [edit] <;> rfl
  refine ⟨s, stored, ⟨c, List.mem_singleton_self c, brings⟩, ?_⟩
  intro c' member' s' brings'
  obtain rfl := List.mem_singleton.mp member'
  obtain rfl := Option.some.inj (brings'.symm.trans brings)
  exact Nat.le_refl _

/-- What is stored of an entity is the newest of what has come so far. -/
theorem IsWhole.rowAfter (whole : d.IsWhole id said)
    (only : ∀ c ∈ cs, d.entity c = id → c ∈ said) :
    (d.rowAfter id none cs = none ∧ cs.filter (d.entity · = id) = []) ∨
      ∃ s, d.rowAfter id none cs = some s ∧ d.IsNewest (cs.filter (d.entity · = id)) s := by
  induction cs using List.reverseRecOn with
  | nil => exact .inl ⟨rfl, rfl⟩
  | append_singleton cs c ih =>
      rw [d.rowAfter_concat, List.filter_append]
      specialize ih fun c' member => only c' (List.mem_append_left _ member)
      by_cases about : d.entity c = id
      · have member := only c (List.mem_append_right _ (List.mem_singleton_self c)) about
        rw [d.rowNext_of_entity _ about, List.filter_singleton, decide_eq_true about]
        refine .inr ?_
        rcases ih with ⟨row, unheard⟩ | ⟨s, row, newest⟩
        · rw [row, unheard]
          exact whole.newest_first member
        · rw [row]
          refine whole.newest_row ?_ member newest
          intro c' member'
          obtain ⟨early, about'⟩ := List.mem_filter.mp member'
          exact only c' (List.mem_append_left _ early) (of_decide_eq_true about')
      · rw [d.rowNext_of_ne _ about, List.filter_singleton, decide_eq_false about]
        simpa using ih

theorem IsWhole.delivered (whole : d.IsWhole id said) (delivers : d.Delivers t xs id said) :
    ∃ s, d.IsNewest said s ∧ (d.after t xs).get? id = some s := by
  have heard (c : κ) (member : c ∈ said) : c ∈ (d.changes t xs).filter (d.entity · = id) :=
    List.mem_filter.mpr ⟨delivers.all c member, decide_eq_true (whole.about c member)⟩
  have row := get?_after (d := d) t xs id
  rw [delivers.absent] at row
  rcases whole.rowAfter delivers.only with ⟨-, unheard⟩ | ⟨s, stored, ⟨c, member, brings⟩, newest⟩
  · obtain ⟨c, member⟩ := List.exists_mem_of_ne_nil said whole.some_
    exact absurd (heard c member) (by rw [unheard]; exact List.not_mem_nil)
  · obtain ⟨came, about⟩ := List.mem_filter.mp member
    exact ⟨s, ⟨⟨c, delivers.only c came (of_decide_eq_true about), brings⟩,
      fun c' member' => newest c' (heard c' member')⟩, row.trans stored⟩

theorem newestWins (d : Domain κ σ) : d.NewestWins := by
  intro id said whole t xs delivers
  obtain ⟨s, newest, stored⟩ := whole.delivered delivers
  refine ⟨s, newest, stored, ?_⟩
  intro t' xs' delivers'
  obtain ⟨s', newest', stored'⟩ := whole.delivered delivers'
  rw [whole.newest_eq newest newest']
  exact stored'

end Domain

/-- Whole snapshots of an event or a user may come in any order, any number of times:
the newest is stored in the end. -/
theorem newest_wins : events.NewestWins ∧ users.NewestWins :=
  ⟨events.newestWins, users.newestWins⟩

/-- A user with a version. -/
def ada (version : Nat) : UserSnapshot := ⟨⟨7⟩, .ofNat 7, version⟩

/-- What is said of her. -/
def adaNews : List UserChange := [.created (ada 1), .updated (ada 2), .updated (ada 3)]

/-- All that is said of her comes, the newest first. The creation is not written the first
time, another user is gone, and a message about an event has lost its way. -/
def adaPost : List Occurrence :=
  [.delivery ((UserChange.updated (ada 3)).toMessage "m3"), .failNext 1,
    .delivery ((UserChange.created (ada 1)).toMessage "m1"),
    .delivery ((UserChange.deleted ⟨⟨8⟩, .ofNat 8, 5⟩).toMessage "m4"),
    .delivery ((UserChange.created (ada 1)).toMessage "m1").redelivered,
    .delivery ((UserChange.updated (ada 2)).toMessage "m2"),
    .delivery ((EventChange.deleted ⟨⟨7⟩, .ofNat 7, 9⟩).toMessage "m5"),
    .delivery ((UserChange.updated (ada 3)).toMessage "m3").redelivered]

theorem newest_wins_ada : users.IsWhole ⟨7⟩ adaNews ∧ users.Delivers .empty adaPost ⟨7⟩ adaNews ∧
    (users.after .empty adaPost).get? ⟨7⟩ = some (ada 3) := by
  have whole : users.IsWhole ⟨7⟩ adaNews := by
    constructor <;> simp [adaNews, users, UserChange.userId, Domain.snapshot?, UserChange.edit,
      Edit.snapshot?, ada, Versioned.version]
  have changes : users.changes .empty adaPost =
      [.updated (ada 3), .deleted ⟨⟨8⟩, .ofNat 8, 5⟩, .created (ada 1), .updated (ada 2),
        .updated (ada 3)] := by
    decide +kernel
  have delivers : users.Delivers .empty adaPost ⟨7⟩ adaNews :=
    ⟨rfl, by rw [changes]; decide, by rw [changes]; decide⟩
  have newest : users.IsNewest adaNews (ada 3) := by
    constructor <;> simp [adaNews, users, Domain.snapshot?, UserChange.edit, Edit.snapshot?, ada,
      Versioned.version]
  obtain ⟨s, newest', stored, -⟩ := newest_wins.2 whole delivers
  rw [whole.newest_eq newest newest']
  exact ⟨whole, delivers, stored⟩

end BoxOffice.Snapshot
