import BoxOffice.Proofs.Office.Speaking

/-!
# The history of a row

The history of an event is its row after each of its commits, in the order of the
turns of a run. `Account` goes through such a history one change at a time, beside
what there is of the row now and the changes that tell of it. It begins with a
registration, versions rise by one, and a removal is the end. `Chronicle` says of
a run that its histories have such accounts; a move extends it by the change that
it makes, if it makes one. What else is kept in step with the changes is proved
beside it, for the same changes.
-/

namespace BoxOffice

open Ledger (Books)

/-- What one change makes of an event's row, and the message about it. -/
inductive Becomes : Option EventRow → Option EventRow → EventChange → Prop
  | created {row : EventRow} (first : row.version = 1) :
      Becomes none (some row) (.created (.ofRow row))
  | updated (row : EventRow) (r : EventRevision) :
      Becomes (some row) (some (row.revised r)) (.updated (.ofRow (row.revised r)))
  | booked (row : EventRow) (seats : Nat) (publicId : PublicId) :
      Becomes (some row) (some (row.withSeatsTaken seats))
        (.seatsUpdated ⟨row.id, publicId, row.availableSeats - seats, row.version + 1⟩)
  | removed (row : EventRow) :
      Becomes (some row) none (.deleted ⟨row.id, row.publicId, row.version⟩)

theorem Becomes.ne {now now' : Option EventRow} {c : EventChange} (becomes : Becomes now now' c) :
    now' ≠ now := by
  intro same
  cases becomes with
  | created => cases same
  | updated row r => simpa [EventRow.revised] using congrArg (Option.map (·.version)) same
  | booked row seats => simpa [EventRow.withSeatsTaken] using congrArg (Option.map (·.version)) same
  | removed => cases same

/-- What the message about a change says of the books: one row changes, and an event
that there was not has the next number. -/
structure Ledger.Books.Alters (b b' : Books) (c : EventChange) : Prop where
  becomes : Becomes (b.row? c.eventId) (b'.row? c.eventId) c
  others : ∀ id, id ≠ c.eventId → b'.row? id = b.row? id
  numbers : Numbered.next b.events ≤ Numbered.next b'.events
  fresh : b.row? c.eventId = none → c.eventId.number = Numbered.next b.events
  given : c.eventId.number < Numbered.next b'.events

section News

variable {b b' : Books} {c : EventChange}

/-- A row that there is has a number that was given. -/
theorem Ledger.Books.number_of_row? {id : EventId} {row : EventRow} (found : b.row? id = some row) :
    id.number < Numbered.next b.events := by
  unfold Books.row? Numbered.get? at found
  unfold Numbered.next
  split at found
  · cases at_ : b.events[id.number.toNat - 1]? with
    | none => simp [at_] at found
    | some _ =>
        obtain ⟨lt, -⟩ := List.getElem?_eq_some_iff.mp at_
        omega
  · cases found

theorem Ledger.Books.Alters.of_setRow {id : EventId} {row : EventRow} {row' : Option EventRow}
    (found : b.row? id = some row) (events : b'.events = (b.setRow id row').events)
    (about : c.eventId = id) (becomes : Becomes (some row) row' c) : b.Alters b' c := by
  have rows (id' : EventId) : b'.row? id' = if id' = id then row' else b.row? id' := by
    rw [← Books.row?_setRow found]
    unfold Books.row?
    rw [events]
  have numbers : Numbered.next b'.events = Numbered.next b.events := by
    rw [events]
    simp [Books.setRow, Numbered.next]
  subst about
  constructor
  · rw [rows, if_pos rfl, found]
    exact becomes
  · intro id' other
    rw [rows, if_neg other]
  · exact Int.le_of_eq numbers.symm
  · intro unknown
    cases found.symm.trans unknown
  · rw [numbers]
    exact Books.number_of_row? found

theorem Ledger.Books.News.alters (news : b.News b' c) (numbered : b.IsNumbered) : b.Alters b' c := by
  cases news with
  | created d =>
      have about : (EventChange.created (.ofRow (b.firstRow d))).eventId = ⟨Numbered.next b.events⟩ :=
        rfl
      constructor
      · rw [about, Books.row?_next, Books.row?_registered, if_pos rfl]
        exact .created rfl
      · intro id other
        rw [Books.row?_registered]
        exact if_neg other
      · simp only [Books.registered, Numbered.next, List.length_append, List.length_singleton]
        omega
      · exact fun _ => rfl
      · rw [about]
        simp only [Books.registered, Numbered.next, List.length_append, List.length_singleton]
        omega
  | @updated id row r found =>
      have about : row.id = id := numbered.row found
      exact .of_setRow found rfl about (.updated row r)
  | @booked r row now publicId found =>
      have becomes : Becomes (some row) (some (row.withSeatsTaken r.seats)) (.seatsUpdated
          ⟨r.eventId, publicId, row.availableSeats - r.seats, row.version + 1⟩) := by
        rw [← numbered.row found]
        exact .booked row r.seats publicId
      exact .of_setRow found rfl rfl becomes
  | @removed id row found =>
      have about : row.id = id := numbered.row found
      exact .of_setRow found rfl about (.removed row)

end News

namespace Office

/-! ### Accounts -/

/-- The history of an event, what there is of its row now, and the changes that tell
of it. -/
inductive Account (id : EventId) : List EventRow → Option EventRow → List EventChange → Prop
  | unknown : Account id [] none []
  | created {row : EventRow} (about : row.id = id) (first : row.version = 1) :
      Account id [row] (some row) [.created (.ofRow row)]
  | follows {rows : List EventRow} {row row' : EventRow} {told : List EventChange} {c : EventChange}
      (account : Account id rows (some row) told) (becomes : Becomes (some row) (some row') c) :
      Account id (rows ++ [row']) (some row') (told ++ [c])
  | removed {rows : List EventRow} {row : EventRow} {told : List EventChange}
      (account : Account id rows (some row) told) :
      Account id rows none (told ++ [.deleted ⟨row.id, row.publicId, row.version⟩])

namespace Account

variable {id : EventId} {rows : List EventRow} {now now' : Option EventRow} {row : EventRow}
  {told : List EventChange} {c : EventChange}

/-- A row has the identifiers that it was registered with, and the version that is
the number of its commits. -/
theorem current (account : Account id rows (some row) told) :
    row.id = id ∧ row.version = rows.length ∧ rows.getLast? = some row ∧
      (∀ row' ∈ rows, row'.publicId = row.publicId) := by
  generalize at_ : some row = now at account
  induction account generalizing row with
  | unknown => cases at_
  | created about first =>
      cases at_
      exact ⟨about, first, rfl, by simp⟩
  | removed _ => cases at_
  | @follows rows row₀ row' told c account becomes ih =>
      cases at_
      obtain ⟨about, version, -, publicId⟩ := ih rfl
      have same : row'.id = row₀.id ∧ row'.publicId = row₀.publicId ∧
          row'.version = row₀.version + 1 := by
        cases becomes <;> exact ⟨rfl, rfl, rfl⟩
      refine ⟨same.1.trans about, ?_, List.getLast?_concat, fun row member => ?_⟩
      · rw [same.2.2, version, List.length_append, List.length_singleton]
      · rw [same.2.1]
        rcases List.mem_append.mp member with before | last
        · exact publicId row before
        · rw [List.mem_singleton.mp last, same.2.1]

/-- Nothing is told of an event without a commit. -/
theorem untold (account : Account id rows now told) (none_ : rows = []) : told = [] := by
  cases account with
  | unknown => rfl
  | created => cases none_
  | follows => simp at none_
  | removed account =>
      have last := account.current.2.2.1
      rw [none_] at last
      cases last

/-- An account goes on by one change. -/
theorem becomes (account : Account id rows now told) (becomes : Becomes now now' c)
    (fresh : now = none → rows = []) (about : c.eventId = id) :
    Account id (rows ++ now'.toList) now' (told ++ [c]) := by
  cases becomes with
  | created first =>
      obtain rfl := fresh rfl
      rw [account.untold rfl]
      exact .created about first
  | updated row r => exact .follows account (.updated row r)
  | booked row seats publicId => exact .follows account (.booked row seats publicId)
  | removed row =>
      rw [Option.toList_none, List.append_nil]
      exact .removed account

/-- The commits of a row have the versions 1, 2 and so on. -/
theorem versions (account : Account id rows now told) :
    rows.map (·.version) = List.range' 1 rows.length := by
  induction account with
  | unknown => rfl
  | created about first => simp [first]
  | removed account ih => exact ih
  | @follows rows row row' told c account becomes ih =>
      have next : row'.version = rows.length + 1 := ((account.follows becomes).current.2.1).trans
        (by rw [List.length_append, List.length_singleton])
      rw [List.map_append, ih, List.length_append, List.length_singleton, List.range'_concat,
        List.map_singleton, next, Nat.one_mul, Nat.add_comm]

/-- All commits are of one event, known outside by one identifier. -/
theorem same (account : Account id rows now told) :
    (∀ row ∈ rows, row.id = id) ∧ ∀ row ∈ rows, ∀ row' ∈ rows, row.publicId = row'.publicId := by
  induction account with
  | unknown => simp
  | created about first => simp [about]
  | removed account ih => exact ih
  | @follows rows row row' told c account becomes ih =>
      obtain ⟨about, -, -, publicId⟩ := (account.follows becomes).current
      refine ⟨fun row₁ member => ?_, fun row₁ member row₂ member' =>
        (publicId row₁ member).trans (publicId row₂ member').symm⟩
      rcases List.mem_append.mp member with before | last
      · exact ih.1 row₁ before
      · rw [List.mem_singleton.mp last]
        exact about

end Account

/-! ### Histories -/

/-- The row that a turn commits for an event, if it does. -/
def Turn.commit? (id : EventId) (x : Turn) : Option EventRow :=
  if x.after.ledger.books.row? id = x.before.ledger.books.row? id then none
  else x.after.ledger.books.row? id

/-- The row of an event after each of its commits. -/
def history (id : EventId) (turns : List Turn) : List EventRow := turns.filterMap (·.commit? id)

theorem history_concat (id : EventId) (turns : List Turn) (x : Turn) :
    history id (turns ++ [x]) = history id turns ++ (x.commit? id).toList := by
  unfold history
  rw [List.filterMap_append]
  cases found : x.commit? id <;> simp [found]

/-- The histories of a run, with the changes that tell of all commits in order. -/
structure Chronicle (turns : List Turn) (o : Office) (told : List EventChange) : Prop where
  account : ∀ id, Account id (history id turns) (o.ledger.books.row? id)
    (told.filter (·.eventId = id))
  unborn : ∀ id : EventId, Numbered.next o.ledger.books.events ≤ id.number → history id turns = []

namespace Chronicle

variable {turns : List Turn} {o o' : Office} {told : List EventChange} {c : EventChange}

theorem opened (new : IsNew o) : Chronicle [] o [] := by
  cases new
  refine ⟨fun id => ?_, fun id _ => rfl⟩
  show Account id [] (Ledger.empty.books.row? id) []
  have unknown : Ledger.empty.books.row? id = none := Books.row?_empty id
  rw [unknown]
  exact .unknown

theorem rests (chronicle : Chronicle turns o told) (m : Move)
    (events : o'.ledger.books.events = o.ledger.books.events) :
    Chronicle (turns ++ [⟨m, o, o'⟩]) o' told := by
  have rows (id : EventId) : o'.ledger.books.row? id = o.ledger.books.row? id := by
    unfold Books.row?
    rw [events]
  have same (id : EventId) : history id (turns ++ [⟨m, o, o'⟩]) = history id turns := by
    rw [history_concat, Turn.commit?, if_pos (rows id), Option.toList_none, List.append_nil]
  constructor
  · intro id
    rw [same, rows]
    exact chronicle.account id
  · intro id late
    rw [same]
    exact chronicle.unborn id (events ▸ late)

/-- A change is a commit of the row that it is about. -/
theorem commit?_eq (m : Move) (becomes : Becomes (o.ledger.books.row? c.eventId)
    (o'.ledger.books.row? c.eventId) c) :
    Turn.commit? c.eventId ⟨m, o, o'⟩ = o'.ledger.books.row? c.eventId := by
  exact if_neg becomes.ne

theorem commits (chronicle : Chronicle turns o told) (m : Move)
    (alters : o.ledger.books.Alters o'.ledger.books c) :
    Chronicle (turns ++ [⟨m, o, o'⟩]) o' (told ++ [c]) := by
  have other (id : EventId) (ne : id ≠ c.eventId) :
      history id (turns ++ [⟨m, o, o'⟩]) = history id turns := by
    rw [history_concat, Turn.commit?, if_pos (alters.others id ne), Option.toList_none,
      List.append_nil]
  constructor
  · intro id
    rw [List.filter_append]
    by_cases own : c.eventId = id
    · subst own
      have unborn (unknown : o.ledger.books.row? c.eventId = none) :
          history c.eventId turns = [] :=
        chronicle.unborn _ (Int.le_of_eq (alters.fresh unknown).symm)
      have goesOn := (chronicle.account c.eventId).becomes alters.becomes unborn rfl
      rw [history_concat, commit?_eq m alters.becomes]
      simpa using goesOn
    · have ne := Ne.symm own
      rw [other id ne, alters.others id ne]
      simpa [own] using chronicle.account id
  · intro id late
    have ne : id ≠ c.eventId := by
      rintro rfl
      exact absurd alters.given (Int.not_lt.mpr late)
    rw [other id ne]
    exact chronicle.unborn id (Int.le_trans alters.numbers late)

/-- A move extends the histories by the change that it makes. -/
theorem move {m : Move} {news : Option EventChange} (chronicle : Chronicle turns o told)
    (numbered : o.ledger.books.IsNumbered) (talks : Talks o m o' news) :
    Chronicle (turns ++ [⟨m, o, o'⟩]) o' (told ++ news.toList) := by
  cases talks with
  | rests events => simpa using chronicle.rests m events
  | utters _ _ _ _ events => simpa using chronicle.rests m events
  | commits _ _ news => exact chronicle.commits m (news.alters numbered)
  | hides _ _ _ news => exact chronicle.commits m (news.alters numbered)

end Chronicle

end Office

end BoxOffice
