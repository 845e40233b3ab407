import BoxOffice.Proofs.Ledger.Custody

/-!
# What a step of a call means

`Started` and `Resumed` list the steps of calls with their locks. This module
says what each of them is for a reader of the books. A step is quiet, or it is
the one step at which its call does to the books what it would do to them if it
had the ledger for itself.

Two kinds of answers come late. A look-up that waits for the row of an event
gets that row even when the event is removed in the meantime, and a look-up
among the bookings does not see those that were added after it began.
`foretold` is the answer that such a look-up is bound to give: it was right at
an earlier time, and nothing that happens later changes it.
-/

namespace BoxOffice.Ledger

/-- An event's row, with whether the event is not removed. -/
def page? (l : Ledger) (id : EventId) : Option (EventRow × Bool) :=
  (l.eventCell? id).map fun cell => (cell.row, cell.present)

/-- Only locks and what is left to do have changed. -/
structure Quiet (l l' : Ledger) : Prop where
  books : l'.books = l.books
  pages : ∀ id, l'.page? id = l.page? id

/-- Removed events keep their rows, others are not removed, and bookings keep
their identifiers. -/
structure Persists (l l' : Ledger) : Prop where
  gone : ∀ {id row}, l.page? id = some (row, false) → l'.page? id = some (row, false)
  shown : ∀ {id row}, l.page? id = some (row, true) → ∃ row', l'.page? id = some (row', true)
  listed : ∀ {b booking}, l.books.booking? b = some booking →
    ∃ booking', l'.books.booking? b = some booking' ∧ booking'.publicId = booking.publicId

/-- One event is removed and nothing else happens to the rows. -/
structure Removes (l l' : Ledger) (id : EventId) (row : EventRow) : Prop where
  before : l.page? id = some (row, true)
  after : ∀ id', l'.page? id' = if id' = id then some (row, false) else l.page? id'
  bookings : l'.books.bookings = l.books.bookings

variable {l l' l'' : Ledger} {t : Ticket}

/-! ### Quiet steps -/

namespace Quiet

theorem refl (l : Ledger) : Quiet l l := ⟨rfl, fun _ => rfl⟩

theorem trans (first : Quiet l l') (second : Quiet l' l'') : Quiet l l'' :=
  ⟨second.books.trans first.books, fun id => (second.pages id).trans (first.pages id)⟩

theorem of_rows (events : l'.events = l.events) (bookings : l'.bookings = l.bookings)
    (payments : l'.payments = l.payments) : Quiet l l' where
  books := by simp only [Ledger.books, events, bookings, payments]
  pages id := by simp only [page?, eventCell?, events]

theorem setEvent {id : EventId} {old cell : EventCell} (found : l.eventCell? id = some old)
    (row : cell.row = old.row) (present : cell.present = old.present) :
    Quiet l (l.setEventCell id cell) where
  books := books_setEventCell_of_shown found (by simp only [EventCell.shown, row, present])
  pages id' := by
    unfold page?
    rw [eventCell?_setEventCell found]
    split
    · rename_i same
      rw [same, found, Option.map_some, Option.map_some, row, present]
    · rfl

theorem setBooking {id : BookingId} {old cell : BookingCell} (found : l.bookingCell? id = some old)
    (row : cell.row = old.row) : Quiet l (l.setBookingCell id cell) where
  books := books_setBookingCell_of_row found row
  pages _ := rfl

theorem relockEvent {id : EventId} {cell : EventCell} (found : l.eventCell? id = some cell)
    (lock : Lock) : Quiet l (l.setEventCell id { cell with lock := lock }) :=
  .setEvent found rfl rfl

theorem relockBooking {id : BookingId} {cell : BookingCell} (found : l.bookingCell? id = some cell)
    (lock : Lock) : Quiet l (l.setBookingCell id { cell with lock := lock }) :=
  .setBooking found rfl

theorem leaveEvent (l : Ledger) (t : Ticket) (id : EventId) : Quiet l (l.leaveEvent t id) := by
  unfold Ledger.leaveEvent
  split
  · exact .refl l
  · rename_i cell found
    exact .setEvent found rfl rfl

theorem leaveBooking (l : Ledger) (t : Ticket) (id : BookingId) :
    Quiet l (l.leaveBooking t id) := by
  unfold Ledger.leaveBooking
  split
  · exact .refl l
  · rename_i cell found
    exact .setBooking found rfl

/-- A call that is given up leaves the rows as they are. -/
theorem abandon (l : Ledger) (t : Ticket) {k : Call.Kind} (stage : Stage k) :
    Quiet l (l.abandon t stage) := by
  cases stage with
  | removing id =>
      simp only [Ledger.abandon]
      split
      · rename_i b rest _
        exact (leaveBooking l t b).trans (leaveEvent _ t id)
      · exact leaveEvent l t id
  | booking id => exact leaveEvent l t id
  | reading id => exact leaveEvent l t id
  | scanning wanted rest =>
      cases rest with
      | nil => exact .refl l
      | cons b rest => exact leaveBooking l t b

theorem asked (l : Ledger) (t : Ticket) (key : Office.RowKey) : Quiet l (l.asked t key) := by
  cases key with
  | event id =>
      simp only [Ledger.asked, acquireEvent]
      split
      · exact .refl l
      · rename_i cell found
        exact .setEvent found rfl rfl
  | booking id =>
      simp only [Ledger.asked, acquireBooking]
      split
      · exact .refl l
      · rename_i cell found
        exact .setBooking found rfl

theorem left (l : Ledger) (t : Ticket) (key : Office.RowKey) : Quiet l (l.left t key) := by
  cases key with
  | event id => exact leaveEvent l t id
  | booking id => exact leaveBooking l t id

theorem persists (quiet : Quiet l l') : Persists l l' where
  gone found := (quiet.pages _).trans found
  shown found := ⟨_, (quiet.pages _).trans found⟩
  listed found := ⟨_, quiet.books ▸ found, rfl⟩

end Quiet

/-! ### Steps that change rows -/

namespace Persists

theorem register (l : Ledger) (d : EventDraft) : Persists l (l.register d).2 where
  gone {id row} found := by
    unfold page? eventCell? at found ⊢
    simp only [Ledger.register, Numbered.get?_append]
    split
    · rename_i next
      simp [next] at found
    · exact found
  shown {id row} found := by
    refine ⟨row, ?_⟩
    unfold page? eventCell? at found ⊢
    simp only [Ledger.register, Numbered.get?_append]
    split
    · rename_i next
      simp [next] at found
    · exact found
  listed found := ⟨_, found, rfl⟩

/-- An event that is not removed has another row. -/
theorem setEvent {id : EventId} {old cell : EventCell} (found : l.eventCell? id = some old)
    (before : old.present = true) (after : cell.present = true) :
    Persists l (l.setEventCell id cell) where
  gone {id' row} at_ := by
    unfold page? at at_ ⊢
    rw [eventCell?_setEventCell found]
    split
    · rename_i same
      simp [same, found, before] at at_
    · exact at_
  shown {id' row} at_ := by
    unfold page? at at_ ⊢
    rw [eventCell?_setEventCell found]
    split
    · exact ⟨cell.row, by rw [Option.map_some, after]⟩
    · exact ⟨row, at_⟩
  listed at_ := ⟨_, at_, rfl⟩

/-- Only the cells of events and bookings matter. -/
theorem of_cells (persists : Persists l l') (events : l''.events = l'.events)
    (bookings : l''.bookings = l'.bookings) : Persists l l'' where
  gone found := by
    simp only [page?, eventCell?, events]
    exact persists.gone found
  shown found := by
    simp only [page?, eventCell?, events]
    exact persists.shown found
  listed found := by
    simp only [Books.booking?, books, bookings]
    exact persists.listed found

theorem trans (first : Persists l l') (second : Persists l' l'') : Persists l l'' where
  gone found := second.gone (first.gone found)
  shown found := by
    obtain ⟨row, found⟩ := first.shown found
    exact second.shown found
  listed found := by
    obtain ⟨booking, found, same⟩ := first.listed found
    obtain ⟨booking', found, same'⟩ := second.listed found
    exact ⟨booking', found, same'.trans same⟩

/-- A booking is added. -/
theorem store (l : Ledger) (booking : BookingCell) :
    Persists l { l with bookings := l.bookings ++ [booking] } where
  gone found := found
  shown found := ⟨_, found⟩
  listed {b _} found := by
    refine ⟨_, ?_, rfl⟩
    rw [booking?_books] at found ⊢
    unfold bookingCell? at found ⊢
    rw [Numbered.get?_append]
    split
    · rename_i next
      simp [next] at found
    · exact found

theorem setBooking {id : BookingId} {old cell : BookingCell} (found : l.bookingCell? id = some old)
    (same : cell.row.publicId = old.row.publicId) : Persists l (l.setBookingCell id cell) where
  gone found := found
  shown found := ⟨_, found⟩
  listed {b booking} at_ := by
    rw [booking?_books] at at_ ⊢
    rw [bookingCell?_setBookingCell found]
    split
    · rename_i own
      rw [own, found] at at_
      cases at_
      exact ⟨cell.row, rfl, same⟩
    · exact ⟨booking, at_, rfl⟩

end Persists

/-! ### Answers that are bound to come -/

/-- Whether a look-up will meet a booking that it wants. -/
def meets (l : Ledger) (wanted : PublicId) (rest : List BookingId) : Bool :=
  rest.any fun b => (l.books.booking? b).any (·.publicId = wanted)

/-- The answer that a look-up is bound to give, whatever happens from now on. -/
def foretold (l : Ledger) : {k : Call.Kind} → Stage k → Option k.Answer
  | _, .removing _ => none
  | _, .booking _ => none
  | _, .reading id =>
    match l.page? id with
    | some (row, false) => some (some row)
    | _ => none
  | _, .scanning wanted rest => if l.meets wanted rest then none else some none

/-- A call has got to a stage of its own, and the rows that it is about exist. -/
inductive Fits (l : Ledger) : {k : Call.Kind} → Call k → Stage k → Prop
  | removing (id : EventId) : Fits l (.remove id) (.removing id)
  | booking (r : Booking.Request) : Fits l (.book r) (.booking r.eventId)
  | reading {id : EventId} (known : (l.page? id).isSome) : Fits l (.findEvent id) (.reading id)
  | scanning {wanted : PublicId} {rest : List BookingId}
      (known : ∀ b ∈ rest, (l.books.booking? b).isSome) :
      Fits l (.findBooking wanted) (.scanning wanted rest)

section Foretold

variable {k : Call.Kind} {call : Call k} {stage : Stage k}

theorem Fits.mono (fits : Fits l call stage)
    (pages : ∀ id, (l.page? id).isSome → (l'.page? id).isSome)
    (bookings : ∀ b, (l.books.booking? b).isSome → (l'.books.booking? b).isSome) :
    Fits l' call stage := by
  cases fits with
  | removing id => exact .removing id
  | booking r => exact .booking r
  | reading known => exact .reading (pages _ known)
  | scanning known => exact .scanning fun b member => bookings b (known b member)

theorem Fits.persists (fits : Fits l call stage) (persists : Persists l l') :
    Fits l' call stage := by
  refine fits.mono (fun id known => ?_) fun b known => ?_
  · obtain ⟨⟨row, present⟩, found⟩ := Option.isSome_iff_exists.mp known
    cases present with
    | true =>
        obtain ⟨row', found'⟩ := persists.shown found
        rw [found']
        rfl
    | false =>
        rw [persists.gone found]
        rfl
  · obtain ⟨booking, found⟩ := Option.isSome_iff_exists.mp known
    obtain ⟨booking', found', -⟩ := persists.listed found
    rw [found']
    rfl

theorem Removes.booking? {id : EventId} {row : EventRow} (removes : Removes l l' id row)
    (b : BookingId) : l'.books.booking? b = l.books.booking? b := by
  simp only [Books.booking?, removes.bookings]

theorem Fits.removes (fits : Fits l call stage) {id : EventId} {row : EventRow}
    (removes : Removes l l' id row) : Fits l' call stage := by
  refine fits.mono (fun id' known => ?_) fun b known => ?_
  · rw [removes.after]
    split
    · rfl
    · exact known
  · rwa [removes.booking?]

theorem meets_of_persists (persists : Persists l l') {wanted : PublicId} {rest : List BookingId}
    (known : ∀ b ∈ rest, (l.books.booking? b).isSome) : l'.meets wanted rest = l.meets wanted rest := by
  induction rest with
  | nil => rfl
  | cons b rest ih =>
      obtain ⟨booking, found⟩ := Option.isSome_iff_exists.mp (known b (List.mem_cons_self ..))
      obtain ⟨booking', found', kept⟩ := persists.listed found
      have others := ih fun b member => known b (List.mem_cons_of_mem _ member)
      simp only [meets, List.any_cons, found, found', Option.any_some, kept] at others ⊢
      rw [others]

/-- What is foretold does not change while rows persist. -/
theorem foretold_of_persists (fits : Fits l call stage) (persists : Persists l l') :
    l'.foretold stage = l.foretold stage := by
  cases fits with
  | removing id => rfl
  | booking r => rfl
  | @reading id known =>
      obtain ⟨⟨row, present⟩, found⟩ := Option.isSome_iff_exists.mp known
      cases present with
      | true =>
          obtain ⟨row', found'⟩ := persists.shown found
          simp only [foretold, found, found']
      | false => simp only [foretold, found, persists.gone found]
  | scanning known => simp only [foretold, meets_of_persists persists known]

theorem foretold_of_quiet (quiet : Quiet l l') (stage : Stage k) :
    l'.foretold stage = l.foretold stage := by
  cases stage with
  | removing id => rfl
  | booking id => rfl
  | reading id => simp only [foretold, quiet.pages]
  | scanning wanted rest =>
      have same : l'.meets wanted rest = l.meets wanted rest := by simp only [meets, quiet.books]
      simp only [foretold, same]

theorem meets_of_removes {id : EventId} {row : EventRow} (removes : Removes l l' id row)
    (wanted : PublicId) (rest : List BookingId) : l'.meets wanted rest = l.meets wanted rest := by
  simp only [meets, removes.booking?]

/-- A removal leaves what is foretold. -/
theorem foretold_of_removes {id : EventId} {row : EventRow} (removes : Removes l l' id row)
    {answer : k.Answer} (bound : l.foretold stage = some answer) :
    l'.foretold stage = some answer := by
  cases stage with
  | removing id => exact bound
  | booking id => exact bound
  | reading id' =>
      simp only [foretold] at bound ⊢
      by_cases same : id' = id
      · rw [same, removes.before] at bound
        cases bound
      · rwa [removes.after, if_neg same]
  | scanning wanted rest =>
      simp only [foretold, meets_of_removes removes]
      exact bound

theorem row?_of_page {id : EventId} {row : EventRow} (found : l.page? id = some (row, true)) :
    l.books.row? id = some row := by
  unfold page? at found
  obtain ⟨cell, at_, same⟩ := Option.map_eq_some_iff.mp found
  obtain ⟨rfl, present⟩ := Prod.mk.inj same
  exact row?_of_present at_ present

/-- Whoever is bound by a removal waits for the row of the event, and is bound to
answer what was right just before. -/
theorem outcome_of_removes {id : EventId} {row : EventRow} (removes : Removes l l' id row)
    (fits : Fits l call stage) {answer : k.Answer} (unbound : l.foretold stage = none)
    (bound : l'.foretold stage = some answer) (now : Timestamp) :
    (answer, l.books) ∈ l.books.outcomes now call := by
  cases fits with
  | removing id => cases bound
  | booking r => cases bound
  | @reading id' known =>
      simp only [foretold] at bound unbound
      by_cases same : id' = id
      · rw [removes.after, if_pos same] at bound
        cases bound
        simp [Books.outcomes, same, row?_of_page removes.before]
      · rw [removes.after, if_neg same, unbound] at bound
        cases bound
  | scanning known =>
      simp only [foretold, meets_of_removes removes] at bound unbound
      rw [bound] at unbound
      cases unbound

end Foretold

/-! ### Effects -/

/-- What a step of a call may mean. `bound` is the answer that the call was bound
to give before the step, if there was one. -/
inductive Effect (l : Ledger) (now : Timestamp) {k : Call.Kind} (call : Call k)
    (bound : Option k.Answer) : Progress k × Ledger → Prop
  /-- The call goes on, bound as it was. -/
  | goesOn {stage : Stage k} {l' : Ledger} (quiet : Quiet l l') (fits : Fits l' call stage)
      (same : l'.foretold stage = bound) : Effect l now call bound (.further stage, l')
  /-- The call goes on, bound from now on to an answer that is right now. -/
  | binds {stage : Stage k} {l' : Ledger} {answer : k.Answer} (quiet : Quiet l l')
      (fits : Fits l' call stage) (unbound : bound = none) (binds : l'.foretold stage = some answer)
      (outcome : (answer, l.books) ∈ l.books.outcomes now call) :
      Effect l now call bound (.further stage, l')
  /-- The call is refused for a cause that may pass. -/
  | refused {answer : k.Answer} {l' : Ledger} (quiet : Quiet l l') (unbound : bound = none)
      (passing : Call.Kind.isPassing answer = true) :
      Effect l now call bound (.done answer, l')
  /-- The call does what it would do if it had the ledger for itself. -/
  | took {answer : k.Answer} {l' : Ledger} (unbound : bound = none)
      (outcome : (answer, l'.books) ∈ l.books.outcomes now call) (persists : Persists l l') :
      Effect l now call bound (.done answer, l')
  /-- The call removes an event, as it would do if it had the ledger for itself. -/
  | removed {answer : k.Answer} {l' : Ledger} {id : EventId} {row : EventRow}
      (unbound : bound = none) (outcome : (answer, l'.books) ∈ l.books.outcomes now call)
      (removes : Removes l l' id row) : Effect l now call bound (.done answer, l')
  /-- The call gives the answer that it was bound to. -/
  | late {answer : k.Answer} {l' : Ledger} (quiet : Quiet l l') (answered : bound = some answer)
      (unpassing : Call.Kind.isPassing answer = false) :
      Effect l now call bound (.done answer, l')

section Effects

variable {k : Call.Kind} {call : Call k} {now : Timestamp}

/-- A step that leaves the rows as they are and answers what the books say. -/
theorem Effect.of_quiet {answer : k.Answer} (quiet : Quiet l l')
    (outcome : (answer, l.books) ∈ l.books.outcomes now call) :
    Effect l now call none (.done answer, l') := by
  refine .took rfl ?_ quiet.persists
  rwa [quiet.books]

theorem books_register (l : Ledger) (d : EventDraft) :
    (l.register d).2.books = l.books.registered d ∧ (l.register d).1 = l.books.firstRow d := by
  simp [Ledger.register, books, Books.registered, Books.firstRow, EventCell.shown,
    Numbered.next_map]

theorem bookingOf_eq (l : Ledger) (r : Booking.Request) (row : EventRow) (now : Timestamp) :
    l.bookingOf r row now = l.books.newBooking r row now := by
  simp [bookingOf, Books.newBooking, books, Numbered.next_map]

theorem books_stored (l : Ledger) (id : EventId) (cell : EventCell) (booking : Booking) :
    Ledger.books { l.setEventCell id cell with bookings := l.bookings ++ [⟨booking, .free⟩] } =
      { l.books.setRow id cell.shown with bookings := l.books.bookings ++ [booking] } := by
  simp [books, setEventCell, Books.setRow, Numbered.map_set]

theorem books_paid (l : Ledger) (id : BookingId) (cell : BookingCell) (p : Payment) :
    Ledger.books { l.setBookingCell id cell with payments := l.payments ++ [p] } =
      { l.books.setBooking id cell.row with payments := l.books.payments ++ [p] } := by
  simp [books, setBookingCell, Books.setBooking, Numbered.map_set]

/-- When a look-up among all bookings will not meet what it wants, there is no
such booking. -/
theorem findBooking_of_not_meets {order : List BookingId} (numbered : l.books.IsNumbered)
    (all : order.Perm l.bookingIds) {wanted : PublicId} (misses : l.meets wanted order = false) :
    l.books.findBooking wanted = [none] := by
  have none_ : l.books.bookings.filter (·.publicId = wanted) = [] := by
    refine List.filter_eq_nil_iff.mpr fun booking member same => ?_
    have listed : booking.id ∈ order := by
      refine all.mem_iff.mpr ?_
      obtain ⟨cell, at_, rfl⟩ := List.mem_map.mp member
      exact List.mem_map_of_mem at_
    refine Bool.false_ne_true (misses.symm.trans (List.any_eq_true.mpr ⟨_, listed, ?_⟩))
    rw [numbered.booking?_id member]
    exact same
  simp only [Books.findBooking, none_]

/-- A look-up may answer every booking that has the identifier. -/
theorem mem_findBooking {b : Books} {wanted : PublicId} {booking : Booking}
    (listed : booking ∈ b.bookings.filter (·.publicId = wanted)) :
    some booking ∈ b.findBooking wanted := by
  unfold Books.findBooking
  split
  · rename_i none_
    rw [none_] at listed
    cases listed
  · exact List.mem_map_of_mem listed

/-- Every first step of a call has one of the effects. -/
theorem effect_of_started {order : List BookingId} {result : Progress k × Ledger}
    (step : Started l t order now call result) (numbered : l.books.IsNumbered)
    (all : order.Perm l.bookingIds) : Effect l now call none result := by
  cases step with
  | registered d =>
      obtain ⟨written, row⟩ := books_register l d
      refine .took rfl ?_ (.register l d)
      simp [Books.outcomes, written, row]
  | answered outcome => exact .of_quiet (.refl l) outcome
  | passing passing => exact .refused (.refl l) rfl passing
  | @revised id r cell found free fits =>
      obtain ⟨at_, present⟩ := presentCell?_eq_some.mp found
      refine .took rfl ?_ (.setEvent at_ present present)
      have written := row?_of_presentCell? found
      simp [Books.outcomes, Books.revise, written, Nat.not_lt.mpr fits, books_setEventCell,
        EventCell.shown, present]
  | removing found free =>
      obtain ⟨at_, -⟩ := presentCell?_eq_some.mp found
      exact .goesOn (.setEvent at_ rfl rfl) (.removing _) rfl
  | booking found free enough =>
      obtain ⟨at_, -⟩ := presentCell?_eq_some.mp found
      exact .goesOn (.setEvent at_ rfl rfl) (.booking _) rfl
  | @reading id cell found =>
      obtain ⟨at_, present⟩ := presentCell?_eq_some.mp found
      have page : l.page? id = some (cell.row, true) := by simp [page?, at_, present]
      refine .goesOn (.refl l) (.reading (by simp [page])) ?_
      simp only [foretold, page]
  | @scanning wanted =>
      have known (b : BookingId) (member : b ∈ order) : (l.books.booking? b).isSome := by
        obtain ⟨cell, at_, rfl⟩ := List.mem_map.mp (all.mem_iff.mp member)
        have listed : cell.row ∈ l.books.bookings := List.mem_map_of_mem at_
        rw [numbered.booking?_id listed]
        rfl
      cases meets : l.meets wanted order with
      | true => exact .goesOn (.refl l) (.scanning known) (by simp [foretold, meets])
      | false =>
          have bound : l.foretold (.scanning wanted order) = some none := by
            simp [foretold, meets]
          refine .binds (.refl l) (.scanning known) rfl bound ?_
          simp [Books.outcomes, findBooking_of_not_meets numbered all meets]
  | @settled d cell payment found pending stored =>
      subst stored
      have kept : Persists l (l.setBookingCell d.bookingId
          { cell with row := { cell.row with status := d.status.settles } }) :=
        .setBooking found rfl
      refine .took rfl ?_ (kept.of_cells rfl rfl)
      · have written : l.books.booking? d.bookingId = some cell.row := by
          rw [booking?_books, found]
          rfl
        have may : cell.row.status.mayBecome d.status.settles = true := by
          rw [pending]
          cases d.status <;> rfl
        rw [books_paid]
        simp [Books.outcomes, Books.settle, written, may, Books.settled, Books.newPayment]

/-! ### Further steps, by kind of call -/

/-- A removal that meets a booking of its event is refused, as it would be at once. -/
theorem effect_of_inUse {id : EventId} {cell : EventCell} {b : BookingId} {booking : BookingCell}
    (at_ : l.eventCell? id = some cell) (present : cell.present = true)
    (found : l.bookingCell? b = some booking) (uses : booking.row.eventId = id) :
    Effect l now (.remove id) none (.done (.error (.eventInUse id)),
      (l.setEventCell id (cell.closed cell.row)).setBookingCell b
        { booking with lock := (booking.lock.visit t).2 }) := by
  have closed : Quiet l (l.setEventCell id (cell.closed cell.row)) := .setEvent at_ rfl rfl
  refine .of_quiet (closed.trans (.setBooking found rfl)) ?_
  have written := row?_of_present at_ present
  have used : l.books.bookings.any (·.eventId = id) = true := by
    have listed : booking.row ∈ l.books.bookings :=
      List.mem_map_of_mem (Numbered.mem_of_get? found)
    exact List.any_eq_true.mpr ⟨booking.row, listed, by simpa using uses⟩
  simp [Books.outcomes, Books.remove, written, used]

/-- A removal that has looked at all bookings takes out an event that none is for. -/
theorem effect_of_removed {id : EventId} {cell : EventCell} (at_ : l.eventCell? id = some cell)
    (present : cell.present = true)
    (unused : ∀ (b : BookingId) (booking : BookingCell), l.bookingCell? b = some booking →
      booking.row.eventId ≠ id) :
    Effect l now (.remove id) none (.done (.ok cell.row),
      l.setEventCell id { cell.closed cell.row with present := false }) := by
  have removes : Removes l
      (l.setEventCell id { cell.closed cell.row with present := false }) id cell.row := by
    refine ⟨?_, fun id' => ?_, rfl⟩
    · simp [page?, at_, present]
    · unfold page?
      rw [eventCell?_setEventCell at_]
      split <;> rfl
  refine .removed rfl ?_ removes
  have written := row?_of_present at_ present
  have free : l.books.bookings.any (·.eventId = id) = false := by
    refine List.any_eq_false.mpr fun booking member uses => ?_
    obtain ⟨c, listed, rfl⟩ := List.mem_map.mp member
    obtain ⟨n, found⟩ := Numbered.exists_get?_of_mem listed
    exact unused ⟨n⟩ c found (by simpa using uses)
  simp [Books.outcomes, Books.remove, written, free, books_setEventCell, EventCell.shown]

theorem effect_of_removing {calls : Ticket → Option Pending} {id : EventId}
    {result : Progress .row × Ledger} (kept : Custody l calls)
    (step : Resumed l t now (.removing id) result) : Effect l now (.remove id) none result := by
  -- While the removal goes on, it has one booking less to look at, or waits for a row.
  have goes_on {l' : Ledger} (quiet : Quiet l l') :
      Effect l now (.remove id) none (.further (.removing id), l') :=
    .goesOn quiet (.removing id) rfl
  cases step with
  | idle => exact goes_on (.refl l)
  | unknown held absent =>
      obtain ⟨at_, -, -⟩ := transactionOf?_eq_some.mp held
      exact goes_on (.setEvent at_ rfl rfl)
  | waiting held found => exact goes_on (.relockBooking found _)
  | inUse held found uses =>
      obtain ⟨at_, -, open_⟩ := transactionOf?_eq_some.mp held
      exact effect_of_inUse at_ (kept _ _ _ at_ open_).present found uses
  | @passed _ cell b rest booking held found other =>
      obtain ⟨at_, -, -⟩ := transactionOf?_eq_some.mp held
      have later : Quiet l (l.setEventCell id { cell with transaction := some (.removal rest) }) :=
        .setEvent at_ rfl rfl
      exact goes_on (later.trans (.setBooking found rfl))
  | removed held =>
      obtain ⟨at_, _, open_⟩ := transactionOf?_eq_some.mp held
      obtain ⟨present, _, _, _, _, owned⟩ := kept _ _ _ at_ open_
      refine effect_of_removed at_ present fun b booking found uses => ?_
      cases owned with
      | removal ahead => cases ahead b booking found uses

theorem effect_of_booking {calls : Ticket → Option Pending} {r : Booking.Request} {began : Nat}
    {result : Progress .receipt × Ledger} (kept : Custody l calls)
    (pending : calls t = some ⟨.book r, .booking r.eventId, began⟩)
    (step : Resumed l t now (.booking r.eventId) result) :
    Effect l now (.book r) none result := by
  cases step with
  | idle => exact .goesOn (.refl l) (.booking r) rfl
  | @failed _ cell _ held =>
      obtain ⟨at_, -, -⟩ := transactionOf?_eq_some.mp held
      have closed : Quiet l (l.setEventCell r.eventId (cell.closed cell.row)) := .setEvent at_ rfl rfl
      exact .refused (closed.trans (.of_rows rfl rfl rfl)) rfl rfl
  | @committed _ cell r' held =>
      obtain ⟨at_, holds, open_⟩ := transactionOf?_eq_some.mp held
      obtain ⟨present, u, p, holds', pending', owned⟩ := kept _ _ _ at_ open_
      obtain rfl : u = t := Option.some.inj (holds'.symm.trans holds)
      rw [pending] at pending'
      cases pending'
      cases owned with
      | booking same enough =>
          have taken : Persists l
              (l.setEventCell r.eventId (cell.closed (cell.row.withSeatsTaken r.seats))) :=
            .setEvent at_ present present
          have stored := taken.trans (.store _ ⟨l.bookingOf r cell.row now, .free⟩)
          refine .took rfl ?_ stored
          have written := row?_of_present at_ present
          rw [books_stored, bookingOf_eq]
          simp [Books.outcomes, Books.book, written, Nat.not_lt.mpr enough, Books.booked,
            Books.newBooking, EventCell.shown, EventCell.closed, present]

/-- A look-up that has waited for an event's row shows it as it was. -/
theorem effect_of_reading {id : EventId} {result : Progress .event × Ledger}
    (fits : Fits l (.findEvent id) (.reading id)) (step : Resumed l t now (.reading id) result) :
    Effect l now (.findEvent id) (l.foretold (.reading id)) result := by
  cases step with
  | idle => exact .goesOn (.refl l) fits rfl
  | @unread _ cell found =>
      have quiet := Quiet.relockEvent found (cell.lock.visit t).2
      exact .goesOn quiet (fits.persists quiet.persists) (foretold_of_quiet quiet _)
  | @read _ cell found =>
      cases present : cell.present with
      | true =>
          have unbound : l.foretold (.reading id) = none := by
            simp [foretold, page?, found, present]
          rw [unbound]
          refine .of_quiet (.setEvent found rfl present.symm) ?_
          simp [Books.outcomes, row?_of_present found present]
      | false =>
          refine .late (.setEvent found rfl present.symm) ?_ rfl
          simp [foretold, page?, found, present]

theorem effect_of_scanning {wanted : PublicId} {rest : List BookingId}
    {result : Progress .booking × Ledger} (known : ∀ b ∈ rest, (l.books.booking? b).isSome)
    (step : Resumed l t now (.scanning wanted rest) result) :
    Effect l now (.findBooking wanted) (l.foretold (.scanning wanted rest)) result := by
  have fits : Fits l (.findBooking wanted) (.scanning wanted rest) := .scanning known
  cases step with
  | idle => exact .goesOn (.refl l) fits rfl
  | exhausted => exact .late (.refl l) rfl rfl
  | @met _ b rest cell found same =>
      have written : l.books.booking? b = some cell.row := by
        rw [booking?_books, found]
        rfl
      have unbound : l.foretold (.scanning wanted (b :: rest)) = none := by
        simp [foretold, meets, written, same]
      rw [unbound]
      have listed : cell.row ∈ l.books.bookings.filter (·.publicId = wanted) :=
        List.mem_filter.mpr ⟨Books.mem_of_booking? written, by simpa using same⟩
      exact .of_quiet (.setBooking found rfl) (List.mem_map_of_mem (mem_findBooking listed))
  | @skipped _ b rest cell found other =>
      have quiet := Quiet.relockBooking found (cell.lock.visit t).2
      have written : l.books.booking? b = some cell.row := by
        rw [booking?_books, found]
        rfl
      have fits : Fits l (.findBooking wanted) (.scanning wanted rest) :=
        .scanning fun b member => known b (List.mem_cons_of_mem _ member)
      refine .goesOn quiet (fits.persists quiet.persists) ?_
      rw [foretold_of_quiet quiet]
      simp [foretold, meets, written, other]
  | @unseen _ b rest cell found =>
      have quiet := Quiet.relockBooking found (cell.lock.visit t).2
      exact .goesOn quiet (fits.persists quiet.persists) (foretold_of_quiet quiet _)

/-- Every further step of a call that keeps custody has one of the effects. -/
theorem effect_of_resumed {calls : Ticket → Option Pending} {stage : Stage k} {began : Nat}
    {result : Progress k × Ledger} (kept : Custody l calls)
    (pending : calls t = some ⟨call, stage, began⟩) (fits : Fits l call stage)
    (step : Resumed l t now stage result) : Effect l now call (l.foretold stage) result := by
  cases fits with
  | removing id => exact effect_of_removing kept step
  | booking r => exact effect_of_booking kept pending step
  | reading known => exact effect_of_reading (.reading known) step
  | scanning known => exact effect_of_scanning known step

/-- A step of a call does to the books nothing, or what its call does to them if
it has the ledger for itself. -/
theorem Effect.books {bound : Option k.Answer} {result : Progress k × Ledger}
    (effect : Effect l now call bound result) :
    result.2.books = l.books ∨
      ∃ answer, (answer, result.2.books) ∈ l.books.outcomes now call := by
  cases effect with
  | goesOn quiet => exact .inl quiet.books
  | binds quiet => exact .inl quiet.books
  | refused quiet => exact .inl quiet.books
  | took _ outcome => exact .inr ⟨_, outcome⟩
  | removed _ outcome => exact .inr ⟨_, outcome⟩
  | late quiet => exact .inl quiet.books

theorem Effect.change {bound : Option k.Answer} {result : Progress k × Ledger}
    (effect : Effect l now call bound result) : Books.Change l.books result.2.books := by
  rcases effect.books with same | ⟨answer, outcome⟩
  · rw [same]
    exact .unchanged
  · exact Books.change_of_outcome outcome

/-- A step of one call leaves every other call with the rows that it is about. -/
theorem Effect.fits {bound : Option k.Answer} {result : Progress k × Ledger}
    (effect : Effect l now call bound result) {k' : Call.Kind} {call' : Call k'}
    {stage : Stage k'} (fits : Fits l call' stage) : Fits result.2 call' stage := by
  cases effect with
  | goesOn quiet => exact fits.persists quiet.persists
  | binds quiet => exact fits.persists quiet.persists
  | refused quiet => exact fits.persists quiet.persists
  | took _ _ persists => exact fits.persists persists
  | removed _ _ removes => exact fits.removes removes
  | late quiet => exact fits.persists quiet.persists

end Effects

end BoxOffice.Ledger
