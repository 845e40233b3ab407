import BoxOffice.Proofs.Ledger.Lookups
import BoxOffice.Proofs.Office.Copies
import BoxOffice.Proofs.Office.Hours
import BoxOffice.Proofs.Office.Names
import BoxOffice.Proofs.Office.Settlement
import BoxOffice.Proofs.Office.Unheld

/-!
# Bookings can be read back

A booking that a request for seats was answered with stays in the books, with
nothing changed but its status, under an identifier that no other booking has. Its
event stays there as well. The request was told the identifier of the event by a
snapshot, and a look-up is told it by the row: both are the one that the event was
registered with. A look-up waits only for rows that somebody else holds, and that of a
booking nobody holds who has not asked for it from outside.
-/

namespace BoxOffice.Office

open Ledger (Ticket Books Stage Progress)

/-! ### Bookings that were made -/

/-- A request for seats was answered with a booking in the turns of a run. -/
inductive Grants (turns : List Turn) (view : Booking.View) : Prop
  | intro {before after : List Turn} {event user : PublicId} {seats : Nat} {o₁ o₂ : Office}
      {y : Turn} (asked : turns = before ++ ⟨.ask (.create event user seats), o₁, o₂⟩ :: after)
      (member : y ∈ after)
      (answered : Keyed.get? o₁.tickets y.after.answers = some (.booking (.ok view)))

/-- A turn has stored a booking, and another has found its event in the snapshots, which
know it by an identifier. -/
structure IsMade (turns : List Turn) (b : Booking) (event : PublicId) : Prop where
  found : ∃ x ∈ turns, ∃ wanted seats known, x.FindsEvent wanted seats known ∧
    known.id = b.eventId ∧ known.publicId = event
  stored : ∃ x ∈ turns, ∃ r row sold, x.Stores r row sold b

/-- A booking is in the books, with nothing changed but its status, and so is its event.
No other booking has its identifier. -/
structure Remembers (o : Office) (b : Booking) (event : PublicId) : Prop where
  booking : ∃ status, o.ledger.books.booking? b.id = some { b with status := status }
  sole : (o.ledger.books.bookings.map (·.publicId)).Nodup
  event : ∃ row, o.ledger.books.row? b.eventId = some row ∧ row.publicId = event
  once : o.ledger.books.IsSettledOnce

/-- Seats are booked through the service alone, snapshots of events are fed by the messages
about them alone, and identifiers have not gone round. -/
structure IsRegular (first : Office) (turns : List Turn) (o : Office) : Prop where
  idle : ∀ c ∈ first.consumers, c.stage = .subscribing
  genuine : ∀ x ∈ turns, x.move.IsGenuine x.before
  served : IsServed turns
  few : o.idsDrawn ≤ 2 ^ 64

section Runs

variable {first o : Office} {turns : List Turn} {view : Booking.View} {b : Booking}
  {event : PublicId}

/-- A regular run was regular up to its last turn. -/
theorem IsRegular.init {o' : Office} {m : Move} (run : Run first turns o) (new : IsNew first)
    (moved : m.apply o = some o') (regular : IsRegular first (turns ++ [⟨m, o, o'⟩]) o') :
    IsRegular first turns o := by
  have served : IsServed turns := fun x member => regular.served x (List.mem_append_left _ member)
  have grown := (run.named new served).idsDrawn_le (run.isBacked new.isBacked).1 moved
  exact ⟨regular.idle, fun x member => regular.genuine x (List.mem_append_left _ member), served,
    Nat.le_trans grown regular.few⟩

/-- A request that gets on and draws no identifier leaves a run regular. -/
theorem IsRegular.play {o' : Office} {t : Ticket} {more : List Turn}
    (regular : IsRegular first turns o) (own : ∀ x ∈ more, x.move = .turn (.caller t))
    (ids : o'.idsDrawn = o.idsDrawn) : IsRegular first (turns ++ more) o' := by
  refine ⟨regular.idle, fun x member => ?_, fun x member => ?_, ids ▸ regular.few⟩
  · rcases List.mem_append.mp member with there | later
    · exact regular.genuine x there
    · rw [own x later]
      trivial
  · rcases List.mem_append.mp member with there | later
    · exact regular.served x there
    · rw [own x later]
      rfl

theorem IsMade.mono {more : List Turn} (made : IsMade turns b event) :
    IsMade (turns ++ more) b event := by
  obtain ⟨⟨x, there, found⟩, y, there', stored⟩ := made
  exact ⟨⟨x, List.mem_append_left _ there, found⟩, y, List.mem_append_left _ there', stored⟩

/-- Whoever was answered with a booking has made it. -/
theorem Run.made (run : Run first turns o) (new : IsNew first) (grants : Grants turns view) :
    ∃ b event, view = b.view event ∧ IsMade turns b event := by
  obtain @⟨before, after, wanted, user, seats, o₁, o₂, y, asked, member, answered⟩ := grants
  obtain ⟨mid, rest, rfl⟩ := List.append_of_mem member
  subst asked
  rw [← List.cons_append, ← List.append_assoc] at run
  obtain ⟨reached, moved, -⟩ := run.split
  obtain ⟨-, tells⟩ := (reached.next moved).createsOnce new
    (List.append_assoc before (_ :: mid) [y])
  have course := tells _ answered
  have mine {x : Turn} (own : x ∈ ownTurns o₁.tickets (mid ++ [y])) : x ∈
      before ++ ⟨.ask (.create wanted user seats), o₁, o₂⟩ :: (mid ++ y :: rest) := by
    have there : x ∈ mid ++ [y] := (List.mem_filter.mp own).1
    simp only [List.mem_append, List.mem_cons, List.not_mem_nil, or_false] at there ⊢
    tauto
  generalize ownTurns o₁.tickets (mid ++ [y]) = own at course mine
  cases course with
  | @booked x x' commit announce hand tries known r row sold b first second vain stores =>
      refine ⟨b, known.publicId, rfl, ⟨x, mine (by simp), wanted, seats, known, first, ?_, rfl⟩,
        commit, mine (by simp), r, row, sold, stores⟩
      exact second.event.symm.trans stores.event.symm

/-- What a request was told of an event is what its row says, as both are of one
history. -/
theorem Run.namesEvent (run : Run first turns o) (new : IsNew first)
    (regular : IsRegular first turns o) {x : Turn} (there : x ∈ turns)
    {wanted : PublicId} {seats : Nat} {known : EventSnapshot}
    (finds : x.FindsEvent wanted seats known) {row : EventRow}
    (at_ : o.ledger.books.row? known.id = some row) : row.publicId = known.publicId := by
  obtain ⟨before, after, rfl⟩ := List.append_of_mem there
  obtain ⟨earlier, -, -⟩ := run.split
  obtain ⟨⟨id, s⟩, stored, rfl⟩ := Option.map_eq_some_iff.mp finds.found
  have copy := earlier.storesCopies new regular.idle
    (fun x member => regular.genuine x (List.mem_append_left _ member))
    (List.mem_of_find?_eq_some stored)
  obtain ⟨old, listed, -⟩ := copy.commit
  obtain ⟨told, chronicle, -⟩ := run.reflects new regular.idle regular.genuine
  have account := chronicle.account id
  rw [← copy.about, at_] at account
  have mine : old ∈ history s.id (before ++ x :: after) := by
    rw [copy.about, history, List.filterMap_append]
    exact List.mem_append_left _ listed
  exact (account.current.2.2.2 old mine).symm.trans (copy.publicId old listed)

/-- A booking that was made is there with its event, and no other has its identifier. -/
theorem Run.remembers (run : Run first turns o) (new : IsNew first)
    (regular : IsRegular first turns o) (made : IsMade turns b event) : o.Remembers b event := by
  obtain ⟨⟨x, there, wanted, seats, known, finds, about, rfl⟩, y, there', _, _, _, stores⟩ := made
  obtain ⟨status, found⟩ := run.stores new there' stores
  refine ⟨⟨status, found⟩, (run.named new regular.served).nodup regular.few, ?_,
    run.settledOnce new⟩
  obtain ⟨w, reachable, has⟩ := (run.isBacked new.isBacked).1.traffic
  have placed := reachable.conserved.placed _ (Books.mem_of_booking? (has.ledger ▸ found))
  rw [has.ledger] at placed
  obtain ⟨row, at_⟩ := Option.isSome_iff_exists.mp placed
  exact ⟨row, at_, run.namesEvent new regular there finds (about ▸ at_)⟩

end Runs

section Books

variable {o : Office} {b : Booking} {event : PublicId}

/-- A booking that is remembered is shown by the books. -/
theorem Remembers.shows (remembers : o.Remembers b event) {status : Booking.Status}
    (found : o.ledger.books.booking? b.id = some { b with status := status }) :
    o.ledger.books.Shows { b.view event with status := status } := by
  obtain ⟨row, at_, named⟩ := remembers.event
  refine ⟨{ b with status := status }, row, ?_, at_, ?_, remembers.once.paid found⟩
  · exact Books.filter_of_nodup remembers.sole (Books.mem_of_booking? found)
  · rw [named]
    rfl

/-- Whoever has the identifier of a booking that is remembered is that booking. -/
theorem Remembers.eq_of_publicId (remembers : o.Remembers b event) {status : Booking.Status}
    (found : o.ledger.books.booking? b.id = some { b with status := status }) {other : Booking}
    (member : other ∈ o.ledger.books.bookings) (same : other.publicId = b.publicId) :
    other = { b with status := status } :=
  List.inj_on_of_nodup_map remembers.sole member (Books.mem_of_booking? found) same

end Books

/-! ### Look-ups -/

/-- An answer is what the books have shown in one of the turns. -/
def IsShown (view : Booking.View) (own : List Turn) (answer : Answer) : Prop :=
  ∃ x ∈ own, ∃ status, x.before.ledger.books.Shows { view with status := status } ∧
    answer = .booking (.ok { view with status := status })

/-- Where the look-up of a booking stands after its turns so far: it has the booking
ahead, or has seen it and is to see its event. -/
inductive Seeks (t : Ticket) (b : Booking) (event : PublicId) (own : List Turn) (o : Office) : Prop
  | asked (at_ : o.task? t = some (.asked (.find b.publicId)))
  | scanning {rest : List BookingId} {due : Nat}
      (at_ : o.task? t = some
        (.atLedger .booking (.scanning b.publicId rest) due (.lookUp b.publicId)))
      (past : due ≤ o.now) (ahead : b.id ∈ rest) (once : rest.Nodup)
  | reading {status : Booking.Status} {due : Nat}
      (at_ : o.task? t = some
        (.atLedger .event (.reading b.eventId) due (.view { b with status := status })))
      (past : due ≤ o.now)
      (seen : ∃ x ∈ own, x.before.ledger.books.Shows { b.view event with status := status })

/-- A look-up is on its way, or nothing is left to do for it and its answer is right. -/
inductive Finds (t : Ticket) (b : Booking) (event : PublicId) (own : List Turn) (o : Office) : Prop
  | seeks (seeks : Seeks t b event own o) (unanswered : Keyed.get? t o.answers = none)
  | gone (idle : o.task? t = none)
      (right : ∀ answer, Keyed.get? t o.answers = some answer → IsShown (b.view event) own answer)

section Steps

variable {t : Ticket} {b : Booking} {event : PublicId} {own : List Turn} {o o' : Office} {m : Move}

/-- A look-up that is answered with what was shown. -/
theorem Finds.finished {status : Booking.Status}
    (seen : ∃ x ∈ own, x.before.ledger.books.Shows { b.view event with status := status }) :
    Finds t b event own (o.finish t (.booking (.ok { b.view event with status := status }))) := by
  refine .gone (task?_finish o t _) fun answer answered => ?_
  cases (Keyed.get?_put_self t _ o.answers).symm.trans answered
  obtain ⟨x, member, shown⟩ := seen
  exact ⟨x, member, status, shown, rfl⟩

/-- The turns of a look-up. -/
theorem Finds.stepTask (backed : IsBacked o) (remembers : o.Remembers b event)
    (seeks : Seeks t b event own o) (unanswered : Keyed.get? t o.answers = none) (m : Move)
    {task : Task} (at_ : o.task? t = some task) (step : o.stepTask t task = some o') :
    Finds t b event (own ++ [⟨m, o, o'⟩]) o' := by
  obtain ⟨status, found⟩ := remembers.booking
  obtain ⟨row, written, named⟩ := remembers.event
  cases seeks with
  | asked at_' =>
      cases at_.symm.trans at_'
      cases step
      have all := backed.scans o.ledger.bookingIds
      simp only [begin, call_eq, Ledger.start]
      refine .seeks (.scanning (task?_setTask _ t _) (Nat.le_refl _) ?_ ?_) unanswered
      · rw [all.mem_iff, Ledger.bookingIds_eq]
        exact List.mem_map.mpr ⟨_, Books.mem_of_booking? found, rfl⟩
      · rw [all.nodup_iff, Ledger.bookingIds_eq]
        exact backed.numbered.nodup_ids
  | @scanning rest due at_' past ahead once =>
      cases at_.symm.trans at_'
      have resumed := Ledger.resumed o.ledger t o.clock (.scanning b.publicId rest)
      have events := resumed.events
      have came := resumed.scanned found rfl
        (fun other member same => remembers.eq_of_publicId found member same) ahead once
      have seen : ∃ x ∈ own ++ [⟨m, o, o'⟩],
          x.before.ledger.books.Shows { b.view event with status := status } :=
        ⟨_, List.mem_concat_self, remembers.shows found⟩
      rw [stepTask_atLedger step] at seen ⊢
      generalize o.ledger.resume t o.clock (.scanning b.publicId rest) = result at events came seen
      obtain ⟨progress, l⟩ := result
      rcases came with rfl | ⟨rest', rfl, ahead', once'⟩
      · have written : l.books.row? b.eventId = some row := by
          unfold Books.row? Ledger.books at written ⊢
          rw [events]
          exact written
        simp only [carriedOn, deliver, Ledger.start_findEvent_of_row written] at seen ⊢
        exact .seeks (.reading (task?_setTask _ t _) (Nat.le_refl _) seen) unanswered
      · exact .seeks (.scanning (task?_setTask _ t _) past ahead' once') unanswered
  | @reading status' due at_' past seen =>
      cases at_.symm.trans at_'
      have came := (Ledger.resumed o.ledger t o.clock (.reading b.eventId)).reads written
      have seen : ∃ x ∈ own ++ [⟨m, o, o'⟩],
          x.before.ledger.books.Shows { b.view event with status := status' } := by
        obtain ⟨x, member, shown⟩ := seen
        exact ⟨x, List.mem_append_left _ member, shown⟩
      rw [stepTask_atLedger step] at seen ⊢
      generalize o.ledger.resume t o.clock (.reading b.eventId) = result at came seen
      obtain ⟨progress, l⟩ := result
      rcases came with rfl | rfl
      · have shows : Booking.view { b with status := status' } row.publicId =
            { b.view event with status := status' } := by
          rw [named]
          rfl
        simp only [carriedOn, deliver, deliver.view, shows] at seen ⊢
        exact .finished seen
      · exact .seeks (.reading (task?_setTask _ t _) past seen) unanswered

theorem Finds.right (finds : Finds t b event own o) (answer : Answer)
    (answered : Keyed.get? t o.answers = some answer) : IsShown (b.view event) own answer := by
  cases finds with
  | seeks _ unanswered => cases unanswered.symm.trans answered
  | gone _ right => exact right answer answered

/-- What others do leaves a look-up where it is. -/
theorem Seeks.congr (seeks : Seeks t b event own o) (same : o'.task? t = o.task? t)
    (forward : o.now ≤ o'.now) : Seeks t b event own o' := by
  cases seeks with
  | asked at_ => exact .asked (same.trans at_)
  | scanning at_ past ahead once =>
      exact .scanning (same.trans at_) (Nat.le_trans past forward) ahead once
  | reading at_ past seen => exact .reading (same.trans at_) (Nat.le_trans past forward) seen

theorem Finds.keep (finds : Finds t b event own o) (known : t < o.tickets) (keeps : Keeps t o o')
    (forward : o.now ≤ o'.now) : Finds t b event own o' := by
  have answered (answer : Answer) (found : Keyed.get? t o'.answers = some answer) :
      Keyed.get? t o.answers = some answer := by
    rcases keeps.answer with same | taken
    · exact same.symm.trans found
    · cases taken.symm.trans found
  cases finds with
  | seeks seeks unanswered =>
      rcases keeps.task? known with same | gone
      · refine .seeks (seeks.congr same forward) ?_
        rcases keeps.answer with same | taken
        · exact same.trans unanswered
        · exact taken
      · exact .gone gone fun answer found => by cases unanswered.symm.trans (answered answer found)
  | gone idle right =>
      refine .gone ?_ fun answer found => right answer (answered answer found)
      rcases keeps.task? known with same | gone
      · exact same.trans idle
      · exact gone

/-- A look-up does not wait for the pool. -/
theorem Seeks.unhurried (seeks : Seeks t b event own o) (deadline : Nat) :
    o.task? t ≠ some (.closingPool deadline) := by
  intro waits
  cases seeks with
  | asked at_ => cases waits.symm.trans at_
  | scanning at_ => cases waits.symm.trans at_
  | reading at_ => cases waits.symm.trans at_

/-- Every move, of the look-up or of others. -/
theorem Finds.move (finds : Finds t b event own o) (backed : IsBacked o)
    (remembers : o.Remembers b event) (known : t < o.tickets) (moved : m.apply o = some o') :
    Finds t b event (own ++ if m.isBy t then [⟨m, o, o'⟩] else []) o' := by
  cases own_ : m.isBy t with
  | false =>
      rw [if_neg Bool.false_ne_true, List.append_nil]
      exact finds.keep known (keeps_of_move own_ moved) (now_le_of_move moved)
  | true =>
      rw [if_pos rfl]
      cases finds with
      | gone idle _ => cases (isBy_of_none idle moved).symm.trans own_
      | seeks seeks unanswered =>
          obtain ⟨task, at_, step | ⟨deadline, rfl⟩⟩ := step_of_isBy own_ moved
          · exact .stepTask backed remembers seeks unanswered m at_ step
          · exact absurd at_ (seeks.unhurried deadline)

end Steps

/-! ### Look-ups come to an end -/

/-- Nobody else holds a row that a look-up may have to see: that of a booking, or that of
the event of the booking that is wanted. -/
structure IsClear (o : Office) (t : Ticket) (wanted : PublicId) : Prop where
  bookings : ∀ cell ∈ o.ledger.bookings, cell.lock.isClear t = true
  events : ∀ cell ∈ o.ledger.bookings, cell.row.publicId = wanted →
    ∀ event, o.ledger.eventCell? cell.row.eventId = some event → event.lock.isClear t = true

/-- A request is answered when it alone gets on, and draws no identifier for that. -/
def IsAnswering (o : Office) (t : Ticket) : Prop :=
  ∃ n, o.canPlay (List.replicate n (.turn (.caller t))) = true ∧
    (Keyed.get? t (o.played (List.replicate n (.turn (.caller t)))).answers).isSome ∧
    (o.played (List.replicate n (.turn (.caller t)))).idsDrawn = o.idsDrawn

section Progress

variable {o o' : Office} {t : Ticket} {due : Nat}

theorem IsAnswering.here {answer : Answer} (answered : Keyed.get? t o.answers = some answer) :
    o.IsAnswering t :=
  ⟨0, rfl, Option.isSome_iff_exists.mpr ⟨answer, answered⟩, rfl⟩

theorem IsAnswering.turn (later : o'.IsAnswering t) {task : Task} (at_ : o.task? t = some task)
    (plain : task.deals = false) (step : o.stepTask t task = some o') : o.IsAnswering t := by
  obtain ⟨n, can, answered, ids⟩ := later
  have moved : Move.apply o (.turn (.caller t)) = some o' :=
    (congrArg (Option.bind · (o.stepTask t)) at_).trans step
  have made : Move.made o (.turn (.caller t)) = o' := by rw [Move.made, moved, Option.getD_some]
  have after : o.played (List.replicate (n + 1) (.turn (.caller t))) =
      o'.played (List.replicate n (.turn (.caller t))) := by
    rw [List.replicate_succ, played, List.foldl_cons, made]
    rfl
  refine ⟨n + 1, ?_, ?_, ?_⟩
  · rw [List.replicate_succ, canPlay, moved, made]
    exact can
  · rw [after]
    exact answered
  · rw [after, ids]
    exact congrArg Stock.idsDrawn (stock_stepTask plain step)

/-- A call that may go on does so in the next turn of its request. -/
theorem stepTask_of_canResume {k : Ledger.Call.Kind} {stage : Stage k} {purpose : Purpose k}
    (past : due ≤ o.now) (can : o.ledger.canResume t stage = true) :
    o.stepTask t (.atLedger k stage due purpose) =
      some (o.carriedOn t purpose (fun _ => due) (o.ledger.resume t o.clock stage)) := by
  have moves : (o.stepTask t (.atLedger k stage due purpose)).isSome := by
    simp [Office.stepTask, past, can]
  obtain ⟨o', step⟩ := Option.isSome_iff_exists.mp moves
  rw [← stepTask_atLedger step, step]

/-- A look-up that has to see the row of its event sees it in its next turn. -/
theorem isAnswering_reading {b : Booking} {event : EventId} {cell : Ledger.EventCell}
    (at_ : o.task? t = some (.atLedger .event (.reading event) due (.view b))) (past : due ≤ o.now)
    (found : o.ledger.eventCell? event = some cell) (clear : cell.lock.isClear t = true) :
    o.IsAnswering t := by
  have can : o.ledger.canResume t (.reading event) = true := by
    simp [Ledger.canResume, found, Ledger.Lock.letsOn_of_isClear clear]
  refine IsAnswering.turn ?_ at_ rfl (stepTask_of_canResume past can)
  rw [Ledger.resume_reading found clear]
  exact .here (Keyed.get?_put_self t _ _)

/-- A look-up sees one booking after another, until it has seen the one that it wants. -/
theorem isAnswering_scanning {wanted : PublicId} {rest : List BookingId}
    (at_ : o.task? t = some (.atLedger .booking (.scanning wanted rest) due (.lookUp wanted)))
    (past : due ≤ o.now) (once : rest.Nodup)
    (known : ∀ id ∈ rest, ∃ cell, o.ledger.bookingCell? id = some cell ∧
      cell.lock.isClear t = true ∧ (cell.row.publicId = wanted →
        ∀ event, o.ledger.eventCell? cell.row.eventId = some event →
          event.lock.isClear t = true)) : o.IsAnswering t := by
  induction rest generalizing o with
  | nil =>
      refine IsAnswering.turn ?_ at_ rfl (stepTask_of_canResume past rfl)
      exact .here (Keyed.get?_put_self t _ _)
  | cons id rest ih =>
      obtain ⟨cell, found, clear, reads⟩ := known id (List.mem_cons_self ..)
      have can : o.ledger.canResume t (.scanning wanted (id :: rest)) = true := by
        simp [Ledger.canResume, found, Ledger.Lock.letsOn_of_isClear clear]
      refine IsAnswering.turn ?_ at_ rfl (stepTask_of_canResume past can)
      rw [Ledger.resume_scanning found clear]
      by_cases same : cell.row.publicId = wanted
      · -- The event is looked up at once; it may be gone.
        simp only [if_pos same, carriedOn, deliver, Ledger.start]
        split <;> rename_i started <;> split at started <;> cases started
        · exact .here (Keyed.get?_put_self t _ _)
        · rename_i event present
          have there := (Ledger.presentCell?_eq_some.mp present).1
          exact isAnswering_reading (task?_setTask _ t _) (Nat.le_refl _) there
            (reads same event there)
      · simp only [if_neg same, carriedOn]
        refine ih (task?_setTask _ t _) past once.of_cons fun id' member => ?_
        obtain ⟨cell', found', rest_⟩ := known id' (List.mem_cons_of_mem _ member)
        refine ⟨cell', ?_, rest_⟩
        have other : id' ≠ id := by
          rintro rfl
          exact (List.nodup_cons.mp once).1 member
        exact (Ledger.bookingCell?_setBookingCell found _ id').trans ((if_neg other).trans found')

/-- A look-up of a booking that is remembered is answered, when nobody is in its way. -/
theorem Seeks.isAnswering {b : Booking} {event : PublicId} {own : List Turn}
    (seeks : Seeks t b event own o) (backed : IsBacked o) (remembers : o.Remembers b event)
    (clear : o.IsClear t b.publicId) : o.IsAnswering t := by
  have known {id : BookingId} (stored : (o.ledger.books.booking? id).isSome) :
      ∃ cell, o.ledger.bookingCell? id = some cell ∧ cell.lock.isClear t = true ∧
        (cell.row.publicId = b.publicId →
          ∀ event, o.ledger.eventCell? cell.row.eventId = some event →
            event.lock.isClear t = true) := by
    rw [Ledger.booking?_books, Option.isSome_map] at stored
    obtain ⟨cell, found⟩ := Option.isSome_iff_exists.mp stored
    have listed := Numbered.mem_of_get? found
    exact ⟨cell, found, clear.bookings cell listed, clear.events cell listed⟩
  cases seeks with
  | asked at_ =>
      refine IsAnswering.turn ?_ at_ rfl rfl
      have all := backed.scans o.ledger.bookingIds
      simp only [begin, call_eq, Ledger.start, carriedOn]
      refine isAnswering_scanning (task?_setTask _ t _) (Nat.le_refl _) ?_ fun id member => known ?_
      · rw [all.nodup_iff, Ledger.bookingIds_eq]
        exact backed.numbered.nodup_ids
      · rw [all.mem_iff, Ledger.bookingIds_eq] at member
        obtain ⟨booking, stored, rfl⟩ := List.mem_map.mp member
        rw [backed.numbered.booking?_id stored]
        rfl
  | scanning at_ past _ once =>
      obtain ⟨_, _, fits, -⟩ := backed.pursued at_
      cases fits with
      | scanning stored =>
          exact isAnswering_scanning at_ past once fun id member => known (stored id member)
  | reading at_ past =>
      obtain ⟨status, found⟩ := remembers.booking
      obtain ⟨row, written, -⟩ := remembers.event
      rw [Ledger.booking?_books] at found
      obtain ⟨cell, there, same⟩ := Option.map_eq_some_iff.mp found
      rw [Ledger.row?_books] at written
      obtain ⟨page, present, -⟩ := Option.map_eq_some_iff.mp written
      have open_ := (Ledger.presentCell?_eq_some.mp present).1
      have reads := clear.events cell (Numbered.mem_of_get? there)
      rw [same] at reads
      exact isAnswering_reading at_ past open_ (reads rfl page open_)

end Progress

/-! ### Runs -/

/-- A booking can be read back, whatever has happened since it was made. -/
structure ReadsBack (view : Booking.View) (t : Ticket) (turns own : List Turn) (o : Office) :
    Prop where
  /-- The books show the booking. -/
  shown : ∃ status, o.ledger.books.Shows { view with status := status }
  /-- Whatever a look-up is answered was shown by the books in one of its turns. -/
  right : ∀ answer, Keyed.get? t o.answers = some answer → IsShown view own answer
  /-- A look-up that is not over is answered in its next turns, when nobody else holds a
  row that it has to see. -/
  comes : (o.task? t).isSome → o.IsClear t view.publicId → ∃ n status,
    o.canPlay (List.replicate n (.turn (.caller t))) = true ∧
      Keyed.get? t (o.played (List.replicate n (.turn (.caller t)))).answers =
        some (.booking (.ok { view with status := status }))
  /-- As long as nobody has asked to hold the row of a booking, nobody is in its way there. -/
  unheld : (∀ x ∈ turns, ∀ id, x.move ≠ .ask (.hold (.booking id))) →
    o.ledger.HasFreeBookings

section Runs

variable {first o o₁ o₂ : Office} {turns before after : List Turn} {b : Booking}
  {event : PublicId} {view : Booking.View}

/-- What a look-up has come to, at any time after it was asked for. -/
theorem Run.finds (run : Run first turns o) (new : IsNew first)
    (regular : IsRegular first turns o) (made : IsMade before b event)
    (asked : turns = before ++ ⟨.ask (.find b.publicId), o₁, o₂⟩ :: after) :
    o₁.tickets < o.tickets ∧ Finds o₁.tickets b event (ownTurns o₁.tickets after) o := by
  induction run generalizing after with
  | start => simp at asked
  | @next turns o o' m run moved ih =>
      have backed := (run.isBacked new.isBacked).1
      rcases List.eq_nil_or_concat after with rfl | ⟨after', x, rfl⟩
      · obtain ⟨-, last⟩ := List.append_inj' asked rfl
        obtain ⟨rfl, rfl, rfl⟩ := Turn.mk.inj (List.cons.inj last).1
        cases moved
        have fresh := backed.fresh (Nat.le_refl o.tickets)
        have unanswered := run.unanswered new (Nat.le_refl o.tickets)
        exact ⟨Nat.lt_succ_self _, .seeks (.asked (task?_ask _ fresh)) unanswered⟩
      · have asked : turns ++ [⟨m, o, o'⟩] =
            (before ++ ⟨.ask (.find b.publicId), o₁, o₂⟩ :: after') ++ [x] := by
          rw [asked, List.concat_eq_append, List.append_assoc, List.cons_append]
        obtain ⟨earlier, last⟩ := List.append_inj' asked rfl
        obtain rfl := (List.cons.inj last).1
        have regular := IsRegular.init run new moved regular
        obtain ⟨known, finds⟩ := ih regular earlier
        refine ⟨Nat.lt_of_lt_of_le known (tickets_le moved), ?_⟩
        rw [List.concat_eq_append, ownTurns_concat]
        exact finds.move backed (run.remembers new regular (earlier ▸ made.mono)) known moved

/-- Where seats are booked through the service and snapshots are fed by its messages,
every booking that a request was answered with can be read back ever after. -/
theorem Run.readsBack (run : Run first turns o) (new : IsNew first)
    (regular : IsRegular first turns o) (granted : Grants before view)
    (asked : turns = before ++ ⟨.ask (.find view.publicId), o₁, o₂⟩ :: after) :
    ReadsBack view o₁.tickets turns (ownTurns o₁.tickets after) o := by
  have unheld := run.isUnheld new
  subst asked
  obtain ⟨b, event, rfl, made⟩ := run.split.1.made new granted
  have remembers := run.remembers new regular made.mono
  obtain ⟨-, finds⟩ := run.finds new regular made rfl
  refine ⟨?_, finds.right, fun waits clear => ?_, fun spares => (unheld spares).free⟩
  · obtain ⟨status, found⟩ := remembers.booking
    exact ⟨status, remembers.shows found⟩
  · cases finds with
    | gone idle _ =>
        rw [idle] at waits
        cases waits
    | seeks seeks _ =>
        obtain ⟨n, can, answered, ids⟩ :=
          seeks.isAnswering (run.isBacked new.isBacked).1 remembers clear
        obtain ⟨answer, answered⟩ := Option.isSome_iff_exists.mp answered
        have later := run.play can
        have own (x : Turn)
            (member : x ∈ o.play (List.replicate n (.turn (.caller o₁.tickets)))) :
            x.move = .turn (.caller o₁.tickets) :=
          List.eq_of_mem_replicate (move_mem_of_mem_play member)
        have regular := regular.play own ids
        obtain ⟨-, found⟩ := later.finds new regular made (List.append_assoc before (_ :: after) _)
        obtain ⟨_, _, status, _, rfl⟩ := found.right answer answered
        exact ⟨n, status, can, answered⟩

end Runs

/-- A talk is on sale under its second title, and a user becomes known. -/
def stocking : List Move :=
  revising ++ [.write ⟨[(⟨1⟩, talkSnapshot 3 1)], 1⟩ ⟨[(⟨7⟩, ⟨⟨7⟩, .ofNat 2, 1⟩)], 0⟩]

/-- The user has asked for two seats of the talk. -/
def patron : Office := ((attended.played stocking).ask (.create (.ofNat 1) (.ofNat 2) 2)).2

/-- The seats are booked and paid for. -/
def paying : List Move :=
  List.replicate 6 (.turn (.caller 2)) ++ List.replicate 4 (.turn (.worker 0))

/-- What has happened up to when the user asks for the booking. -/
def errand : List Turn :=
  attended.play stocking ++
    ⟨.ask (.create (.ofNat 1) (.ofNat 2) 2), attended.played stocking, patron⟩ :: patron.play paying

/-- The user asks for the booking. -/
def inquiry : Turn :=
  ⟨.ask (.find (.sequential 1)), patron.played paying,
    ((patron.played paying).ask (.find (.sequential 1))).2⟩

theorem run_errand : Run attended (errand ++ [inquiry]) inquiry.after := by
  have stocked := Run.start.play (show attended.canPlay stocking = true by decide +kernel)
  rw [List.nil_append] at stocked
  have asked : Move.apply (attended.played stocking) (.ask (.create (.ofNat 1) (.ofNat 2) 2)) =
    some patron := rfl
  have paid := (stocked.next asked).play (show patron.canPlay paying = true by decide +kernel)
  rw [List.append_assoc] at paid
  exact paid.next rfl

theorem regular_errand : IsRegular attended (errand ++ [inquiry]) inquiry.after where
  idle := by decide
  genuine := isGenuine_of_isHonest (by decide +kernel)
  served x member := by
    have all : (errand ++ [inquiry]).all (fun x => !x.move.isDirect) = true := by decide +kernel
    simpa using List.all_eq_true.mp all x member
  few := by decide +kernel

/-- The booking as the user was answered with it. -/
def pair : Booking.View where
  publicId := .sequential 1
  eventPublicId := .ofNat 1
  seats := 2
  total := ⟨5000⟩
  status := .pending
  expiresAt := .ofSecond 300 (by decide)
  createdAt := .epoch

/-- The booking that an answer shows. -/
def Answer.view? : Answer → Option Booking.View
  | .booking (.ok view) => some view
  | _ => none

theorem eq_of_view? {answer : Option Answer} {view : Booking.View}
    (shown : answer.bind Answer.view? = some view) : answer = some (.booking (.ok view)) := by
  obtain ⟨answer, rfl, found⟩ := Option.bind_eq_some_iff.mp shown
  unfold Answer.view? at found
  split at found <;> cases found
  rfl

theorem grants_errand : Grants errand pair := by
  obtain ⟨y, member, answered⟩ : ∃ y ∈ patron.play paying,
      (Keyed.get? 2 y.after.answers).bind Answer.view? = some pair :=
    ⟨_, List.getLast_mem (by decide +kernel), by decide +kernel⟩
  have first : (attended.played stocking).tickets = 2 := by decide +kernel
  exact ⟨rfl, member, first ▸ eq_of_view? answered⟩

theorem isClear_errand : inquiry.after.IsClear 3 pair.publicId where
  bookings := by decide +kernel
  events := by decide +kernel

theorem readsBack_errand :
    Grants errand pair ∧ inquiry.after.IsClear 3 pair.publicId ∧
      ReadsBack pair 3 (errand ++ [inquiry]) [] inquiry.after ∧
      Keyed.get? 3 (inquiry.after.played (List.replicate 3 (.turn (.caller 3)))).answers =
        some (.booking (.ok { pair with status := .success })) := by
  have third : inquiry.before.tickets = 3 := by decide +kernel
  have reads : ReadsBack pair inquiry.before.tickets (errand ++ [inquiry])
      (ownTurns inquiry.before.tickets []) inquiry.after :=
    run_errand.readsBack isNew_attended regular_errand grants_errand rfl
  exact ⟨grants_errand, isClear_errand, third ▸ reads,
    eq_of_view? (by decide +kernel)⟩

end BoxOffice.Office
