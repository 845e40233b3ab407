import BoxOffice.Proofs.Office.Creation

/-!
# What a change of the books tells

Every change of an event's row has a change message that tells of it. `Books.News`
says which one, for each of the four changes that there are, and `Edit` lists what
a step of a call of the catalog comes to: a change is answered with the row that
its message is made of. For a booking this is said by `Attempt`. No call of
another kind touches the rows of events.
-/

namespace BoxOffice

open Ledger (Books Call Stage Progress Effect Fits)

namespace Ledger

/-- A change tells of what was done to the books. The count of seats may be told
under any public identifier. -/
inductive Books.News (b : Books) : Books → EventChange → Prop
  | created (d : EventDraft) : News b (b.registered d) (.created (.ofRow (b.firstRow d)))
  | updated {id : EventId} {row : EventRow} (r : EventRevision) (found : b.row? id = some row) :
      News b (b.setRow id (some (row.revised r))) (.updated (.ofRow (row.revised r)))
  | booked {r : Booking.Request} {row : EventRow} (now : Timestamp) (publicId : PublicId)
      (found : b.row? r.eventId = some row) :
      News b (b.booked row (b.newBooking r row now))
        (.seatsUpdated ⟨r.eventId, publicId, row.availableSeats - r.seats, row.version + 1⟩)
  | removed {id : EventId} {row : EventRow} (found : b.row? id = some row) :
      News b (b.setRow id none) (.deleted ⟨row.id, row.publicId, row.version⟩)

/-- What the catalog makes known of a call. -/
def Call.announcement : Call .row → Office.Announcement
  | .register _ => .created
  | .revise _ _ => .updated
  | .remove _ => .deleted

/-- What a step of a call of the catalog comes to. -/
inductive Edit (l : Ledger) (call : Call .row) : Progress .row × Ledger → Prop
  | goesOn {stage : Stage .row} {l' : Ledger} (fits : Fits l' call stage)
      (same : l'.books = l.books) : Edit l call (.further stage, l')
  | fails (e : Error) {l' : Ledger} (same : l'.books = l.books) : Edit l call (.done (.error e), l')
  | makes {row : EventRow} {l' : Ledger}
      (news : l.books.News l'.books (call.announcement.change row)) :
      Edit l call (.done (.ok row), l')

section Steps

variable {l l' : Ledger} {now : Timestamp}

theorem edit_of_outcome {call : Call .row} {answer : Call.Kind.row.Answer}
    (outcome : (answer, l'.books) ∈ l.books.outcomes now call) : Edit l call (.done answer, l') := by
  cases call with
  | register d =>
      obtain ⟨rfl, made⟩ := Prod.mk.inj (List.mem_singleton.mp outcome)
      refine .makes ?_
      rw [made]
      exact .created d
  | revise id r =>
      have outcome : (answer, l'.books) = l.books.revise id r := List.mem_singleton.mp outcome
      unfold Books.revise at outcome
      split at outcome
      · obtain ⟨rfl, same⟩ := Prod.mk.inj outcome
        exact .fails _ same
      · rename_i row found
        split at outcome
        · obtain ⟨rfl, same⟩ := Prod.mk.inj outcome
          exact .fails _ same
        · obtain ⟨rfl, made⟩ := Prod.mk.inj outcome
          refine .makes ?_
          rw [made]
          exact .updated r found
  | remove id =>
      have outcome : (answer, l'.books) = l.books.remove id := List.mem_singleton.mp outcome
      unfold Books.remove at outcome
      split at outcome
      · obtain ⟨rfl, same⟩ := Prod.mk.inj outcome
        exact .fails _ same
      · rename_i row found
        split at outcome
        · obtain ⟨rfl, same⟩ := Prod.mk.inj outcome
          exact .fails _ same
        · obtain ⟨rfl, made⟩ := Prod.mk.inj outcome
          refine .makes ?_
          rw [made]
          exact .removed found

theorem edit_of_effect {call : Call .row} {result : Progress .row × Ledger}
    (effect : Effect l now call none result) : Edit l call result := by
  cases effect with
  | goesOn quiet fits => exact .goesOn fits quiet.books
  | binds quiet fits => exact .goesOn fits quiet.books
  | @refused answer l' quiet _ passing =>
      cases answer with
      | error e => exact .fails e quiet.books
      | ok row => cases passing
  | took _ outcome => exact edit_of_outcome outcome
  | removed _ outcome => exact edit_of_outcome outcome
  | late _ answered => cases answered

/-- A call that is answered with neither a row nor a receipt leaves the rows of
events alone. -/
theorem Books.events_of_outcome {b b' : Books} {k : Call.Kind} {call : Call k} {answer : k.Answer}
    (noRow : k ≠ .row) (noReceipt : k ≠ .receipt)
    (outcome : (answer, b') ∈ b.outcomes now call) : b'.events = b.events := by
  cases call with
  | register d => exact absurd rfl noRow
  | revise id r => exact absurd rfl noRow
  | remove id => exact absurd rfl noRow
  | book r => exact absurd rfl noReceipt
  | findEvent id =>
      obtain ⟨-, rfl⟩ := Prod.mk.inj (List.mem_singleton.mp outcome)
      rfl
  | findBooking publicId =>
      obtain ⟨_, _, same⟩ := List.mem_map.mp outcome
      exact congrArg Books.events (Prod.mk.inj same).2.symm
  | settle d =>
      have made : b' = (b.settle d now).2 := congrArg Prod.snd (List.mem_singleton.mp outcome)
      rw [made]
      unfold Books.settle
      split
      · rfl
      · split <;> rfl

theorem Effect.events {k : Call.Kind} {call : Call k} {bound : Option k.Answer}
    {result : Progress k × Ledger} (effect : Effect l now call bound result) (noRow : k ≠ .row)
    (noReceipt : k ≠ .receipt) : result.2.books.events = l.books.events := by
  cases effect with
  | goesOn quiet => exact congrArg Books.events quiet.books
  | binds quiet => exact congrArg Books.events quiet.books
  | refused quiet => exact congrArg Books.events quiet.books
  | late quiet => exact congrArg Books.events quiet.books
  | took _ outcome => exact Books.events_of_outcome noRow noReceipt outcome
  | removed _ outcome => exact Books.events_of_outcome noRow noReceipt outcome

/-- A payment that is recorded is nothing to the rows of events. -/
theorem events_of_settle {payment : Payment} {d : Payment.Draft}
    (settled : l.settle d now = .ok (payment, l')) : l'.events = l.events := by
  unfold Ledger.settle at settled
  split at settled
  · cases settled
  · split at settled
    · cases settled
    · split at settled
      · cases settled
      · cases settled
        rfl

/-- A look-up of an event begins without any change. -/
theorem start_findEvent (l : Ledger) (t : Ticket) (order : List BookingId → List BookingId)
    (now : Timestamp) (id : EventId) : (l.start t order now (.findEvent id)).2 = l := by
  simp only [start]
  split <;> rfl

end Steps

end Ledger

end BoxOffice
