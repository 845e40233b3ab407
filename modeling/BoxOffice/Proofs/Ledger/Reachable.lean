import BoxOffice.Proofs.Ledger.Effect

/-!
# What holds of every reachable traffic

`IsSound` collects what every step of the traffic at a ledger keeps: the open
transactions are in custody, no visitor has the ticket of a call, every call has
got to a stage of its own, and rows bear the numbers under which they are found.
Every step changes the books as one call does that has the ledger for itself, or
not at all, so whatever such calls keep holds of the books of every reachable
ledger.
-/

namespace BoxOffice.Ledger.Traffic

/-- What every step of the traffic keeps. -/
structure IsSound (w : Traffic) : Prop where
  custody : Custody w.ledger w.call?
  apart : ∀ {t key}, Keyed.get? t w.visitors = some key → w.call? t = none
  fits : ∀ {t p}, w.call? t = some p → Fits w.ledger p.call p.stage
  numbered : w.ledger.books.IsNumbered

variable {w w' : Traffic} {t : Ticket}

theorem IsSound.opened : IsSound opened where
  custody id cell tr found _ := by
    simp [Traffic.opened, Ledger.empty, eventCell?, Numbered.get?] at found
  apart _ := rfl
  fits pending := by
    simp [Traffic.opened, call?] at pending
  numbered := Books.isNumbered_empty

namespace IsSound

/-! ### Steps of calls -/

theorem effect_begun (sound : IsSound w) {k : Call.Kind} (call : Call k) {order : List BookingId}
    (now : Timestamp) (all : order.Perm w.ledger.bookingIds) :
    Effect w.ledger now call none (w.ledger.start t (fun _ => order) now call) :=
  effect_of_started (started w.ledger t order now call) sound.numbered all

theorem effect_resumed (sound : IsSound w) {p : Pending} (now : Timestamp)
    (pending : w.call? t = some p) :
    Effect w.ledger now p.call (w.ledger.foretold p.stage) (w.ledger.resume t now p.stage) :=
  effect_of_resumed sound.custody pending (sound.fits pending) (Ledger.resumed w.ledger t now p.stage)

theorem custody_begun (sound : IsSound w) {k : Call.Kind} (call : Call k) {order : List BookingId}
    (now : Timestamp) (fresh : w.call? t = none) (all : order.Perm w.ledger.bookingIds) :
    Custody (w.begun t call order now).ledger (w.begun t call order now).call? := by
  have known (b : BookingId) (cell : BookingCell) (found : w.ledger.bookingCell? b = some cell) :
      b ∈ order := by
    have written : w.ledger.books.booking? b = some cell.row := by
      rw [booking?_books, found]
      rfl
    rw [all.mem_iff, ← sound.numbered.booking written]
    exact List.mem_map_of_mem (Numbered.mem_of_get? found)
  rw [begun, call?_advanced, ledger_advanced]
  exact sound.custody.started (started w.ledger t order now call) fresh known w.clock

theorem custody_resumed (sound : IsSound w) {p : Pending} (now : Timestamp)
    (pending : w.call? t = some p) :
    Custody (w.resumed t p now).ledger (w.resumed t p now).call? := by
  rw [resumed, call?_advanced, ledger_advanced]
  exact sound.custody.resumed (Ledger.resumed w.ledger t now p.stage) pending

/-- A step of a call keeps what its effect is about. -/
theorem advanced (sound : IsSound w) {k : Call.Kind} {call : Call k} {began : Nat}
    {now : Timestamp} {bound : Option k.Answer} {result : Progress k × Ledger}
    (effect : Effect w.ledger now call bound result)
    (custody : Custody (w.advanced t call began result).ledger
      (w.advanced t call began result).call?)
    (absent : Keyed.get? t w.visitors = none) : IsSound (w.advanced t call began result) where
  custody := custody
  apart {u key} present := by
    rw [visitors_advanced] at present
    rw [call?_advanced, callsAfter_of_ne]
    · exact sound.apart present
    · rintro rfl
      rw [absent] at present
      cases present
  fits {u p} pending := by
    rw [call?_advanced] at pending
    rw [ledger_advanced]
    by_cases own : u = t
    · subst own
      cases effect with
      | goesOn _ fits =>
          obtain rfl : _ = p := Option.some.inj ((if_pos rfl).symm.trans pending)
          exact fits
      | binds _ fits =>
          obtain rfl : _ = p := Option.some.inj ((if_pos rfl).symm.trans pending)
          exact fits
      | refused => cases (if_pos rfl).symm.trans pending
      | took => cases (if_pos rfl).symm.trans pending
      | removed => cases (if_pos rfl).symm.trans pending
      | late => cases (if_pos rfl).symm.trans pending
    · rw [callsAfter_of_ne own] at pending
      exact effect.fits (sound.fits pending)
  numbered := by
    rw [ledger_advanced]
    exact sound.numbered.change effect.change

/-! ### Other steps -/

/-- A quiet change of the ledger keeps what the calls are about. -/
theorem of_quiet (sound : IsSound w) (quiet : Quiet w.ledger w'.ledger)
    (custody : Custody w'.ledger w'.call?)
    (fewer : ∀ u p, w'.call? u = some p → w.call? u = some p)
    (apart : ∀ {u key}, Keyed.get? u w'.visitors = some key → w'.call? u = none) :
    IsSound w' where
  custody := custody
  apart := apart
  fits pending := (sound.fits (fewer _ _ pending)).persists quiet.persists
  numbered := by
    rw [quiet.books]
    exact sound.numbered

theorem dropped (sound : IsSound w) {p : Pending} (pending : w.call? t = some p) :
    IsSound (w.dropped t p) := by
  refine sound.of_quiet (.abandon w.ledger t p.stage) ?_ (fun u q pending' => ?_) fun {u key} present => ?_
  · refine sound.custody.abandoned pending fun u other => ?_
    rw [call?_dropped, if_neg other]
  · rw [call?_dropped] at pending'
    split at pending'
    · cases pending'
    · exact pending'
  · rw [call?_dropped]
    split
    · rfl
    · exact sound.apart present

theorem visited (sound : IsSound w) {key : Office.RowKey} (fresh : w.call? t = none) :
    IsSound (w.visited t key) := by
  have none_ : HasNone w.ledger t := sound.custody.hasNone fun p pending => by
    rw [fresh] at pending
    cases pending
  refine sound.of_quiet (.asked w.ledger t key) (sound.custody.asked none_ key)
    (fun _ _ pending => pending) fun {u key'} present => ?_
  have present : Keyed.get? u (Keyed.put t key w.visitors) = some key' := present
  rw [Keyed.get?_put] at present
  split at present
  · rename_i own
    rw [own]
    exact fresh
  · exact sound.apart present

theorem departed (sound : IsSound w) (t : Ticket) (key : Office.RowKey) :
    IsSound (w.departed t key) := by
  refine sound.of_quiet (.left w.ledger t key) (sound.custody.left t key)
    (fun _ _ pending => pending) fun {u key'} present => ?_
  have present : Keyed.get? u (Keyed.erase t w.visitors) = some key' := present
  rw [Keyed.get?_erase] at present
  split at present
  · cases present
  · exact sound.apart present

/-- What every step keeps. -/
theorem step (sound : IsSound w) {a : Action} (step : Step w a w') : IsSound w' := by
  cases step with
  | @begin t k call order now free all =>
      exact sound.advanced (sound.effect_begun call now all)
        (sound.custody_begun call now free.1 all) free.2
  | @resume t p now pending =>
      refine sound.advanced (sound.effect_resumed now pending) (sound.custody_resumed now pending) ?_
      cases present : Keyed.get? t w.visitors with
      | none => rfl
      | some key => cases (sound.apart present).symm.trans pending
  | drop pending => exact sound.dropped pending
  | @visit t key comes =>
      refine sound.visited ?_
      rcases comes with free | present
      · exact free.1
      · exact sound.apart present
  | @depart t key present => exact sound.departed t key
  | failInsert =>
      exact sound.of_quiet (.of_rows rfl rfl rfl) (sound.custody.of_cells rfl rfl)
        (fun _ _ pending => pending) sound.apart
  | setHold =>
      exact sound.of_quiet (.of_rows rfl rfl rfl) (sound.custody.of_cells rfl rfl)
        (fun _ _ pending => pending) sound.apart

end IsSound

/-- Every reachable traffic is sound. -/
theorem Reachable.sound (reachable : Reachable w) : IsSound w :=
  reachable.induct IsSound.opened fun _ sound step => sound.step step

/-! ### The books -/

/-- Every step changes the books as a call does that has the ledger for itself, or
not at all. -/
theorem Step.change {a : Action} (step : Step w a w') (sound : IsSound w) :
    Books.Change w.ledger.books w'.ledger.books := by
  cases step with
  | @begin t k call order now free all =>
      rw [begun, ledger_advanced]
      exact (sound.effect_begun call now all).change
  | @resume t p now pending =>
      rw [resumed, ledger_advanced]
      exact (sound.effect_resumed now pending).change
  | @drop t p pending => exact (Quiet.abandon w.ledger t p.stage).books ▸ .unchanged
  | @visit t key comes => exact (Quiet.asked w.ledger t key).books ▸ .unchanged
  | @depart t key present => exact (Quiet.left w.ledger t key).books ▸ .unchanged
  | failInsert => exact .unchanged
  | setHold => exact .unchanged

/-- Every run changes the books one call after another. -/
theorem Run.since {as : List Action} (run : Run w as w') (sound : IsSound w) :
    Books.Since w.ledger.books w'.ledger.books ∧ IsSound w' := by
  induction run with
  | refl => exact ⟨.here, sound⟩
  | snoc run step ih =>
      obtain ⟨since, sound'⟩ := ih
      exact ⟨.later since sound'.numbered (step.change sound'), sound'.step step⟩

/-- What holds of empty books and is kept by every call that has the ledger for
itself holds of the books of every reachable ledger. -/
theorem Reachable.books {holds : Books → Prop} (start : holds .empty)
    (keeps : ∀ {b b' : Books}, b.IsNumbered → holds b → Books.Change b b' → holds b')
    (reachable : Reachable w) : holds w.ledger.books :=
  reachable.induct start fun reachable ih step =>
    keeps reachable.sound.numbered ih (step.change reachable.sound)

end BoxOffice.Ledger.Traffic
