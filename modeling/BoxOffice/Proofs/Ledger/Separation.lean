import BoxOffice.Proofs.Ledger.Extract
import BoxOffice.Proofs.Ledger.Reachable

/-!
# Events do not disturb each other

Take a run and one event, and leave out all that is about other events: their
bookings, revisions, removals, settlements and look-ups, and the visitors at
their rows. Registrations stay, and so does every step about the event, but for
those with which a removal or a look-up passes the booking of another event.
What is left is a run. Every call in it has the answer that it had before, with
bookings and payments under the numbers that they have when the others are not
there, and the row of the event goes through the same values.

The traffic of the shorter run mimics that of the longer one: its ledger is an
extract, and it has the calls and visitors at the event. Each step of the longer
run keeps this, with one step of the shorter run beside it or with none.
-/

namespace BoxOffice.Ledger

/-! ### What is kept of a run -/

/-- A call without the time at which it began. -/
def Pending.undated (p : Pending) : Pending := { p with began := 0 }

/-- A call with its answer. -/
structure Exchange where
  {kind : Call.Kind}
  call : Call kind
  answer : kind.Answer

/-- The number of the payment that a settlement has recorded. -/
def Exchange.paymentId? : Exchange → Option PaymentId
  | @Exchange.mk .payment _ (.ok p) => some p.id
  | _ => none

namespace Marks

variable (m : Marks)

/-- Whether a call and its answer are about the event. -/
def isAbout (event : EventId) (e : Exchange) : Bool :=
  m.concerns event e.call && !Call.Kind.isElsewhere event e.answer

def exchange (e : Exchange) : Exchange := ⟨m.call e.call, m.answer e.answer⟩

/-- What is kept of one step. A look-up that meets a booking of another event is
given up there. -/
def kept (event : EventId) (w : Traffic) : Traffic.Action → List Traffic.Action
  | .begin t call order now =>
    if m.concerns event call then [.begin t (m.call call) (m.ids order) now] else []
  | .resume t now =>
    match (w.call? t).filter (m.concerns event ·.call) with
    | none => []
    | some p =>
      if (w.ledger.next? t p.stage).all m.keeps then [.resume t now]
      else
        match (w.ledger.resume t now p.stage).1 with
        | .done _ => [.drop t]
        | .further _ => []
  | .drop t => if (w.call? t).any (m.concerns event ·.call) then [.drop t] else []
  | .visit t key => if key = .event event then [.visit t key] else []
  | .depart t => if Keyed.get? t w.visitors = some (.event event) then [.depart t] else []
  | .failInsert => [.failInsert]
  | .setHold hold => [.setHold hold]

def pending (p : Pending) : Pending := ⟨m.call p.call, m.stage p.stage, 0⟩

end Marks

namespace Traffic

/-- Nobody outside asks for the row of a booking, and no booking is told to fail. -/
def Action.IsCalm : Action → Prop
  | .visit _ (.booking _) => False
  | .failInsert => False
  | _ => True

/-- The calls that are over, with their answers, in order. -/
def exchanges (w : Traffic) : List Exchange := w.completed.map fun c => ⟨c.call, c.answer⟩

theorem exchanges_advanced (w : Traffic) (t : Ticket) {k : Call.Kind} (call : Call k) (began : Nat)
    (result : Progress k × Ledger) :
    (w.advanced t call began result).exchanges = w.exchanges ++
      match result.1 with
      | .done answer => [⟨call, answer⟩]
      | .further _ => [] := by
  obtain ⟨progress, l⟩ := result
  cases progress with
  | done answer => simp [exchanges, advanced]
  | further stage => simp [exchanges, advanced, withLedger]

/-- A run from an empty ledger, with all that its steps add to a record. -/
inductive Recorded {β : Type} (note : Traffic → Action → Traffic → List β) :
    List Action → Traffic → List β → Prop
  | opened : Recorded note [] Traffic.opened []
  | snoc {w w' : Traffic} {as : List Action} {a : Action} {record : List β}
      (recorded : Recorded note as w record) (step : Step w a w') :
      Recorded note (as ++ [a]) w' (record ++ note w a w')

/-- The value that a step gives to the row of an event when it changes it. -/
def change (event : EventId) (w : Traffic) (_ : Action) (w' : Traffic) :
    List (Option EventRow) :=
  if w'.ledger.books.row? event = w.ledger.books.row? event then []
  else [w'.ledger.books.row? event]

/-- A run is what is left of another one when all that is about other events is left
out, and shows the same of the event. -/
structure Alone (event : EventId) (as : List Action) (w : Traffic) (as' : List Action)
    (w' : Traffic) : Prop where
  /-- What is left is the part of the run that is kept. -/
  kept : Recorded (fun v a _ => (w.ledger.books.marks event).kept event v a) as w as'
  /-- What is left is a run. -/
  run : Run opened as' w'
  /-- The calls that are kept have the same answers, under the new numbers. -/
  answers : w'.exchanges =
    (w.exchanges.filter ((w.ledger.books.marks event).isAbout event)).map
      (w.ledger.books.marks event).exchange
  /-- Bookings and payments that are kept have different new numbers. -/
  apart : (∀ b c, (w.ledger.books.marks event).spares b = true →
      (w.ledger.books.marks event).spares c = true →
      (w.ledger.books.marks event).bookingId b = (w.ledger.books.marks event).bookingId c →
      b = c) ∧
    ∀ p q, Numbered.isKept (w.ledger.books.marks event).payments p.number = true →
      Numbered.isKept (w.ledger.books.marks event).payments q.number = true →
      (w.ledger.books.marks event).paymentId p = (w.ledger.books.marks event).paymentId q → p = q
  /-- The row of the event goes through the same values. -/
  rows : ∃ rows, Recorded (change event) as w rows ∧ Recorded (change event) as' w' rows

/-! ### One run beside the other -/

/-- The traffic of an event alone. -/
structure Mimics (m : Marks) (event : EventId) (w w' : Traffic) : Prop where
  ledger : Extracts m event w.ledger w'.ledger
  calls : ∀ t, (w'.call? t).map Pending.undated =
    ((w.call? t).filter (m.concerns event ·.call)).map m.pending
  visitors : ∀ t, Keyed.get? t w'.visitors =
    (Keyed.get? t w.visitors).filter (· = .event event)
  exchanges : w'.exchanges = (w.exchanges.filter (m.isAbout event)).map m.exchange

/-- What a step of the run has beside it: the part of it that is kept, which is nothing or
one step. -/
inductive Beside (m : Marks) (event : EventId) (w w' : Traffic) (a : Action) (v : Traffic) : Prop
  | alone (out : m.kept event w a = []) (mimics : Mimics m event v w')
  | together {a' : Action} {v' : Traffic} (kept : m.kept event w a = [a']) (step : Step w' a' v')
      (mimics : Mimics m event v v')

namespace Mimics

variable {m : Marks} {event : EventId} {w w' : Traffic} {t : Ticket} {now : Timestamp}
  {k : Call.Kind} {call : Call k} {began : Nat}

theorem opened (m : Marks) (event : EventId) : Mimics m event opened opened where
  ledger := .empty m event
  calls _ := rfl
  visitors _ := rfl
  exchanges := rfl

theorem absent (x : Mimics m event w w')
    (none_ : (w.call? t).filter (m.concerns event ·.call) = none) : w'.call? t = none := by
  have same := x.calls t
  rw [none_] at same
  exact Option.map_eq_none_iff.mp same

theorem isFree (x : Mimics m event w w') (free : w.IsFree t) : w'.IsFree t := by
  constructor
  · exact x.absent (by rw [free.1]; rfl)
  · rw [x.visitors, free.2]
    rfl

/-- A call about the event stands at the same stage in both. -/
theorem pending (x : Mimics m event w w') {stage : Stage k}
    (pending : w.call? t = some ⟨call, stage, began⟩)
    (concerned : m.concerns event call = true) :
    ∃ began', w'.call? t = some ⟨m.call call, m.stage stage, began'⟩ := by
  have same := x.calls t
  rw [pending, Option.filter_some_pos (by exact concerned)] at same
  obtain ⟨⟨call', stage', began'⟩, there, equal⟩ := Option.map_eq_some_iff.mp same
  cases equal
  exact ⟨began', there⟩

/-- A step of a call that comes to the same in both. -/
theorem advanced (x : Mimics m event w w') {began' : Nat} {result result' : Progress k × Ledger}
    (concerned : m.concerns event call = true)
    (about : ∀ answer, result.1 = .done answer → Call.Kind.isElsewhere event answer = false)
    (agrees : Extracts.Agrees m event result result') :
    Mimics m event (w.advanced t call began result)
      (w'.advanced t (m.call call) began' result') := by
  obtain ⟨same, extract⟩ := agrees
  constructor
  · simpa using extract
  · intro u
    rw [call?_advanced, call?_advanced, same]
    by_cases own : u = t
    · subst own
      cases result.1 with
      | done answer => simp [callsAfter, Marks.progress]
      | further stage =>
          simp [callsAfter, Marks.progress, Option.filter_some_pos, concerned, Pending.undated,
            Marks.pending]
    · rw [callsAfter_of_ne own, callsAfter_of_ne own]
      exact x.calls u
  · intro u
    rw [visitors_advanced, visitors_advanced]
    exact x.visitors u
  · rw [exchanges_advanced, exchanges_advanced, same, x.exchanges]
    cases progress : result.1 with
    | further stage => simp [Marks.progress]
    | done answer =>
        have told : m.isAbout event ⟨call, answer⟩ = true := by
          simp [Marks.isAbout, concerned, about answer progress]
        simp [Marks.progress, List.filter_append, told, Marks.exchange]

/-- A step of a call of which nothing is told. Beside it the call may be given up. -/
theorem untold (x : Mimics m event w w') {v' : Traffic} {result : Progress k × Ledger}
    (extract : Extracts m event result.2 v'.ledger)
    (own : (v'.call? t).map Pending.undated =
      ((callsAfter w.call? t call began result.1 t).filter (m.concerns event ·.call)).map m.pending)
    (others : ∀ u, u ≠ t → v'.call? u = w'.call? u) (visitors : v'.visitors = w'.visitors)
    (exchanges : v'.exchanges = w'.exchanges)
    (elsewhere : ∀ answer, result.1 = .done answer → m.isAbout event ⟨call, answer⟩ = false) :
    Mimics m event (w.advanced t call began result) v' := by
  constructor
  · simpa using extract
  · intro u
    rw [call?_advanced]
    by_cases same : u = t
    · rw [same]
      exact own
    · rw [callsAfter_of_ne same, others u same]
      exact x.calls u
  · intro u
    rw [visitors_advanced, visitors]
    exact x.visitors u
  · rw [exchanges_advanced, exchanges, x.exchanges]
    cases progress : result.1 with
    | further stage => simp
    | done answer => simp [List.filter_append, elsewhere answer progress]

/-- A step of a call that is about another event. -/
theorem advanced_other (x : Mimics m event w w') {result : Progress k × Ledger}
    (extract : Extracts m event result.2 w'.ledger) (absent : w'.call? t = none)
    (other : m.concerns event call = false) :
    Mimics m event (w.advanced t call began result) w' := by
  refine x.untold extract ?_ (fun _ _ => rfl) rfl rfl fun answer _ => ?_
  · rw [absent]
    cases result.1 with
    | done answer => simp [callsAfter]
    | further stage => simp [callsAfter, Option.filter, other]
  · simp [Marks.isAbout, other]

/-! ### Steps -/

variable {order : List BookingId} {p : Pending} {a : Action} {v : Traffic}

/-- A call that begins is not refused for what other events have. -/
theorem begun (x : Mimics m event w w') (concerned : m.concerns event call = true)
    (before : m.Covers event w.ledger.books)
    (covers : m.Covers event (w.begun t call order now).ledger.books) :
    Mimics m event (w.begun t call order now) (w'.begun t (m.call call) (m.ids order) now) := by
  rw [Traffic.begun, ledger_advanced] at covers
  exact x.advanced concerned (fun _ => Extracts.start_not_elsewhere)
    (x.ledger.start concerned before covers)

theorem begun_other (x : Mimics m event w w') (free : w.IsFree t)
    (other : m.concerns event call = false) (before : m.Covers event w.ledger.books) :
    Mimics m event (w.begun t call order now) w' :=
  x.advanced_other (x.ledger.start_other other before) (x.isFree free).1 other

theorem resumed (x : Mimics m event w w') (sound : IsSound w) (calm : w.ledger.IsCalm)
    {p p' : Pending} (pending : w.call? t = some p) (pending' : w'.call? t = some p')
    (concerned : m.concerns event p.call = true)
    (next : (w.ledger.next? t p.stage).all m.keeps = true) (before : m.Covers event w.ledger.books)
    (covers : m.Covers event (w.resumed t p now).ledger.books) :
    Mimics m event (w.resumed t p now) (w'.resumed t p' now) := by
  obtain ⟨call, stage, began⟩ := p
  obtain ⟨began', there⟩ := x.pending pending concerned
  cases pending'.symm.trans there
  rw [Traffic.resumed, ledger_advanced] at covers
  have own (cell : EventCell) (r : Booking.Request)
      (held : w.ledger.transactionOf? t event = some (cell, .booking r)) : r.eventId = event :=
    sound.custody.eventId_eq held
  exact x.advanced concerned (fun _ => Extracts.resume_not_elsewhere calm.free before next)
    (x.ledger.resume calm (sound.fits pending) concerned own next before covers)

theorem resumed_other (x : Mimics m event w w') (sound : IsSound w) (calm : w.ledger.IsCalm)
    {p : Pending} (pending : w.call? t = some p) (other : m.concerns event p.call = false) :
    Mimics m event (w.resumed t p now) w' := by
  have hidden : (w.call? t).filter (m.concerns event ·.call) = none := by
    simp [pending, Option.filter, other]
  refine x.advanced_other ?_ (x.absent hidden) other
  exact x.ledger.resume_other calm (sound.fits pending) other fun id cell r held =>
    sound.custody.eventId_eq held

/-- A call that passes the booking of another event stands where it stood, or is given
up. -/
theorem passed (x : Mimics m event w w') (sound : IsSound w) (calm : w.ledger.IsCalm)
    (now : Timestamp) {p p' : Pending} (pending : w.call? t = some p)
    (pending' : w'.call? t = some p')
    (concerned : m.concerns event p.call = true)
    (next : (w.ledger.next? t p.stage).all m.keeps = false)
    (before : m.Covers event w.ledger.books) :
    match (w.ledger.resume t now p.stage).1 with
    | .done _ => Mimics m event (w.resumed t p now) (w'.dropped t p')
    | .further _ => Mimics m event (w.resumed t p now) w' := by
  obtain ⟨call, stage, began⟩ := p
  obtain ⟨began', there⟩ := x.pending pending concerned
  cases pending'.symm.trans there
  have fits := sound.fits pending
  obtain ⟨passes, extract⟩ :=
    x.ledger.pass calm.free now fits concerned before next
  have same := x.calls t
  rcases result : w.ledger.resume t now stage with ⟨progress, l⟩
  rw [result] at passes extract
  simp only [Traffic.resumed, result]
  cases passes with
  | @met answer elsewhere =>
      refine x.untold ?_ ?_ (fun u other => ?_) rfl rfl fun answer' done => ?_
      · cases fits with
        | @scanning wanted rest known =>
            have left : w'.ledger.abandon t (m.stage (.scanning wanted rest)) = w'.ledger :=
              (x.ledger.free calm.free).abandon_scanning t _ _
            show Extracts m event l (w'.ledger.abandon t (m.stage (.scanning wanted rest)))
            rw [left]
            exact extract
        | _ => cases elsewhere
      · rw [call?_dropped]
        simp [callsAfter]
      · rw [call?_dropped, if_neg other]
      · cases done
        simp [Marks.isAbout, elsewhere]
  | @on stage' stood =>
      refine x.untold extract ?_ (fun _ _ => rfl) rfl rfl fun answer done => by cases done
      rw [same, pending]
      simp [callsAfter, Option.filter_some_pos, concerned, Marks.pending, stood]

theorem dropped (x : Mimics m event w w') (sound : IsSound w) (calm : w.ledger.IsCalm)
    {p p' : Pending} (pending : w.call? t = some p) (pending' : w'.call? t = some p')
    (concerned : m.concerns event p.call = true) :
    Mimics m event (w.dropped t p) (w'.dropped t p') := by
  obtain ⟨call, stage, began⟩ := p
  obtain ⟨began', there⟩ := x.pending pending concerned
  cases pending'.symm.trans there
  constructor
  · exact x.ledger.abandon calm.free (sound.fits pending) concerned
  · intro u
    rw [call?_dropped, call?_dropped]
    split
    · rfl
    · exact x.calls u
  · exact x.visitors
  · exact x.exchanges

theorem dropped_other (x : Mimics m event w w') (sound : IsSound w) (calm : w.ledger.IsCalm)
    {p : Pending} (pending : w.call? t = some p) (other : m.concerns event p.call = false) :
    Mimics m event (w.dropped t p) w' := by
  have hidden : (w.call? t).filter (m.concerns event ·.call) = none := by
    simp [pending, Option.filter, other]
  constructor
  · exact x.ledger.abandon_other calm.free (sound.fits pending) other
  · intro u
    rw [call?_dropped]
    split
    · rename_i own
      rw [own, x.absent hidden]
      rfl
    · exact x.calls u
  · exact x.visitors
  · exact x.exchanges

/-! ### Visitors -/

theorem visited (x : Mimics m event w w') (t : Ticket) :
    Mimics m event (w.visited t (.event event)) (w'.visited t (.event event)) := by
  refine ⟨x.ledger.acquireEvent t, x.calls, fun u => ?_, x.exchanges⟩
  show Keyed.get? u (Keyed.put t _ w'.visitors) = (Keyed.get? u (Keyed.put t _ w.visitors)).filter _
  rw [Keyed.get?_put, Keyed.get?_put]
  split
  · simp [Option.filter]
  · exact x.visitors u

theorem visited_other (x : Mimics m event w w') {id : EventId} (other : id ≠ event)
    (comes : w.IsFree t ∨ Keyed.get? t w.visitors = some (.event id)) :
    Mimics m event (w.visited t (.event id)) w' := by
  refine ⟨x.ledger.acquireOther other t, x.calls, fun u => ?_, x.exchanges⟩
  show Keyed.get? u w'.visitors = (Keyed.get? u (Keyed.put t _ w.visitors)).filter _
  rw [Keyed.get?_put, x.visitors]
  split
  · rename_i own
    rw [own]
    rcases comes with free | present
    · simp [free.2, Option.filter, other]
    · rw [present]
  · rfl

theorem departed (x : Mimics m event w w') (t : Ticket) :
    Mimics m event (w.departed t (.event event)) (w'.departed t (.event event)) := by
  refine ⟨x.ledger.leaveEvent t, x.calls, fun u => ?_, x.exchanges⟩
  show Keyed.get? u (Keyed.erase t w'.visitors) = (Keyed.get? u (Keyed.erase t w.visitors)).filter _
  rw [Keyed.get?_erase, Keyed.get?_erase]
  split
  · rfl
  · exact x.visitors u

theorem departed_other (x : Mimics m event w w') (free : w.ledger.HasFreeBookings)
    {key : Office.RowKey} (other : key ≠ .event event)
    (present : Keyed.get? t w.visitors = some key) : Mimics m event (w.departed t key) w' := by
  refine ⟨?_, x.calls, fun u => ?_, x.exchanges⟩
  · show Extracts m event (w.ledger.left t key) w'.ledger
    cases key with
    | event id => exact x.ledger.leaveOther (fun same => other (same ▸ rfl)) t
    | booking id =>
        simp only [left, free.leaveBooking_eq]
        exact x.ledger
  · show Keyed.get? u w'.visitors = (Keyed.get? u (Keyed.erase t w.visitors)).filter _
    rw [Keyed.get?_erase, x.visitors]
    split
    · rename_i own
      rw [own, present]
      simp [Option.filter, other]
    · rfl

/-! ### Every step -/

theorem step_begin (x : Mimics m event w w') (sound : IsSound w) (free : w.IsFree t)
    (all : order.Perm w.ledger.bookingIds) (before : m.Covers event w.ledger.books)
    (covers : m.Covers event (w.begun t call order now).ledger.books) :
    Beside m event w w' (.begin t call order now) (w.begun t call order now) := by
  cases concerned : m.concerns event call with
  | false => exact .alone (by simp [Marks.kept, concerned]) (x.begun_other free concerned before)
  | true =>
      have all' : (m.ids order).Perm w'.ledger.bookingIds := by
        rw [x.ledger.bookingIds before sound.numbered]
        exact (all.filter _).map _
      exact .together (by simp [Marks.kept, concerned]) (.begin (x.isFree free) all')
        (x.begun concerned before covers)

theorem step_resume (x : Mimics m event w w') (sound : IsSound w) (calm : w.ledger.IsCalm)
    (pending : w.call? t = some p) (before : m.Covers event w.ledger.books)
    (covers : m.Covers event (w.resumed t p now).ledger.books) :
    Beside m event w w' (.resume t now) (w.resumed t p now) := by
  cases concerned : m.concerns event p.call with
  | false =>
      exact .alone (by simp [Marks.kept, pending, Option.filter, concerned])
        (x.resumed_other sound calm pending concerned)
  | true =>
      obtain ⟨began', pending'⟩ := x.pending pending concerned
      cases next : (w.ledger.next? t p.stage).all m.keeps with
      | true =>
          exact .together (by simp [Marks.kept, pending, Option.filter, concerned, next])
            (.resume pending') (x.resumed sound calm pending pending' concerned next before covers)
      | false =>
          have passed := x.passed sound calm now pending pending' concerned next before
          cases progress : (w.ledger.resume t now p.stage).1 with
          | done answer =>
              rw [progress] at passed
              exact .together
                (by simp [Marks.kept, pending, Option.filter, concerned, next, progress])
                (.drop pending') passed
          | further stage =>
              rw [progress] at passed
              exact .alone
                (by simp [Marks.kept, pending, Option.filter, concerned, next, progress]) passed

theorem step_drop (x : Mimics m event w w') (sound : IsSound w) (calm : w.ledger.IsCalm)
    (pending : w.call? t = some p) : Beside m event w w' (.drop t) (w.dropped t p) := by
  cases concerned : m.concerns event p.call with
  | false =>
      exact .alone (by simp [Marks.kept, pending, concerned])
        (x.dropped_other sound calm pending concerned)
  | true =>
      obtain ⟨began', pending'⟩ := x.pending pending concerned
      exact .together (by simp [Marks.kept, pending, concerned]) (.drop pending')
        (x.dropped sound calm pending pending' concerned)

theorem step_visit (x : Mimics m event w w') {id : EventId}
    (comes : w.IsFree t ∨ Keyed.get? t w.visitors = some (.event id)) :
    Beside m event w w' (.visit t (.event id)) (w.visited t (.event id)) := by
  by_cases own : id = event
  · subst own
    have comes' : w'.IsFree t ∨ Keyed.get? t w'.visitors = some (.event id) := by
      refine comes.imp x.isFree fun present => ?_
      rw [x.visitors, present]
      simp [Option.filter]
    exact .together (by simp [Marks.kept]) (.visit comes') (x.visited t)
  · exact .alone (by simp [Marks.kept, own]) (x.visited_other own comes)

theorem step_depart (x : Mimics m event w w') (free : w.ledger.HasFreeBookings)
    {key : Office.RowKey} (present : Keyed.get? t w.visitors = some key) :
    Beside m event w w' (.depart t) (w.departed t key) := by
  by_cases own : key = .event event
  · subst own
    have present' : Keyed.get? t w'.visitors = some (.event event) := by
      rw [x.visitors, present]
      simp [Option.filter]
    exact .together (by simp [Marks.kept, present]) (.depart present') (x.departed t)
  · exact .alone (by simp [Marks.kept, present, own]) (x.departed_other free own present)

/-- The shorter run keeps up with every step. -/
theorem step (x : Mimics m event w w') (sound : IsSound w) (calm : w.ledger.IsCalm) {v : Traffic}
    {a : Action} (calmly : a.IsCalm) (step : Step w a v)
    (covers : m.Covers event v.ledger.books) : Beside m event w w' a v := by
  have before := covers.of_change (step.change sound)
  cases step with
  | begin free all => exact x.step_begin sound free all before covers
  | resume pending => exact x.step_resume sound calm pending before covers
  | drop pending => exact x.step_drop sound calm pending
  | @visit t key comes =>
      cases key with
      | booking id => cases calmly
      | event id => exact x.step_visit comes
  | depart present => exact x.step_depart calm.free present
  | failInsert => cases calmly
  | @setHold hold =>
      have extract : Extracts m event (w.ledger.setHold hold) (w'.ledger.setHold hold) :=
        ⟨x.ledger.events, x.ledger.cell, x.ledger.bookings, x.ledger.payments, x.ledger.storing⟩
      exact .together rfl .setHold ⟨extract, x.calls, x.visitors, x.exchanges⟩

/-- Both ledgers show the same row of the event. -/
theorem row? (x : Mimics m event w w') :
    w'.ledger.books.row? event = w.ledger.books.row? event := by
  rw [row?_books, row?_books, x.ledger.presentCell?, Option.map_map]
  rfl

end Mimics

/-! ### Every run -/

variable {w w' v v' : Traffic} {as bs : List Action} {a : Action} {event : EventId}

/-- Every calm step leaves a calm ledger. -/
theorem Step.isCalm (step : Step w a w') (calmly : a.IsCalm) (calm : w.ledger.IsCalm) :
    w'.ledger.IsCalm := by
  cases step with
  | @begin t k call order now free all =>
      rw [begun, ledger_advanced]
      exact calm.start order call
  | @resume t p now pending =>
      rw [resumed, ledger_advanced]
      exact calm.resume p.stage
  | @drop t p pending => exact calm.abandon p.stage
  | @visit t key comes =>
      cases key with
      | event id => exact calm.acquireEvent t id
      | booking id => cases calmly
  | @depart t key present => exact calm.left key
  | failInsert => cases calmly
  | setHold => exact ⟨calm.free, calm.storing⟩

/-- What happens decides what comes of it. -/
theorem Step.unique (step : Step w a v) (step' : Step w a v') : v = v' := by
  cases step with
  | begin => cases step'; rfl
  | resume pending =>
      cases step' with
      | resume pending' => rw [Option.some.inj (pending.symm.trans pending')]
  | drop pending =>
      cases step' with
      | drop pending' => rw [Option.some.inj (pending.symm.trans pending')]
  | visit => cases step'; rfl
  | depart present =>
      cases step' with
      | depart present' => rw [Option.some.inj (present.symm.trans present')]
  | failInsert => cases step'; rfl
  | setHold => cases step'; rfl

theorem Run.head (step : Step w a w') (run : Run w' as v) : Run w (a :: as) v :=
  (Run.snoc (.refl w) step).trans run

theorem Recorded.run {β : Type} {note : Traffic → Action → Traffic → List β} {record : List β}
    (recorded : Recorded note as w record) : Run Traffic.opened as w := by
  induction recorded with
  | opened => exact .refl _
  | snoc _ step ih => exact .snoc ih step

/-- What happened decides what is recorded of it. -/
theorem Recorded.unique {β : Type} {note : Traffic → Action → Traffic → List β}
    {record record' : List β} (recorded : Recorded note as w record)
    (recorded' : Recorded note as w' record') : w = w' ∧ record = record' := by
  induction recorded generalizing w' record' with
  | opened =>
      generalize none_ : ([] : List Action) = as at recorded'
      cases recorded' with
      | opened => exact ⟨rfl, rfl⟩
      | snoc => simp at none_
  | @snoc v v' as a record _ step ih =>
      generalize whole : as ++ [a] = all at recorded'
      cases recorded' with
      | opened => simp at whole
      | snoc recorded' step' =>
          obtain ⟨rfl, last⟩ := List.append_inj' whole rfl
          obtain rfl := List.singleton_inj.mp last
          obtain ⟨rfl, rfl⟩ := ih recorded'
          obtain rfl := step.unique step'
          exact ⟨rfl, rfl⟩

/-- The part of a run that is kept is a run that mimics it, as long as the marks
cover what is written. -/
theorem Run.exists_mimic (run : Run Traffic.opened as w) (calm : ∀ a ∈ as, a.IsCalm)
    (m : Marks) (event : EventId) (covers : m.Covers event w.ledger.books) :
    ∃ as' w' rows, Mimics m event w w' ∧ w.ledger.IsCalm ∧
      Recorded (fun v a _ => m.kept event v a) as w as' ∧
      Recorded (change event) as w rows ∧ Recorded (change event) as' w' rows := by
  induction run with
  | refl =>
      exact ⟨[], Traffic.opened, [], .opened m event, .empty, .opened, .opened, .opened⟩
  | @snoc w v as a run step ih =>
      have sound : IsSound w := Reachable.sound ⟨as, run⟩
      have calmly : a.IsCalm := calm a (List.mem_append_right as (List.mem_singleton_self a))
      obtain ⟨as', w', rows, mimics, still, kept, course, course'⟩ :=
        ih (fun a member => calm a (List.mem_append_left _ member))
          (covers.of_change (step.change sound))
      have still' : v.ledger.IsCalm := step.isCalm calmly still
      have before : w'.ledger.books.row? event = w.ledger.books.row? event := mimics.row?
      cases mimics.step sound still calmly step covers with
      | alone out mimics' =>
          -- The row is the same before the step and after it.
          have unchanged : change event w a v = [] := if_pos (mimics'.row?.symm.trans before)
          refine ⟨_, w', _, mimics', still', kept.snoc step, course.snoc step, ?_⟩
          rw [out, unchanged, List.append_nil, List.append_nil]
          exact course'
      | @together a' v' one step' mimics' =>
          have alike : change event w a v = change event w' a' v' := by
            simp only [change, mimics'.row?, before]
          refine ⟨_, v', _, mimics', still', kept.snoc step, course.snoc step, ?_⟩
          rw [one, alike]
          exact course'.snoc step'

/-- Events do not disturb each other. What is left of a run when all that is about
other events is left out is a run, in which the calls that are kept have the same
answers and the row of the event goes through the same values. It is so for every run
of which the same is kept, whatever else happens there to other events. -/
theorem Run.exists_alone (run : Run Traffic.opened as w) (calm : ∀ a ∈ as, a.IsCalm)
    (event : EventId) :
    ∃ as' w', Alone event as w as' w' ∧
      ∀ bs v, Run Traffic.opened bs v → (∀ a ∈ bs, a.IsCalm) →
        Recorded (fun u a _ => (v.ledger.books.marks event).kept event u a) bs v as' →
        Alone event bs v as' w' := by
  have alone {bs : List Action} {v : Traffic} (run : Run Traffic.opened bs v)
      (calm : ∀ a ∈ bs, a.IsCalm) : ∃ bs' v', Alone event bs v bs' v' := by
    obtain ⟨bs', v', rows, mimics, -, kept, course, course'⟩ :=
      run.exists_mimic calm _ event (Marks.covers_marks v.ledger.books event)
    exact ⟨bs', v', kept, course'.run, mimics.exchanges,
      ⟨fun _ _ => Marks.bookingId_injective, fun _ _ => Marks.paymentId_injective⟩,
      rows, course, course'⟩
  obtain ⟨as', w', left⟩ := alone run calm
  refine ⟨as', w', left, fun bs v run' calm' kept => ?_⟩
  obtain ⟨bs', v', left'⟩ := alone run' calm'
  obtain ⟨-, rfl⟩ := kept.unique left'.kept
  -- The same part, run from the same start, comes to the same.
  obtain ⟨rows, -, course⟩ := left.rows
  obtain ⟨rows', -, course'⟩ := left'.rows
  obtain ⟨rfl, -⟩ := course.unique course'
  exact left'

/-! ### Two events with a booking each -/

def walk : Booking.Request := ⟨.ofNat 3, ⟨2⟩, ⟨1⟩, 1, .epoch⟩

def talk : Booking.Request := ⟨.ofNat 4, ⟨1⟩, ⟨1⟩, 2, .epoch⟩

def walkPaid : Payment.Draft := ⟨.ofNat 5, ⟨1⟩, ⟨1⟩, ⟨1500⟩, .success⟩

def talkPaid : Payment.Draft := ⟨.ofNat 6, ⟨2⟩, ⟨1⟩, ⟨5000⟩, .success⟩

/-- Somebody books the second event and then somebody the first one, and the bookings
are settled in that order. -/
def crossing : List Action :=
  [.begin 0 (.register ⟨.ofNat 1, "Talk", .epoch, .epoch, 3, ⟨2500⟩⟩) [] .epoch,
    .begin 1 (.register ⟨.ofNat 2, "Walk", .epoch, .epoch, 3, ⟨1500⟩⟩) [] .epoch,
    .begin 2 (.book walk) [] .epoch, .resume 2 .epoch,
    .begin 3 (.book talk) [⟨1⟩] .epoch, .resume 3 .epoch,
    .begin 4 (.settle walkPaid) [⟨1⟩, ⟨2⟩] .epoch, .begin 5 (.settle talkPaid) [⟨1⟩, ⟨2⟩] .epoch]

/-- Both bookings are stored. -/
def crowded : Traffic :=
  ((((offered.begun 1 (.register ⟨.ofNat 2, "Walk", .epoch, .epoch, 3, ⟨1500⟩⟩) [] .epoch).begun
    2 (.book walk) [] .epoch).resumed 2 ⟨.book walk, .booking ⟨2⟩, 2⟩ .epoch).begun
    3 (.book talk) [⟨1⟩] .epoch).resumed 3 ⟨.book talk, .booking ⟨1⟩, 4⟩ .epoch

/-- Both bookings are settled. -/
def crossed : Traffic :=
  (crowded.begun 4 (.settle walkPaid) [⟨1⟩, ⟨2⟩] .epoch).begun
    5 (.settle talkPaid) [⟨1⟩, ⟨2⟩] .epoch

theorem run_crossed : Run Traffic.opened crossing crossed := by
  unfold crossing
  refine .head (.begin ⟨rfl, rfl⟩ (.refl _)) (.head (.begin ⟨rfl, rfl⟩ (.refl _)) ?_)
  refine .head (.begin ⟨rfl, rfl⟩ (.refl _)) (.head (.resume rfl) ?_)
  refine .head (.begin ⟨rfl, rfl⟩ (.refl _)) (.head (.resume rfl) ?_)
  exact .head (.begin ⟨rfl, rfl⟩ (.refl _)) (.head (.begin ⟨rfl, rfl⟩ (.refl _)) (.refl _))

theorem calm_crossing : ∀ a ∈ crossing, a.IsCalm := by
  simp [crossing, Action.IsCalm]

theorem exists_alone_crossed :
    crossed.exchanges.length = 6 ∧
      ∃ as' w', Alone ⟨1⟩ crossing crossed as' w' ∧
        ∀ bs v, Run Traffic.opened bs v → (∀ a ∈ bs, a.IsCalm) →
          Recorded (fun u a _ => (v.ledger.books.marks ⟨1⟩).kept ⟨1⟩ u a) bs v as' →
          Alone ⟨1⟩ bs v as' w' :=
  ⟨rfl, Run.exists_alone run_crossed calm_crossing ⟨1⟩⟩

/-- Payments have their numbers from one count for all events. When the settlement of
the second event is left out, that of the first one answers a payment with another
number. -/
theorem payments_count_together :
    Run Traffic.opened crossing crossed ∧ (∀ a ∈ crossing, a.IsCalm) ∧
      ∃ as' w', Recorded (fun v a _ => (crossed.ledger.books.marks ⟨1⟩).kept ⟨1⟩ v a)
          crossing crossed as' ∧
        Run Traffic.opened as' w' ∧
        (crossed.exchanges.filter ((crossed.ledger.books.marks ⟨1⟩).isAbout ⟨1⟩)).filterMap
          Exchange.paymentId? = [⟨2⟩] ∧
        w'.exchanges.filterMap Exchange.paymentId? = [⟨1⟩] := by
  obtain ⟨as', w', rows, mimics, -, kept, -, course⟩ :=
    run_crossed.exists_mimic calm_crossing _ ⟨1⟩ (Marks.covers_marks crossed.ledger.books ⟨1⟩)
  refine ⟨run_crossed, calm_crossing, as', w', kept, course.run, rfl, ?_⟩
  rw [mimics.exchanges]
  rfl

end Traffic

end BoxOffice.Ledger
