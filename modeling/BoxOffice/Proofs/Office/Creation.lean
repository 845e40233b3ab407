import BoxOffice.Proofs.Office.Frame

/-!
# Booking seats is all or nothing

A request for seats looks at two snapshots and at the time of day, tries to
book, as often as its retries allow, makes the new number of seats known and
hands the booking over for settlement. Between any two of these steps everybody
else may do what they like. Whatever they do, the turns of a request that was
answered are told by its answer, and `Course` is that account. A request that
is answered with a booking has added one booking to the books in one of its
turns, has made it known in the next and has handed it over in the last; no
other turn of it can be seen from outside. A request that is answered otherwise
can be seen in the count of outcomes only, and as long as it has not found event
and user it leaves the ledger alone. One that was given up has changed the books
once at most.
-/

namespace BoxOffice.Office

open Ledger (Ticket Books Effect Progress Stage)

/-! ### What the turns of a request do -/

/-- What can be seen of an office. A message that is sent, in vain or not, has an
identifier drawn for it. -/
structure Shown where
  books : Books
  bus : Bus
  messagesDrawn : Nat
  pool : Pool Settlement.Job Settlement.Run
  metrics : Metrics

def shown (o : Office) : Shown := ⟨o.ledger.books, o.bus, o.messagesDrawn, o.pool, o.metrics⟩

namespace Turn

/-- Nothing of the turn can be seen. -/
def Rests (x : Turn) : Prop := x.after.shown = x.before.shown

/-- All that can be seen of the turn is that the outcome of a request was counted. -/
def Counts (x : Turn) (outcome : String) (seats : Nat) : Prop :=
  x.after.shown = { x.before.shown with metrics := x.before.metrics.booking outcome seats }

/-- The turn leaves the ledger alone, with its locks. -/
def SparesLedger (x : Turn) : Prop := x.after.ledger = x.before.ledger

/-- The turn changes no row, no booking and no payment. -/
def SparesBooks (x : Turn) : Prop := x.after.ledger.books = x.before.ledger.books

/-- The turn finds the event of a request for seats. -/
structure FindsEvent (x : Turn) (event : PublicId) (seats : Nat) (known : EventSnapshot) : Prop where
  wanted : seats ≠ 0
  found : x.before.events.find? event = some known
  spares : x.SparesLedger
  rests : x.Rests

/-- The turn finds that the event is not over, and the user, and what to ask the
ledger for. The time of day that tells whether the event is over is the one from
which the payment hold is counted. -/
structure FindsUser (x : Turn) (known : EventSnapshot) (user : PublicId) (seats : Nat)
    (r : Booking.Request) : Prop where
  current : x.before.clock.after known.endDate = false
  found : (x.before.users.find? user).map (·.id) = some r.userId
  held : x.before.clock.add? x.before.setup.hold = some r.expiresAt
  event : r.eventId = known.id
  seats : r.seats = seats
  spares : x.SparesLedger
  rests : x.Rests

/-- The turn adds one booking to the books and takes its seats from one row. -/
structure Stores (x : Turn) (r : Booking.Request) (row sold : EventRow) (b : Booking) : Prop where
  before : x.before.ledger.books.row? r.eventId = some row
  after : x.after.ledger.books.row? r.eventId = some sold
  others : ∀ id, id ≠ r.eventId →
    x.after.ledger.books.row? id = x.before.ledger.books.row? id
  enough : r.seats ≤ row.availableSeats
  sold : sold =
    { row with availableSeats := row.availableSeats - r.seats, version := row.version + 1 }
  bookings : x.after.ledger.books.bookings = x.before.ledger.books.bookings ++ [b]
  payments : x.after.ledger.books.payments = x.before.ledger.books.payments
  pending : b.status = .pending
  publicId : b.publicId = r.publicId
  event : b.eventId = r.eventId
  user : b.userId = r.userId
  seats : b.seats = r.seats
  total : b.total = row.ticketPrice.times r.seats
  expiresAt : b.expiresAt = r.expiresAt
  rests : x.after.shown = { x.before.shown with books := x.after.ledger.books }

/-- The turn tries once to publish a change. -/
structure Announces (x : Turn) (c : EventChange) : Prop where
  shown : x.after.shown =
    { (x.before.announce c).2.shown with books := x.before.ledger.books, pool := x.before.pool }
  /-- One message comes to the topic, unless the bus refuses it. -/
  sent : x.after.bus.published = x.before.bus.published ++
    if x.before.bus.failPublishes then []
    else [(x.before.setup.eventsTopic, c.toMessage (messageId x.before.messagesDrawn))]

/-- The turn gives the pool one job, that of settling a booking, and the booking is
counted. -/
structure HandsOver (x : Turn) (b : Booking) : Prop where
  shown : x.after.shown =
    { x.before.shown with
      pool := (x.before.drawId.2.submit (.ofBooking b x.before.drawId.1)).2.pool
      metrics := (x.before.handOver b).metrics.booking "created" b.seats }
  /-- The job waits at the end of the queue, unless the pool refuses it. -/
  queued : x.after.pool = { x.before.pool with
    queue := x.before.pool.queue ++
      if x.before.pool.isOpen ∧ x.before.pool.queue.length < x.before.pool.sizing.capacity then
        [.ofBooking b x.before.drawId.1]
      else [] }

/-- The ledger answers an attempt to book, the one after so many others, with an
error: as soon as it is asked, or when the open booking goes on. -/
inductive Fails (t : Ticket) (known : EventSnapshot) (r : Booking.Request) (retries : Nat)
    (e : Ledger.Error) (x : Turn) : Prop
  | atOnce {l : Ledger} (at_ : x.before.task? t = some (.attempting known r retries))
      (answered : x.before.ledger.start t x.before.setup.scan x.before.clock (.book r) =
        (.done (.error e), l))
  | later {stage : Stage .receipt} {due : Nat} {l : Ledger}
      (at_ : x.before.task? t = some (.atLedger .receipt stage due (.attempt known r retries)))
      (answered : x.before.ledger.resume t x.before.clock stage = (.done (.error e), l))

/-- An attempt to book has failed for good: for a cause that does not pass, or with no
retry left. -/
structure GivesUp (t : Ticket) (known : EventSnapshot) (r : Booking.Request) (cause : Ledger.Error)
    (x : Turn) : Prop where
  fails : ∃ retries, x.Fails t known r retries cause ∧
    (cause.isTransient = false ∨ x.before.setup.retry.maxRetries ≤ retries)
  counts : x.Counts (bookingError known.publicId cause).outcome r.seats

/-- An attempt to book has failed and is to be made again, and there is no wait before
that. -/
structure LacksWait (t : Ticket) (known : EventSnapshot) (r : Booking.Request) (fault : Retry.Fault)
    (x : Turn) : Prop where
  fails : ∃ retries cause, x.Fails t known r retries cause ∧ cause.isTransient = true ∧
    retries < x.before.setup.retry.maxRetries ∧
    x.before.setup.retry.wait retries (x.before.setup.spread retries) = .error fault
  rests : x.Rests

end Turn

/-- At most one of the turns changes the books. -/
def CommitsAtMostOnce (own : List Turn) : Prop :=
  ∃ early late, own = early ++ late ∧ (∀ x ∈ early, x.SparesBooks) ∧ ∀ x ∈ late.tail, x.SparesBooks

/-- What the turns of a request for seats do, in order, by its answer. -/
inductive Course (t : Ticket) (event user : PublicId) (seats : Nat) : List Turn → Answer → Prop
  | noSeats {x : Turn} (none_ : seats = 0) (spares : x.SparesLedger)
      (counts : x.Counts "invalid_seats" seats) :
      Course t event user seats [x] (.booking (.error .invalidSeats))
  | unknownEvent {x : Turn} (wanted : seats ≠ 0) (unknown : x.before.events.find? event = none)
      (spares : x.SparesLedger) (counts : x.Counts "event_not_found" seats) :
      Course t event user seats [x] (.booking (.error (.eventNotFound event)))
  | expired {x y : Turn} {known : EventSnapshot} (first : x.FindsEvent event seats known)
      (past : y.before.clock.after known.endDate = true) (spares : y.SparesLedger)
      (counts : y.Counts "event_expired" seats) :
      Course t event user seats [x, y] (.booking (.error (.eventExpired known.publicId known.endDate)))
  | unknownUser {x y : Turn} {known : EventSnapshot} (first : x.FindsEvent event seats known)
      (current : y.before.clock.after known.endDate = false)
      (unknown : y.before.users.find? user = none) (spares : y.SparesLedger)
      (counts : y.Counts "user_not_found" seats) :
      Course t event user seats [x, y] (.booking (.error (.userNotFound user)))
  /-- The payment hold would end beyond the last instant there is. -/
  | undated {x y : Turn} {known : EventSnapshot} (first : x.FindsEvent event seats known)
      (current : y.before.clock.after known.endDate = false)
      (found : (y.before.users.find? user).isSome)
      (undated : y.before.clock.add? y.before.setup.hold = none) (spares : y.SparesLedger)
      (rests : y.Rests) : Course t event user seats [x, y] .undated
  | refused {x y z : Turn} {tries : List Turn} {known : EventSnapshot} {r : Booking.Request}
      {cause : Ledger.Error} (first : x.FindsEvent event seats known)
      (second : y.FindsUser known user seats r) (vain : ∀ x ∈ tries, x.Rests)
      (givesUp : z.GivesUp t known r cause) :
      Course t event user seats (x :: y :: tries ++ [z])
        (.booking (.error (bookingError known.publicId cause)))
  /-- There is no wait before the next attempt. -/
  | panicked {x y z : Turn} {tries : List Turn} {known : EventSnapshot} {r : Booking.Request}
      {fault : Retry.Fault} (first : x.FindsEvent event seats known)
      (second : y.FindsUser known user seats r) (vain : ∀ x ∈ tries, x.Rests)
      (lacks : z.LacksWait t known r fault) :
      Course t event user seats (x :: y :: tries ++ [z]) (.panicked (some fault))
  | booked {x y commit announce hand : Turn} {tries : List Turn} {known : EventSnapshot}
      {r : Booking.Request} {row sold : EventRow} {b : Booking}
      (first : x.FindsEvent event seats known) (second : y.FindsUser known user seats r)
      (vain : ∀ x ∈ tries, x.Rests) (stores : commit.Stores r row sold b)
      (announces : announce.Announces
        (.seatsUpdated ⟨known.id, known.publicId, sold.availableSeats, sold.version⟩))
      (last : hand.before.task? t =
        some (.handingOver known ⟨b, sold.availableSeats, sold.version⟩))
      (handsOver : hand.HandsOver b) :
      Course t event user seats (x :: y :: tries ++ [commit, announce, hand])
        (.booking (.ok (b.view known.publicId)))

/-! ### Where a request stands -/

/-- A request goes on trying to book. -/
inductive Trying (known : EventSnapshot) (r : Booking.Request) : Task → Prop
  | attempting (retries : Nat) : Trying known r (.attempting known r retries)
  | atLedger (stage : Stage .receipt) (due retries : Nat) :
      Trying known r (.atLedger .receipt stage due (.attempt known r retries))
  | pausing (retries due : Nat) : Trying known r (.pausing known r retries due)

/-- Where a request for seats stands after its turns so far. -/
inductive Stands (t : Ticket) (event user : PublicId) (seats : Nat) (o : Office) : List Turn → Prop
  | asked (at_ : o.task? t = some (.asked (.create event user seats))) :
      Stands t event user seats o []
  | choosing {x : Turn} {known : EventSnapshot} (first : x.FindsEvent event seats known)
      (at_ : o.task? t = some (.choosing known user seats)) : Stands t event user seats o [x]
  | trying {x y : Turn} {tries : List Turn} {known : EventSnapshot} {r : Booking.Request}
      {task : Task} (first : x.FindsEvent event seats known)
      (second : y.FindsUser known user seats r) (vain : ∀ x ∈ tries, x.Rests)
      (at_ : o.task? t = some task) (trying : Trying known r task) :
      Stands t event user seats o (x :: y :: tries)
  | announcing {x y commit : Turn} {tries : List Turn} {known : EventSnapshot}
      {r : Booking.Request} {row sold : EventRow} {b : Booking}
      (first : x.FindsEvent event seats known) (second : y.FindsUser known user seats r)
      (vain : ∀ x ∈ tries, x.Rests) (stores : commit.Stores r row sold b)
      (at_ : o.task? t = some (.announcingSeats known ⟨b, sold.availableSeats, sold.version⟩)) :
      Stands t event user seats o (x :: y :: tries ++ [commit])
  | handing {x y commit announce : Turn} {tries : List Turn} {known : EventSnapshot}
      {r : Booking.Request} {row sold : EventRow} {b : Booking}
      (first : x.FindsEvent event seats known) (second : y.FindsUser known user seats r)
      (vain : ∀ x ∈ tries, x.Rests) (stores : commit.Stores r row sold b)
      (announces : announce.Announces
        (.seatsUpdated ⟨known.id, known.publicId, sold.availableSeats, sold.version⟩))
      (at_ : o.task? t = some (.handingOver known ⟨b, sold.availableSeats, sold.version⟩)) :
      Stands t event user seats o (x :: y :: tries ++ [commit, announce])

/-- A request for seats is on its way, or nothing is left to do for it and its
turns are told by its answer. -/
inductive Told (t : Ticket) (event user : PublicId) (seats : Nat) (own : List Turn) (o : Office) : Prop
  | stands (stands : Stands t event user seats o own) (unanswered : Keyed.get? t o.answers = none)
  | gone (idle : o.task? t = none) (once : CommitsAtMostOnce own)
      (course : ∀ answer, Keyed.get? t o.answers = some answer → Course t event user seats own answer)

section Steps

variable {t : Ticket} {event user : PublicId} {seats : Nat} {own : List Turn} {o o' : Office}

/-! ### At most one commit -/

section Once

variable {x y : Turn} {tries : List Turn} {known : EventSnapshot} {r : Booking.Request}

theorem Turn.Rests.sparesBooks (rests : x.Rests) : x.SparesBooks := congrArg Shown.books rests

theorem Turn.Counts.sparesBooks {outcome : String} (counts : x.Counts outcome seats) :
    x.SparesBooks :=
  congrArg Shown.books counts

theorem Turn.Announces.sparesBooks {c : EventChange} (announces : x.Announces c) : x.SparesBooks :=
  congrArg Shown.books announces.shown

theorem Turn.HandsOver.sparesBooks {b : Booking} (handsOver : x.HandsOver b) : x.SparesBooks :=
  congrArg Shown.books handsOver.shown

theorem sparesBooks_before (first : x.FindsEvent event seats known)
    (second : y.FindsUser known user seats r) (vain : ∀ x ∈ tries, x.Rests) :
    ∀ z ∈ x :: y :: tries, z.SparesBooks := by
  intro z member
  rcases List.mem_cons.mp member with rfl | member
  · exact first.rests.sparesBooks
  · rcases List.mem_cons.mp member with rfl | member
    · exact second.rests.sparesBooks
    · exact (vain z member).sparesBooks

theorem CommitsAtMostOnce.of_spares (spares : ∀ x ∈ own, x.SparesBooks) : CommitsAtMostOnce own :=
  ⟨own, [], (List.append_nil own).symm, spares, by simp⟩

theorem CommitsAtMostOnce.of_spares_last (spares : ∀ x ∈ own, x.SparesBooks) {z : Turn}
    (last : z.SparesBooks) : CommitsAtMostOnce (own ++ [z]) := by
  refine .of_spares fun x member => ?_
  rcases List.mem_append.mp member with early | late
  · exact spares x early
  · rw [List.mem_singleton.mp late]
    exact last

theorem Stands.once (stands : Stands t event user seats o own) : CommitsAtMostOnce own := by
  cases stands with
  | asked at_ => exact .of_spares (by simp)
  | choosing first at_ =>
      refine .of_spares fun x member => ?_
      rw [List.mem_singleton.mp member]
      exact first.rests.sparesBooks
  | trying first second vain at_ trying =>
      exact .of_spares (sparesBooks_before first second vain)
  | announcing first second vain stores at_ =>
      exact ⟨_, _, rfl, sparesBooks_before first second vain, by simp⟩
  | handing first second vain stores announces at_ =>
      refine ⟨_, _, rfl, sparesBooks_before first second vain, fun x member => ?_⟩
      rw [List.mem_singleton.mp member]
      exact announces.sparesBooks

theorem Course.once {answer : Answer} (course : Course t event user seats own answer) :
    CommitsAtMostOnce own := by
  cases course with
  | noSeats _ _ counts => exact .of_spares (by simpa using counts.sparesBooks)
  | unknownEvent _ _ _ counts => exact .of_spares (by simpa using counts.sparesBooks)
  | expired first _ _ counts =>
      exact .of_spares (by simpa using ⟨first.rests.sparesBooks, counts.sparesBooks⟩)
  | unknownUser first _ _ _ counts =>
      exact .of_spares (by simpa using ⟨first.rests.sparesBooks, counts.sparesBooks⟩)
  | undated first _ _ _ _ rests =>
      exact .of_spares (by simpa using ⟨first.rests.sparesBooks, rests.sparesBooks⟩)
  | refused first second vain givesUp =>
      exact .of_spares_last (sparesBooks_before first second vain) givesUp.counts.sparesBooks
  | panicked first second vain lacks =>
      exact .of_spares_last (sparesBooks_before first second vain) lacks.rests.sparesBooks
  | booked first second vain stores announces _ handsOver =>
      refine ⟨_, _, rfl, sparesBooks_before first second vain, ?_⟩
      simpa using ⟨announces.sparesBooks, handsOver.sparesBooks⟩

end Once

/-! ### One turn after another -/

theorem task?_setTask (o : Office) (t : Ticket) (task : Task) :
    (o.setTask t task).task? t = some task :=
  Keyed.get?_put_self t task o.tasks

theorem task?_finish (o : Office) (t : Ticket) (answer : Answer) :
    (o.finish t answer).task? t = none :=
  (Keyed.get?_erase t t o.tasks).trans (if_pos rfl)

/-- A request that is answered is told by its answer. -/
theorem Told.answered {answer : Answer} (idle : o.task? t = none)
    (found : Keyed.get? t o.answers = some answer) (course : Course t event user seats own answer) :
    Told t event user seats own o := by
  refine .gone idle course.once fun answer' found' => ?_
  cases found.symm.trans found'
  exact course

theorem Told.finished {answer : Answer} (course : Course t event user seats own answer) :
    Told t event user seats own (o.finish t answer) :=
  .answered (task?_finish o t answer) (Keyed.get?_put_self t answer o.answers) course

theorem Told.finishedBooking {n : Nat} {result : Except Booking.Error Booking.View}
    (course : Course t event user seats own (.booking result)) :
    Told t event user seats own (o.finishBooking t n result) :=
  .answered (task?_finish o t (.booking result)) (Keyed.get?_put_self t _ o.answers) course

/-- The first turn: the event is looked up. -/
theorem Told.beginBooking {m : Move} (unanswered : Keyed.get? t o.answers = none) :
    Told t event user seats [⟨m, o, o.beginBooking t event user seats⟩]
      (o.beginBooking t event user seats) := by
  unfold Office.beginBooking
  split
  · rename_i none_
    exact .finishedBooking (.noSeats none_ rfl rfl)
  · rename_i wanted
    split
    · rename_i unknown
      exact .finishedBooking (.unknownEvent wanted unknown rfl rfl)
    · rename_i known found
      exact .stands (.choosing ⟨wanted, found, rfl, rfl⟩ (task?_setTask o t _)) unanswered

/-- The second turn: the time of day and the user are looked up. -/
theorem Told.chooseUser {m : Move} {x : Turn} {known : EventSnapshot}
    (first : x.FindsEvent event seats known) (unanswered : Keyed.get? t o.answers = none) :
    Told t event user seats [x, ⟨m, o, o.chooseUser t known user seats⟩]
      (o.chooseUser t known user seats) := by
  unfold Office.chooseUser
  split
  · rename_i past
    exact .finishedBooking (.expired first past rfl rfl)
  · rename_i current
    have current : o.clock.after known.endDate = false := by simpa using current
    split
    · rename_i unknown
      exact .finishedBooking (.unknownUser first current unknown rfl rfl)
    · rename_i snapshot found
      have buyer : (o.users.find? user).isSome := by rw [found]; rfl
      simp only
      split
      · rename_i undated
        exact .finished (.undated first current buyer undated rfl rfl)
      · rename_i expiresAt held
        have untried : ∀ x ∈ ([] : List Turn), x.Rests := by simp
        refine .stands (.trying first ?_ untried (task?_setTask _ t _) (.attempting 0)) unanswered
        exact ⟨current, congrArg (Option.map (·.id)) found, held, rfl, rfl, rfl, rfl⟩

/-! ### Attempts -/

/-- What a step of a call that books seats comes to. -/
inductive Attempt (l : Ledger) (r : Booking.Request) : Progress .receipt × Ledger → Prop
  | goesOn {stage : Stage .receipt} {l' : Ledger} (same : l'.books = l.books) :
      Attempt l r (.further stage, l')
  | fails (e : Ledger.Error) {l' : Ledger} (same : l'.books = l.books) :
      Attempt l r (.done (.error e), l')
  | stores {l' : Ledger} {row : EventRow} {b : Booking} (found : l.books.row? r.eventId = some row)
      (enough : r.seats ≤ row.availableSeats)
      (booked : l'.books = l.books.booked row b) (now : Timestamp)
      (new : b = l.books.newBooking r row now) :
      Attempt l r
        (.done (.ok ⟨b, row.availableSeats - r.seats, row.version + 1⟩), l')

theorem attempt_of_book {l l' : Ledger} {r : Booking.Request} {now : Timestamp}
    {answer : Ledger.Call.Kind.receipt.Answer}
    (outcome : (answer, l'.books) ∈ l.books.outcomes now (.book r)) :
    Attempt l r (.done answer, l') := by
  have outcome : (answer, l'.books) = l.books.book r now := List.mem_singleton.mp outcome
  unfold Books.book at outcome
  split at outcome
  · obtain ⟨rfl, same⟩ := Prod.mk.inj outcome
    exact .fails _ same
  · rename_i row found
    split at outcome
    · obtain ⟨rfl, same⟩ := Prod.mk.inj outcome
      exact .fails _ same
    · rename_i enough
      obtain ⟨rfl, booked⟩ := Prod.mk.inj outcome
      exact .stores found (Nat.le_of_not_lt enough) booked now rfl

/-- Only the step that takes effect stores a booking. -/
theorem attempt_of_effect {l : Ledger} {r : Booking.Request} {now : Timestamp}
    {result : Progress .receipt × Ledger} (effect : Effect l now (.book r) none result) :
    Attempt l r result := by
  cases effect with
  | goesOn quiet => exact .goesOn quiet.books
  | binds quiet => exact .goesOn quiet.books
  | @refused answer l' quiet _ passing =>
      cases answer with
      | error e => exact .fails e quiet.books
      | ok receipt => cases passing
  | took _ outcome => exact attempt_of_book outcome
  | removed _ outcome => exact attempt_of_book outcome
  | late _ answered => cases answered

/-- Books to which a booking was added. -/
theorem Turn.Stores.of_booked {x : Turn} {r : Booking.Request} {row : EventRow} {b : Booking}
    {now : Timestamp} (found : x.before.ledger.books.row? r.eventId = some row)
    (enough : r.seats ≤ row.availableSeats)
    (booked : x.after.ledger.books = x.before.ledger.books.booked row b)
    (new : b = x.before.ledger.books.newBooking r row now)
    (rests : x.after.shown = { x.before.shown with books := x.after.ledger.books }) :
    x.Stores r row (row.withSeatsTaken r.seats) b := by
  subst new
  have row? (id : EventId) : x.after.ledger.books.row? id =
      if id = r.eventId then some (row.withSeatsTaken r.seats)
      else x.before.ledger.books.row? id := by
    rw [booked]
    exact Books.row?_setRow found id (some (row.withSeatsTaken r.seats))
  constructor
  · exact found
  · exact (row? r.eventId).trans (if_pos rfl)
  · intro id other
    exact (row? id).trans (if_neg other)
  · exact enough
  · rfl
  · rw [booked]
    rfl
  · rw [booked]
    rfl
  · rfl
  · rfl
  · rfl
  · rfl
  · rfl
  · rfl
  · rfl
  · exact rests

/-- A turn that tries to book does so once and for all, or it rests, or it ends the
request with the ledger's refusal. -/
theorem Told.tried {m : Move} {x y : Turn} {tries : List Turn} {known : EventSnapshot}
    {r : Booking.Request} {l : Ledger} {progress : Progress .receipt}
    (first : x.FindsEvent event seats known) (second : y.FindsUser known user seats r)
    (vain : ∀ x ∈ tries, x.Rests) (unanswered : Keyed.get? t o.answers = none)
    (retries : Nat) (due : Stage .receipt → Nat)
    (stepped : o' = match progress with
      | .done answer => ({ o with ledger := l } : Office).deliver t answer (.attempt known r retries)
      | .further stage =>
        ({ o with ledger := l } : Office).setTask t
          (.atLedger .receipt stage (due stage) (.attempt known r retries)))
    (attempt : Attempt o.ledger r (progress, l))
    (fails : ∀ e, progress = .done (.error e) → Turn.Fails t known r retries e ⟨m, o, o'⟩) :
    Told t event user seats (x :: y :: tries ++ [⟨m, o, o'⟩]) o' := by
  have vain' {z : Turn} (rests : z.Rests) : ∀ x ∈ tries ++ [z], x.Rests := by
    intro x member
    rcases List.mem_append.mp member with before | last
    · exact vain x before
    · rw [List.mem_singleton.mp last]
      exact rests
  have rest {l : Ledger} (same : l.books = o.ledger.books) (task : Task) :
      (⟨m, o, ({ o with ledger := l } : Office).setTask t task⟩ : Turn).Rests := by
    unfold Turn.Rests shown
    simp only [Office.setTask, same]
  cases attempt with
  | @goesOn stage l same =>
      subst stepped
      exact .stands (.trying first second (vain' (rest same _)) (task?_setTask _ t _)
        (.atLedger stage (due stage) retries)) unanswered
  | @fails e l same =>
      have fails := fails e rfl
      simp only [Office.deliver] at stepped
      split at stepped <;> rename_i verdict
      · cases (Retry.final_of_ended verdict).1
      · obtain ⟨same_, final⟩ := Retry.final_of_ended verdict
        cases same_
        subst stepped
        refine .finishedBooking (.refused first second vain ⟨⟨retries, fails, final⟩, ?_⟩)
        unfold Turn.Counts shown
        simp only [finishBooking, Office.finish, same]
      · subst stepped
        refine .finished (.panicked first second vain ⟨⟨retries, e, fails, ?_⟩, ?_⟩)
        · exact Retry.missing_of_panicked verdict
        · unfold Turn.Rests shown
          simp only [Office.finish, same]
      · subst stepped
        exact .stands (.trying first second (vain' (rest same _)) (task?_setTask _ t _)
          (.pausing retries _)) unanswered
  | @stores l row b found enough booked now new =>
      simp only [Office.deliver, Retry.verdict] at stepped
      subst stepped
      have stores : Turn.Stores ⟨m, o, ({ o with ledger := l } : Office).setTask t
          (.announcingSeats known ⟨b, row.availableSeats - r.seats, row.version + 1⟩)⟩ r row
          (row.withSeatsTaken r.seats) b :=
        .of_booked found enough booked new rfl
      exact .stands (.announcing first second vain stores (task?_setTask _ t _)) unanswered

/-! ### The turns after the commit -/

theorem announces_turn (m : Move) (o : Office) (t : Ticket) (c : EventChange) (task : Task) :
    Turn.Announces ⟨m, o, (o.announce c).2.setTask t task⟩ c := by
  have kept := alike_announce o c
  have pool : (o.announce c).2.pool = o.pool := by
    unfold Office.announce publish
    simp only
    split <;> rfl
  constructor
  case shown =>
    show (o.announce c).2.shown = _
    unfold shown
    rw [kept.ledger, pool]
  case sent =>
    show (o.announce c).2.bus.published = o.bus.published ++ _
    unfold Office.announce publish Bus.publish
    by_cases failing : o.bus.failPublishes = true
    · simp [drawMessageId, failing]
    · simp [drawMessageId, failing, Bus.route]

/-- A job is given to the pool without a message. -/
theorem unsent_submit (o : Office) (job : Settlement.Job) :
    (o.submit job).2.bus = o.bus ∧ (o.submit job).2.messagesDrawn = o.messagesDrawn := by
  unfold submit
  simp only
  split <;> exact ⟨rfl, rfl⟩

/-- A job waits in the pool, or the pool is as it was. -/
theorem pool_submit (o : Office) (job : Settlement.Job) : (o.submit job).2.pool =
    { o.pool with queue := o.pool.queue ++
        if o.pool.isOpen ∧ o.pool.queue.length < o.pool.sizing.capacity then [job] else [] } := by
  unfold submit Pool.submit
  by_cases open_ : o.pool.isOpen = true
  · by_cases room : o.pool.queue.length < o.pool.sizing.capacity
    · simp [open_, room]
    · simp [open_, room]
  · simp [open_]

theorem handsOver_turn (m : Move) (o : Office) (t : Ticket) (b : Booking) (view : Booking.View) :
    Turn.HandsOver ⟨m, o, (o.handOver b).finishBooking t b.seats (.ok view)⟩ b := by
  have kept := alike_handOver o b
  have given : (o.handOver b).bus = o.bus ∧ (o.handOver b).messagesDrawn = o.messagesDrawn ∧
      (o.handOver b).pool = (o.drawId.2.submit (.ofBooking b o.drawId.1)).2.pool := by
    rw [handOver_eq]
    obtain ⟨bus, messages⟩ := unsent_submit o.drawId.2 (.ofBooking b o.drawId.1)
    exact ⟨bus, messages, rfl⟩
  obtain ⟨bus, messages, pool⟩ := given
  constructor
  case shown =>
    show { (o.handOver b).shown with
      metrics := (o.handOver b).metrics.booking "created" b.seats } = _
    unfold shown
    rw [kept.ledger, bus, messages, pool]
  case queued => exact pool.trans (pool_submit o.drawId.2 _)

/-! ### Turns and runs -/

/-- A step of a request that gets on with booking seats. -/
theorem Told.stepTask (backed : IsBacked o) (stands : Stands t event user seats o own)
    (unanswered : Keyed.get? t o.answers = none) (m : Move) {task : Task}
    (at_ : o.task? t = some task) (step : o.stepTask t task = some o') :
    Told t event user seats (own ++ [⟨m, o, o'⟩]) o' := by
  cases stands with
  | asked at_' =>
      cases at_.symm.trans at_'
      cases step
      exact .beginBooking unanswered
  | choosing first at_' =>
      cases at_.symm.trans at_'
      cases step
      exact .chooseUser first unanswered
  | @trying x y tries known r task' first second vain at_' trying =>
      cases at_.symm.trans at_'
      cases trying with
      | attempting retries =>
          cases step
          have effect := backed.started t (.book r)
          unfold Office.call proceed
          cases result : o.ledger.start t o.setup.scan o.clock (.book r) with
          | mk progress l =>
              rw [result] at effect
              refine .tried first second vain unanswered retries o.dueOf ?_ (attempt_of_effect effect) ?_
              · cases progress <;> rfl
              · rintro e rfl
                exact .atOnce at_ result
      | atLedger stage due retries =>
          obtain ⟨call, serves, effect⟩ := backed.resumed at_
          cases serves
          have unbound : o.ledger.foretold stage = none := by cases stage; rfl
          rw [unbound] at effect
          simp only [Office.stepTask] at step
          split at step
          · cases step
            cases result : o.ledger.resume t o.clock stage with
            | mk progress l =>
                rw [result] at effect
                refine .tried first second vain unanswered retries (fun _ => due) ?_
                  (attempt_of_effect effect) ?_
                · cases progress <;> rfl
                · rintro e rfl
                  exact .later at_ result
          · cases step
      | pausing retries due =>
          simp only [Office.stepTask] at step
          split at step
          · cases step
            refine .stands (.trying first second ?_ (task?_setTask o t _) (.attempting _)) unanswered
            intro x member
            rcases List.mem_append.mp member with before | last
            · exact vain x before
            · rw [List.mem_singleton.mp last]
              rfl
          · cases step
  | @announcing x y commit tries known r row sold b first second vain stores at_' =>
      cases at_.symm.trans at_'
      cases step
      have kept := alike_announce o
        (.seatsUpdated ⟨known.id, known.publicId, sold.availableSeats, sold.version⟩)
      refine .stands ?_ ?_
      · rw [List.append_assoc]
        exact .handing first second vain stores (announces_turn m o t _ _) (task?_setTask _ t _)
      · exact (congrArg (Keyed.get? t) kept.answers).trans unanswered
  | @handing x y commit announce tries known r row sold b first second vain stores announces at_' =>
      cases at_.symm.trans at_'
      cases step
      refine .finishedBooking ?_
      rw [List.append_assoc]
      exact .booked first second vain stores announces at_ (handsOver_turn m o t b _)

theorem Stands.congr (stands : Stands t event user seats o own) (same : o'.task? t = o.task? t) :
    Stands t event user seats o' own := by
  cases stands with
  | asked at_ => exact .asked (same.trans at_)
  | choosing first at_ => exact .choosing first (same.trans at_)
  | trying first second vain at_ trying => exact .trying first second vain (same.trans at_) trying
  | announcing first second vain stores at_ =>
      exact .announcing first second vain stores (same.trans at_)
  | handing first second vain stores announces at_ =>
      exact .handing first second vain stores announces (same.trans at_)

/-- A request for seats does not wait for the pool. -/
theorem Stands.unhurried (stands : Stands t event user seats o own) (deadline : Nat) :
    o.task? t ≠ some (.closingPool deadline) := by
  intro waits
  cases stands with
  | asked at_ => cases waits.symm.trans at_
  | choosing first at_ => cases waits.symm.trans at_
  | trying first second vain at_ trying =>
      cases waits.symm.trans at_
      cases trying
  | announcing first second vain stores at_ => cases waits.symm.trans at_
  | handing first second vain stores announces at_ => cases waits.symm.trans at_

/-- What others do leaves a request for seats where it is. -/
theorem Told.keep (told : Told t event user seats own o) (known : t < o.tickets)
    (keeps : Keeps t o o') : Told t event user seats own o' := by
  cases told with
  | stands stands unanswered =>
      have unanswered' : Keyed.get? t o'.answers = none := by
        rcases keeps.answer with same | taken
        · exact same.trans unanswered
        · exact taken
      rcases keeps.task? known with same | gone
      · exact .stands (stands.congr same) unanswered'
      · refine .gone gone stands.once fun answer found => ?_
        cases unanswered'.symm.trans found
  | gone idle once course =>
      refine .gone ?_ once fun answer found => ?_
      · rcases keeps.task? known with same | gone
        · exact same.trans idle
        · exact gone
      · rcases keeps.answer with same | taken
        · exact course answer (same.symm.trans found)
        · cases taken.symm.trans found

/-- Every move, of the request or of others. -/
theorem Told.move (told : Told t event user seats own o) (backed : IsBacked o)
    (known : t < o.tickets) {m : Move} (moved : m.apply o = some o') :
    Told t event user seats (own ++ if m.isBy t then [⟨m, o, o'⟩] else []) o' := by
  cases own_ : m.isBy t with
  | false =>
      rw [if_neg Bool.false_ne_true, List.append_nil]
      exact told.keep known (keeps_of_move own_ moved)
  | true =>
      rw [if_pos rfl]
      cases told with
      | gone idle _ _ => cases (isBy_of_none idle moved).symm.trans own_
      | stands stands unanswered =>
          obtain ⟨task, at_, step | ⟨deadline, rfl⟩⟩ := step_of_isBy own_ moved
          · exact .stepTask backed stands unanswered m at_ step
          · exact absurd at_ (stands.unhurried deadline)

end Steps

/-- What a request for seats has done, at any time after it was made. -/
theorem Run.told {first o o₁ o₂ : Office} {turns before after : List Turn} {event user : PublicId}
    {seats : Nat} (run : Run first turns o) (new : IsNew first)
    (asked : turns = before ++ ⟨.ask (.create event user seats), o₁, o₂⟩ :: after) :
    o₁.tickets < o.tickets ∧ Told o₁.tickets event user seats (ownTurns o₁.tickets after) o := by
  subst asked
  obtain ⟨reached, moved, -⟩ := run.split
  obtain rfl : (o₁.ask (.create event user seats)).2 = o₂ := Option.some.inj moved
  refine run.since (P := fun turns o => o₁.tickets < o.tickets ∧
    Told o₁.tickets event user seats (ownTurns o₁.tickets turns) o) ⟨Nat.lt_succ_self _, ?_⟩ ?_
  · have fresh := (reached.isBacked new.isBacked).1.fresh (Nat.le_refl o₁.tickets)
    have unanswered := reached.unanswered new (Nat.le_refl o₁.tickets)
    exact .stands (.asked (task?_ask _ fresh)) unanswered
  · rintro turns o o' m run moved ⟨known, told⟩
    refine ⟨Nat.lt_of_lt_of_le known (tickets_le moved), ?_⟩
    rw [ownTurns_concat]
    exact told.move (run.isBacked new.isBacked).1 known moved

/-- A request for seats is all or nothing: at most one of its turns changes the
books, also when it is given up, and its turns are told by its answer. -/
theorem Run.createsOnce {first o o₁ o₂ : Office} {turns before after : List Turn}
    {event user : PublicId} {seats : Nat} (run : Run first turns o) (new : IsNew first)
    (asked : turns = before ++ ⟨.ask (.create event user seats), o₁, o₂⟩ :: after) :
    CommitsAtMostOnce (ownTurns o₁.tickets after) ∧
      ∀ answer, Keyed.get? o₁.tickets o.answers = some answer →
        Course o₁.tickets event user seats (ownTurns o₁.tickets after) answer := by
  obtain ⟨-, told⟩ := run.told new asked
  cases told with
  | stands stands unanswered =>
      refine ⟨stands.once, fun answer answered => ?_⟩
      cases unanswered.symm.trans answered
  | gone idle once course => exact ⟨once, course⟩

/-- An office with one worker. -/
def vacant : Office := opened .standard .epoch (.of 1 4) (.fixed .success) [] none

/-- A talk with three seats is put on sale, and a user becomes known. -/
def sale : List Move :=
  [.ask (.register ⟨.ofNat 1, "Talk", .epoch, .epoch, 3, ⟨2500⟩⟩), .turn (.caller 0),
    .turn (.caller 0),
    .write ⟨[(⟨1⟩, ⟨⟨1⟩, .ofNat 1, "Talk", .epoch, .epoch, 3, ⟨2500⟩, 1⟩)], 0⟩
      ⟨[(⟨7⟩, ⟨⟨7⟩, .ofNat 2, 1⟩)], 0⟩]

/-- The user has asked for two seats of the talk. -/
def wanted : Office := ((vacant.played sale).ask (.create (.ofNat 1) (.ofNat 2) 2)).2

/-- The request gets on six times. -/
def buying : List Move := List.replicate 6 (.turn (.caller 1))

/-- The turn in which the user asks. -/
def order : Turn := ⟨.ask (.create (.ofNat 1) (.ofNat 2) 2), vacant.played sale, wanted⟩

theorem run_buying :
    Run vacant (vacant.play sale ++ order :: wanted.play buying) (wanted.played buying) := by
  have sold : Run vacant ([] ++ vacant.play sale) (vacant.played sale) := Run.start.play rfl
  have asked : order.move.apply (vacant.played sale) = some wanted := rfl
  have bought := (sold.next asked).play (show wanted.canPlay buying = true from rfl)
  rwa [List.append_assoc] at bought

theorem createsOnce_talk :
    ∃ view, Keyed.get? 1 (wanted.played buying).answers = some (.booking (.ok view)) ∧
      view.total = ⟨5000⟩ ∧ CommitsAtMostOnce (ownTurns 1 (wanted.play buying)) ∧
      Course 1 (.ofNat 1) (.ofNat 2) 2 (ownTurns 1 (wanted.play buying)) (.booking (.ok view)) := by
  obtain ⟨once, course⟩ := run_buying.createsOnce (.opened (fun _ => .refl _) _ _ _ _ _) rfl
  exact ⟨_, rfl, rfl, once, course _ rfl⟩

end BoxOffice.Office
