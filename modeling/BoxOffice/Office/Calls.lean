import BoxOffice.Office.Settling

/-!
# Answering requests

How a request gets on. A request has its first step as soon as its turn comes, and every further step when
what it waits for has come. Between the change of a row and the message about it, and between that and
the handing over for settlement, others may get on.
-/

namespace BoxOffice.Office

/-! ### Booking seats -/

/-- Ends a request for seats and counts it. A booking counts as created. -/
def finishBooking (o : Office) (t : Ledger.Ticket) (seats : Nat)
    (result : Except Booking.Error Booking.View) : Office :=
  let outcome :=
    match result with
    | .ok _ => "created"
    | .error e => e.outcome
  { o.finish t (.booking result) with metrics := o.metrics.booking outcome seats }

/-- What a client is told of the ledger's refusal to book seats of an event. -/
def bookingError (event : PublicId) : Ledger.Error → Booking.Error
  | .eventNotFound _ => .eventNotFound event
  | .seatsUnavailable requested available => .seatsUnavailable requested available
  | .lockContention => .busy
  | e => .ledger e

/-- Begins to book seats: there have to be some, and the event has to be known. -/
def beginBooking (o : Office) (t : Ledger.Ticket) (event user : PublicId) (seats : Nat) : Office :=
  if seats = 0 then o.finishBooking t seats (.error .invalidSeats)
  else
    match o.events.find? event with
    | none => o.finishBooking t seats (.error (.eventNotFound event))
    | some snapshot => o.setTask t (.choosing snapshot user seats)

/-- Goes on booking seats of a known event: it must not be over, and the user has to be known. The end of
the payment hold is fixed by the same time of day. -/
def chooseUser (o : Office) (t : Ledger.Ticket) (event : EventSnapshot) (user : PublicId)
    (seats : Nat) : Office :=
  if o.clock.after event.endDate then
    o.finishBooking t seats (.error (.eventExpired event.publicId event.endDate))
  else
    match o.users.find? user with
    | none => o.finishBooking t seats (.error (.userNotFound user))
    | some snapshot =>
      let (id, o) := o.drawId
      match o.clock.add? o.setup.hold with
      | none => o.finish t .undated
      | some expiresAt => o.setTask t (.attempting event ⟨id, event.id, snapshot.id, seats, expiresAt⟩ 0)

/-! ### Calls on the ledger -/

/-- The change that is made known. -/
def Announcement.change (row : EventRow) : Announcement → EventChange
  | .created => .created (.ofRow row)
  | .updated => .updated (.ofRow row)
  | .deleted => .deleted ⟨row.id, row.publicId, row.version⟩

/-- The earliest instant at which a call on the ledger goes on: an open booking keeps the row for a
while. -/
def dueOf (o : Office) {kind : Ledger.Call.Kind} : Ledger.Stage kind → Nat
  | .booking _ => o.now + (o.ledger.hold.getD ⟨0⟩).ticks
  | _ => o.now

/-- Uses an answer of the ledger. -/
def deliver (o : Office) (t : Ledger.Ticket) :
    {kind : Ledger.Call.Kind} → kind.Answer → Purpose kind → Office
  | kind, answer, .answer => o.finish t (.ledger kind answer)
  | .row, .error e, .announce _ => o.finish t (.ledger .row (.error e))
  | .row, .ok row, .announce a => o.setTask t (.announcing row (a.change row))
  | .receipt, answer, .attempt event request retries =>
    match Retry.verdict o.setup.retry Ledger.Error.isTransient o.setup.spread retries answer with
    | .stop (.ended (.ok receipt)) => o.setTask t (.announcingSeats event receipt)
    | .stop (.ended (.error e)) =>
      o.finishBooking t request.seats (.error (bookingError event.publicId e))
    | .stop (.panicked fault) => o.finish t (.panicked (some fault))
    | .again wait => o.setTask t (.pausing event request retries (o.now + wait.ticks))
  | .booking, none, .lookUp id => o.finish t (.booking (.error (.bookingNotFound id)))
  | .booking, some b, .lookUp _ =>
    match o.ledger.start t o.setup.scan o.clock (.findEvent b.eventId) with
    | (.done answer, ledger) => view { o with ledger := ledger } b answer
    | (.further stage, ledger) =>
      { o with ledger := ledger }.setTask t (.atLedger .event stage o.now (.view b))
  | .event, answer, .view b => view o b answer
where
  /-- Shows a booking with its event. -/
  view (o : Office) (b : Booking) : Option EventRow → Office
    | none => o.finish t (.booking (.error (.ledger (.eventNotFound b.eventId))))
    | some row => o.finish t (.booking (.ok (b.view row.publicId)))

/-- Goes on after a step of a call on the ledger. -/
def proceed (o : Office) (t : Ledger.Ticket) {kind : Ledger.Call.Kind} (purpose : Purpose kind) :
    Ledger.Progress kind × Ledger → Office
  | (.done answer, ledger) => { o with ledger := ledger }.deliver t answer purpose
  | (.further stage, ledger) =>
    { o with ledger := ledger }.setTask t (.atLedger kind stage (o.dueOf stage) purpose)

/-- Begins a call on the ledger. -/
def call (o : Office) (t : Ledger.Ticket) {kind : Ledger.Call.Kind} (c : Ledger.Call kind)
    (purpose : Purpose kind) : Office :=
  o.proceed t purpose (o.ledger.start t o.setup.scan o.clock c)

/-! ### Steps -/

/-- Holds a row for a request as soon as that is possible. -/
def holdRow (o : Office) (t : Ledger.Ticket) (key : RowKey) : Office :=
  match o.acquire t key with
  | (true, o) => { o.finish t (.held true) with held := Keyed.put key t o.held }
  | (false, o) => o.setTask t (.holding key)

/-- The first step of a request. -/
def begin (o : Office) (t : Ledger.Ticket) : Request → Office
  | .ledger _ c => o.call t c .answer
  | .register draft => o.call t (.register draft) (.announce .created)
  | .revise id revision => o.call t (.revise id revision) (.announce .updated)
  | .remove id => o.call t (.remove id) (.announce .deleted)
  | .create event user seats => o.beginBooking t event user seats
  | .find booking => o.call t (.findBooking booking) (.lookUp booking)
  | .settle job => o.setTask t (.settling (.deciding job))
  | .hold key => if o.hasRow key then o.holdRow t key else o.finish t (.held false)
  | .wait span => o.setTask t (.waiting (o.now + span.ticks))
  | .closePool grace =>
    match o.closePool grace with
    | (.ended inTime, o) => o.finish t (.drained inTime)
    | (.waiting deadline, o) => o.setTask t (.closingPool deadline)
  | .stopConsumers =>
    if o.dismissed || o.application.isSome then o.finish t .notRunning
    else
      { o.setTask t (.stoppingConsumers (!o.consumers.isEmpty)) with
        dismissed := true
        consumers := o.consumers.map fun c => { c with told := true } }
  | .stopApplication =>
    match o.application with
    | some a =>
      if a.stage = .running then
        { o.setTask t .stoppingApplication with application := some { a with stage := .signalled } }
      else o.finish t .notRunning
    | none => o.finish t .notRunning

/-- Whether a row that is waited for under a ticket can be held now. -/
def canHold (o : Office) (t : Ledger.Ticket) (key : RowKey) : Bool :=
  let mayHave (lock : Ledger.Lock) : Bool := lock.holder = some t || lock.isFree
  match key with
  | .event id => (o.ledger.eventCell? id).any fun cell => mayHave cell.lock
  | .booking id => (o.ledger.bookingCell? id).any fun cell => mayHave cell.lock

/-- The next step of a request, when it can get on. -/
def stepTask (o : Office) (t : Ledger.Ticket) : Task → Option Office
  | .asked r => some (o.begin t r)
  | .atLedger _ stage due purpose =>
    if due ≤ o.now && o.ledger.canResume t stage then
      some (match o.ledger.resume t o.clock stage with
        | (.done answer, ledger) => { o with ledger := ledger }.deliver t answer purpose
        | (.further stage, ledger) =>
          { o with ledger := ledger }.setTask t (.atLedger _ stage due purpose))
    else none
  | .announcing row change => some ((o.announce change).2.finish t (.ledger .row (.ok row)))
  | .choosing event user seats => some (o.chooseUser t event user seats)
  | .attempting event request retries =>
    some (o.call t (.book request) (.attempt event request retries))
  | .pausing event request retries due =>
    if due ≤ o.now then some (o.setTask t (.attempting event request (retries + 1))) else none
  | .announcingSeats event receipt =>
    let change :=
      .seatsUpdated ⟨event.id, event.publicId, receipt.availableSeats, receipt.version⟩
    some ((o.announce change).2.setTask t (.handingOver event receipt))
  | .handingOver event receipt =>
    some ((o.handOver receipt.booking).finishBooking t receipt.booking.seats
      (.ok (receipt.booking.view event.publicId)))
  | .settling run =>
    (o.stepSettlement true (.caller t) run).map fun (step, o) =>
      match step with
      | .on run => o.setTask t (.settling run)
      | .over (.panicked fault) => o.finish t (.panicked fault)
      | .over (.ended result) => o.finish t (.settled result)
  | .holding key => if o.canHold t key then some (o.holdRow t key) else none
  | .waiting due => if due ≤ o.now then some (o.finish t .waited) else none
  | .closingPool _ => if o.pool.isDeserted then some (o.finish t (.drained true)) else none
  | .stoppingConsumers told =>
    if o.consumers.all (·.isStopped) then some (o.finish t (.stopped told)) else none
  | .stoppingApplication =>
    match o.application with
    | some ⟨_, .ended clean⟩ => some (o.finish t (.ended clean))
    | _ => none

/-- The next step of the request with a ticket. -/
def stepCaller (t : Ledger.Ticket) (o : Office) : Option Office :=
  (o.task? t).bind (o.stepTask t)

/-- The instants that a request waits for. -/
def Task.dues : Task → List Nat
  | .atLedger _ _ due _ | .pausing _ _ _ due | .waiting due | .closingPool due => [due]
  | .settling run => run.dues
  | _ => []

/-- Gives a request up. It lets go of all that it holds or waits for. -/
def abandon (o : Office) (t : Ledger.Ticket) : Office :=
  let o :=
    match o.task? t with
    | some (.atLedger _ stage _ _) => { o with ledger := o.ledger.abandon t stage }
    | some (.settling run) => o.cancelSettlement (.caller t) run
    | some (.holding key) => o.leave t key
    | _ => o
  { o with tasks := Keyed.erase t o.tasks }

end BoxOffice.Office
