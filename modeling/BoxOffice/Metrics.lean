import BoxOffice.Decimal.Nearest

/-!
# Metrics

Counters, gauges and histograms are series: a name with labels. A series exists from its first record on.
The catalogue says what the business counters mean.
-/

namespace BoxOffice

/-- A name with labels, the labels in the order of their names. -/
structure Metrics.Series where
  name : String
  labels : List (String × String)
  deriving DecidableEq, Repr

/-- The records so far. -/
structure Metrics where
  counters : List (Metrics.Series × Nat)
  gauges : List (Metrics.Series × Int)
  /-- The histograms and how often each was recorded. -/
  histograms : List (Metrics.Series × Nat)
  deriving DecidableEq, Repr

namespace Metrics

/-- A series in the form of a report. Braces hold the labels, if there are any. -/
def Series.text (s : Series) : String :=
  if s.labels.isEmpty then s.name
  else s.name ++ "\x7b" ++ ",".intercalate (s.labels.map fun l => l.1 ++ "=" ++ l.2) ++ "\x7d"

/-- No record. -/
def empty : Metrics := ⟨[], [], []⟩

/-- Adds to the value of a series, which starts at zero. -/
def add {α : Type} [Add α] (s : Series) (n : α) : List (Series × α) → List (Series × α)
  | [] => [(s, n)]
  | (t, m) :: rest => if t = s then (t, m + n) :: rest else (t, m) :: add s n rest

/-- Raises a counter. -/
def count (m : Metrics) (s : Series) (n : Nat) : Metrics := { m with counters := add s n m.counters }

/-- Moves a gauge. -/
def move (m : Metrics) (s : Series) (n : Int) : Metrics := { m with gauges := add s n m.gauges }

/-- Records a value in a histogram. -/
def observe (m : Metrics) (s : Series) : Metrics := { m with histograms := add s 1 m.histograms }

/-! ### The series of the box office -/

/-- A booking attempt: its outcome, its duration, and the seats when it was created. -/
def booking (m : Metrics) (outcome : String) (seats : Nat) : Metrics :=
  let m := m.count ⟨"quicket_bookings_total", [("outcome", outcome)]⟩ 1
  let m := m.observe ⟨"quicket_booking_duration_seconds", []⟩
  if outcome = "created" then m.count ⟨"quicket_booked_seats_total", []⟩ seats else m

/-- A step of a settlement job. -/
def settlement (m : Metrics) (outcome : String) : Metrics :=
  m.count ⟨"quicket_settlement_jobs_total", [("outcome", outcome)]⟩ 1

/-- A message that a consumer took. -/
def consumed (m : Metrics) (consumer outcome : String) : Metrics :=
  m.count ⟨"quicket_snapshot_messages_total", [("consumer", consumer), ("outcome", outcome)]⟩ 1

/-- A published change. -/
def published (m : Metrics) (routingKey : String) : Metrics :=
  m.count ⟨"quicket_changes_published_total", [("routing_key", routingKey)]⟩ 1

/-- A change that was not published. -/
def publishFailed (m : Metrics) (routingKey : String) : Metrics :=
  m.count ⟨"quicket_change_publish_failures_total", [("routing_key", routingKey)]⟩ 1

/-- What became of a job that was given to a pool. -/
def poolJob (m : Metrics) (pool outcome : String) : Metrics :=
  m.count ⟨"quicket_worker_pool_jobs_total", [("outcome", outcome), ("pool", pool)]⟩ 1

/-- A change of the number of jobs that wait in a pool. -/
def poolDepth (m : Metrics) (pool : String) (change : Int) : Metrics :=
  m.move ⟨"quicket_worker_pool_queue_depth", [("pool", pool)]⟩ change

/-! ### The catalogue -/

/-- The kinds of series. -/
inductive Kind
  | counter
  | histogram
  deriving DecidableEq, Repr

/-- The word for a kind. -/
def Kind.word : Kind → String
  | counter => "counter"
  | histogram => "histogram"

/-- What the business series mean. -/
def catalogue : List (String × Kind × String) :=
  [("quicket_bookings_total", .counter,
      "Booking attempts by outcome (created, seats_unavailable, event_expired, lock_contention, ...)"),
    ("quicket_booked_seats_total", .counter, "Seats taken by committed bookings"),
    ("quicket_booking_duration_seconds", .histogram,
      "Time taken by BookingService::create, including retries"),
    ("quicket_settlement_jobs_total", .counter,
      "Settlement jobs by outcome (submitted, rejected, success, failed, already_settled, error)"),
    ("quicket_snapshot_messages_total", .counter,
      "Change messages by consumer and outcome (applied, skipped, ignored, requeued, dead_lettered)"),
    ("quicket_changes_published_total", .counter, "Changes published by routing key"),
    ("quicket_change_publish_failures_total", .counter,
      "Changes that could not be published, by routing key")]

/-- The upper ends of the duration buckets, in seconds. -/
def durationBuckets : List Float :=
  [(1, 1000), (25, 10000), (5, 1000), (1, 100), (25, 1000), (5, 100), (1, 10), (25, 100), (5, 10),
    (1, 1), (25, 10), (5, 1), (10, 1)].map fun (num, den) => Decimal.nearest num den

end Metrics

end BoxOffice
