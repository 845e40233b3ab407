import BoxOffice.Text.Bytes
import BoxOffice.Text.Blank
import BoxOffice.Text.Quoted
import BoxOffice.Decimal.Scientific
import BoxOffice.Decimal.Shortest
import BoxOffice.Span
import BoxOffice.PublicId.Reader
import BoxOffice.Timestamp.Reader
import BoxOffice.Payment
import BoxOffice.Snapshot
import BoxOffice.Subscription
import BoxOffice.Message
import BoxOffice.Ledger.Error
import BoxOffice.Settlement.Error
import BoxOffice.Snapshot.Error
import BoxOffice.Bus.Error
import BoxOffice.Change
import BoxOffice.Retry
import BoxOffice.Settings
import BoxOffice.Metrics
import BoxOffice.Storage.Columns
import BoxOffice.Storage.Record
import BoxOffice.Sample
import BoxOffice.Booking.Error
import BoxOffice.Snapshot.Handler
import BoxOffice.Change.PublishError
import BoxOffice.Pool.Refusal
import BoxOffice.Ledger.Call
import BoxOffice.Bus.Trial
import BoxOffice.Gate
import BoxOffice.Pool.Shift
import BoxOffice.Schedule
import BoxOffice.Pool.Trial
import BoxOffice.Settlement.Run
import BoxOffice.Settlement.Script
import BoxOffice.Consumer.Script
import BoxOffice.Office
import BoxOffice.Office.Calls
import BoxOffice.Office.Day
import BoxOffice.Office.Opening
import BoxOffice.Proofs.Ledger.Books
import BoxOffice.Proofs.Ledger.Traffic
import BoxOffice.Proofs.Ledger.Steps
import BoxOffice.Proofs.Ledger.Custody
import BoxOffice.Proofs.Ledger.Effect
import BoxOffice.Proofs.Ledger.Reachable
import BoxOffice.Proofs.Ledger.Conservation
import BoxOffice.Proofs.Ledger.Linearization
import BoxOffice.Proofs.Ledger.Payments
import BoxOffice.Proofs.Ledger.Lookups
import BoxOffice.Proofs.Office.Run
import BoxOffice.Proofs.Office.Steps
import BoxOffice.Proofs.Office.Backing
import BoxOffice.Proofs.Office.Reached
import BoxOffice.Proofs.Office.Frame
import BoxOffice.Proofs.Office.Creation
import BoxOffice.Proofs.Office.Settlement
import BoxOffice.Proofs.Pool.Traffic
import BoxOffice.Proofs.Pool.Jobs
import BoxOffice.Proofs.Pool.Accounting
import BoxOffice.Proofs.Pool.Breakdowns
import BoxOffice.Proofs.Pool.Reports
import BoxOffice.Proofs.Decimal.Digits
import BoxOffice.Proofs.PublicId.Reading
import BoxOffice.Proofs.Timestamp.Reading
import BoxOffice.Proofs.Json.Numbers
import BoxOffice.Proofs.Json.Texts
import BoxOffice.Proofs.Json.Values
import BoxOffice.Proofs.Json.Records
import BoxOffice.Proofs.Change.Decoding
import BoxOffice.Proofs.Change.RoundTrip
import BoxOffice.Proofs.Bus.Messages
import BoxOffice.Proofs.Snapshot.Writing
import BoxOffice.Proofs.Office.News
import BoxOffice.Proofs.Office.Wires
import BoxOffice.Proofs.Office.Speaking
import BoxOffice.Proofs.Office.History
import BoxOffice.Proofs.Office.Announcing
import BoxOffice.Proofs.Office.Conveying
import BoxOffice.Proofs.Office.Copies
import BoxOffice.Proofs.Office.Convergence
import BoxOffice.Proofs.Bus.Lanes
import BoxOffice.Proofs.Bus.Accounting
import BoxOffice.Proofs.Bus.Following
import BoxOffice.Proofs.Consumer.Turns
import BoxOffice.Proofs.Consumer.Redelivery
import BoxOffice.Proofs.Office.Stakes
import BoxOffice.Proofs.Office.Shutdown
import BoxOffice.Proofs.Office.Trail
import BoxOffice.Proofs.Office.Jobs
import BoxOffice.Proofs.Office.Accounting
import BoxOffice.Proofs.Office.Handover
import BoxOffice.Proofs.Office.Names
import BoxOffice.Proofs.Office.Unheld
import BoxOffice.Proofs.Office.Hours
import BoxOffice.Proofs.Office.Finding
import BoxOffice.Proofs.Office.Duties
import BoxOffice.Proofs.Office.Staffing
import BoxOffice.Proofs.Office.WindingUp
import BoxOffice.Proofs.Snapshot.Edits
import BoxOffice.Proofs.Snapshot.Deliveries
import BoxOffice.Proofs.Snapshot.Order
import BoxOffice.Proofs.Snapshot.Rows
import BoxOffice.Proofs.Snapshot.Redelivery
import BoxOffice.Proofs.Office.Removal
import BoxOffice.Proofs.Retry.Attempts
import BoxOffice.Proofs.Routing.Language
import BoxOffice.Proofs.Ledger.Separation
import BoxOffice.Proofs.Office.Indifference
import BoxOffice.Proofs.Text.Undamaged
import BoxOffice.Proofs.Storage.Headers
import BoxOffice.Proofs.Ledger.Possession
import BoxOffice.Proofs.Timestamp.Adding
import BoxOffice.Proofs.Office.Promptness
import BoxOffice.Proofs.Office.PaymentHold
import BoxOffice.Proofs.Consumer.Seats
import BoxOffice.Proofs.Consumer.Attendance
import BoxOffice.Proofs.Consumer.Draining
