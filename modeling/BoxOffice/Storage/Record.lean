import BoxOffice.Bus.Error
import BoxOffice.Decimal.Integer
import BoxOffice.Message

/-!
# Messages as records of a log

On the log a message is a record: its key and body are the record's, and the routing key, the identifier
and the count of redeliveries are headers. Reading goes through the headers in order and a later one
wins; a header without a text is passed over. A missing routing key is empty, a missing count is zero,
and a missing identifier is the one the reader brings.
-/

namespace BoxOffice.Storage

/-- A header of a record. -/
structure Header where
  name : String
  value : Option Bytes
  deriving DecidableEq, Repr

/-- The names of the headers that a message has. -/
def routingKeyHeader : String := "routing_key"

@[inherit_doc routingKeyHeader]
def messageIdHeader : String := "message_id"

@[inherit_doc routingKeyHeader]
def redeliveriesHeader : String := "redeliveries"

/-- The name of the header that says why a message was rejected. -/
def reasonHeader : String := "dead_letter_reason"

/-- A header with a text. -/
def Header.ofText (name value : String) : Header := ⟨name, some (Bytes.ofText value)⟩

/-- The headers of a message, with the reason for which it was rejected. -/
def headers (m : Message) (reason : Option String) : List Header :=
  [.ofText routingKeyHeader m.routingKey, .ofText messageIdHeader m.messageId,
    .ofText redeliveriesHeader (Decimal.natText m.redeliveries)] ++
      (reason.map (Header.ofText reasonHeader)).toList

/-- What a header adds to a message. -/
def applyHeader (m : Message) (h : Header) : Message :=
  match h.value.bind Bytes.text? with
  | none => m
  | some value =>
    if h.name = routingKeyHeader then { m with routingKey := value }
    else if h.name = messageIdHeader then { m with messageId := value }
    else if h.name = redeliveriesHeader then
      { m with redeliveries := (Decimal.readUnsigned Message.maxRedeliveries value).getD 0 }
    else m

/-- The message of a record. -/
def messageOf (freshId : String) (key body : Option Bytes) (hs : List Header) : Message :=
  hs.foldl applyHeader ⟨"", freshId, Bytes.lossyText (key.getD []), body.getD [], 0⟩

/-- The first check when a bus is set up: it needs the address of a broker. -/
def checkBrokers (brokers : Option String) : Except Bus.Error String :=
  match brokers with
  | some b => .ok b
  | none => .error (.connectionFailed "Brokers not configured")

end BoxOffice.Storage
