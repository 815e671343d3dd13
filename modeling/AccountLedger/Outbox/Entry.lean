import AccountLedger.Event

/-!
Outbox entries: events that were committed together with the change they describe, and how their
delivery stands.
-/

namespace AccountLedger

inductive DeliveryStatus where
  | pending
  | sent
  | failed
  deriving DecidableEq, Repr

namespace DeliveryStatus

def name : DeliveryStatus → String
  | .pending => "PENDING"
  | .sent => "SENT"
  | .failed => "FAILED"

def names : List (String × DeliveryStatus) :=
  [("PENDING", .pending), ("SENT", .sent), ("FAILED", .failed)]

def ofName (name : String) : Except String DeliveryStatus :=
  match names.lookup name with
  | some status => .ok status
  | none => .error s!"unknown outbox status: {name}"

def decode : Decoder DeliveryStatus := Decoder.choice names

end DeliveryStatus

/-- A stored message about an event. Its attempts are counted with 32 bits: there have to be fewer
than 2 ^ 31 of them. -/
structure OutboxEntry where
  id : Uuid
  aggregate : Uuid
  eventKind : String
  topic : String
  payload : String
  status : DeliveryStatus
  attempts : Int
  createdAt : Timestamp
  lastAttemptAt : Option Timestamp
  deriving DecidableEq, Repr

namespace OutboxEntry

/-- The entry of an event that nobody has tried to deliver yet. -/
def ofEvent (id : Uuid) (event : LedgerEvent) (now : Timestamp) : OutboxEntry :=
  { id, aggregate := event.aggregate, eventKind := event.kind, topic := event.topic
    payload := event.payload, status := .pending, attempts := 0, createdAt := now
    lastAttemptAt := none }

/-- The entry after a delivery attempt with this result. -/
def attempted (entry : OutboxEntry) (status : DeliveryStatus) (time : Timestamp) : OutboxEntry :=
  { entry with status, attempts := entry.attempts + 1, lastAttemptAt := some time }

/-- The key by which consumers may recognise a redelivery. -/
def dedupKey (entry : OutboxEntry) : String := s!"{entry.aggregate}:{entry.eventKind}"

def toJson (entry : OutboxEntry) : Json :=
  Json.record [
    ("id", .string (toString entry.id)),
    ("aggregateId", .string (toString entry.aggregate)),
    ("eventType", .string entry.eventKind),
    ("topic", .string entry.topic),
    ("payload", .string entry.payload),
    ("status", .string entry.status.name),
    ("attempts", Json.ofInt entry.attempts),
    ("createdAt", .string (toString entry.createdAt)),
    ("lastAttemptAt", Json.ofOption (fun time => .string (toString time)) entry.lastAttemptAt)]

def decoder : RecordDecoder OutboxEntry :=
  OutboxEntry.mk
    <$> .required "id" Decoder.uuid
    <*> .required "aggregateId" Decoder.uuid
    <*> .required "eventType" Decoder.string
    <*> .required "topic" Decoder.string
    <*> .required "payload" Decoder.string
    <*> .required "status" DeliveryStatus.decode
    <*> .required "attempts" Decoder.int32
    <*> .required "createdAt" Decoder.timestamp
    <*> .nullable "lastAttemptAt" Decoder.timestamp

def decode : Decoder OutboxEntry := decoder.decode

end OutboxEntry

end AccountLedger
