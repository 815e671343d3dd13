import AccountLedger.Http.Call
import AccountLedger.Outbox.Entry
import AccountLedger.Outbox.Error

/-!
The message broker behind HTTP: every entry is posted to its topic, keyed by its aggregate.
-/

namespace AccountLedger.OutboxEntry

/-- The message that carries an entry. -/
def message (entry : OutboxEntry) : Json :=
  Json.record [
    ("messageId", .string (toString entry.id)),
    ("key", .string (toString entry.aggregate)),
    ("eventType", .string entry.eventKind),
    ("value", .string entry.payload)]

/-- The call that sends an entry to a broker with this base address. -/
def call (entry : OutboxEntry) (base : String) : HttpCall :=
  ⟨"POST", Url.ofText s!"{baseAddress base}/topics/{entry.topic}", some entry.message⟩

/-- What a call tells about the delivery. -/
def sentBy (entry : OutboxEntry) (base : String) (timeoutMs : Nat) :
    CallResult → Except BrokerError Unit
  | .response status body =>
    if isSuccessStatus status then .ok () else .error (.rejected status (bodyText body))
  | .timedOut => .error (.timeout timeoutMs)
  | .disconnected => .error (.unreachable (entry.call base).failureText)

end AccountLedger.OutboxEntry
