import AccountLedger.Database.Error
import AccountLedger.Uuid

/-!
Errors of reading and updating outbox entries, and of sending them.
-/

namespace AccountLedger

inductive OutboxError where
  | notFound (entry : Uuid)
  | database (error : DatabaseError)
  | corruptRow (reason : String)
  deriving DecidableEq, Repr

namespace OutboxError

def message : OutboxError → String
  | .notFound entry => s!"Outbox entry not found: {entry}"
  | .database error => s!"Database error: {error.message}"
  | .corruptRow reason => s!"Corrupt outbox row: {reason}"

end OutboxError

/-- Why a send to the message broker did not go through. -/
inductive BrokerError where
  | unreachable (reason : String)
  | rejected (status : Nat) (body : String)
  | timeout (waitedMs : Nat)
  deriving DecidableEq, Repr

namespace BrokerError

def message : BrokerError → String
  | .unreachable reason => s!"Broker unreachable: {reason}"
  | .rejected status body => s!"Broker rejected message with status {status}: {body}"
  | .timeout waitedMs => s!"Broker send timed out after {waitedMs}ms"

end BrokerError

end AccountLedger
