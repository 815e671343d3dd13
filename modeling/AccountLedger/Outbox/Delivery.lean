import AccountLedger.Settings
import AccountLedger.Storage

/-!
Delivery of outbox entries to the message broker, and the sweep that tries again what was not
delivered. The outcome of every attempt is stored on the entry.
-/

namespace AccountLedger

/-- Send an entry once and store the outcome; the status that the entry has then. -/
def OutboxEntry.deliver (entry : OutboxEntry) (sendTimeoutMs : Nat) :
    Program service (Except OutboxError DeliveryStatus) := do
  let sent : Except BrokerError Unit ← (HostRequest.send entry sendTimeoutMs).perform
  let status := match sent with
    | .ok () => DeliveryStatus.sent
    | .error _ => .failed
  let now : Timestamp ← HostRequest.now.perform
  let updated : Except OutboxError OutboxEntry ←
    (TableRequest.recordAttempt entry.id status now).perform
  return updated.map (·.status)

/-- What one sweep did, and when it was over. -/
structure SweepReport where
  attempted : Nat
  sent : Nat
  failed : Nat
  errors : List String
  completedAt : Timestamp
  deriving DecidableEq, Repr

namespace SweepReport

/-- The report of a sweep that is not over; until then its time is the start of 1970. -/
def empty : SweepReport := ⟨0, 0, 0, [], ⟨0, 0⟩⟩

/-- The report after one more delivery. -/
def add (report : SweepReport) (entry : OutboxEntry) :
    Except OutboxError DeliveryStatus → SweepReport
  | .ok .sent => { report with attempted := report.attempted + 1, sent := report.sent + 1 }
  | .ok _ => { report with attempted := report.attempted + 1, failed := report.failed + 1 }
  | .error error =>
    { report with attempted := report.attempted + 1, failed := report.failed + 1
                  errors := report.errors ++ [s!"{entry.id}: {error.message}"] }

end SweepReport

/-- Why a sweep gave up before sending anything. -/
inductive SweepError where
  | outbox (error : OutboxError)
  | timeOutOfRange
  deriving DecidableEq, Repr

namespace SweepError

def message : SweepError → String
  | .outbox error => s!"Outbox error: {error.message}"
  | .timeOutOfRange => "`DateTime - TimeDelta` overflowed"

end SweepError

namespace SweepPolicy

/-- The longest age, in milliseconds, that can be subtracted from a time. -/
def maxAgeMs : Nat := 0x7FFFFFFFFFFFFFFF

/-- Pending entries created before this time count as stuck. An age too long to be subtracted is
replaced by a minute. -/
def staleBefore? (policy : SweepPolicy) (now : Timestamp) : Option Timestamp :=
  let ageMs := if policy.staleMs ≤ maxAgeMs then policy.staleMs else 60000
  let before := now.addNanos (-(ageMs * 1000000 : Nat))
  if before.inRange then some before else none

end SweepPolicy

/-- Deliver entries one after another; no failure stops the rest. -/
def deliverAll (sendTimeoutMs : Nat) (report : SweepReport) :
    List OutboxEntry → Program service SweepReport
  | [] => return report
  | entry :: rest => do
    let outcome ← entry.deliver sendTimeoutMs
    deliverAll sendTimeoutMs (report.add entry outcome) rest

/-- Try again what failed, least recently attempted first, and what has been pending for too
long. -/
def sweep (policy : SweepPolicy) (sendTimeoutMs : Nat) :
    ExceptT SweepError (Program service) SweepReport := do
  let failed : Except OutboxError (List OutboxEntry) ←
    ExceptT.lift (TableRequest.listByStatus .failed policy.batchSize).perform
  let failed ← liftExcept failed
  let now : Timestamp ← ExceptT.lift HostRequest.now.perform
  let some before := policy.staleBefore? now | throw .timeOutOfRange
  let stale : Except OutboxError (List OutboxEntry) ←
    ExceptT.lift (TableRequest.listStale before policy.batchSize).perform
  let stale ← liftExcept stale
  let report ← ExceptT.lift (deliverAll sendTimeoutMs SweepReport.empty (failed ++ stale))
  let completedAt : Timestamp ← ExceptT.lift HostRequest.now.perform
  return { report with completedAt }
where
  liftExcept {α : Type} : Except OutboxError α → ExceptT SweepError (Program service) α
    | .ok value => return value
    | .error error => throw (.outbox error)

end AccountLedger
