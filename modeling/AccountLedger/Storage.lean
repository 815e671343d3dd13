import AccountLedger.Lock.Order
import AccountLedger.Outbox.Entry
import AccountLedger.Outbox.Error
import AccountLedger.Program
import AccountLedger.Transaction.Error
import AccountLedger.Transaction.Record

/-!
What the services ask of their surroundings: units of work on accounts, single operations on the
stored tables, and a host with a clock, fresh ids and a message broker.
-/

namespace AccountLedger

/-- Names a unit of work. -/
structure UnitId where
  number : Nat
  deriving DecidableEq, Repr

/-- Steps of a unit of work. Nothing it writes is visible before the commit; a commit, successful
or not, ends it, and abandoning it forgets what it wrote. Either way its row locks are freed. -/
inductive UnitRequest where
  | start
  | lock (unit : UnitId) (order : LockOrder) (timeoutMs : Nat)
  | insert (unit : UnitId) (account : Account)
  | save (unit : UnitId) (account : Account)
  | stage (unit : UnitId) (entry : OutboxEntry)
  | commit (unit : UnitId)
  | abandon (unit : UnitId)

/-- Locking gives the rows in the order of their ids. -/
def UnitRequest.Answer : UnitRequest → Type
  | .start => Except LedgerError UnitId
  | .lock .. => Except LedgerError (List Account)
  | .insert .. => Except LedgerError Unit
  | .save .. => Except LedgerError Unit
  | .stage .. => Except LedgerError Unit
  | .commit _ => Except LedgerError Unit
  | .abandon _ => Unit

/-- Operations that read or write the tables at once. -/
inductive TableRequest where
  | findAccount (id : Uuid)
  | findEntry (id : Uuid)
  | listByStatus (status : DeliveryStatus) (limit : Int)
  | listStale (createdBefore : Timestamp) (limit : Int)
  | recordAttempt (id : Uuid) (status : DeliveryStatus) (time : Timestamp)
  | insertRecord (record : TransactionRecord)
  | updateRecord (record : TransactionRecord)
  | findByReference (reference : String)
  | findByKey (key : String)

def TableRequest.Answer : TableRequest → Type
  | .findAccount _ => Except LedgerError (Option Account)
  | .findEntry _ => Except OutboxError (Option OutboxEntry)
  | .listByStatus .. => Except OutboxError (List OutboxEntry)
  | .listStale .. => Except OutboxError (List OutboxEntry)
  | .recordAttempt .. => Except OutboxError OutboxEntry
  | .insertRecord _ => Except TransactionStoreError Unit
  | .updateRecord _ => Except TransactionStoreError Unit
  | .findByReference _ => Except TransactionStoreError (Option TransactionRecord)
  | .findByKey _ => Except TransactionStoreError (Option TransactionRecord)

/-- Ids never repeat. Sending waits for the broker at most the given time; dispatching starts a
delivery that nobody waits for. -/
inductive HostRequest where
  | freshId
  | now
  | drawSuffix
  | pause (ms : Nat)
  | send (entry : OutboxEntry) (timeoutMs : Nat)
  | dispatch (entry : OutboxEntry)

def HostRequest.Answer : HostRequest → Type
  | .freshId => Uuid
  | .now => Timestamp
  | .drawSuffix => ReferenceSuffix
  | .pause _ => Unit
  | .send .. => Except BrokerError Unit
  | .dispatch _ => Unit

inductive ServiceRequest where
  | unit (request : UnitRequest)
  | table (request : TableRequest)
  | host (request : HostRequest)

def ServiceRequest.Answer : ServiceRequest → Type
  | .unit request => request.Answer
  | .table request => request.Answer
  | .host request => request.Answer

abbrev service : Interface := ⟨ServiceRequest, ServiceRequest.Answer⟩

namespace UnitRequest

def perform (request : UnitRequest) : Program service request.Answer :=
  .ask (.unit request) .done

end UnitRequest

namespace TableRequest

def perform (request : TableRequest) : Program service request.Answer :=
  .ask (.table request) .done

end TableRequest

namespace HostRequest

def perform (request : HostRequest) : Program service request.Answer :=
  .ask (.host request) .done

end HostRequest

end AccountLedger
