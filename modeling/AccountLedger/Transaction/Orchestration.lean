import AccountLedger.ServiceError
import AccountLedger.Storage

/-!
Customer transactions: each is recorded as pending, carried out by one ledger operation that is
tried again while locks are contended, and marked with the result. A request whose key was seen
before gives the stored record and does nothing.
-/

namespace AccountLedger

/-- What an orchestrator asks for: the services of its host and store, and one ledger operation. -/
inductive OrchestrationRequest where
  | service (request : ServiceRequest)
  | ledger (call : LedgerCall)

def OrchestrationRequest.Answer : OrchestrationRequest → Type
  | .service request => request.Answer
  | .ledger _ => Outcome DownstreamError Unit

abbrev orchestration : Interface := ⟨OrchestrationRequest, OrchestrationRequest.Answer⟩

/-- A program that may end with an error of the orchestrator. -/
abbrev Orchestration (α : Type) : Type :=
  ExceptT (Failure OrchestrationError) (Program orchestration) α

namespace Orchestration

def host (request : HostRequest) : Program orchestration request.Answer :=
  .ask (.service (.host request)) .done

def stored (program : Program orchestration (Except TransactionStoreError α)) : Orchestration α :=
  ExceptT.mk ((fun answer => Outcome.ofExcept (answer.mapError .store)) <$> program)

def findByReference (reference : String) : Orchestration (Option TransactionRecord) :=
  stored (.ask (.service (.table (.findByReference reference))) .done)

def findByKey (key : String) : Orchestration (Option TransactionRecord) :=
  stored (.ask (.service (.table (.findByKey key))) .done)

def insertRecord (record : TransactionRecord) :
    Program orchestration (Except TransactionStoreError Unit) :=
  .ask (.service (.table (.insertRecord record))) .done

def updateRecord (record : TransactionRecord) : Orchestration Unit :=
  stored (.ask (.service (.table (.updateRecord record))) .done)

def callLedger (call : LedgerCall) : Program orchestration (Outcome DownstreamError Unit) :=
  .ask (.ledger call) .done

def now : Orchestration Timestamp := ExceptT.lift (host .now)

def drawSuffix : Orchestration ReferenceSuffix := ExceptT.lift (host .drawSuffix)

def failWith (error : TransactionStoreError) : Orchestration α := throw (.error (.store error))

/-- Where the record of a request comes from. -/
inductive Recorded where
  | new (record : TransactionRecord)
  | replay (record : TransactionRecord)

/-- The stored record of a request that has been made before. -/
def findReplay (request : TransactionRequest) : Orchestration (Option TransactionRecord) :=
  match request.idempotencyKey with
  | some key => findByKey key
  | none => return none

/-- Insert a pending record, drawing another reference number when one is taken. -/
def insertPending : Nat → TransactionRecord → Orchestration Recorded
  | 0, record => failWith (.duplicateReference record.reference)
  | attempts + 1, record => do
    match ← ExceptT.lift (insertRecord record) with
    | .ok () => return .new record
    | .error (.duplicateReference _) => insertPending attempts (record.withSuffix (← drawSuffix))
    | .error (.duplicateIdempotencyKey key) =>
      match ← findByKey key with
      | some existing => return .replay existing
      | none => failWith (.duplicateIdempotencyKey key)
    | .error error => failWith error

/-- How many reference numbers are tried for one record. -/
def maxReferenceAttempts : Nat := 3

def recordPending (request : TransactionRequest) : Orchestration Recorded := do
  let id : Uuid ← ExceptT.lift (host .freshId)
  let now ← now
  let suffix ← drawSuffix
  insertPending maxReferenceAttempts (TransactionRecord.pending id request suffix now)

/-- Call the ledger, and again after a pause while the error is a transient one. The number of the
last call, and its outcome. -/
def callWithRetry (delayMs : Nat) (call : LedgerCall) (attempt : Nat) :
    Nat → Program orchestration (Nat × Outcome DownstreamError Unit)
  | 0 => return (attempt, ← callLedger call)
  | retries + 1 => do
    let outcome ← callLedger call
    match outcome with
    | .error (.error error) =>
      if error.isTransient then do
        let () ← host (.pause delayMs)
        callWithRetry delayMs call (attempt + 1) retries
      else return (attempt, outcome)
    | _ => return (attempt, outcome)

/-- Carry out a recorded transaction and mark its record. -/
def carryOut (policy : RetryPolicy) (call : LedgerCall) (record : TransactionRecord) :
    Orchestration TransactionRecord := do
  let (attempts, outcome) ←
    ExceptT.lift (callWithRetry policy.delayMs call 1 policy.retries)
  match outcome with
  | .ok () =>
    let record := record.succeeded attempts (← now)
    updateRecord record
    return record
  | .error (.error error) =>
    let record := record.failed attempts error.summary (← now)
    updateRecord record
    throw (.error (.failed record error))
  | .error (.overflow overflow) => throw (.overflow overflow)

/-- Execute a customer's request. -/
def execute (policy : RetryPolicy) (request : TransactionRequest) :
    Orchestration TransactionRecord := do
  match request.call with
  | .error refusal => throw (.error (.refused refusal))
  | .ok call =>
    match ← findReplay request with
    | some existing => return existing
    | none =>
      match ← recordPending request with
      | .new record => carryOut policy call record
      | .replay existing => return existing

end Orchestration

end AccountLedger
