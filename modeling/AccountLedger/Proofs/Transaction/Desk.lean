import AccountLedger.Memory.Tables
import AccountLedger.Proofs.Ledger.Office
import AccountLedger.Transaction.Orchestration

/-!
Executions of customer requests side by side over one store of transaction records. What one of
them asks of the store or the host is answered in a single step, a call of the ledger in two, with
steps of the others in between; what the ledger answers is left open.
-/

namespace AccountLedger

/-- A program that ends with the outcome of a request. -/
abbrev Procedure : Type := Program orchestration (Outcome OrchestrationError TransactionRecord)

/-- An execution goes on by itself, or waits for the ledger. -/
inductive ExecutionStage where
  | running (rest : Procedure)
  | calling (call : LedgerCall) (resume : Outcome DownstreamError Unit → Procedure)

/-- An execution with the ids it has drawn, its calls of the ledger, and what came of them. -/
structure Execution where
  policy : RetryPolicy
  request : TransactionRequest
  stage : ExecutionStage
  drawn : List Uuid
  calls : List LedgerCall
  outcomes : List (Outcome DownstreamError Unit)

namespace Execution

def begun (policy : RetryPolicy) (request : TransactionRequest) : Execution :=
  ⟨policy, request, .running (Orchestration.execute policy request).run, [], [], []⟩

/-- What is still to be done. -/
def rest (execution : Execution) : Procedure :=
  match execution.stage with
  | .running rest => rest
  | .calling call resume => .ask (.ledger call) resume

/-- The record in an outcome: the result, or the one that comes with the ledger's error. -/
def recordOf? : Outcome OrchestrationError TransactionRecord → Option TransactionRecord
  | .ok record => some record
  | .error (.error (.failed record _)) => some record
  | .error _ => none

/-- The record that an execution has returned. -/
def returned? (execution : Execution) : Option TransactionRecord :=
  match execution.stage with
  | .running (.done outcome) => recordOf? outcome
  | _ => none

end Execution

/-- The stored records with all executions begun so far, and all ids ever drawn. -/
structure Desk where
  tables : Tables
  executions : Nat → Option Execution
  drawn : List Uuid

namespace Desk

def start : Desk := ⟨.empty, fun _ => none, []⟩

def withExecution (desk : Desk) (id : Nat) (execution : Execution) : Desk :=
  { desk with executions := Function.update desk.executions id (some execution) }

def withTables (desk : Desk) (tables : Tables) : Desk := { desk with tables }

/-- The host answers an execution. -/
def hosted (desk : Desk) (id : Nat) (execution : Execution) (request : HostRequest)
    (resume : request.Answer → Procedure) (answer : request.Answer) : Desk :=
  { desk.withExecution id { execution with
      stage := .running (resume answer)
      drawn := execution.drawn ++ request.drawn answer } with
    drawn := desk.drawn ++ request.drawn answer }

/-- The store answers an execution. -/
def tabled (desk : Desk) (id : Nat) (execution : Execution) (request : TableRequest)
    (resume : request.Answer → Procedure) : Desk :=
  (desk.withExecution id { execution with
      stage := .running (resume (desk.tables.answer request).1) }).withTables
    (desk.tables.answer request).2

/-- An execution calls the ledger. -/
def called (desk : Desk) (id : Nat) (execution : Execution) (call : LedgerCall)
    (resume : Outcome DownstreamError Unit → Procedure) : Desk :=
  desk.withExecution id { execution with
    stage := .calling call resume
    calls := execution.calls ++ [call] }

/-- The ledger answers an execution. -/
def answered (desk : Desk) (id : Nat) (execution : Execution)
    (resume : Outcome DownstreamError Unit → Procedure) (outcome : Outcome DownstreamError Unit) :
    Desk :=
  desk.withExecution id { execution with
    stage := .running (resume outcome)
    outcomes := execution.outcomes ++ [outcome] }

variable (desk : Desk)

/-- A step without the ledger. Ids never repeat; accounts and outbox entries may change at any
time. -/
inductive Proceeds : Desk → Prop
  | begin {id} (policy request) : desk.executions id = none →
    Proceeds (desk.withExecution id (.begun policy request))
  | host {id execution request resume} (answer) : desk.executions id = some execution →
    execution.stage = .running (.ask (.service (.host request)) resume) →
    (∀ fresh ∈ request.drawn answer, fresh ∉ desk.drawn) →
    Proceeds (desk.hosted id execution request resume answer)
  | table {id execution request resume} : desk.executions id = some execution →
    execution.stage = .running (.ask (.service (.table request)) resume) →
    Proceeds (desk.tabled id execution request resume)
  | elsewhere (accounts outbox) :
    Proceeds (desk.withTables { desk.tables with accounts, outbox })

inductive Step : Desk → Prop
  | proceed {next} : desk.Proceeds next → Step next
  | call {id execution call resume} : desk.executions id = some execution →
    execution.stage = .running (.ask (.ledger call) resume) →
    Step (desk.called id execution call resume)
  | answer {id execution call resume} (outcome) : desk.executions id = some execution →
    execution.stage = .calling call resume →
    Step (desk.answered id execution resume outcome)

/-- What a store without records can come to. -/
def Reachable (desk : Desk) : Prop := Relation.ReflTransGen Step start desk

end Desk

end AccountLedger
