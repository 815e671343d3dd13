import AccountLedger.Database.Tables
import AccountLedger.Database.UnitOfWork
import AccountLedger.Proofs.Ledger.Change
import AccountLedger.Proofs.Transcript

/-!
Calls of the ledger service over a database: what they exchange with the server and with their
host, and what a transaction has been through before its commit.
-/

namespace AccountLedger

/-- What a service asks of its surroundings when its units of work are database transactions. -/
inductive DeploymentRequest where
  | database (request : DatabaseRequest)
  | host (request : HostRequest)

def DeploymentRequest.Answer : DeploymentRequest → Type
  | .database request => request.Answer
  | .host request => request.Answer

abbrev deployment : Interface := ⟨DeploymentRequest, DeploymentRequest.Answer⟩

def DatabaseRequest.sent (request : DatabaseRequest) : Program deployment request.Answer :=
  .ask (.database request) .done

/-- How a request of the service is carried out over a database. -/
def ServiceRequest.deployed : (request : ServiceRequest) →
    StateT OpenUnits (Program deployment) request.Answer
  | .unit request => fun units => (request.inDatabase.run units).translate DatabaseRequest.sent
  | .table request => StateT.lift (request.inDatabase.translate DatabaseRequest.sent)
  | .host request => StateT.lift (.ask (.host request) .done)

/-- A call over a database. -/
def ServiceCall.deployed (call : ServiceCall) (units : OpenUnits) :
    Program deployment (Outcome LedgerError ServiceReply × OpenUnits) :=
  (call.program.interpret ServiceRequest.deployed).run units

namespace Exchange

/-- Whether this is a commit, whatever became of it. -/
def isCommit : Exchange deployment → Bool
  | ⟨.database (.commit _), _⟩ => true
  | _ => false

/-- The entry whose delivery is started. -/
def dispatched? : Exchange deployment → Option OutboxEntry
  | ⟨.host (.dispatch entry), _⟩ => some entry
  | _ => none

/-- Whether this is a reading of the clock or a fresh id. -/
def isDraw : Exchange deployment → Bool
  | ⟨.host (.dispatch _), _⟩ => false
  | ⟨.host _, _⟩ => true
  | _ => false

/-- What a unit of work may go through before its commit: nothing but its own statements, each with
the success that it needs. A row that is locked is there and can be read, and an update reaches a
row. -/
def Prepares (unit : UnitId) : Exchange deployment → Prop
  | ⟨.host (.dispatch _), _⟩ => False
  | ⟨.host _, _⟩ => True
  | ⟨.database (.begin own), answer⟩ => own = unit ∧ answer = Except.ok ()
  | ⟨.database (.run own (.lockAccount _)), answer⟩ => own = some unit ∧
    ∃ result row account, answer = Except.ok result ∧ result.rows.head? = some row ∧
      Account.ofRow row = .ok account
  | ⟨.database (.run own (.updateAccount _)), answer⟩ => own = some unit ∧
    ∃ result, answer = Except.ok result ∧ 0 < result.affected
  | ⟨.database (.run own _), answer⟩ => own = some unit ∧ ∃ result, answer = Except.ok result
  | ⟨.database (.commit _), _⟩ => False
  | ⟨.database (.rollback _), _⟩ => False

end Exchange

/-- What a unit of work has been sent: rows to lock, to update and to insert, and outbox entries. -/
structure Preparation where
  locked : List Uuid
  updated : List Uuid
  inserted : List Uuid
  staged : List OutboxEntry

namespace Preparation

def none : Preparation := ⟨[], [], [], []⟩

def after (preparation : Preparation) : Exchange deployment → Preparation
  | ⟨.database (.run _ (.lockAccount id)), _⟩ =>
    { preparation with locked := preparation.locked ++ [id] }
  | ⟨.database (.run _ (.updateAccount account)), _⟩ =>
    { preparation with updated := preparation.updated ++ [account.id] }
  | ⟨.database (.run _ (.insertAccount account)), _⟩ =>
    { preparation with inserted := preparation.inserted ++ [account.id] }
  | ⟨.database (.run _ (.insertEntry entry)), _⟩ =>
    { preparation with staged := preparation.staged ++ [entry] }
  | _ => preparation

end Preparation

/-- What has been sent to prepare a commit. -/
def preparation (transcript : Transcript deployment) : Preparation :=
  transcript.foldl Preparation.after .none

theorem preparation_concat (transcript : Transcript deployment) (exchange : Exchange deployment) :
    preparation (transcript ++ [exchange]) = (preparation transcript).after exchange := by
  rw [preparation, List.foldl_append]
  rfl

/-- The entries whose delivery has been started. -/
def dispatched (transcript : Transcript deployment) : List OutboxEntry :=
  transcript.filterMap Exchange.dispatched?

namespace ServiceCall

/-- The stored accounts that a call changes. -/
def rows : ServiceCall → List Uuid
  | .openAccount .. => []
  | .closeAccount _ account => [account]
  | .deposit _ account _ => [account]
  | .withdraw _ account _ => [account]
  | .transfer _ source target _ => [source, target]

/-- What a call needs before its commit: its rows are locked and updated, or else a row is
inserted, and the event is told in one entry. -/
structure Prepared (call : ServiceCall) (entry : OutboxEntry) (preparation : Preparation) :
    Prop where
  locked : preparation.locked.Perm call.rows
  updated : preparation.updated = call.rows
  inserted : preparation.inserted.length = if call.rows = [] then 1 else 0
  staged : preparation.staged = [entry]

/-- The ways in which a call over a database ends: its transaction is committed and the entry is
handed on, or the commit fails, or it gives up before. -/
inductive Concluded (call : ServiceCall) :
    Outcome LedgerError ServiceReply → Transcript deployment → Prop
  | committed {before : Transcript deployment} {unit : UnitId} {entry : OutboxEntry}
    (reply : ServiceReply) :
    (∀ exchange ∈ before, exchange.Prepares unit) → call.Prepared entry (preparation before) →
    Concluded call (.ok reply)
      (before ++ [⟨.database (.commit unit), Except.ok ()⟩, ⟨.host (.dispatch entry), ()⟩])
  | refused {before : Transcript deployment} {unit : UnitId} {entry : OutboxEntry}
    (error : DatabaseError) :
    (∀ exchange ∈ before, exchange.Prepares unit) → call.Prepared entry (preparation before) →
    Concluded call (.error (.error (.database error)))
      (before ++ [⟨.database (.commit unit), Except.error error⟩, ⟨.database (.rollback unit), ()⟩])
  | givenUp {transcript : Transcript deployment} (failure : Failure LedgerError) :
    (∀ exchange ∈ transcript, exchange.isCommit = false ∧ exchange.dispatched? = none) →
    (∀ exchange ∈ transcript, ∀ unit, exchange.request = .database (.begin unit) →
      ⟨.database (.rollback unit), ()⟩ ∈ transcript) →
    Concluded call (.error failure) transcript

end ServiceCall

end AccountLedger
