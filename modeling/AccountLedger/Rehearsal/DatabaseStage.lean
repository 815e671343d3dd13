import AccountLedger.Database.Schema
import AccountLedger.Database.Tables
import AccountLedger.Database.UnitOfWork
import AccountLedger.Ledger.Remote
import AccountLedger.Outbox.Broker
import AccountLedger.Outbox.Delivery
import AccountLedger.Rehearsal.Server
import AccountLedger.Rehearsal.Supply
import AccountLedger.Transaction.Orchestration

/-!
The services over a scripted database server, one step after another. Nothing waits: pauses take no
time, and deliveries that nobody waits for are made after the step that started them.
-/

namespace AccountLedger.Rehearsal

/-- The ledger that the orchestrator asks: it fails as scripted and then succeeds, or there is
nobody at its address. -/
inductive LedgerPeer where
  | scripted (errors : List DownstreamError)
  | absent (base : String)
  deriving DecidableEq, Repr

namespace LedgerPeer

def answer (call : LedgerCall) : LedgerPeer → Outcome DownstreamError Unit × LedgerPeer
  | .scripted [] => (.ok (), .scripted [])
  | .scripted (error :: rest) => (Outcome.fail error, .scripted rest)
  | .absent base =>
    let result := (LedgerQuery.movement call).ofCall base .disconnected
    (Outcome.ofExcept (result.map fun _ => ()), .absent base)

end LedgerPeer

/-- Events go to the broker at the given address, where nobody is, or else are taken at once. -/
structure DatabaseStage where
  server : ScriptedServer
  units : OpenUnits
  ledger : LedgerPeer
  brokerUrl : Option String
  sendTimeoutMs : Nat
  undelivered : List OutboxEntry
  supply : Supply

/-- A step on this stage. -/
abbrev Staged (α : Type) : Type := StateM DatabaseStage α

namespace DatabaseStage

def start (ledger : LedgerPeer) (brokerUrl : Option String) (sendTimeoutMs : Nat) :
    DatabaseStage :=
  { server := ScriptedServer.idle, units := OpenUnits.none, ledger, brokerUrl, sendTimeoutMs
    undelivered := [], supply := Supply.start }

/-- Ask the server. -/
def onServer (program : Program database α) : Staged α := fun stage =>
  let (answer, server) := stage.server.ask program
  (answer, { stage with server })

def inUnits (program : StateT OpenUnits (Program database) α) : Staged α := fun stage =>
  let ((answer, units), stage) := (onServer (program.run stage.units)).run stage
  (answer, { stage with units })

def taken (take : Supply → α × Supply) : Staged α := fun stage =>
  let (value, supply) := take stage.supply
  (value, { stage with supply })

def onHost : (request : HostRequest) → Staged request.Answer
  | .freshId => taken Supply.takeId
  | .now => taken Supply.takeTime
  | .drawSuffix => taken Supply.takeSuffix
  | .pause _ => return ()
  | .send entry timeoutMs => fun stage =>
    let sent := match stage.brokerUrl with
      | some base => entry.sentBy base timeoutMs .disconnected
      | none => .ok ()
    (sent, stage)
  | .dispatch entry => fun stage =>
    ((), { stage with undelivered := stage.undelivered ++ [entry] })

def onService : (request : ServiceRequest) → Staged request.Answer
  | .unit request => inUnits request.inDatabase
  | .table request => onServer request.inDatabase
  | .host request => onHost request

def onOrchestration : (request : OrchestrationRequest) → Staged request.Answer
  | .service request => onService request
  | .ledger call => fun stage =>
    let (answer, ledger) := stage.ledger.answer call
    (answer, { stage with ledger })

def play (program : Program service α) : Staged α := program.interpret onService

def orchestrate (program : Program orchestration α) : Staged α :=
  program.interpret onOrchestration

/-- Make the deliveries that have been started. -/
def deliverAll : Staged Unit := do
  let stage ← get
  set { stage with undelivered := [] }
  stage.undelivered.forM fun entry => do
    let _ ← play (entry.deliver stage.sendTimeoutMs)

end DatabaseStage

end AccountLedger.Rehearsal
