import AccountLedger.Rehearsal.Binding
import AccountLedger.Rehearsal.Draft
import AccountLedger.Rehearsal.Named
import AccountLedger.Rehearsal.Stage

/-!
A session on the stage: programs that the caller waits for, programs in the background under names,
units of work under names, and the periodic sweep.
-/

namespace AccountLedger.Rehearsal

/-- What a program of a session comes to: its report and, for a step of a draft, the draft. -/
structure Played where
  report : Json
  draft : Option Draft

/-- The ledger is in the same process as the orchestrator, unless there is an address of it. -/
structure Session where
  line : StageTimeline Played
  policy : LedgerPolicy
  retry : RetryPolicy
  sendTimeoutMs : Nat
  ledgerBase : Option String
  drafts : Named Draft
  jobs : Named Nat
  sweeps : Option Nat
  bindings : Bindings

namespace Session

def stage (session : Session) : Stage := session.line.state

def tables (session : Session) : Tables := session.stage.store.tables

def setStage (session : Session) (change : Stage → Stage) : Session :=
  { session with line := { session.line with state := change session.line.state } }

/-- Write an account past all locks. -/
def overwrite (session : Session) (account : Account) : Session :=
  session.setStage fun stage =>
    { stage with store := { stage.store with
        tables := stage.store.tables.overwriteAccount account } }

def start (policy : LedgerPolicy) (retry : RetryPolicy) (sendTimeoutMs : Nat)
    (accounts : List Account) : Session :=
  accounts.foldl overwrite
    { line := Timeline.start (Stage.start sendTimeoutMs), policy, retry, sendTimeoutMs
      ledgerBase := none, drafts := [], jobs := [], sweeps := none, bindings := Bindings.none }

/-- A session of services with these settings that talk to each other over the network. There is
nobody at the broker's address. -/
def ofSettings (settings : Settings) (ledgerBase : String) : Session :=
  let session := start settings.ledgerPolicy settings.retryPolicy settings.sendTimeoutMs []
  let mode := if settings.brokerUrl.isSome then BrokerMode.down else .up
  { session with ledgerBase := some ledgerBase }.setStage fun stage =>
    { stage with broker := { stage.broker with mode } }

/-! ## Programs of a session -/

/-- A request of the services, past the scripted faults. -/
def onStoreRequest : (request : ServiceRequest) → Program Rehearsal.stage request.Answer
  | .unit request => StageRequest.onMemory request.inMemory
  | .table request => StageRequest.onTables request
  | .host request => StageRequest.onHost request

def onStore (program : Program service α) : Program Rehearsal.stage α :=
  program.translate onStoreRequest

def onService (program : Program service α) : Program Rehearsal.stage α :=
  program.translate StageRequest.onService

def onOrchestrator (session : Session) (program : Program orchestration α) :
    Program Rehearsal.stage α :=
  program.translate (StageRequest.onOrchestration session.policy session.ledgerBase)

/-! ## Running them -/

def around (session : Session) : Surroundings Rehearsal.stage Stage StageSignal (Ending Played) :=
  Stage.surroundings Played session.sendTimeoutMs

/-- Let everybody go on who can. -/
def settle (session : Session) : Session :=
  { session with line := session.line.settle session.around }

def advance (session : Session) (ms : Nat) : Session :=
  { session with line := session.line.runUntil session.around (session.line.clockMs + ms) }

def playedOf : Option (Ending Played) → Option Played
  | some (.answer played) => some played
  | _ => none

/-- Run a program and wait for it; nothing if it never ends. -/
def play (session : Session) (program : Program Rehearsal.stage Played) :
    Option Played × Session :=
  let (ending, line) := session.line.perform session.around (.answer <$> program)
  (playedOf ending, { session with line })

def perform (session : Session) (program : Program Rehearsal.stage Json) : Option Json × Session :=
  let (played, session) := session.play ((fun report => ⟨report, none⟩) <$> program)
  (played.map (·.report), session)

/-- Run a program in the background. -/
def spawn (session : Session) (name : String) (program : Program Rehearsal.stage Json) : Session :=
  let (task, line) :=
    session.line.spawn ((fun report => .answer ⟨report, none⟩) <$> program)
  { session with line, jobs := session.jobs.keep name task }

def isFinished (session : Session) (name : String) : Bool :=
  ((session.jobs.find? name).bind session.line.result?).isSome

/-- Wait for a background program; nothing if there is none of this name or it never ends. -/
def join (session : Session) (name : String) : Option Json × Session :=
  match session.jobs.find? name with
  | none => (none, session)
  | some task =>
    let line := session.line.finish session.around task
    ((playedOf (line.result? task)).map (·.report),
      { session with line, jobs := session.jobs.forget name })

/-! ## Units of work -/

/-- Carry out a step that leaves a draft under a name, or ends it. -/
def playDraft (session : Session) (name : String)
    (program : Program service (Json × Option Draft)) : Option Json × Session :=
  let (played, session) :=
    session.play (onStore ((fun (report, draft) => ⟨report, draft⟩) <$> program))
  let drafts := match played.bind (·.draft) with
    | some draft => session.drafts.keep name draft
    | none => session.drafts.forget name
  (played.map (·.report), { session with drafts })

/-! ## The periodic sweep -/

def startSweeps (session : Session) (policy : SweepPolicy) : Session :=
  let session := session.setStage fun stage => { stage with stopping := false }
  let loop : SweepLoop := ⟨policy, none⟩
  let (task, line) := session.line.spawn (loop.round session.sendTimeoutMs)
  { session with line, sweeps := some task }

def stopSweeps (session : Session) : Session :=
  let session := session.setStage fun stage => { stage with stopping := true }
  { session with line := session.line.wake (session.line.waitingFor .stop) }

/-- Whether no sweep goes on any more. -/
def sweepsStopped (session : Session) : Bool :=
  match session.sweeps with
  | some task => (session.line.result? task).isSome
  | none => true

/-- How many outbox entries there are of each status. -/
def deliveries (session : Session) : List (String × Json) :=
  let count (status : DeliveryStatus) :=
    Json.ofNat (session.tables.outbox.rows.filter fun entry => entry.status == status).length
  [("pending", count .pending), ("sent", count .sent), ("failed", count .failed)]

/-- Where things stand: some accounts, the deliveries, and the time. -/
def summary (session : Session) (accounts : List Uuid) : Json :=
  let accounts := accounts.filterMap fun id =>
    (session.tables.accounts.find? id).map fun account =>
      (toString id,
        Json.string s!"{account.balance.value} r{account.revision} {account.status.name}")
  Json.record ([("accounts", Json.record accounts), ("t_ms", Json.ofNat session.line.clockMs)] ++
    session.deliveries)

end Session

end AccountLedger.Rehearsal
