import AccountLedger.Ledger.Remote
import AccountLedger.Memory.Store
import AccountLedger.Outbox.Delivery
import AccountLedger.Rehearsal.Locks
import AccountLedger.Rehearsal.Script
import AccountLedger.Rehearsal.Supply
import AccountLedger.Transaction.Orchestration

/-!
The services over one in-memory store, in virtual time and with scripted peers. The wall clock is
apart from the virtual one: it moves a little at every reading.
-/

namespace AccountLedger.Rehearsal

inductive StageRequest where
  | memory (request : MemoryRequest)
  | freshId
  | now
  | drawSuffix
  | pause (ms : Nat)
  | dispatch (entry : OutboxEntry)
  | submit (entry : OutboxEntry)
  | fault (cue : Cue)
  | noteQuery (query : LedgerQuery)
  | tick (due : Option Nat)

/-- A tick is awaited until its time has come, which is the answer; nothing means to stop. -/
def StageRequest.Answer : StageRequest → Type
  | .memory request => request.Answer
  | .freshId => Uuid
  | .now => Timestamp
  | .drawSuffix => ReferenceSuffix
  | .pause _ => Unit
  | .dispatch _ => Unit
  | .submit _ => BrokerReply
  | .fault cue => Option cue.Fault
  | .noteQuery _ => Unit
  | .tick _ => Option Nat

abbrev stage : Interface := ⟨StageRequest, StageRequest.Answer⟩

namespace StageRequest

def perform (request : StageRequest) : Program stage request.Answer := .ask request .done

def onMemory (program : Program AccountLedger.memory α) : Program stage α :=
  program.translate fun request => (memory request).perform

def onTables (request : TableRequest) : Program stage request.Answer :=
  (memory (.store (.table request))).perform

/-- Send within a time limit. -/
def sendWithin (entry : OutboxEntry) (timeoutMs : Nat) :
    Program stage (Except BrokerError Unit) := do
  let reply : BrokerReply ← (submit entry).perform
  match reply.delayMs with
  | some delayMs =>
    if delayMs ≤ timeoutMs then do
      (pause delayMs).perform
      return reply.result
    else do
      (pause timeoutMs).perform
      return .error (.timeout timeoutMs)
  | none => do
    (pause timeoutMs).perform
    return .error (.timeout timeoutMs)

def onHost : (request : HostRequest) → Program stage request.Answer
  | .freshId => freshId.perform
  | .now => now.perform
  | .drawSuffix => drawSuffix.perform
  | .pause ms => (pause ms).perform
  | .send entry timeoutMs => sendWithin entry timeoutMs
  | .dispatch entry => (dispatch entry).perform

/-- An operation on the outbox that may run into a scripted fault. -/
def disturbed (next : Cue) (error : next.Fault → ε) (undisturbed : Program stage (Except ε α)) :
    Program stage (Except ε α) := do
  let fault : Option next.Fault ← (StageRequest.fault next).perform
  match fault with
  | some fault => return .error (error fault)
  | none => undisturbed

/-- Insert a record unless the script has other plans. -/
def insertDisturbed (record : TransactionRecord) :
    Program stage (Except TransactionStoreError Unit) := do
  let fault : Option InsertFault ← (StageRequest.fault .insert).perform
  match fault with
  | some .duplicateReference => return .error (.duplicateReference record.reference)
  | some .database => return .error (.database .rowNotFound)
  | some .corrupt => return .error (.corruptRow "bad row")
  | some .ghostKey => return .error (.duplicateIdempotencyKey (record.idempotencyKey.getD ""))
  | some .race => do
    let id : Uuid ← freshId.perform
    let suffix : ReferenceSuffix ← drawSuffix.perform
    let rival := { record.withSuffix suffix with id }
    let _ : Except TransactionStoreError Unit ← onTables (.insertRecord rival)
    onTables (.insertRecord record)
  | none => onTables (.insertRecord record)

/-- The tables as the services see them. -/
def onScriptedTables : (request : TableRequest) → Program stage request.Answer
  | .findAccount id => onTables (.findAccount id)
  | .findEntry id => disturbed .entryRead (OutboxFault.error id) (onTables (.findEntry id))
  | .listByStatus status limit =>
    disturbed .statusList (OutboxFault.error Uuid.nil) (onTables (.listByStatus status limit))
  | .listStale createdBefore limit =>
    disturbed .staleList (OutboxFault.error Uuid.nil) (onTables (.listStale createdBefore limit))
  | .recordAttempt id status time =>
    disturbed .attempt (OutboxFault.error id) (onTables (.recordAttempt id status time))
  | .insertRecord record => insertDisturbed record
  | .updateRecord record =>
    disturbed .update
      (fun fault => match fault with
        | .notFound => .notFound record.id
        | .database => .database .poolClosed)
      (onTables (.updateRecord record))
  | .findByReference reference => onTables (.findByReference reference)
  | .findByKey key => onTables (.findByKey key)

/-- Programs of the services, with scripted tables. -/
def onService : (request : ServiceRequest) → Program stage request.Answer
  | .unit request => onMemory request.inMemory
  | .table request => onScriptedTables request
  | .host request => onHost request

/-- Ask the ledger from outside. -/
def onLedger (policy : LedgerPolicy) (query : LedgerQuery) :
    Program stage (Outcome DownstreamError LedgerView) := do
  (noteQuery query).perform
  let fault : Option DownstreamError ← (StageRequest.fault .ledger).perform
  match fault with
  | some error => return Outcome.fail error
  | none => (query.performLocally policy).translate onService

/-- Ask the ledger over the network; its site answers on the same stage. -/
def onRemoteLedger (policy : LedgerPolicy) (base : String) (query : LedgerQuery) :
    Program stage (Outcome DownstreamError LedgerView) :=
  Outcome.ofExcept <$> (query.performRemotely policy base).translate onService

/-- Programs of the orchestrator, with a ledger in the same process or at an address. -/
def onOrchestration (policy : LedgerPolicy) (ledgerBase : Option String) :
    (request : OrchestrationRequest) → Program stage request.Answer
  | .service request => onService request
  | .ledger call =>
    let asked := match ledgerBase with
      | some base => onRemoteLedger policy base (.movement call)
      | none => onLedger policy (.movement call)
    (fun outcome => outcome.map fun _ => ()) <$> asked

end StageRequest

/-- A delivery that was started and not waited for. -/
structure SendNote where
  entry : OutboxEntry
  mode : BrokerMode
  deriving DecidableEq, Repr

structure Stage where
  store : MemoryStore
  script : Script
  broker : ScriptedBroker
  sendTimeoutMs : Nat
  sends : List SendNote
  queries : List LedgerQuery
  stopping : Bool
  supply : Supply

/-- What tasks wait for beside the clock. -/
inductive StageSignal where
  | handover (ticket : Nat)
  | stop
  deriving DecidableEq, Repr

/-- The periodic sweep between two rounds; no due time means at once. -/
structure SweepLoop where
  policy : SweepPolicy
  due : Option Nat
  deriving DecidableEq, Repr

/-- What a task comes to: an answer, nothing that anybody waits for, or another round. -/
inductive Ending (α : Type) where
  | answer (answer : α)
  | unattended
  | round (loop : SweepLoop)

namespace SweepLoop

/-- How late a tick may be before the next one is counted from now. -/
def toleranceMs : Nat := 5

/-- The time of the next tick. -/
def nextDue (loop : SweepLoop) (clockMs : Nat) : Nat :=
  let due := loop.due.getD clockMs
  if due + toleranceMs < clockMs then clockMs + loop.policy.intervalMs
  else due + loop.policy.intervalMs

/-- Wait for the tick and sweep once. A period of zero cannot be waited for, and after a sweep that
the calendar has no cutoff for there are no more. -/
def round (loop : SweepLoop) (sendTimeoutMs : Nat) : Program stage (Ending α) := do
  if loop.policy.intervalMs = 0 then return .unattended
  let ticked : Option Nat ← (StageRequest.tick loop.due).perform
  match ticked with
  | none => return .unattended
  | some clockMs =>
    let swept : Except SweepError SweepReport ←
      (sweep loop.policy sendTimeoutMs).run.translate StageRequest.onService
    match swept with
    | .error .timeOutOfRange => return .unattended
    | _ => return .round { loop with due := some (loop.nextDue clockMs) }

end SweepLoop

namespace Stage

def start (sendTimeoutMs : Nat) : Stage :=
  { store := MemoryStore.empty, script := Script.empty, broker := ScriptedBroker.start
    sendTimeoutMs, sends := [], queries := [], stopping := false
    supply := Supply.start }

def reactLock {Started : Type} (state : Stage) :
    Reaction LockTable Nat Started α → Reaction Stage StageSignal Started α
  | .answered answer locks effects =>
    .answered answer { state with store := { state.store with locks } }
      (effects.map fun effect => match effect with
        | .signal ticket => .signal (.handover ticket)
        | .start started => .start started)
  | .waiting locks signal deadline =>
    .waiting { state with store := { state.store with locks } } (signal.map .handover) deadline

def react (clockMs : Nat) (since : Option Nat) :
    (request : StageRequest) → Stage →
      Reaction Stage StageSignal (Program stage (Ending α)) request.Answer
  | .memory (.lock request), state =>
    reactLock state (reactToLock clockMs since request state.store.locks)
  | .memory (.store request), state =>
    let (answer, store) := state.store.answer request
    .answered answer { state with store } []
  | .freshId, state =>
    let (id, supply) := state.supply.takeId
    .answered id { state with supply } []
  | .now, state =>
    let (time, supply) := state.supply.takeTime
    .answered time { state with supply } []
  | .drawSuffix, state =>
    let (suffix, supply) := state.supply.takeSuffix
    .answered suffix { state with supply } []
  | .pause ms, state =>
    let deadline := since.getD clockMs + ms
    if deadline ≤ clockMs then .answered () state [] else .waiting state none (some deadline)
  | .dispatch entry, state =>
    let delivery := (entry.deliver state.sendTimeoutMs).translate StageRequest.onService
    .answered () state [.start (delivery.bind fun _ => .done .unattended)]
  | .submit entry, state =>
    .answered (state.broker.reply entry)
      { state with sends := state.sends ++ [⟨entry, state.broker.mode⟩] } []
  | .fault cue, state =>
    let (fault, script) := state.script.next cue
    .answered fault { state with script } []
  | .noteQuery query, state =>
    .answered () { state with queries := state.queries ++ [query] } []
  | .tick due, state =>
    let deadline := due.getD clockMs
    if state.stopping then .answered none state []
    else if deadline ≤ clockMs then .answered (some clockMs) state []
    else .waiting state (some .stop) (some deadline)

def surroundings (α : Type) (sendTimeoutMs : Nat) :
    Surroundings stage Stage StageSignal (Ending α) :=
  { react
    continue? := fun ending => match ending with
      | .round loop => some (loop.round sendTimeoutMs)
      | _ => none }

end Stage

abbrev StageTimeline (α : Type) : Type := Timeline stage Stage StageSignal (Ending α)

end AccountLedger.Rehearsal
