import AccountLedger.Proofs.Interleaving.Pool
import AccountLedger.Proofs.Ledger.Alone

/-!
Calls of the ledger service side by side on one in-memory store. A call may be made, and dropped, at
any time; what it asks for is answered in steps that those of other calls, deliveries of outbox
entries and writes past all locks can come between.
-/

namespace AccountLedger

/-- The ids in an answer of the host. -/
def HostRequest.drawn : (request : HostRequest) → request.Answer → List Uuid
  | .freshId, id => [id]
  | _, _ => []

/-- A call goes on by itself, waits for an operation of its unit of work, or was dropped. -/
inductive Stage where
  | running (rest : Script)
  | waiting (request : UnitRequest)
    (resume : request.Answer → Script)
  | dropped

/-- A call that has been made, with its unit of work once it has one and what it has drawn. -/
structure Call where
  asked : ServiceCall
  stage : Stage
  unit : Option UnitId
  tape : Tape

namespace Call

def begun (asked : ServiceCall) : Call := ⟨asked, .running asked.program, none, .empty⟩

/-- What a call has returned. -/
def returned? (call : Call) : Option (Outcome LedgerError ServiceReply) :=
  match call.stage with
  | .running (.done outcome) => some outcome
  | _ => none

/-- The pool once a call is gone that had this unit of work. -/
def cutOff (call : Call) (pool : Pool) : Pool :=
  match call.unit with
  | none => pool
  | some unit =>
    match pool.activity unit with
    | .gone => pool
    | _ => pool.cutOff unit

end Call

/-- A pool with all calls made so far, whose units of work are whose, and all ids ever drawn. -/
structure Office where
  pool : Pool
  calls : Nat → Option Call
  owner : UnitId → Option Nat
  drawn : List Uuid

namespace Office

def start : Office := ⟨Pool.start, fun _ => none, fun _ => none, []⟩

def tables (office : Office) : Tables := office.pool.tables

def withCall (office : Office) (id : Nat) (call : Call) : Office :=
  { office with calls := Function.update office.calls id (some call) }

def withPool (office : Office) (pool : Pool) : Office := { office with pool }

/-- The next unit of work is started for a call. -/
def started (office : Office) (id : Nat) (call : Call) : Office :=
  { office.withCall id { call with unit := some office.pool.nextUnit } with
    pool := office.pool.started
    owner := Function.update office.owner office.pool.nextUnit (some id) }

variable (office : Office)

inductive Step : Office → Prop
  | call {id} (asked) : office.calls id = none → Step (office.withCall id (Call.begun asked))
  | host {id call request resume} (answer) : office.calls id = some call →
    call.stage = .running (.ask (.host request) resume) →
    Step { office.withCall id { call with
        stage := .running (resume answer)
        tape := call.tape.after request answer } with
      drawn := office.drawn ++ request.drawn answer }
  | start {id call resume} : office.calls id = some call →
    call.stage = .running (.ask (.unit .start) resume) →
    Step (office.started id { call with stage := .running (resume (.ok office.pool.nextUnit)) })
  | ask {id call unit request resume} : office.calls id = some call →
    call.stage = .running (.ask (.unit request) resume) → request.unit? = some unit →
    Step ((office.withCall id { call with stage := .waiting request resume }).withPool
      (office.pool.asked unit request))
  | proceed {unit pool} : office.pool.Proceeds unit pool → Step (office.withPool pool)
  | answer {id call unit request resume answer} : office.calls id = some call →
    call.stage = .waiting request resume → request.unit? = some unit →
    office.pool.activity unit = .busy request (.done answer) →
    Step ((office.withCall id { call with stage := .running (resume answer) }).withPool
      (office.pool.concluded unit request))
  | drop {id call} : office.calls id = some call → call.returned? = none →
    Step ((office.withCall id { call with stage := .dropped }).withPool (call.cutOff office.pool))
  | tidy {id call unit request answer} : office.calls id = some call → call.stage = .dropped →
    call.unit = some unit → office.pool.activity unit = .busy request (.done answer) →
    Step (office.withPool (office.pool.concluded unit request))
  | table (request) : Step (office.withPool (office.pool.tabled request))
  | overwrite (account) : Step (office.withPool (office.pool.overwritten account))

/-- What a store without accounts can come to. -/
def Reachable (office : Office) : Prop := Relation.ReflTransGen Step start office

/-- What a store without accounts can come to while this holds after every step. -/
def ReachableWith (good : Office → Prop) (office : Office) : Prop :=
  Relation.ReflTransGen (fun before after => before.Step after ∧ good after) start office

/-- What was asked for and drawn by the call that a unit of work belongs to. -/
def record (unit : UnitId) : Option (ServiceCall × Tape) := do
  let call ← office.calls (← office.owner unit)
  return (call.asked, call.tape)

end Office

/-- What comes of calls that are made one at a time. -/
structure Serial where
  tables : Tables
  outcomes : List (UnitId × Outcome LedgerError ServiceReply)

namespace Serial

def start : Serial := ⟨.empty, []⟩

/-- One more call, or a write past all locks. -/
def next (record : UnitId → Option (ServiceCall × Tape)) (serial : Serial) :
    PoolEvent → Option Serial
  | .committed unit => do
    let (call, tape) ← record unit
    let (outcome, tables) ← call.alone unit tape serial.tables
    return ⟨tables, serial.outcomes ++ [(unit, outcome)]⟩
  | .overwritten account => some { serial with tables := serial.tables.overwriteAccount account }

/-- The calls whose units of work have committed, one at a time in the order of the commits, each
with the ids and clock readings that it has drawn. -/
def run (record : UnitId → Option (ServiceCall × Tape)) (log : List PoolEvent) : Option Serial :=
  log.foldlM (next record) start

end Serial

def Office.serial (office : Office) : Option Serial := Serial.run office.record office.pool.log

end AccountLedger
