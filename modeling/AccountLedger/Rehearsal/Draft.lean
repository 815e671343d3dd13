import AccountLedger.Report

/-!
Units of work driven by hand, one step at a time: the rows that were read are kept at hand, changed
there, and written only when asked for.
-/

namespace AccountLedger.Rehearsal

/-- An open unit of work and the rows at hand. -/
structure Draft where
  unit : UnitId
  rows : List Account
  deriving DecidableEq, Repr

/-- Why a step of a draft failed. A transfer that failed shows its sides as far as they came. -/
inductive DraftError where
  | noSuchRow
  | refused (refusal : Refusal)
  | ledger (error : LedgerError)
  | transfer (error : LedgerError) (sides : LedgerAction.TransferSides)
  deriving DecidableEq, Repr

def sidesJson (sides : LedgerAction.TransferSides) : List (String × Json) :=
  [("from", sides.source.toJson), ("to", sides.target.toJson)]

instance : Report LedgerAction.TransferSides := ⟨fun sides => Json.record (sidesJson sides)⟩

instance : Report DraftError :=
  ⟨fun error => match error with
    | .noSuchRow => Report.failed "no_such_row"
    | .refused refusal => report refusal
    | .ledger error => report error
    | .transfer error sides => (report error).extended (sidesJson sides)⟩

/-- The draft with a row in the place of an older copy. -/
def Draft.withRow (draft : Draft) (row : Account) : Draft :=
  { draft with rows := row :: draft.rows.filter fun other => other.id != row.id }

/-- Start a unit of work in the place of another one, which is abandoned if it starts. -/
def Draft.start (before : Option Draft) : Program service (Json × Option Draft) := do
  let started : Except LedgerError UnitId ← UnitRequest.start.perform
  match started with
  | .error error => return (report error, before)
  | .ok unit => do
    if let some before := before then (UnitRequest.abandon before.unit).perform
    return (Report.okTrue, some ⟨unit, []⟩)

/-- A step of a draft; what it did to the rows at hand stays, whether it succeeds or not. -/
abbrev DraftAction (α : Type) : Type :=
  ExceptT (Failure DraftError) (StateT Draft (Program service)) α

namespace DraftAction

def ofLedger (action : LedgerAction α) : DraftAction α :=
  ExceptT.mk (StateT.lift (Outcome.mapError .ledger <$> action.run))

def keep (row : Account) : DraftAction Unit := modify fun draft => draft.withRow row

def row? (id : Uuid) : DraftAction (Option Account) :=
  return (← get).rows.find? fun row => row.id == id

def row (id : Uuid) : DraftAction Account := do
  match ← row? id with
  | some row => return row
  | none => throw (.error .noSuchRow)

def lock (ids : List Uuid) (timeoutMs : Nat) : DraftAction (List Account) := do
  let rows ← ofLedger (LedgerAction.lock (← get).unit (LockOrder.ofList ids) timeoutMs)
  rows.forM keep
  return rows

/-- Change a row at hand only. -/
def change (id : Uuid) (rule : Account → Timestamp → Outcome Refusal Account) :
    DraftAction Account := do
  let row ← row id
  let now ← ofLedger LedgerAction.now
  let changed ← ExceptT.mk (pure (Outcome.mapError .refused (rule row now)))
  keep changed
  return changed

/-- Write a row, as it is at hand or else as it is stored. -/
def save (id : Uuid) : DraftAction Unit := do
  let row ← match ← row? id with
    | some row => pure row
    | none => ofLedger (LedgerAction.getAccount id)
  let _ ← ofLedger (LedgerAction.save (← get).unit row)

def insert (row : Account) : DraftAction Unit := do
  keep row
  ofLedger (LedgerAction.insert (← get).unit row)

def stage (entry : OutboxEntry) : DraftAction Unit := do
  ofLedger (LedgerAction.ofAnswer (UnitRequest.stage (← get).unit entry).perform)

def recordEvent (event : LedgerEvent) : DraftAction OutboxEntry := do
  ofLedger (LedgerAction.recordEvent (← get).unit event)

/-- Move an amount between two rows at hand and write both. -/
def debitCredit (source target : Uuid) (amount : Amount) :
    DraftAction LedgerAction.TransferSides := do
  let sides : LedgerAction.TransferSides := ⟨← row source, ← row target⟩
  let unit := (← get).unit
  let (outcome, sides) ←
    ExceptT.lift (StateT.lift ((LedgerAction.debitCredit unit amount).run.run sides))
  keep sides.source
  keep sides.target
  ExceptT.mk (pure (Outcome.mapError (fun error => .transfer error sides) outcome))
  return sides

def commit : DraftAction Unit := do
  ofLedger (LedgerAction.ofAnswer (UnitRequest.commit (← get).unit).perform)

def abandon : DraftAction Bool := do
  let () ← ExceptT.lift (StateT.lift (UnitRequest.abandon (← get).unit).perform)
  return true

/-- Carry out a step: its report, and the draft afterwards. -/
def perform [Report α] (action : DraftAction α) (draft : Draft) :
    Program service (Json × Option Draft) :=
  (fun (outcome, draft) => (report outcome, some draft)) <$> action.run.run draft

/-- Carry out the last step of a draft. -/
def performLast [Report α] (action : DraftAction α) (draft : Draft) :
    Program service (Json × Option Draft) :=
  (fun (outcome, _) => (report outcome, none)) <$> action.run.run draft

end DraftAction

end AccountLedger.Rehearsal
