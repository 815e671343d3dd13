import AccountLedger.Storage

/-!
Changes of the ledger. Each runs in one unit of work that locks the rows it changes and also
carries the outbox entry that tells of the change, so that either both are stored or neither is.
-/

namespace AccountLedger

/-- A program that may end with an error of the ledger. -/
abbrev LedgerAction (α : Type) : Type := ExceptT (Failure LedgerError) (Program service) α

namespace LedgerAction

def ofAnswer (program : Program service (Except LedgerError α)) : LedgerAction α :=
  ExceptT.mk (Outcome.ofExcept <$> program)

/-- The outcome of a rule of the domain. -/
def ofOutcome (outcome : Outcome Refusal α) : LedgerAction α :=
  ExceptT.mk (pure (outcome.mapError .refused))

def refuse (refusal : Refusal) : LedgerAction α := throw (.error (.refused refusal))

def freshId : LedgerAction Uuid := ExceptT.lift HostRequest.freshId.perform

def now : LedgerAction Timestamp := ExceptT.lift HostRequest.now.perform

def lock (unit : UnitId) (order : LockOrder) (timeoutMs : Nat) : LedgerAction (List Account) :=
  ofAnswer (UnitRequest.lock unit order timeoutMs).perform

def insert (unit : UnitId) (account : Account) : LedgerAction Unit :=
  ofAnswer (UnitRequest.insert unit account).perform

/-- Write a locked row; the account as it will be stored. -/
def save (unit : UnitId) (account : Account) : LedgerAction Account := do
  ofAnswer (UnitRequest.save unit account).perform
  return account.stored

/-- Write the outbox entry of an event. -/
def recordEvent (unit : UnitId) (event : LedgerEvent) : LedgerAction OutboxEntry := do
  let entry := OutboxEntry.ofEvent (← freshId) event (← now)
  ofAnswer (UnitRequest.stage unit entry).perform
  return entry

/-- Run a part of a unit of work; if it fails the unit is abandoned. -/
def orAbandon (unit : UnitId) (work : LedgerAction α) : LedgerAction α :=
  tryCatch work fun failure => do
    let () ← ExceptT.lift (UnitRequest.abandon unit).perform
    throw failure

/-- Run work in a new unit of work and commit it. -/
def committed (work : UnitId → LedgerAction α) : LedgerAction α := do
  let unit ← ofAnswer UnitRequest.start.perform
  let result ← orAbandon unit (work unit)
  ofAnswer (UnitRequest.commit unit).perform
  return result

end LedgerAction

/-- The result of a committed change, with the outbox entry that was stored with it. -/
structure Committed (α : Type) where
  value : α
  entry : OutboxEntry
  deriving DecidableEq, Repr

/-- Both sides of a committed transfer. -/
structure TransferReceipt where
  transfer : Uuid
  source : Account
  target : Account
  amount : Amount
  deriving DecidableEq

namespace TransferReceipt

def toJson (receipt : TransferReceipt) : Json :=
  Json.record [
    ("transfer_id", .string (toString receipt.transfer)),
    ("from", receipt.source.toJson),
    ("to", receipt.target.toJson),
    ("amount", receipt.amount.value.toJson)]

end TransferReceipt

/-- A currency code in capital letters. -/
def normalizeCurrency (currency : String) : Except Refusal String :=
  let code := (Text.trim currency.toList).map Char.toUpper
  if code.length = 3 ∧ code.all Char.isAlpha then .ok (String.ofList code)
  else .error (.invalid s!"invalid currency code: {currency}")

namespace LedgerAction

/-- The last committed state of an account. -/
def getAccount (account : Uuid) : LedgerAction Account := do
  match ← ofAnswer (TableRequest.findAccount account).perform with
  | some found => return found
  | none => throw (.error (.notFound account))

def openAccount (owner : Uuid) (currency : String) (overdraftLimit : Decimal) :
    LedgerAction (Committed Account) := do
  if overdraftLimit.lt Decimal.zero then
    refuse (.invalid "overdraft limit cannot be negative")
  let code ← ofOutcome (Outcome.ofExcept (normalizeCurrency currency))
  let now ← now
  let account := Account.opened (← freshId) owner code overdraftLimit now
  committed fun unit => do
    insert unit account
    let entry ← recordEvent unit (.accountOpened account.id owner code account.createdAt)
    return ⟨account, entry⟩

def lockOne (unit : UnitId) (account : Uuid) (timeoutMs : Nat) : LedgerAction Account := do
  match (← lock unit (LockOrder.single account) timeoutMs).getLast? with
  | some row => return row
  | none => throw (.error (.notFound account))

/-- Change one locked account and tell of it. -/
def changeAccount (account : Uuid) (timeoutMs : Nat)
    (change : Account → Timestamp → Outcome Refusal Account)
    (event : Account → Timestamp → LedgerEvent) : LedgerAction (Committed Account) :=
  committed fun unit => do
    let row ← lockOne unit account timeoutMs
    let changed ← ofOutcome (change row (← now))
    let stored ← save unit changed
    let entry ← recordEvent unit (event stored (← now))
    return ⟨stored, entry⟩

/-- Close an empty account. -/
def closeAccount (account : Uuid) (timeoutMs : Nat) : LedgerAction (Committed Account) :=
  changeAccount account timeoutMs Account.close fun row _ => .accountClosed account row.updatedAt

def deposit (account : Uuid) (amount : Amount) (timeoutMs : Nat) :
    LedgerAction (Committed Account) :=
  changeAccount account timeoutMs (fun row now => row.credit amount now) fun row now =>
    .fundsDeposited account amount.value row.balance.value now

def withdraw (account : Uuid) (amount : Amount) (timeoutMs : Nat) :
    LedgerAction (Committed Account) :=
  changeAccount account timeoutMs (fun row now => row.debit amount now) fun row now =>
    .fundsWithdrawn account amount.value row.balance.value now

/-- The two accounts of a transfer as they are at some point of it. -/
structure TransferSides where
  source : Account
  target : Account
  deriving DecidableEq, Repr

/-- Move an amount between two locked rows and write both. The sides are known also after a
failure, as far as they were changed. -/
def debitCredit (unit : UnitId) (amount : Amount) :
    ExceptT (Failure LedgerError) (StateT TransferSides (Program service)) Unit := do
  let run {α : Type} (action : LedgerAction α) :
      ExceptT (Failure LedgerError) (StateT TransferSides (Program service)) α :=
    ExceptT.mk (StateT.lift action.run)
  let sides ← get
  if sides.source.id = sides.target.id then run (refuse .sameAccountTransfer)
  run (ofOutcome sides.target.ensureActive)
  let source ← run (do ofOutcome (sides.source.debit amount (← now)))
  set { sides with source }
  let target ← run (do ofOutcome (sides.target.credit amount (← now)))
  set (TransferSides.mk source target)
  let source ← run (save unit source)
  set (TransferSides.mk source target)
  let target ← run (save unit target)
  set (TransferSides.mk source target)

def takeRow (rows : List Account) (account : Uuid) : LedgerAction Account :=
  match rows.find? fun row => row.id == account with
  | some row => return row
  | none => throw (.error (.notFound account))

/-- Whether money can go from one account to the other at all. -/
def checkSides (sides : TransferSides) (amount : Amount) : Outcome Refusal Unit := do
  sides.source.ensureActive
  sides.target.ensureActive
  if sides.source.currency ≠ sides.target.currency then
    Outcome.fail (.currencyMismatch sides.source.currency sides.target.currency)
  sides.source.ensureFunds amount

/-- Move an amount between two accounts. Both rows are locked in ascending order of the ids,
whatever the direction. -/
def transfer (source target : Uuid) (amount : Amount) (timeoutMs : Nat) :
    LedgerAction (Committed TransferReceipt) := do
  let order ← ofOutcome (Outcome.ofExcept (LockOrder.pair source target))
  committed fun unit => do
    let rows ← lock unit order timeoutMs
    let sides : TransferSides := ⟨← takeRow rows source, ← takeRow rows target⟩
    ofOutcome (checkSides sides amount)
    let (outcome, sides) ← ExceptT.lift ((debitCredit unit amount).run.run sides)
    ExceptT.mk (pure outcome)
    let id ← freshId
    let entry ← recordEvent unit (.fundsTransferred id source target amount.value (← now))
    return ⟨⟨id, sides.source, sides.target, amount⟩, entry⟩

end LedgerAction

end AccountLedger
