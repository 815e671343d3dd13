import AccountLedger.Amount
import AccountLedger.Failure
import AccountLedger.Refusal

/-!
Ledger accounts. An account changes only by movements of money and by closing, and keeps count of
the changes that were stored.
-/

namespace AccountLedger

inductive AccountStatus where
  | active
  | closed
  deriving DecidableEq, Repr

namespace AccountStatus

def name : AccountStatus → String
  | .active => "ACTIVE"
  | .closed => "CLOSED"

def names : List (String × AccountStatus) := [("ACTIVE", .active), ("CLOSED", .closed)]

def ofName (name : String) : Except String AccountStatus :=
  match names.lookup name with
  | some status => .ok status
  | none => .error s!"unknown account status: {name}"

def decode : Decoder AccountStatus := Decoder.choice names

end AccountStatus

/-- A stored account. Its revision counts its changes with 64 bits: there have to be fewer than
2 ^ 63 of them. -/
structure Account where
  id : Uuid
  owner : Uuid
  balance : Balance
  currency : String
  overdraftLimit : Decimal
  revision : Int
  status : AccountStatus
  createdAt : Timestamp
  updatedAt : Timestamp
  deriving DecidableEq, Repr

namespace Account

/-- An empty account. -/
def opened (id owner : Uuid) (currency : String) (overdraftLimit : Decimal) (now : Timestamp) :
    Account :=
  { id, owner, balance := Balance.zero, currency, overdraftLimit, revision := 0
    status := .active, createdAt := now, updatedAt := now }

def ensureActive (account : Account) : Outcome Refusal Unit :=
  match account.status with
  | .active => .ok ()
  | .closed => Outcome.fail (.accountClosed account.id)

/-- Refuse an amount that the balance and the overdraft limit do not cover. -/
def ensureFunds (account : Account) (amount : Amount) : Outcome Refusal Unit := do
  let covered ← Outcome.ofArithmetic (account.balance.canCover amount account.overdraftLimit)
  if covered then return ()
  else
    let available ← Outcome.ofArithmetic (account.balance.available account.overdraftLimit)
    Outcome.fail (.insufficientFunds account.id amount.value available)

def credit (account : Account) (amount : Amount) (now : Timestamp) : Outcome Refusal Account := do
  account.ensureActive
  let balance ← Outcome.ofArithmetic (account.balance.credit amount)
  return { account with balance, updatedAt := now }

def debit (account : Account) (amount : Amount) (now : Timestamp) : Outcome Refusal Account := do
  account.ensureActive
  account.ensureFunds amount
  let balance ← Outcome.ofArithmetic (account.balance.debit amount)
  return { account with balance, updatedAt := now }

def close (account : Account) (now : Timestamp) : Outcome Refusal Account := do
  account.ensureActive
  if account.balance.value.isZero then
    return { account with status := .closed, updatedAt := now }
  else Outcome.fail (.nonZeroBalance account.id account.balance.value)

/-- The account after one more stored change, as long as its revision is not the last there is. -/
def stored (account : Account) : Account := { account with revision := account.revision + 1 }

def toJson (account : Account) : Json :=
  Json.record [
    ("id", .string (toString account.id)),
    ("owner_id", .string (toString account.owner)),
    ("balance", account.balance.value.toJson),
    ("currency", .string account.currency),
    ("overdraft_limit", account.overdraftLimit.toJson),
    ("revision", Json.ofInt account.revision),
    ("status", .string account.status.name),
    ("created_at", .string (toString account.createdAt)),
    ("updated_at", .string (toString account.updatedAt))]

def decoder : RecordDecoder Account :=
  Account.mk
    <$> .required "id" Decoder.uuid
    <*> .required "owner_id" Decoder.uuid
    <*> .required "balance" (fun json => (Decoder.decimal json).map Balance.mk)
    <*> .required "currency" Decoder.string
    <*> .required "overdraft_limit" Decoder.decimal
    <*> .required "revision" Decoder.int64
    <*> .required "status" AccountStatus.decode
    <*> .required "created_at" Decoder.timestamp
    <*> .required "updated_at" Decoder.timestamp

def decode : Decoder Account := decoder.decode

end Account

end AccountLedger
