import AccountLedger.Account

/-!
Facts about the ledger that other services learn of, one for each committed change.
-/

namespace AccountLedger

inductive LedgerEvent where
  | accountOpened (account owner : Uuid) (currency : String) (time : Timestamp)
  | accountClosed (account : Uuid) (time : Timestamp)
  | fundsDeposited (account : Uuid) (amount balanceAfter : Decimal) (time : Timestamp)
  | fundsWithdrawn (account : Uuid) (amount balanceAfter : Decimal) (time : Timestamp)
  | fundsTransferred (transfer source target : Uuid) (amount : Decimal) (time : Timestamp)
  deriving DecidableEq, Repr

namespace LedgerEvent

def accountTopic : String := "account-events"

def transactionTopic : String := "transaction-events"

/-- The name of the kind of event. -/
def kind : LedgerEvent → String
  | .accountOpened .. => "AccountOpened"
  | .accountClosed .. => "AccountClosed"
  | .fundsDeposited .. => "FundsDeposited"
  | .fundsWithdrawn .. => "FundsWithdrawn"
  | .fundsTransferred .. => "FundsTransferred"

/-- The account the event is about; of a transfer, the one that paid. -/
def aggregate : LedgerEvent → Uuid
  | .accountOpened account _ _ _ => account
  | .accountClosed account _ => account
  | .fundsDeposited account _ _ _ => account
  | .fundsWithdrawn account _ _ _ => account
  | .fundsTransferred _ source _ _ _ => source

def topic : LedgerEvent → String
  | .accountOpened .. => accountTopic
  | .accountClosed .. => accountTopic
  | _ => transactionTopic

def idJson (id : Uuid) : Json := .string (toString id)

def timeJson (time : Timestamp) : Json := .string (toString time)

/-- The members that describe the event, without its kind. -/
def members : LedgerEvent → List (String × Json)
  | .accountOpened account owner currency time =>
    [("account_id", idJson account), ("owner_id", idJson owner), ("currency", .string currency),
      ("opened_at", timeJson time)]
  | .accountClosed account time => [("account_id", idJson account), ("closed_at", timeJson time)]
  | .fundsDeposited account amount balanceAfter time =>
    [("account_id", idJson account), ("amount", amount.toJson),
      ("balance_after", balanceAfter.toJson), ("occurred_at", timeJson time)]
  | .fundsWithdrawn account amount balanceAfter time =>
    [("account_id", idJson account), ("amount", amount.toJson),
      ("balance_after", balanceAfter.toJson), ("occurred_at", timeJson time)]
  | .fundsTransferred transfer source target amount time =>
    [("transfer_id", idJson transfer), ("from_account_id", idJson source),
      ("to_account_id", idJson target), ("amount", amount.toJson), ("occurred_at", timeJson time)]

def toJson (event : LedgerEvent) : Json :=
  Json.record (("type", .string event.kind) :: event.members)

/-- The serialized event, as it is sent to other services. -/
def payload (event : LedgerEvent) : String := event.toJson.text

open RecordDecoder in
/-- How the members of each kind of event are read. -/
def decoders : List (String × RecordDecoder LedgerEvent) := [
  ("AccountOpened", accountOpened <$> required "account_id" Decoder.uuid
    <*> required "owner_id" Decoder.uuid <*> required "currency" Decoder.string
    <*> required "opened_at" Decoder.timestamp),
  ("AccountClosed", accountClosed <$> required "account_id" Decoder.uuid
    <*> required "closed_at" Decoder.timestamp),
  ("FundsDeposited", fundsDeposited <$> required "account_id" Decoder.uuid
    <*> required "amount" Decoder.decimal <*> required "balance_after" Decoder.decimal
    <*> required "occurred_at" Decoder.timestamp),
  ("FundsWithdrawn", fundsWithdrawn <$> required "account_id" Decoder.uuid
    <*> required "amount" Decoder.decimal <*> required "balance_after" Decoder.decimal
    <*> required "occurred_at" Decoder.timestamp),
  ("FundsTransferred", fundsTransferred <$> required "transfer_id" Decoder.uuid
    <*> required "from_account_id" Decoder.uuid <*> required "to_account_id" Decoder.uuid
    <*> required "amount" Decoder.decimal <*> required "occurred_at" Decoder.timestamp)]

/-- The kind of an event object and its other members. -/
def takeKind : List (Option String × Json) → Option (String × List (Option String × Json))
  | [] => none
  | (name, value) :: rest =>
    if name = some "type" then
      match value with
      | .string kind => if rest.any (·.1 = some "type") then none else some (kind, rest)
      | _ => none
    else (takeKind rest).map fun (kind, others) => (kind, (name, value) :: others)

def decodeKind (kind : String) (content : Json) : Except DecodeError LedgerEvent :=
  match decoders.lookup kind with
  | some decoder => decoder.decode content
  | none => .error .unfit

/-- An event from an object with its kind among the members, or from an array that starts with
the kind. -/
def decode : Decoder LedgerEvent := fun json =>
  if json.isHoldable Json.maxDepth then
    match json with
    | .object members =>
      match takeKind members with
      | some (kind, others) => decodeKind kind (.object others)
      | none => .error .unfit
    | .array (.string kind :: items) => decodeKind kind (.array items)
    | _ => .error .unfit
  else .error .malformed

end LedgerEvent

end AccountLedger
