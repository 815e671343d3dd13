import AccountLedger.Account

/-!
What a customer asks for: one movement of money, with an optional key that makes repeating the
request harmless.
-/

namespace AccountLedger

inductive TransactionKind where
  | deposit
  | withdrawal
  | transfer
  deriving DecidableEq, Repr

namespace TransactionKind

def name : TransactionKind → String
  | .deposit => "DEPOSIT"
  | .withdrawal => "WITHDRAWAL"
  | .transfer => "TRANSFER"

def names : List (String × TransactionKind) :=
  [("DEPOSIT", .deposit), ("WITHDRAWAL", .withdrawal), ("TRANSFER", .transfer)]

def ofName (name : String) : Except String TransactionKind :=
  match names.lookup name with
  | some kind => .ok kind
  | none => .error s!"unknown transaction type: {name}"

def decode : Decoder TransactionKind := Decoder.choice names

end TransactionKind

structure TransactionRequest where
  account : Uuid
  target : Option Uuid
  amount : Amount
  kind : TransactionKind
  idempotencyKey : Option String
  deriving DecidableEq

/-- The single ledger operation that a request stands for. -/
inductive LedgerCall where
  | deposit (account : Uuid) (amount : Amount)
  | withdraw (account : Uuid) (amount : Amount)
  | transfer (source target : Uuid) (amount : Amount)
  deriving DecidableEq

namespace TransactionRequest

/-- A transfer needs a target other than its account; other requests take none. -/
def call (request : TransactionRequest) : Except Refusal LedgerCall :=
  match request.kind, request.target with
  | .transfer, none => .error (.invalid "transfer requires a target account")
  | .transfer, some target =>
    if target = request.account then .error .sameAccountTransfer
    else .ok (.transfer request.account target request.amount)
  | .deposit, none => .ok (.deposit request.account request.amount)
  | .withdrawal, none => .ok (.withdraw request.account request.amount)
  | kind, some _ => .error (.invalid s!"{kind.name} does not take a target account")

def validate (request : TransactionRequest) : Except Refusal Unit :=
  request.call.map fun _ => ()

def toJson (request : TransactionRequest) : Json :=
  Json.record [
    ("account_id", .string (toString request.account)),
    ("target_account_id", Json.ofOption (fun id => .string (toString id)) request.target),
    ("amount", request.amount.value.toJson),
    ("type", .string request.kind.name),
    ("idempotency_key", Json.ofOption .string request.idempotencyKey)]

def decoder : RecordDecoder TransactionRequest :=
  TransactionRequest.mk
    <$> .required "account_id" Decoder.uuid
    <*> .defaulted "target_account_id" Decoder.uuid
    <*> .required "amount" Amount.decode
    <*> .required "type" TransactionKind.decode
    <*> .defaulted "idempotency_key" Decoder.string

def decode : Decoder TransactionRequest := decoder.decode

end TransactionRequest

end AccountLedger
