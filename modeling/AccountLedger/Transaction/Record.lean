import AccountLedger.Transaction.Request

/-!
The record kept of every customer transaction: pending before the ledger is called, final
afterwards.
-/

namespace AccountLedger

inductive TransactionStatus where
  | pending
  | success
  | failed
  deriving DecidableEq, Repr

namespace TransactionStatus

def name : TransactionStatus → String
  | .pending => "PENDING"
  | .success => "SUCCESS"
  | .failed => "FAILED"

def names : List (String × TransactionStatus) :=
  [("PENDING", .pending), ("SUCCESS", .success), ("FAILED", .failed)]

def ofName (name : String) : Except String TransactionStatus :=
  match names.lookup name with
  | some status => .ok status
  | none => .error s!"unknown transaction status: {name}"

def decode : Decoder TransactionStatus := Decoder.choice names

end TransactionStatus

/-- The eight characters that end a reference number: digits and capital letters. -/
structure ReferenceSuffix where
  text : String
  deriving DecidableEq, Repr

namespace ReferenceSuffix

def symbol (digit : Nat) : Char :=
  if digit < 10 then Char.ofNat (48 + digit) else Char.ofNat (55 + digit)

def symbols : Nat → Nat → List Char
  | 0, _ => []
  | width + 1, value => symbols width (value / 36) ++ [symbol (value % 36)]

/-- The suffix with this number, different for all numbers below `36 ^ 8`. -/
def ofNat (value : Nat) : ReferenceSuffix := ⟨String.ofList (symbols 8 value)⟩

end ReferenceSuffix

/-- `TXN-yyyymmdd-` and the suffix. -/
def referenceNumber (created : Timestamp) (suffix : ReferenceSuffix) : String :=
  s!"TXN-{String.ofList created.compactDate}-{suffix.text}"

structure TransactionRecord where
  id : Uuid
  account : Uuid
  target : Option Uuid
  amount : Amount
  kind : TransactionKind
  reference : String
  status : TransactionStatus
  failureReason : Option String
  idempotencyKey : Option String
  attempts : Int
  createdAt : Timestamp
  updatedAt : Timestamp
  deriving DecidableEq

namespace TransactionRecord

/-- The record of a request that the ledger has not been called for yet. -/
def pending (id : Uuid) (request : TransactionRequest) (suffix : ReferenceSuffix)
    (now : Timestamp) : TransactionRecord :=
  { id, account := request.account, target := request.target, amount := request.amount
    kind := request.kind, reference := referenceNumber now suffix, status := .pending
    failureReason := none, idempotencyKey := request.idempotencyKey, attempts := 0
    createdAt := now, updatedAt := now }

/-- The record under another reference of its day. -/
def withSuffix (record : TransactionRecord) (suffix : ReferenceSuffix) : TransactionRecord :=
  { record with reference := referenceNumber record.createdAt suffix }

def succeeded (record : TransactionRecord) (attempts : Int) (now : Timestamp) :
    TransactionRecord :=
  { record with status := .success, failureReason := none, attempts, updatedAt := now }

def failed (record : TransactionRecord) (attempts : Int) (reason : String) (now : Timestamp) :
    TransactionRecord :=
  { record with status := .failed, failureReason := some reason, attempts, updatedAt := now }

def isFinal (record : TransactionRecord) : Bool := record.status != .pending

def toJson (record : TransactionRecord) : Json :=
  Json.record [
    ("id", .string (toString record.id)),
    ("account_id", .string (toString record.account)),
    ("target_account_id", Json.ofOption (fun id => .string (toString id)) record.target),
    ("amount", record.amount.value.toJson),
    ("transaction_type", .string record.kind.name),
    ("reference_number", .string record.reference),
    ("status", .string record.status.name),
    ("failure_reason", Json.ofOption .string record.failureReason),
    ("idempotency_key", Json.ofOption .string record.idempotencyKey),
    ("attempts", Json.ofInt record.attempts),
    ("created_at", .string (toString record.createdAt)),
    ("updated_at", .string (toString record.updatedAt))]

def decoder : RecordDecoder TransactionRecord :=
  TransactionRecord.mk
    <$> .required "id" Decoder.uuid
    <*> .required "account_id" Decoder.uuid
    <*> .nullable "target_account_id" Decoder.uuid
    <*> .required "amount" Amount.decode
    <*> .required "transaction_type" TransactionKind.decode
    <*> .required "reference_number" Decoder.string
    <*> .required "status" TransactionStatus.decode
    <*> .nullable "failure_reason" Decoder.string
    <*> .nullable "idempotency_key" Decoder.string
    <*> .required "attempts" Decoder.int32
    <*> .required "created_at" Decoder.timestamp
    <*> .required "updated_at" Decoder.timestamp

def decode : Decoder TransactionRecord := decoder.decode

end TransactionRecord

end AccountLedger
