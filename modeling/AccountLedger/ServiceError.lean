import AccountLedger.Downstream
import AccountLedger.Ledger.Error
import AccountLedger.Outbox.Error
import AccountLedger.Settings
import AccountLedger.Transaction.Error
import AccountLedger.Transaction.Record

/-!
Errors as the services answer them: one status, one machine-readable code and optional details for
every error of every layer.
-/

namespace AccountLedger

/-- Why a customer transaction was not executed. -/
inductive OrchestrationError where
  | refused (refusal : Refusal)
  | failed (record : TransactionRecord) (error : DownstreamError)
  | store (error : TransactionStoreError)
  deriving DecidableEq

namespace OrchestrationError

def message : OrchestrationError → String
  | .refused refusal => refusal.message
  | .failed record error => s!"Transaction {record.reference} failed: {error.message}"
  | .store error => s!"Transaction store error: {error.message}"

end OrchestrationError

inductive ServiceError where
  | invalidRequest (reason : String)
  | notFound (what : String)
  | refused (refusal : Refusal)
  | ledger (error : LedgerError)
  | outbox (error : OutboxError)
  | orchestration (error : OrchestrationError)
  | downstream (error : DownstreamError)
  | internal (reason : String)
  | setting (error : SettingError)
  deriving DecidableEq

/-- The answer to a failed request. -/
structure ErrorReply where
  status : Nat
  code : String
  details : Option String
  deriving DecidableEq, Repr

namespace ErrorReply

def ofRefusal (refusal : Refusal) : ErrorReply :=
  match refusal with
  | .insufficientFunds .. => ⟨422, "insufficient_funds", some refusal.message⟩
  | .accountClosed account => ⟨422, "account_closed", some (toString account)⟩
  | .nonZeroBalance .. => ⟨422, "non_zero_balance", some refusal.message⟩
  | .currencyMismatch .. => ⟨422, "currency_mismatch", some refusal.message⟩
  | .invalidAmount reason => ⟨400, "invalid_amount", some reason⟩
  | .accountNotFound account => ⟨404, "account_not_found", some (toString account)⟩
  | .sameAccountTransfer => ⟨400, "same_account_transfer", none⟩
  | .invalid reason => ⟨400, "validation_error", some reason⟩

def ofLedger : LedgerError → ErrorReply
  | .refused refusal => ofRefusal refusal
  | .lockTimeout account _ => ⟨503, "lock_timeout", some (toString account)⟩
  | .concurrentModification account _ _ =>
    ⟨503, "concurrent_modification", some (toString account)⟩
  | .database _ => ⟨500, "database_error", none⟩
  | _ => ⟨500, "internal_error", none⟩

def ofDownstream (error : DownstreamError) : ErrorReply :=
  match error.kind with
  | .badRequest => ⟨502, "downstream_rejected", some error.message⟩
  | .notFound => ⟨502, "downstream_missing", some error.message⟩
  | .accessDenied => ⟨403, "downstream_access_denied", some error.message⟩
  | .unavailable => ⟨503, "downstream_unavailable", some error.message⟩
  | .generic => ⟨502, "downstream_error", some error.message⟩

end ErrorReply

namespace ServiceError

def message : ServiceError → String
  | .invalidRequest reason => s!"Invalid request: {reason}"
  | .notFound what => s!"Not found: {what}"
  | .refused refusal => refusal.message
  | .ledger error => error.message
  | .outbox error => error.message
  | .orchestration error => error.message
  | .downstream error => error.message
  | .internal reason => s!"Internal error: {reason}"
  | .setting error => s!"Configuration error: {error.message}"

def reply : ServiceError → ErrorReply
  | .invalidRequest reason => ⟨400, "invalid_request", some reason⟩
  | .notFound what => ⟨404, "not_found", some what⟩
  | .refused refusal => ErrorReply.ofRefusal refusal
  | .ledger error => ErrorReply.ofLedger error
  | .outbox (.notFound entry) => ⟨404, "outbox_entry_not_found", some (toString entry)⟩
  | .outbox _ => ⟨500, "outbox_error", none⟩
  | .orchestration (.refused refusal) => ErrorReply.ofRefusal refusal
  | .orchestration (.failed record error) =>
    { ErrorReply.ofDownstream error with details := some s!"{record.reference}: {error.summary}" }
  | .orchestration (.store _) => ⟨500, "transaction_store_error", none⟩
  | .downstream error => ErrorReply.ofDownstream error
  | .internal _ => ⟨500, "internal_error", none⟩
  | .setting _ => ⟨500, "config_error", none⟩

/-- The JSON body that goes with the status. -/
def body (error : ServiceError) : Json :=
  Json.record
    ([("error", .string error.message), ("error_code", .string error.reply.code)] ++
      match error.reply.details with
      | some details => [("details", .string details)]
      | none => [])

end ServiceError

end AccountLedger
