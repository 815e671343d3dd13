import AccountLedger.Http.Message
import AccountLedger.Json.Access
import AccountLedger.Ledger.Query
import AccountLedger.Outbox.Delivery

/-!
What came of an operation, as JSON for somebody who follows it: a success is an object with the
value under `ok`; a failure names its error, gives its text, says how it is classified, and, where
the services would answer a request with it, shows that reply.
-/

namespace AccountLedger

/-- Values with a report. -/
class Report (α : Type) where
  report : α → Json

export Report (report)

namespace Report

/-- A report of success. -/
def ok (value : Json) : Json := Json.record [("ok", value)]

def okTrue : Json := ok (.bool true)

/-- A report of a failure that has nothing to it but its name. -/
def failed (name : String) : Json := Json.record [("error", .string name)]

/-- A report of a failure. -/
def fault (name message : String) : Json :=
  Json.record [("error", .string name), ("message", .string message)]

instance : Report Json := ⟨id⟩
instance : Report Unit := ⟨fun _ => .null⟩
instance : Report Bool := ⟨.bool⟩
instance : Report Nat := ⟨Json.ofNat⟩
instance : Report String := ⟨.string⟩
instance : Report Uuid := ⟨fun id => .string (toString id)⟩
instance : Report Decimal := ⟨Decimal.toJson⟩
instance : Report Account := ⟨Account.toJson⟩
instance : Report OutboxEntry := ⟨OutboxEntry.toJson⟩
instance : Report DeliveryStatus := ⟨fun status => .string status.name⟩
instance : Report TransactionRecord := ⟨TransactionRecord.toJson⟩
instance : Report TransferReceipt := ⟨TransferReceipt.toJson⟩
instance : Report LedgerView := ⟨LedgerView.toJson⟩

instance [Report α] : Report (List α) := ⟨fun values => .array (values.map report)⟩
instance [Report α] : Report (Option α) := ⟨Json.ofOption report⟩

instance [Report α] : Report (Committed α) :=
  ⟨fun done =>
    Json.record [("value", report done.value), ("events", .array [done.entry.toJson])]⟩

instance : Report SweepReport :=
  ⟨fun sweep =>
    Json.record [("attempted", Json.ofNat sweep.attempted), ("sent", Json.ofNat sweep.sent),
      ("failed", Json.ofNat sweep.failed), ("errors", report sweep.errors)]⟩

instance [Report ε] [Report α] : Report (Except ε α) :=
  ⟨fun result => match result with
    | .ok value => ok (report value)
    | .error error => report error⟩

/-! ## Failures -/

instance : Report Overflow := ⟨fun overflow => fault "panic" overflow.message⟩

instance [Report ε] : Report (Failure ε) :=
  ⟨fun failure => match failure with
    | .error cause => report cause
    | .overflow overflow => report overflow⟩

instance : Report DecodeError :=
  ⟨fun error => match error with
    | .refused reason => fault "Deserialize" reason
    | _ => failed "Deserialize"⟩

instance : Report AmountError :=
  ⟨fun error =>
    let name := match error with
      | .notPositive _ => "NotPositive"
      | .tooManyDecimals _ => "TooManyDecimals"
      | .tooLarge => "Overflow"
      | .unreadable _ => "ParseError"
    fault name error.message⟩

instance : Report SettingError := ⟨fun error => fault "InvalidValue" error.message⟩

end Report

def Refusal.name : Refusal → String
  | .insufficientFunds .. => "InsufficientFunds"
  | .accountClosed _ => "AccountClosed"
  | .nonZeroBalance .. => "NonZeroBalance"
  | .invalidAmount _ => "InvalidAmount"
  | .accountNotFound _ => "AccountNotFound"
  | .sameAccountTransfer => "SameAccountTransfer"
  | .currencyMismatch .. => "CurrencyMismatch"
  | .invalid _ => "Validation"

def LedgerError.name : LedgerError → String
  | .refused refusal => refusal.name
  | .lockTimeout .. => "LockTimeout"
  | .concurrentModification .. => "ConcurrentModification"
  | .lockOrderViolation .. => "LockOrderViolation"
  | .notLocked _ => "NotLocked"
  | .database _ => "Database"
  | .serialization _ => "Serialization"
  | .corruptRow _ => "CorruptRow"

def LedgerErrorKind.name : LedgerErrorKind → String
  | .validation => "Validation"
  | .businessRule => "BusinessRule"
  | .notFound => "NotFound"
  | .transient => "Transient"
  | .internal => "Internal"

/-- Status and body of the reply that an error leads to. -/
def ServiceError.replyJson (error : ServiceError) : Json :=
  Json.record [("status", Json.ofNat error.reply.status), ("body", error.body)]

def DownstreamError.toJson (error : DownstreamError) : Json :=
  Json.record [("kind", .string error.kind.name), ("service", .string error.service),
    ("endpoint", .string error.endpoint), ("status", Json.ofOption Json.ofNat error.status),
    ("code", Json.ofOption .string error.code), ("body", .string error.body),
    ("is_transient", .bool error.isTransient), ("summary", .string error.summary),
    ("message", .string error.message)]

namespace Report

instance : Report Refusal :=
  ⟨fun refusal =>
    (fault refusal.name refusal.message).extended
      [("is_validation", .bool refusal.isValidation), ("is_not_found", .bool refusal.isNotFound)]⟩

instance : Report LedgerError :=
  ⟨fun error =>
    (fault error.name error.message).extended
      [("kind", .string error.kind.name), ("is_transient", .bool error.isTransient),
        ("http", (ServiceError.ledger error).replyJson)]⟩

instance : Report OutboxError :=
  ⟨fun error =>
    let name := match error with
      | .notFound _ => "NotFound"
      | .database _ => "Database"
      | .corruptRow _ => "CorruptRow"
    (fault name error.message).extended [("http", (ServiceError.outbox error).replyJson)]⟩

instance : Report TransactionStoreError :=
  ⟨fun error =>
    let name := match error with
      | .duplicateReference _ => "DuplicateReference"
      | .duplicateIdempotencyKey _ => "DuplicateIdempotencyKey"
      | .notFound _ => "NotFound"
      | .database _ => "Database"
      | .corruptRow _ => "CorruptRow"
    fault name error.message⟩

instance : Report BrokerError :=
  ⟨fun error =>
    let name := match error with
      | .unreachable _ => "Unreachable"
      | .rejected .. => "Rejected"
      | .timeout _ => "Timeout"
    fault name error.message⟩

instance : Report SweepError :=
  ⟨fun error => match error with
    | .outbox _ => fault "JobError" error.message
    | .timeOutOfRange => fault "panic" error.message⟩

instance : Report DownstreamError :=
  ⟨fun error => (failed "Downstream").extended [("downstream", error.toJson)]⟩

instance : Report OrchestrationError :=
  ⟨fun error =>
    let cause := match error with
      | .refused refusal => [("error", .string "Validation"), ("domain", .string refusal.name)]
      | .failed record error =>
        [("error", .string "Failed"), ("transaction", record.toJson), ("downstream", error.toJson)]
      | .store error => [("error", .string "Repository"), ("store", report error)]
    (Json.record cause).extended
      [("message", .string error.message), ("http", (ServiceError.orchestration error).replyJson)]⟩

instance : Report ServiceError :=
  ⟨fun error => Json.record [("message", .string error.message), ("http", error.replyJson)]⟩

instance (request : TableRequest) : Report request.Answer :=
  match request with
  | .findAccount _ => inferInstanceAs (Report (Except LedgerError (Option Account)))
  | .findEntry _ => inferInstanceAs (Report (Except OutboxError (Option OutboxEntry)))
  | .listByStatus .. => inferInstanceAs (Report (Except OutboxError (List OutboxEntry)))
  | .listStale .. => inferInstanceAs (Report (Except OutboxError (List OutboxEntry)))
  | .recordAttempt .. => inferInstanceAs (Report (Except OutboxError OutboxEntry))
  | .insertRecord _ => inferInstanceAs (Report (Except TransactionStoreError Unit))
  | .updateRecord _ => inferInstanceAs (Report (Except TransactionStoreError Unit))
  | .findByReference _ =>
    inferInstanceAs (Report (Except TransactionStoreError (Option TransactionRecord)))
  | .findByKey _ =>
    inferInstanceAs (Report (Except TransactionStoreError (Option TransactionRecord)))

instance : Report HttpResponse :=
  ⟨fun response =>
    let body := match response.body with
      | .empty => Json.null
      | .text content => .string content
      | .json value => value
    Json.record [("status", Json.ofNat response.status),
      ("correlation_id", report response.correlation), ("body", body)]⟩

/-! ## Settings -/

def retries (policy : RetryPolicy) : Json :=
  Json.record [("max_attempts", Json.ofNat policy.maxAttempts),
    ("delay_ms", .string (toString policy.delayMs))]

def sweeps (policy : SweepPolicy) : Json :=
  Json.record [("interval_ms", .string (toString policy.intervalMs)),
    ("batch_size", .string (toString policy.batchSize)),
    ("stale_ms", .string (toString policy.staleMs)), ("warn", Json.ofInt policy.warnAttempts)]

instance : Report Settings :=
  ⟨fun settings => Json.record [
    ("database_url", report settings.databaseUrl),
    ("database_max_connections", Json.ofNat settings.databaseMaxConnections),
    ("host", .string settings.host), ("port", Json.ofNat settings.port),
    ("environment", .string settings.environment),
    ("lock_timeout_ms", .string (toString settings.lockTimeoutMs)),
    ("default_overdraft_limit", report settings.defaultOverdraftLimit),
    ("outbox_sweep_interval_ms", .string (toString settings.sweepIntervalMs)),
    ("outbox_send_timeout_ms", .string (toString settings.sendTimeoutMs)),
    ("outbox_batch_size", .string (toString settings.batchSize)),
    ("outbox_stale_ms", .string (toString settings.staleMs)),
    ("broker_url", report settings.brokerUrl),
    ("ledger_service_url", .string settings.ledgerServiceUrl),
    ("transaction_service_port", Json.ofNat settings.transactionServicePort),
    ("orchestrator_max_attempts", Json.ofNat settings.maxAttempts),
    ("orchestrator_retry_delay_ms", .string (toString settings.retryDelayMs)),
    ("is_production", .bool settings.isProduction),
    ("sweep", sweeps settings.sweepPolicy),
    ("retry", retries settings.retryPolicy)]⟩

end Report

end AccountLedger
