import AccountLedger.Decimal.Reader
import AccountLedger.Text.Blank

/-!
Settings of the services, read from environment variables.
-/

namespace AccountLedger

/-- The environment variables that are set. -/
abbrev Environment := List (String × String)

/-- A variable whose value cannot be used. -/
structure SettingError where
  key : String
  deriving DecidableEq, Repr

namespace SettingError

def message (error : SettingError) : String :=
  s!"Invalid value for environment variable: {error.key}"

end SettingError

/-- How the outbox is swept: the period, the most entries of one kind taken, the age in
milliseconds from which a pending entry counts as stuck, and the attempts worth a warning. -/
structure SweepPolicy where
  intervalMs : Nat
  batchSize : Int
  staleMs : Nat
  warnAttempts : Int
  deriving DecidableEq, Repr

namespace SweepPolicy

def default : SweepPolicy := ⟨30000, 100, 60000, 10⟩

end SweepPolicy

/-- How often a ledger call is made when locks are contended, and the pause between the calls. -/
structure RetryPolicy where
  maxAttempts : Nat
  delayMs : Nat
  deriving DecidableEq, Repr

namespace RetryPolicy

def default : RetryPolicy := ⟨3, 1000⟩

/-- How often a call may be repeated. A number of attempts beyond 31 bits allows no repetition. -/
def retries (policy : RetryPolicy) : Nat :=
  if policy.maxAttempts < 0x80000000 then policy.maxAttempts - 1 else 0

end RetryPolicy

structure Settings where
  databaseUrl : Option String
  databaseMaxConnections : Nat
  host : String
  port : Nat
  environment : String
  lockTimeoutMs : Nat
  defaultOverdraftLimit : Decimal
  sweepIntervalMs : Nat
  sendTimeoutMs : Nat
  batchSize : Int
  staleMs : Nat
  brokerUrl : Option String
  ledgerServiceUrl : String
  transactionServicePort : Nat
  maxAttempts : Nat
  retryDelayMs : Nat
  deriving DecidableEq

namespace Settings

/-- The names of the variables that matter, with the one for the log. -/
def keys : List String :=
  ["DATABASE_URL", "DATABASE_MAX_CONNECTIONS", "HOST", "PORT", "ENVIRONMENT", "LOCK_TIMEOUT_MS",
    "DEFAULT_OVERDRAFT_LIMIT", "OUTBOX_SWEEP_INTERVAL_SECS", "OUTBOX_SEND_TIMEOUT_MS",
    "OUTBOX_BATCH_SIZE", "OUTBOX_STALE_PENDING_SECS", "BROKER_URL", "LEDGER_SERVICE_URL",
    "TRANSACTION_SERVICE_PORT", "ORCHESTRATOR_MAX_ATTEMPTS", "ORCHESTRATOR_RETRY_DELAY_MS",
    "RUST_LOG"]

/-- A variable whose blank value counts as unset. -/
def nonBlank (env : Environment) (key : String) : Option String :=
  (env.lookup key).filter fun value => !(Text.trim value.toList).isEmpty

/-- A variable read without the blanks around it, or the default if it is unset. -/
def parsedOr (env : Environment) (key : String) (read? : List Char → Option α) (default : α) :
    Except SettingError α :=
  match env.lookup key with
  | none => .ok default
  | some value => match read? (Text.trim value.toList) with
    | some value => .ok value
    | none => .error ⟨key⟩

def word16? : List Char → Option Nat := parseWhole? 0xFFFF

def word32? : List Char → Option Nat := parseWhole? 0xFFFFFFFF

def word64? : List Char → Option Nat := parseWhole? 0xFFFFFFFFFFFFFFFF

def int64? : List Char → Option Int := parseInteger? 0x7FFFFFFFFFFFFFFF

def decimal? (text : List Char) : Option Decimal := (Decimal.read text).toOption

/-- Limits that cannot be used are reported after everything has been read. -/
def check (settings : Settings) : Except SettingError Settings :=
  if settings.lockTimeoutMs = 0 then .error ⟨"LOCK_TIMEOUT_MS"⟩
  else if settings.defaultOverdraftLimit.lt Decimal.zero then .error ⟨"DEFAULT_OVERDRAFT_LIMIT"⟩
  else if settings.sweepIntervalMs = 0 then .error ⟨"OUTBOX_SWEEP_INTERVAL_SECS"⟩
  else if settings.batchSize ≤ 0 then .error ⟨"OUTBOX_BATCH_SIZE"⟩
  else if settings.maxAttempts = 0 then .error ⟨"ORCHESTRATOR_MAX_ATTEMPTS"⟩
  else .ok settings

def ofEnvironment (env : Environment) : Except SettingError Settings := do
  let databaseMaxConnections ← parsedOr env "DATABASE_MAX_CONNECTIONS" word32? 10
  let port ← parsedOr env "PORT" word16? 3000
  let lockTimeoutMs ← parsedOr env "LOCK_TIMEOUT_MS" word64? 5000
  let defaultOverdraftLimit ← parsedOr env "DEFAULT_OVERDRAFT_LIMIT" decimal? Decimal.zero
  let sweepIntervalSecs ← parsedOr env "OUTBOX_SWEEP_INTERVAL_SECS" word64? 30
  let sendTimeoutMs ← parsedOr env "OUTBOX_SEND_TIMEOUT_MS" word64? 5000
  let batchSize ← parsedOr env "OUTBOX_BATCH_SIZE" int64? 100
  let staleSecs ← parsedOr env "OUTBOX_STALE_PENDING_SECS" word64? 60
  let transactionServicePort ← parsedOr env "TRANSACTION_SERVICE_PORT" word16? 3001
  let maxAttempts ← parsedOr env "ORCHESTRATOR_MAX_ATTEMPTS" word32? 3
  let retryDelayMs ← parsedOr env "ORCHESTRATOR_RETRY_DELAY_MS" word64? 1000
  check {
    databaseUrl := nonBlank env "DATABASE_URL"
    databaseMaxConnections
    host := (env.lookup "HOST").getD "127.0.0.1"
    port
    environment := (env.lookup "ENVIRONMENT").getD "development"
    lockTimeoutMs
    defaultOverdraftLimit
    sweepIntervalMs := sweepIntervalSecs * 1000
    sendTimeoutMs
    batchSize
    staleMs := staleSecs * 1000
    brokerUrl := nonBlank env "BROKER_URL"
    ledgerServiceUrl := (env.lookup "LEDGER_SERVICE_URL").getD "http://127.0.0.1:3000"
    transactionServicePort
    maxAttempts
    retryDelayMs }

def isProduction (settings : Settings) : Bool := settings.environment == "production"

def sweepPolicy (settings : Settings) : SweepPolicy :=
  { SweepPolicy.default with
    intervalMs := settings.sweepIntervalMs
    batchSize := settings.batchSize
    staleMs := settings.staleMs }

def retryPolicy (settings : Settings) : RetryPolicy :=
  ⟨settings.maxAttempts, settings.retryDelayMs⟩

end Settings

end AccountLedger
