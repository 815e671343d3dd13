import AccountLedger.Database.Error
import AccountLedger.Http.Address
import AccountLedger.Log.Filter
import AccountLedger.Settings

/-!
The life of the two services as programs: how they start from their environment, what they log, and
how a signal ends them.
-/

namespace AccountLedger

inductive Daemon where
  | ledger
  | transactions
  deriving DecidableEq, Repr

/-- The signals that end a service. -/
inductive StopSignal where
  | terminate
  | interrupt
  deriving DecidableEq, Repr

namespace StopSignal

def name : StopSignal → String
  | .terminate => "SIGTERM"
  | .interrupt => "Ctrl+C"

end StopSignal

/-- Something that logs and may fail with a complaint. -/
abbrev Logged (α : Type) : Type := ExceptT String (StateM (List LogLine)) α

namespace Logged

def say (level : LogLevel) (target message : String) (fields : List (String × Json)) :
    Logged Unit :=
  modify (· ++ [⟨level, target, message, fields⟩])

end Logged

namespace Daemon

open Logged

/-- The part of the program that wires services together. -/
def wiring : String := "ledger_core::server"

def jobs : String := "ledger_core::jobs"

/-- Where the lines of a program itself come from. -/
def target : Daemon → String
  | .ledger => "ledger_core"
  | .transactions => "transaction_service"

def port : Daemon → Settings → Nat
  | .ledger, settings => settings.port
  | .transactions, settings => settings.transactionServicePort

def announce (daemon : Daemon) (settings : Settings) : Logged Unit :=
  match daemon with
  | .ledger =>
    say .info daemon.target "Starting ledger service"
      [("environment", .string settings.environment)]
  | .transactions =>
    say .info daemon.target "Starting transaction service"
      [("ledger_service_url", .string settings.ledgerServiceUrl),
        ("max_attempts", Json.ofNat settings.maxAttempts)]

def chooseBroker (settings : Settings) : Logged Unit :=
  if settings.brokerUrl.isNone then
    say .warn wiring "BROKER_URL not set, events are only logged" []
  else return ()

/-- What is wrong with a database address at which nothing can be found. -/
def databaseComplaint (url : String) : String :=
  if (url.splitOn ":").length < 2 then "error with configuration: relative URL without a base"
  else DatabaseError.poolTimedOut.message

/-- The store in memory is the only one within reach. -/
def chooseStore (settings : Settings) : Logged Unit :=
  match settings.databaseUrl with
  | none => say .warn wiring "DATABASE_URL not set, using the in-memory store" []
  | some url => do
    say .info wiring "Connecting to database..." []
    throw (databaseComplaint url)

def readHost (settings : Settings) : Logged HostAddress :=
  match HostAddress.read? settings.host with
  | some host => return host
  | none => throw "invalid socket address syntax"

def startSweeps (settings : Settings) : Logged Unit :=
  say .info jobs "Outbox retry scheduler started"
    [("interval_secs", Json.ofNat (settings.sweepIntervalMs / 1000))]

def listen (daemon : Daemon) (settings : Settings) (host : HostAddress) : Logged Unit := do
  if !host.isOwn then throw "Cannot assign requested address (os error 99)"
  say .info daemon.target s!"Listening on http://{host.text}:{daemon.port settings}" []

/-- Everything up to the first request. -/
def start (daemon : Daemon) (settings : Settings) : Logged Unit := do
  let host ← readHost settings
  daemon.announce settings
  if daemon = .ledger then chooseBroker settings
  chooseStore settings
  if daemon = .ledger then startSweeps settings
  daemon.listen settings host

/-- Everything after the last request. -/
def stop (daemon : Daemon) (signal : StopSignal) : Logged Unit := do
  say .info wiring s!"Received {signal.name}, initiating graceful shutdown..." []
  say .info daemon.target "Server shutting down..." []
  if daemon = .ledger then
    say .info jobs "Outbox retry scheduler stopped" []
    say .info daemon.target "Goodbye!" []

end Daemon

/-- What is seen of a run of a program. -/
structure RunReport where
  exitCode : Nat
  log : List String
  complaint : Option String
  deriving DecidableEq, Repr

namespace RunReport

def defaultFilter : LogFilter := ⟨[⟨some "ledger_core", LogLevel.debug.detail⟩,
  ⟨some "tower_http", LogLevel.debug.detail⟩]⟩

/-- The filter that the environment asks for; one that cannot be read counts as unset. -/
def filterOf (env : Environment) : LogFilter :=
  ((env.lookup "RUST_LOG").bind LogFilter.read?).getD defaultFilter

/-- The lines that are shown; in production each is JSON. -/
def shown (env : Environment) (settings : Settings) (lines : List LogLine) : List String :=
  (lines.filter (filterOf env).shows).map fun line =>
    if settings.isProduction then line.toJson.text else line.text

/-- What is seen of something that logs. -/
def ofLogged (env : Environment) (settings : Settings) (action : Logged Unit) : RunReport :=
  let (result, lines) := action.run.run []
  match result with
  | .ok () => ⟨0, shown env settings lines, none⟩
  | .error complaint => ⟨1, shown env settings lines, some complaint⟩

end RunReport

namespace Daemon

/-- Run from the start to a signal. -/
def run (daemon : Daemon) (env : Environment) (signal : StopSignal) : RunReport :=
  match Settings.ofEnvironment env with
  | .error error => ⟨1, [], some error.message⟩
  | .ok settings =>
    RunReport.ofLogged env settings (do daemon.start settings; daemon.stop signal)

end Daemon

end AccountLedger
