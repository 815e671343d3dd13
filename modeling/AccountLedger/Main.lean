import AccountLedger.Daemon
import AccountLedger.Http.TransactionSite
import AccountLedger.Rehearsal.Request
import AccountLedger.Rehearsal.Session

/-!
The services on the command line. The argument names the service, `ledger` or `transactions`;
settings come from the environment. Requests are read from the standard input, each a JSON object on
a line of its own, and answered on the standard output; the end of the input ends the service.
-/

namespace AccountLedger

open Rehearsal

namespace Daemon

def ofArguments : List String → Daemon
  | "transactions" :: _ => .transactions
  | _ => .ledger

/-- Both services run on one store in memory, and talk to each other over their sites. -/
def openSession (settings : Settings) : Session :=
  Session.ofSettings settings settings.ledgerServiceUrl

/-- Answer a request, and let what it has started go on. -/
def answer (daemon : Daemon) (session : Session) (request : HttpRequest) : String × Session :=
  let program := match daemon with
    | .ledger => Session.onService ((ledgerSite session.policy).answer request)
    | .transactions => session.onOrchestrator ((transactionSite session.retry).answer request)
  let shown (reply : Except Overflow HttpResponse) : Json := match reply with
    | .ok reply => report reply
    | .error overflow => report overflow
  let (reply, session) := session.perform (shown <$> program)
  ((reply.getD .null).text, session.settle)

end Daemon

/-- The variables that are set. -/
def readEnvironment : IO Environment := do
  let values ← Settings.keys.mapM fun key => return (key, ← IO.getEnv key)
  return values.filterMap fun (key, value) => value.map fun value => (key, value)

partial def serve (daemon : Daemon) (session : Session) (input output : IO.FS.Stream) :
    IO Unit := do
  let line ← input.getLine
  if line.isEmpty then return ()
  let (reply, session) :=
    daemon.answer session (HttpRequest.ofJson (Json.readDocument line.toList).1)
  output.putStrLn reply
  output.flush
  serve daemon session input output

/-- Log what an action tells; its complaint, if it fails, goes to the standard error. -/
def log (env : Environment) (settings : Settings) (action : Logged Unit) : IO UInt32 := do
  let seen := RunReport.ofLogged env settings action
  for line in seen.log do IO.println line
  if let some complaint := seen.complaint then IO.eprintln s!"Error: {complaint}"
  return seen.exitCode.toUInt32

def runDaemon (daemon : Daemon) : IO UInt32 := do
  let env ← readEnvironment
  match Settings.ofEnvironment env with
  | .error error => do
    IO.eprintln s!"Error: {error.message}"
    return 1
  | .ok settings => do
    let code ← log env settings (daemon.start settings)
    if code ≠ 0 then return code
    serve daemon (Daemon.openSession settings) (← IO.getStdin) (← IO.getStdout)
    log env settings (daemon.stop .terminate)

end AccountLedger

def main (arguments : List String) : IO UInt32 :=
  AccountLedger.runDaemon (AccountLedger.Daemon.ofArguments arguments)
