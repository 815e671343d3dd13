import AccountLedger.Rehearsal.Locks
import AccountLedger.Rehearsal.Named
import AccountLedger.Report

/-!
Row locks taken and given back under names, by tasks that the caller waits for or not.
-/

namespace AccountLedger.Rehearsal

/-- The locks that are kept under each name, and the background task under each name. -/
structure LockSession where
  line : LockTimeline
  guards : Named (List RowGuard)
  jobs : Named Nat

namespace LockSession

def start : LockSession := ⟨Timeline.start LockTable.empty, [], []⟩

/-- The locks under a name; an unknown name has none. -/
def kept (session : LockSession) (name : String) : List RowGuard :=
  (session.guards.find? name).getD []

def forgetJob (session : LockSession) (name : String) : LockSession :=
  { session with jobs := session.jobs.forget name }

/-- Keep what a task came to. -/
def keep (session : LockSession) (name : String) (result : LockResult) : LockSession :=
  match result with
  | .ok guards => { session with guards := session.guards.keep name (session.kept name ++ guards) }
  | .error _ => session

/-- All locks of some accounts, one after another. -/
def acquisition (session : LockSession) (ids : List Uuid) (timeoutMs : Nat) :
    Program lockInterface LockResult :=
  RowGuard.acquireAll session.line.nextTask timeoutMs [] ids

def perform (session : LockSession) (program : Program lockInterface LockResult) :
    Option LockResult × LockSession :=
  let (result, line) := session.line.perform LockTimeline.surroundings program
  (result, { session with line })

def keepResult (session : LockSession) (name : String) (result : Option LockResult) :
    Option LockResult × LockSession :=
  (result, (result.map (session.keep name)).getD session)

/-- Take locks and wait for them. -/
def acquire (session : LockSession) (name : String) (ids : List Uuid) (timeoutMs : Nat) :
    Option LockResult × LockSession :=
  let (result, session) := session.perform (session.acquisition ids timeoutMs)
  session.keepResult name result

/-- Take locks in the background. -/
def spawn (session : LockSession) (name : String) (ids : List Uuid) (timeoutMs : Nat) :
    LockSession :=
  let (task, line) := session.line.spawn (session.acquisition ids timeoutMs)
  { session with line, jobs := session.jobs.keep name task }

/-- Give back the locks under a name; how many there were. -/
def release (session : LockSession) (name : String) : Nat × LockSession :=
  let guards := session.kept name
  let (_, session) := session.perform ((RowGuard.releaseAll guards).bind fun _ => .done (.ok []))
  (guards.length, { session with guards := session.guards.forget name })

/-- Whether a background task is done. -/
def isFinished (session : LockSession) (name : String) : Bool :=
  ((session.jobs.find? name).bind session.line.result?).isSome

/-- Wait for a background task and keep its locks; nothing if there is no such task. -/
def join (session : LockSession) (name : String) : Option (Option LockResult × LockSession) :=
  (session.jobs.find? name).map fun task =>
    let line := session.line.finish LockTimeline.surroundings task
    ({ session with line }.forgetJob name).keepResult name (line.result? task)

/-- Cut a background task off; whether it was still going on. -/
def abort (session : LockSession) (name : String) : Option (Bool × LockSession) :=
  (session.jobs.find? name).map fun task =>
    ((session.line.result? task).isNone,
      { session with line := LockTimeline.abort session.line task task }.forgetJob name)

def advance (session : LockSession) (ms : Nat) : LockSession :=
  { session with
    line := session.line.runUntil LockTimeline.surroundings (session.line.clockMs + ms) }

/-- Let everybody go on who can. -/
def settle (session : LockSession) : LockSession :=
  { session with line := session.line.settle LockTimeline.surroundings }

end LockSession

end AccountLedger.Rehearsal
