import AccountLedger.Storage
import AccountLedger.Downstream

/-!
Scripted peers: a broker in a chosen mode, and faults that the next calls of a repository or of the
ledger run into.
-/

namespace AccountLedger.Rehearsal

/-- How the broker treats what it is sent. -/
inductive BrokerMode where
  | unset
  | up
  | down
  | rejecting
  | hanging
  | slow
  deriving DecidableEq, Repr

def BrokerMode.names : List (String × BrokerMode) :=
  [("", .unset), ("up", .up), ("down", .down), ("reject", .rejecting), ("hang", .hanging),
    ("slow", .slow)]

def BrokerMode.name (mode : BrokerMode) : String :=
  ((names.find? fun named => named.2 == mode).map (·.1)).getD ""

/-- A broker; messages of refused aggregates find it down. -/
structure ScriptedBroker where
  mode : BrokerMode
  slowMs : Nat
  refused : List Uuid
  deriving DecidableEq, Repr

/-- What a broker makes of a message, and after how long; nothing if it never answers. -/
structure BrokerReply where
  delayMs : Option Nat
  result : Except BrokerError Unit

namespace ScriptedBroker

def start : ScriptedBroker := ⟨.unset, 0, []⟩

def reply (broker : ScriptedBroker) (entry : OutboxEntry) : BrokerReply :=
  if broker.refused.contains entry.aggregate then ⟨some 0, .error (.unreachable "refused")⟩
  else match broker.mode with
    | .unset => ⟨some 0, .ok ()⟩
    | .up => ⟨some 0, .ok ()⟩
    | .down => ⟨some 0, .error (.unreachable "down")⟩
    | .rejecting => ⟨some 0, .error (.rejected 400 "rejected")⟩
    | .hanging => ⟨none, .ok ()⟩
    | .slow => ⟨some broker.slowMs, .ok ()⟩

end ScriptedBroker

/-- Faults of the outbox table. -/
inductive OutboxFault where
  | notFound
  | database
  | corrupt
  deriving DecidableEq, Repr

def OutboxFault.names : List (String × OutboxFault) :=
  [("not_found", .notFound), ("database", .database), ("corrupt", .corrupt)]

def OutboxFault.error (id : Uuid) : OutboxFault → OutboxError
  | .notFound => .notFound id
  | .database => .database .poolClosed
  | .corrupt => .corruptRow "bad row"

/-- Faults of inserting a transaction record; in a race, a record with the same key comes first. -/
inductive InsertFault where
  | duplicateReference
  | database
  | corrupt
  | ghostKey
  | race
  deriving DecidableEq, Repr

def InsertFault.names : List (String × InsertFault) :=
  [("duplicate_reference", .duplicateReference), ("database", .database), ("corrupt", .corrupt),
    ("ghost_key", .ghostKey), ("race", .race)]

inductive UpdateFault where
  | notFound
  | database
  deriving DecidableEq, Repr

def UpdateFault.names : List (String × UpdateFault) :=
  [("not_found", .notFound), ("database", .database)]

/-- What the next calls run into, in turn; nothing stands for an undisturbed call. -/
structure Script where
  entryReads : List (Option OutboxFault)
  statusLists : List (Option OutboxFault)
  staleLists : List (Option OutboxFault)
  attempts : List (Option OutboxFault)
  inserts : List (Option InsertFault)
  updates : List (Option UpdateFault)
  ledger : List DownstreamError
  deriving DecidableEq

def Script.empty : Script := ⟨[], [], [], [], [], [], []⟩

/-- The calls that can be scripted. -/
inductive Cue where
  | entryRead
  | statusList
  | staleList
  | attempt
  | insert
  | update
  | ledger
  deriving DecidableEq, Repr

def Cue.Fault : Cue → Type
  | .entryRead => OutboxFault
  | .statusList => OutboxFault
  | .staleList => OutboxFault
  | .attempt => OutboxFault
  | .insert => InsertFault
  | .update => UpdateFault
  | .ledger => DownstreamError

/-- The first of a list that may have run out. -/
def nextOf : List (Option α) → Option α × List (Option α)
  | [] => (none, [])
  | first :: rest => (first, rest)

/-- The fault that the next call runs into, if any. -/
def Script.next : (cue : Cue) → Script → Option cue.Fault × Script
  | .entryRead, script =>
    let (fault, entryReads) := nextOf script.entryReads
    (fault, { script with entryReads })
  | .statusList, script =>
    let (fault, statusLists) := nextOf script.statusLists
    (fault, { script with statusLists })
  | .staleList, script =>
    let (fault, staleLists) := nextOf script.staleLists
    (fault, { script with staleLists })
  | .attempt, script =>
    let (fault, attempts) := nextOf script.attempts
    (fault, { script with attempts })
  | .insert, script =>
    let (fault, inserts) := nextOf script.inserts
    (fault, { script with inserts })
  | .update, script =>
    let (fault, updates) := nextOf script.updates
    (fault, { script with updates })
  | .ledger, script => (script.ledger.head?, { script with ledger := script.ledger.tail })

end AccountLedger.Rehearsal
