import AccountLedger.Database.Schema
import AccountLedger.Report

/-!
A database server without data: the statements that it is sent find scripted replies, one after
another, and are kept in order.
-/

namespace AccountLedger

/-- What kind of value a column holds. -/
inductive ColumnKind where
  | id
  | numeric
  | integer
  | time
  | truth
  | text
  deriving DecidableEq, Repr

namespace ColumnKind

def ofName (name : String) : ColumnKind :=
  if name = "id" ∨ name.endsWith "_id" then .id
  else if name.endsWith "_at" then .time
  else if ["balance", "overdraft_limit", "amount"].contains name then .numeric
  else if ["revision", "attempts"].contains name then .integer
  else if name = "exists" then .truth
  else .text

/-- A value of this kind; nothing if it is written as another one. -/
def read? (kind : ColumnKind) (json : Json) : Option SqlValue :=
  match kind with
  | .id => json.asString?.bind fun text => (Uuid.read? text.toList).map .uuid
  | .numeric =>
    (Decimal.read (json.asString?.getD json.text).toList).toOption.map SqlValue.ofDecimal
  | .integer => json.asInt?.map .integer
  | .time => json.asString?.bind fun text => (Timestamp.read? text.toList).map SqlValue.ofTime
  | .truth => json.asBool?.map .bool
  | .text => json.asString?.map .text

end ColumnKind

namespace Row

/-- A row from the values of its columns. -/
def ofJson (json : Json) : Row :=
  json.members.map fun (name, value) =>
    (name, ((ColumnKind.ofName name).read? value).getD .null)

end Row

namespace Rehearsal

/-- The rows that the server replies with, and how many it says that it has changed. -/
structure ScriptedRows where
  rows : List Row
  affected : Option Nat
  deriving DecidableEq

abbrev ServerReply : Type := Except ServerError ScriptedRows

/-- What the server has been sent. -/
inductive SentStatement where
  | begin
  | commit
  | rollback
  | run (statement : Statement)
  deriving DecidableEq

instance : Report DatabaseError := ⟨fun error => Report.fault "Database" error.message⟩

instance : Report StartupError := ⟨fun error => Report.fault "Startup" error.message⟩

instance : Report SqlValue :=
  ⟨fun value => match value with
    | .null => .null
    | .bool value => .bool value
    | .integer value => Json.ofInt value
    | .numeric value => .string (toString value)
    | .text value => .string value
    | .uuid id => .string (toString id)
    | .time moment => .string (toString moment)⟩

instance : Report SentStatement :=
  ⟨fun sent =>
    let text (text : String) := ("sql", Json.string text)
    match sent with
    | .begin => Json.record [text "BEGIN"]
    | .commit => Json.record [text "COMMIT"]
    | .rollback => Json.record [text "ROLLBACK"]
    | .run statement =>
      Json.record [text statement.text, ("params", report statement.parameters)]⟩

structure ScriptedServer where
  replies : List ServerReply
  beginError : Option ServerError
  commitError : Option ServerError
  sent : List SentStatement

namespace ScriptedServer

/-- A server with replies to the next statements. -/
def replying (replies : List ServerReply) (beginError commitError : Option ServerError) :
    ScriptedServer :=
  ⟨replies, beginError, commitError, []⟩

def idle : ScriptedServer := replying [] none none

def note (server : ScriptedServer) (sent : SentStatement) : ScriptedServer :=
  { server with sent := server.sent ++ [sent] }

/-- What a statement gives when the reply leaves it open: a statement that changes rows changes
one. -/
def usual (statement : Statement) : Nat := if statement.changesRows then 1 else 0

def replyTo (statement : Statement) : ServerReply → Except DatabaseError StatementResult
  | .ok reply => .ok ⟨reply.rows, reply.affected.getD (usual statement)⟩
  | .error error => .error (.server error)

def granted : Option ServerError → Except DatabaseError Unit
  | none => .ok ()
  | some error => .error (.server error)

/-- Statements take replies, with none left they succeed without rows; a scripted fault of a
transaction's start or commit happens once. -/
def answer : (request : DatabaseRequest) → StateM ScriptedServer request.Answer
  | .begin _ => fun server =>
    (granted server.beginError, { server with beginError := none }.note .begin)
  | .commit _ => fun server =>
    (granted server.commitError, { server with commitError := none }.note .commit)
  | .rollback _ => fun server => ((), server.note .rollback)
  | .run _ statement => fun server =>
    let server := server.note (.run statement)
    match server.replies with
    | [] => (replyTo statement (.ok ⟨[], none⟩), server)
    | reply :: rest => (replyTo statement reply, { server with replies := rest })

/-- Ask the server. -/
def ask (server : ScriptedServer) (program : Program database α) : α × ScriptedServer :=
  (program.interpret answer).run server

/-- What has been sent, and how many replies are left. -/
def account (server : ScriptedServer) : List (String × Json) :=
  [("sql", report server.sent), ("left", Json.ofNat server.replies.length)]

/-- Start a service on the server: the account of it, or of why it does not start. -/
def startUp (server : ScriptedServer) : Except Json Json :=
  let (started, server) := server.ask Schema.require.run
  match started with
  | .ok () => .ok (Json.record (("has_pool", .bool true) :: server.account))
  | .error error => .error ((report error).extended server.account)

end ScriptedServer

end Rehearsal

end AccountLedger
