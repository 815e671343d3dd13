import AccountLedger.Json

/-!
Lines of the log, in plain form and as JSON.
-/

namespace AccountLedger

inductive LogLevel where
  | error
  | warn
  | info
  | debug
  | trace
  deriving DecidableEq, Repr

namespace LogLevel

def name : LogLevel → String
  | .error => "ERROR"
  | .warn => "WARN"
  | .info => "INFO"
  | .debug => "DEBUG"
  | .trace => "TRACE"

/-- How much detail a level stands for. -/
def detail : LogLevel → Nat
  | .error => 1
  | .warn => 2
  | .info => 3
  | .debug => 4
  | .trace => 5

end LogLevel

/-- A line: how grave it is, the part of the program that it comes from, its text, and what more it
tells. -/
structure LogLine where
  level : LogLevel
  target : String
  message : String
  fields : List (String × Json)

namespace LogLine

def fieldText : Json → String
  | .string text => text
  | value => value.text

/-- The line in plain form. -/
def text (line : LogLine) : String :=
  let fields := line.fields.map fun (name, value) => s!" {name}={fieldText value}"
  s!"{line.level.name} {line.target}: {line.message}{String.join fields}"

def toJson (line : LogLine) : Json :=
  Json.record [("level", .string line.level.name),
    ("fields", Json.record (("message", .string line.message) :: line.fields)),
    ("target", .string line.target)]

end LogLine

end AccountLedger
