import AccountLedger.Digits
import AccountLedger.Log.Line
import AccountLedger.Text.Blank

/-!
Which lines of the log are shown. A filter is a list of directives such as `info` or `jobs=debug`:
each gives the most detail that is shown of the targets that start with its name, and the longest
name that fits a target counts.
-/

namespace AccountLedger

/-- The most detail that is shown of some targets, as `LogLevel.detail` has it; zero shows nothing.
Without a name it is for all targets. -/
structure LogDirective where
  target : Option String
  detail : Nat
  deriving DecidableEq, Repr

namespace LogDirective

def detailNames : List (String × Nat) :=
  [("off", 0), ("error", 1), ("warn", 2), ("info", 3), ("debug", 4), ("trace", 5)]

/-- The detail that a level stands for, by its name in any case or by its number. -/
def detail? (text : List Char) : Option Nat :=
  match parseWhole? 5 text with
  | some detail => some detail
  | none => detailNames.lookup (String.ofList (text.map Char.toLower))

/-- The detail after the sign of equality; nothing there means all. -/
def givenDetail? (text : List Char) : Option Nat :=
  if text.isEmpty then some LogLevel.trace.detail else detail? text

/-- Whether a directive can start with this character. -/
def isFirst (c : Char) : Bool := c.isAlphanum || c == '-' || c == ':' || c == '_' || 0x80 ≤ c.toNat

/-- What a directive shows: a part of the targets, or only lines within spans, of which there are
none. -/
inductive Reading where
  | shows (directive : LogDirective)
  | spans
  deriving DecidableEq, Repr

/-- What follows a span: nothing, or a level. -/
def readAfterSpan? : List Char → Option Reading
  | [] => some .spans
  | '=' :: level => (givenDetail? level).map fun _ => .spans
  | _ => none

/-- Read a directive without blanks around it. -/
def readBare? (text : List Char) : Option Reading :=
  let isName (c : Char) : Bool := c != '=' && c != '['
  let name := text.takeWhile isName
  match text.dropWhile isName with
  | [] =>
    some (.shows (match detail? name with
      | some detail => ⟨none, detail⟩
      | none => ⟨some (String.ofList name), LogLevel.trace.detail⟩))
  | '=' :: level =>
    (givenDetail? level).map fun detail => .shows ⟨some (String.ofList name), detail⟩
  | _ :: span => match span.dropWhile (· != ']') with
    | [] => none
    | _ :: rest => readAfterSpan? rest

/-- Read a directive. One with blanks around it names a target that there is not, unless it has a
level or a span: then it is no directive. -/
def read? (text : List Char) : Option Reading :=
  let bare := Text.trim text
  match bare with
  | [] => none
  | first :: _ =>
    if !(isFirst first || first == '[') then none
    else if bare == text then readBare? text
    else if text.contains '=' || text.contains '[' then none
    else some (.shows ⟨some (String.ofList text), LogLevel.trace.detail⟩)

end LogDirective

structure LogFilter where
  directives : List LogDirective
  deriving DecidableEq, Repr

namespace LogFilter

/-- Read directives with commas between them. Without any, errors are shown. -/
def read? (text : String) : Option LogFilter :=
  match (text.splitOn ",").filter fun part => !part.isEmpty with
  | [] => some ⟨[⟨none, LogLevel.error.detail⟩]⟩
  | parts => do
    let readings ← parts.mapM fun part => LogDirective.read? part.toList
    return ⟨readings.filterMap fun reading => match reading with
      | .shows directive => some directive
      | .spans => none⟩

/-- The length of the name with which a directive fits a target. -/
def fit? (directive : LogDirective) (target : String) : Option Nat :=
  match directive.target with
  | none => some 0
  | some name => if target.startsWith name then some (name.length + 1) else none

/-- The directive that counts for a target: the one with the longest name, the last of its kind. -/
def directive? (filter : LogFilter) (target : String) : Option LogDirective :=
  (filter.directives.foldl
    (fun (best : Option (Nat × LogDirective)) directive =>
      match fit? directive target, best with
      | none, best => best
      | some length, none => some (length, directive)
      | some length, some (longest, other) =>
        if longest ≤ length then some (length, directive) else some (longest, other))
    none).map (·.2)

def shows (filter : LogFilter) (line : LogLine) : Bool :=
  match filter.directive? line.target with
  | some directive => line.level.detail ≤ directive.detail
  | none => false

end LogFilter

end AccountLedger
