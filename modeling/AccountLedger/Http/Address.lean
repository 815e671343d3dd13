import AccountLedger.Digits

/-!
Addresses of hosts in numbers.
-/

namespace AccountLedger

/-- Four bytes, or eight groups of two bytes. -/
inductive HostAddress where
  | v4 (bytes : List Nat)
  | v6 (groups : List Nat)
  deriving DecidableEq, Repr

namespace HostAddress

/-- A byte in decimal digits, without leading zeros. -/
def byte? (text : String) : Option Nat :=
  let digits := text.toList
  if digits.length = 0 ∨ 3 < digits.length ∨ (1 < digits.length ∧ digits.head? = some '0') then none
  else (digitsValue? 10 digits).filter (· ≤ 255)

def bytes? (text : String) : Option (List Nat) :=
  match (text.splitOn ".").mapM byte? with
  | some [a, b, c, d] => some [a, b, c, d]
  | _ => none

/-- One to four hexadecimal digits. -/
def group? (text : String) : Option Nat :=
  let digits := text.toList
  if digits.length = 0 ∨ 4 < digits.length then none else digitsValue? 16 digits

/-- Groups with colons between them; four bytes may stand for the last two groups. -/
def readGroups? : List String → Option (List Nat)
  | [] => some []
  | [last] => match bytes? last with
    | some [a, b, c, d] => some [a * 256 + b, c * 256 + d]
    | _ => (group? last).map fun group => [group]
  | part :: rest => do return (← group? part) :: (← readGroups? rest)

def groups? (text : String) : Option (List Nat) :=
  if text.isEmpty then some [] else readGroups? (text.splitOn ":")

/-- Eight groups; two colons stand for groups that are zero. -/
def allGroups? (text : String) : Option (List Nat) :=
  match text.splitOn "::" with
  | [whole] => (groups? whole).filter (·.length = 8)
  | [front, back] => do
    if front.contains '.' then none
    let front ← groups? front
    let back ← groups? back
    if 7 < front.length + back.length then none
    else some (front ++ List.replicate (8 - front.length - back.length) 0 ++ back)
  | _ => none

/-- Read an address; one of eight groups is in brackets. -/
def read? (text : String) : Option HostAddress :=
  match text.toList with
  | '[' :: rest =>
    if rest.getLast? = some ']' then (allGroups? (String.ofList rest.dropLast)).map .v6 else none
  | _ => (bytes? text).map .v4

/-- The first of the longest runs of zeros: where it starts, and its length. -/
def zeroRun (groups : List Nat) : Nat × Nat :=
  (List.range groups.length).foldl
    (fun (start, length) index =>
      let run := ((groups.drop index).takeWhile (· == 0)).length
      if length < run then (index, run) else (start, length))
    (0, 0)

def hexText (groups : List Nat) : String :=
  ":".intercalate (groups.map fun group => String.ofList (Nat.toDigits 16 group))

def bytesText (bytes : List Nat) : String := ".".intercalate (bytes.map toString)

def groupsText : List Nat → String
  | [0, 0, 0, 0, 0, 0xFFFF, high, low] =>
    "::ffff:" ++ bytesText [high / 256, high % 256, low / 256, low % 256]
  | groups =>
    let (start, length) := zeroRun groups
    if length < 2 then hexText groups
    else hexText (groups.take start) ++ "::" ++ hexText (groups.drop (start + length))

def text : HostAddress → String
  | .v4 bytes => bytesText bytes
  | .v6 groups => s!"[{groupsText groups}]"

/-- Whether every machine has the address: its own, or all that it has. -/
def isOwn : HostAddress → Bool
  | .v4 bytes => bytes.head? == some 127 || bytes.all (· == 0)
  | .v6 groups => groups.dropLast.all (· == 0) && (groups.getLast?.getD 0) ≤ 1

end HostAddress

end AccountLedger
