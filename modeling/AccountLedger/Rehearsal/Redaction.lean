import AccountLedger.Json.Access

/-!
Transcripts that can be compared: ids, reference numbers and times that a run has made up itself
differ from run to run, and are replaced by placeholders. Equal values get equal placeholders,
numbered in the order in which they are met.
-/

namespace AccountLedger.Rehearsal

/-- What is known beforehand and stays: the script, and all its hexadecimal digits in a row. Times
are replaced only on demand. -/
structure Redaction where
  script : String
  hex : String
  times : Bool

/-- The values met so far. -/
structure Placeholders where
  ids : List (List Char)
  references : List (List Char)
  deriving DecidableEq, Repr

namespace Redaction

def ofScript (script : String) (times : Bool) : Redaction :=
  { script, hex := String.ofList ((script.toList.map Char.toLower).filter (· != '-')), times }

/-- The number of a value, and the values with it. -/
def number (values : List (List Char)) (value : List Char) : Nat × List (List Char) :=
  match values.findIdx? (· == value) with
  | some index => (index + 1, values)
  | none => (values.length + 1, values ++ [value])

def mentions (whole : String) (part : List Char) : Bool :=
  (whole.splitOn (String.ofList part)).length > 1

/-- Whether a text starts with characters of these kinds. -/
def fits : List (Char → Bool) → List Char → Bool
  | [], _ => true
  | _ :: _, [] => false
  | test :: tests, c :: rest => test c && fits tests rest

def digits (count : Nat) : List (Char → Bool) := List.replicate count Char.isDigit

def mark (expected : Char) : List (Char → Bool) := [(· == expected)]

def hexDigits (count : Nat) : List (Char → Bool) :=
  List.replicate count fun c => c.isDigit || ('a' ≤ c && c ≤ 'f')

def idShape : List (Char → Bool) :=
  hexDigits 8 ++ mark '-' ++ hexDigits 4 ++ mark '-' ++ hexDigits 4 ++ mark '-' ++ hexDigits 4 ++
    mark '-' ++ hexDigits 12

def referenceShape : List (Char → Bool) :=
  mark 'T' ++ mark 'X' ++ mark 'N' ++ mark '-' ++ digits 8 ++ mark '-' ++
    List.replicate 8 fun c => c.isDigit || ('A' ≤ c && c ≤ 'Z')

def timeShape : List (Char → Bool) :=
  digits 4 ++ mark '-' ++ digits 2 ++ mark '-' ++ digits 2 ++ mark 'T' ++ digits 2 ++ mark ':' ++
    digits 2 ++ mark ':' ++ digits 2

/-- The length of a time with the year 2020 or a later one at the start of a text. -/
def recentTime? (text : List Char) : Option Nat :=
  if fits timeShape text ∧ 2020 ≤ (String.ofList (text.take 4)).toNat?.getD 0 then
    match text.drop 19 with
    | 'Z' :: _ => some 20
    | '.' :: rest =>
      let fraction := rest.takeWhile Char.isDigit
      match fraction, rest.drop fraction.length with
      | _ :: _, 'Z' :: _ => some (21 + fraction.length)
      | _, _ => none
    | _ => none
  else none

/-- What replaces the start of a text, and how many characters it replaces. -/
def startOf? (redaction : Redaction) (met : Placeholders) (text : List Char) :
    Option (List Char × Nat × Placeholders) :=
  if fits idShape text then
    let id := text.take 36
    let idDigits := id.filter (· != '-')
    if idDigits.all (· == '0') || mentions redaction.hex idDigits then some (id, 36, met)
    else
      let (index, ids) := number met.ids id
      some (s!"<uuid{index}>".toList, 36, { met with ids })
  else if fits referenceShape text then
    let reference := text.take 21
    if mentions redaction.script reference then some (reference, 21, met)
    else
      let (index, references) := number met.references reference
      some (s!"<ref{index}>".toList, 21, { met with references })
  else if redaction.times then
    (recentTime? text).map fun length => ("<now>".toList, length, met)
  else none

/-- Redact a text from left to right, with some characters of it still to be passed over. -/
def ofText (redaction : Redaction) : Nat → Placeholders → List Char → List Char × Placeholders
  | _, met, [] => ([], met)
  | skipped + 1, met, _ :: rest => redaction.ofText skipped met rest
  | 0, met, c :: rest =>
    match redaction.startOf? met (c :: rest) with
    | some (replacement, length, met) =>
      let (rest, met) := redaction.ofText (length - 1) met rest
      (replacement ++ rest, met)
    | none =>
      let (rest, met) := redaction.ofText 0 met rest
      (c :: rest, met)

mutual

def ofJson (redaction : Redaction) (met : Placeholders) : Json → Json × Placeholders
  | .string text =>
    let (redacted, met) := redaction.ofText 0 met text.toList
    (.string (String.ofList redacted), met)
  | .array items =>
    let (items, met) := redaction.ofItems met items
    (.array items, met)
  | .object members =>
    let (members, met) := redaction.ofMembers met members
    (.object members, met)
  | other => (other, met)

def ofItems (redaction : Redaction) (met : Placeholders) : List Json → List Json × Placeholders
  | [] => ([], met)
  | item :: rest =>
    let (item, met) := redaction.ofJson met item
    let (rest, met) := redaction.ofItems met rest
    (item :: rest, met)

def ofMembers (redaction : Redaction) (met : Placeholders) :
    List (Option String × Json) → List (Option String × Json) × Placeholders
  | [] => ([], met)
  | (name, value) :: rest =>
    let (value, met) := redaction.ofJson met value
    let (rest, met) := redaction.ofMembers met rest
    ((name, value) :: rest, met)

end

/-- A transcript with its members in order and its fresh values replaced. -/
def transcript (redaction : Redaction) (json : Json) : Json :=
  (redaction.ofJson ⟨[], []⟩ json.sorted).1

end Redaction

end AccountLedger.Rehearsal
