import AccountLedger.Json.Number
import AccountLedger.Json.Reader
import AccountLedger.Timestamp.Reader
import AccountLedger.Uuid

/-!
Typed values from JSON. A decoder goes through a value in the order of the text and reports the
first fault on its way: text that is not JSON, a value of the wrong kind, or one that a type of
the library refuses with a reason of its own.
-/

namespace AccountLedger

/-- Why a JSON text gives no value of the wanted type. -/
inductive DecodeError where
  | malformed
  | unfit
  | refused (reason : String)
  deriving DecidableEq, Repr

abbrev Decoder (α : Type) := Json → Except DecodeError α

namespace Json

mutual

/-- Whether the text of this value is JSON. -/
def isWhole : Json → Bool
  | .broken => false
  | .array items => areWhole items
  | .object members => membersAreWhole members
  | _ => true

def areWhole : List Json → Bool
  | [] => true
  | item :: rest => isWhole item && areWhole rest

def membersAreWhole : List (Option String × Json) → Bool
  | [] => true
  | (_, value) :: rest => isWhole value && membersAreWhole rest

end

mutual

/-- Whether the whole value can be held as data: proper strings, numbers in range, and at most
`depth` levels of arrays and objects. -/
def isHoldable (depth : Nat) : Json → Bool
  | .broken => false
  | .unpaired => false
  | .number numeral => numeral.value?.isSome
  | .array items => 0 < depth && areHoldable (depth - 1) items
  | .object members => 0 < depth && membersAreHoldable (depth - 1) members
  | _ => true

def areHoldable (depth : Nat) : List Json → Bool
  | [] => true
  | item :: rest => isHoldable depth item && areHoldable depth rest

def membersAreHoldable (depth : Nat) : List (Option String × Json) → Bool
  | [] => true
  | (name, value) :: rest =>
    name.isSome && isHoldable depth value && membersAreHoldable depth rest

end

def maxDepth : Nat := 127

end Json

namespace Decoder

/-- The fault of a value that has the wrong kind. -/
def mismatch : Json → DecodeError
  | .broken => .malformed
  | .unpaired => .malformed
  | .number numeral => if numeral.value?.isSome then .unfit else .malformed
  | _ => .unfit

def string : Decoder String
  | .string text => .ok text
  | other => .error (mismatch other)

/-- A string that some reader understands. -/
def parsed (read? : List Char → Option α) : Decoder α
  | .string text => match read? text.toList with
    | some value => .ok value
    | none => .error .unfit
  | other => .error (mismatch other)

def uuid : Decoder Uuid := parsed Uuid.read?

def timestamp : Decoder Timestamp := parsed Timestamp.read?

/-- A decimal, as text or as a number. -/
def decimal : Decoder Decimal
  | .string text => match Decimal.read text.toList with
    | .ok value => .ok value
    | .error _ => .error .unfit
  | .number numeral => match numeral.value? with
    | none => .error .malformed
    | some number => match number.toDecimal? with
      | some value => .ok value
      | none => .error .unfit
  | other => .error (mismatch other)

/-- A whole number between `-limit` and `limit - 1`. -/
def integer (limit : Nat) : Decoder Int
  | .number numeral => match numeral.value? with
    | none => .error .malformed
    | some number => match number.toInt? with
      | some value => if -(limit : Int) ≤ value ∧ value < limit then .ok value else .error .unfit
      | none => .error .unfit
  | other => .error (mismatch other)

def int32 : Decoder Int := integer 0x80000000

def int64 : Decoder Int := integer 0x8000000000000000

def option (decode : Decoder α) : Decoder (Option α)
  | .null => .ok none
  | json => (decode json).map some

/-- One of a list of names: a string, or an object whose one member has this name and no value. -/
def choice (names : List (String × α)) : Decoder α
  | .string text => match names.lookup text with
    | some value => .ok value
    | none => .error .unfit
  | .object ((some name, content) :: rest) => match names.lookup name with
    | none => .error .unfit
    | some value => match content with
      | .null => if rest.isEmpty then .ok value else .error .malformed
      | other => .error (mismatch other)
  | _ => .error .malformed

end Decoder

/-- What a missing member means. -/
inductive Presence where
  | required
  | nullable
  | defaulted
  deriving DecidableEq, Repr

/-- A member that a record reads. -/
structure RecordField where
  name : String
  presence : Presence
  check : Json → Except DecodeError Unit

/-- Reads a record from an object, in any order of its members, or from the array of its fields. -/
structure RecordDecoder (α : Type) where
  fields : List RecordField
  build : List (String × Json) → Except DecodeError α

namespace RecordDecoder

instance : Applicative RecordDecoder where
  pure value := ⟨[], fun _ => .ok value⟩
  seq f x :=
    ⟨f.fields ++ (x ()).fields, fun found => do
      let g ← f.build found
      let a ← (x ()).build found
      return g a⟩

def checkWith (decode : Decoder α) (json : Json) : Except DecodeError Unit :=
  (decode json).map fun _ => ()

def required (name : String) (decode : Decoder α) : RecordDecoder α :=
  ⟨[⟨name, .required, checkWith decode⟩], fun found =>
    match found.lookup name with
    | some json => decode json
    | none => .error .unfit⟩

def optionalWith (presence : Presence) (name : String) (decode : Decoder α) :
    RecordDecoder (Option α) :=
  ⟨[⟨name, presence, checkWith (Decoder.option decode)⟩], fun found =>
    match found.lookup name with
    | some json => Decoder.option decode json
    | none => .ok none⟩

/-- A member that may be null or absent, but not left out of an array. -/
def nullable (name : String) (decode : Decoder α) : RecordDecoder (Option α) :=
  optionalWith .nullable name decode

/-- A member that may be null, absent, or left out at the end of an array. -/
def defaulted (name : String) (decode : Decoder α) : RecordDecoder (Option α) :=
  optionalWith .defaulted name decode

/-- Go through the members of an object; unknown ones are skipped. -/
def collect (fields : List RecordField) (found : List (String × Json)) :
    List (Option String × Json) → Except DecodeError (List (String × Json))
  | [] => .ok found
  | (none, _) :: _ => .error .malformed
  | (some name, json) :: rest =>
    match fields.find? (fun field => field.name == name) with
    | none => if json.isWhole then collect fields found rest else .error .malformed
    | some field =>
      if (found.lookup name).isSome then .error .unfit
      else do
        field.check json
        collect fields ((name, json) :: found) rest

/-- Go through the items of an array, one for each field. -/
def collectItems :
    List RecordField → List Json → Except DecodeError (List (String × Json))
  | [], [] => .ok []
  | [], _ :: _ => .error .malformed
  | field :: fields, [] =>
    if field.presence = .defaulted then collectItems fields [] else .error .unfit
  | field :: fields, json :: rest => do
    field.check json
    return (field.name, json) :: (← collectItems fields rest)

def decode (record : RecordDecoder α) : Decoder α
  | .object members => do record.build (← collect record.fields [] members)
  | .array items => do record.build (← collectItems record.fields items)
  | other => .error (Decoder.mismatch other)

end RecordDecoder

namespace Decoder

/-- Decode a text that holds one value and nothing after it. -/
def run (decode : Decoder α) (text : List Char) : Except DecodeError α :=
  match Json.readDocument text with
  | (json, complete) => do
    let value ← decode json
    if complete then .ok value else .error .malformed

/-- Decode the first value of a text. -/
def runOnFirst (decode : Decoder α) (text : List Char) : Except DecodeError α :=
  decode (Json.readDocument text).1

end Decoder

end AccountLedger
