import AccountLedger.Json.Number

/-!
Looking into JSON values without a fixed shape: members by name, items, and paths.
-/

namespace AccountLedger.Json

def member? (json : Json) (name : String) : Option Json :=
  match json with
  | .object members => (members.find? fun m => m.1 == some name).map (·.2)
  | _ => none

/-- The items of an array; anything else has none. -/
def items : Json → List Json
  | .array items => items
  | _ => []

/-- The members of an object in the order of the text; anything else has none. -/
def members : Json → List (String × Json)
  | .object members => members.filterMap fun (name, value) => name.map fun name => (name, value)
  | _ => []

def asString? : Json → Option String
  | .string text => some text
  | _ => none

def asInt? : Json → Option Int
  | .number numeral => numeral.value?.bind JsonNumber.toInt?
  | _ => none

def asBool? : Json → Option Bool
  | .bool value => some value
  | _ => none

def string? (json : Json) (name : String) : Option String := (json.member? name).bind asString?

def int? (json : Json) (name : String) : Option Int := (json.member? name).bind asInt?

def nat? (json : Json) (name : String) : Option Nat := (json.int? name).map Int.toNat

/-- Whether the member is there and true. -/
def holds (json : Json) (name : String) : Bool :=
  ((json.member? name).bind asBool?).getD false

/-- The items of a member. -/
def list (json : Json) (name : String) : List Json := ((json.member? name).map items).getD []

/-- A member, or an empty object. -/
def part (json : Json) (name : String) : Json := (json.member? name).getD (.object [])

/-- The object with more members at its end. -/
def extended (json : Json) (more : List (String × Json)) : Json :=
  match json with
  | .object members => .object (members ++ more.map fun (name, value) => (some name, value))
  | other => other

/-- Go down by member names and positions. -/
def follow? (json : Json) : List String → Option Json
  | [] => some json
  | step :: rest =>
    match json with
    | .object _ => (json.member? step).bind fun value => value.follow? rest
    | .array items =>
      step.toNat?.bind fun index => items[index]?.bind fun value => value.follow? rest
    | _ => none

/-- The part of a value at a path such as `/ok/0/id`. -/
def pointed? (json : Json) (path : String) : Option Json := json.follow? ((path.splitOn "/").drop 1)

mutual

/-- The value with the members of every object in the order of their names. -/
def sorted : Json → Json
  | .array items => .array (sortedItems items)
  | .object members =>
    .object ((sortedMembers members).mergeSort fun a b => decide (a.1.getD "" ≤ b.1.getD ""))
  | other => other

def sortedItems : List Json → List Json
  | [] => []
  | item :: rest => sorted item :: sortedItems rest

def sortedMembers : List (Option String × Json) → List (Option String × Json)
  | [] => []
  | (name, value) :: rest => (name, sorted value) :: sortedMembers rest

end

mutual

/-- The value with every string in it replaced. -/
def mapStrings (replace : String → String) : Json → Json
  | .string text => .string (replace text)
  | .array items => .array (mapItems replace items)
  | .object members => .object (mapMembers replace members)
  | other => other

def mapItems (replace : String → String) : List Json → List Json
  | [] => []
  | item :: rest => mapStrings replace item :: mapItems replace rest

def mapMembers (replace : String → String) :
    List (Option String × Json) → List (Option String × Json)
  | [] => []
  | (name, value) :: rest => (name, mapStrings replace value) :: mapMembers replace rest

end

end AccountLedger.Json
