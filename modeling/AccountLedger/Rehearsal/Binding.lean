import AccountLedger.Json.Access
import AccountLedger.Rehearsal.Named

/-!
Names for values that only a run can tell, such as the id of an account that it has opened: a step
takes them out of its answer, and later steps mention them.
-/

namespace AccountLedger.Rehearsal

/-- The latest value of each name. -/
structure Bindings where
  values : Named String
  deriving DecidableEq, Repr

namespace Bindings

def none : Bindings := ⟨[]⟩

/-- How a text mentions a name: a dollar sign, and the name in braces. -/
def mention (name : String) : String := "$\x7b" ++ name ++ "\x7d"

def fill (bindings : Bindings) (text : String) : String :=
  bindings.values.foldl (fun text (name, value) => text.replace (mention name) value) text

/-- A step with the values in the place of the names. -/
def apply (bindings : Bindings) (step : Json) : Json := step.mapStrings bindings.fill

def bind (bindings : Bindings) (name value : String) : Bindings :=
  ⟨bindings.values.keep name value⟩

/-- Take the wanted parts of an answer; one that is absent or no string is empty. -/
def take (bindings : Bindings) (wanted : List (String × Json)) (answer : Json) : Bindings :=
  wanted.foldl
    (fun bindings (name, path) =>
      let found := path.asString?.bind answer.pointed?
      bindings.bind name ((found.bind Json.asString?).getD ""))
    bindings

end Bindings

end AccountLedger.Rehearsal
