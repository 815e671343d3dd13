/-!
Values that are kept under names.
-/

namespace AccountLedger.Rehearsal

/-- The latest value under each name. -/
abbrev Named (α : Type) : Type := List (String × α)

namespace Named

def find? (values : Named α) (name : String) : Option α := values.lookup name

def forget (values : Named α) (name : String) : Named α :=
  values.filter fun value => value.1 != name

def keep (values : Named α) (name : String) (value : α) : Named α :=
  (name, value) :: Named.forget values name

end Named

end AccountLedger.Rehearsal
