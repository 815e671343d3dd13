/-!
Tables of rows by key, in the order in which the keys were first stored.
-/

namespace AccountLedger

structure Table (κ α : Type) where
  entries : List (κ × α)
  deriving DecidableEq, Repr

namespace Table

variable {κ α : Type} [DecidableEq κ]

def empty : Table κ α := ⟨[]⟩

def findIn (key : κ) : List (κ × α) → Option α
  | [] => none
  | (other, row) :: rest => if other = key then some row else findIn key rest

def find? (table : Table κ α) (key : κ) : Option α := findIn key table.entries

def putIn (key : κ) (row : α) : List (κ × α) → List (κ × α)
  | [] => [(key, row)]
  | (other, old) :: rest =>
    if other = key then (key, row) :: rest else (other, old) :: putIn key row rest

/-- Store a row, in place of the one under the same key if there is one. -/
def put (table : Table κ α) (key : κ) (row : α) : Table κ α := ⟨putIn key row table.entries⟩

def rows (table : Table κ α) : List α := table.entries.map (·.2)

theorem findIn_putIn (key other : κ) (row : α) (entries : List (κ × α)) :
    findIn other (putIn key row entries) =
      if key = other then some row else findIn other entries := by
  induction entries with
  | nil => simp [putIn, findIn]
  | cons head rest ih =>
    obtain ⟨headKey, old⟩ := head
    by_cases same : headKey = key
    · subst same
      by_cases wanted : headKey = other <;> simp [putIn, findIn, wanted]
    · by_cases wanted : headKey = other
      · subst wanted
        simp [putIn, findIn, same, Ne.symm same]
      · simp [putIn, findIn, same, wanted, ih]

@[simp]
theorem find?_put (table : Table κ α) (key other : κ) (row : α) :
    (table.put key row).find? other = if key = other then some row else table.find? other :=
  findIn_putIn key other row table.entries

@[simp]
theorem find?_empty (key : κ) : (empty : Table κ α).find? key = none := rfl

end Table

end AccountLedger
