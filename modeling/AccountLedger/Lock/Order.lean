import AccountLedger.Ledger.Error

/-!
The order in which row locks are taken. Every unit of work locks in ascending order of the account
ids, so two of them never wait for each other.
-/

namespace AccountLedger

/-- Account ids in strictly ascending order. -/
structure LockOrder where
  ids : List Uuid
  ascending : ids.Pairwise (fun a b => a.value < b.value)
  deriving DecidableEq

namespace LockOrder

/-- Put an id in its place, unless it is there already. -/
def insertId (id : Uuid) : List Uuid → List Uuid
  | [] => [id]
  | head :: rest =>
    if id.value < head.value then id :: head :: rest
    else if id.value = head.value then head :: rest
    else head :: insertId id rest

theorem mem_insertId_value {id : Uuid} {ids : List Uuid} {other : Uuid}
    (member : other ∈ insertId id ids) : other = id ∨ other ∈ ids := by
  induction ids with
  | nil => simpa [insertId] using member
  | cons head rest ih =>
    unfold insertId at member
    split at member
    · simpa using member
    · split at member
      · exact Or.inr member
      · rcases List.mem_cons.mp member with equal | inRest
        · exact Or.inr (equal ▸ List.mem_cons_self)
        · exact (ih inRest).imp_right (List.mem_cons_of_mem _)

theorem insertId_ascending {id : Uuid} {ids : List Uuid}
    (ascending : ids.Pairwise (fun a b => a.value < b.value)) :
    (insertId id ids).Pairwise (fun a b => a.value < b.value) := by
  induction ids with
  | nil => simp [insertId]
  | cons head rest ih =>
    have below := (List.pairwise_cons.mp ascending).1
    have tail := (List.pairwise_cons.mp ascending).2
    unfold insertId
    split
    · next smaller =>
      refine List.pairwise_cons.mpr ⟨fun other member => ?_, ascending⟩
      rcases List.mem_cons.mp member with equal | inRest
      · exact equal ▸ smaller
      · exact Nat.lt_trans smaller (below other inRest)
    · split
      · exact ascending
      · next notSmaller notEqual =>
        refine List.pairwise_cons.mpr ⟨fun other member => ?_, ih tail⟩
        rcases mem_insertId_value member with equal | inRest
        · subst equal
          omega
        · exact below other inRest

theorem foldl_insertId_ascending (ids : List Uuid) {sorted : List Uuid}
    (ascending : sorted.Pairwise (fun a b => a.value < b.value)) :
    (ids.foldl (fun sorted id => insertId id sorted) sorted).Pairwise
      (fun a b => a.value < b.value) := by
  induction ids generalizing sorted with
  | nil => exact ascending
  | cons id rest ih => exact ih (insertId_ascending ascending)

/-- The given ids, each once. -/
def ofList (ids : List Uuid) : LockOrder :=
  ⟨ids.foldl (fun sorted id => insertId id sorted) [],
    foldl_insertId_ascending ids List.Pairwise.nil⟩

def single (id : Uuid) : LockOrder := ⟨[id], List.pairwise_singleton _ _⟩

/-- The two accounts of a transfer, which have to differ. -/
def pair (source target : Uuid) : Except Refusal LockOrder :=
  if source = target then .error .sameAccountTransfer else .ok (ofList [source, target])

def size (order : LockOrder) : Nat := order.ids.length

def isEmpty (order : LockOrder) : Bool := order.ids.isEmpty

end LockOrder

end AccountLedger
