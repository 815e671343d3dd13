import AccountLedger.Lock.Order

/-!
The row locks that one unit of work holds. Requests out of order are refused.
-/

namespace AccountLedger

/-- Ids in the order in which they were locked. -/
structure HeldLocks where
  ids : List Uuid
  deriving DecidableEq, Repr

namespace HeldLocks

def none : HeldLocks := ⟨[]⟩

def contains (held : HeldLocks) (id : Uuid) : Bool := held.ids.contains id

def record (held : HeldLocks) (id : Uuid) : HeldLocks := ⟨held.ids ++ [id]⟩

/-- The largest id held. -/
def highest? (held : HeldLocks) : Option Uuid :=
  held.ids.foldl
    (fun highest id => match highest with
      | .none => some id
      | some other => if other.value ≤ id.value then some id else some other)
    .none

/-- The ids of an order that are not held yet. -/
def fresh (held : HeldLocks) (order : LockOrder) : List Uuid :=
  order.ids.filter fun id => !held.contains id

/-- What remains to be locked of an order; refused if any of it sorts below a row already held. -/
def permit (held : HeldLocks) (order : LockOrder) : Except LedgerError LockOrder :=
  match held.highest?, (held.fresh order).head? with
  | some highest, some first =>
    if first.value < highest.value then .error (.lockOrderViolation first highest)
    else .ok ⟨held.fresh order, order.ascending.filter _⟩
  | _, _ => .ok ⟨held.fresh order, order.ascending.filter _⟩

end HeldLocks

end AccountLedger
