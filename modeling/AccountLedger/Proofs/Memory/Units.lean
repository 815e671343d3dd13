import AccountLedger.Memory.Store
import AccountLedger.Proofs.Lock.Permit

/-!
Units of work as the store keeps them, and what holding rows and writing them does to one.
-/

namespace AccountLedger

namespace UnitOfWork

theorem hold_ids (work : UnitOfWork) (guards : List RowGuard) :
    (work.hold guards).held.ids = work.held.ids ++ guards.map (·.account) := by
  have folded : ∀ held : HeldLocks,
      (guards.foldl (fun held guard => held.record guard.account) held).ids =
        held.ids ++ guards.map (·.account) := by
    induction guards with
    | nil => intro held; simp
    | cons guard rest ih =>
      intro held
      rw [List.foldl_cons, ih]
      simp [HeldLocks.record]
  exact folded work.held

theorem save_held (work : UnitOfWork) (account : Account) :
    (work.save account).2.held = work.held := by
  unfold save
  split <;> rfl

theorem save_guards (work : UnitOfWork) (account : Account) :
    (work.save account).2.guards = work.guards := by
  unfold save
  split <;> rfl

theorem mem_placeWrite {account : Account} {writes : List StagedWrite} {write : StagedWrite}
    (member : write ∈ placeWrite account writes) : write.account = account ∨ write ∈ writes := by
  induction writes with
  | nil =>
    rw [placeWrite, List.mem_singleton] at member
    exact Or.inl (by rw [member])
  | cons head rest ih =>
    unfold placeWrite at member
    split at member
    · rcases List.mem_cons.mp member with rfl | member
      · exact Or.inl rfl
      · exact Or.inr (List.mem_cons_of_mem _ member)
    · rcases List.mem_cons.mp member with rfl | member
      · exact Or.inr List.mem_cons_self
      · exact (ih member).imp_right (List.mem_cons_of_mem _)

theorem save_locked {work : UnitOfWork} {account : Account}
    (locked : ∀ write ∈ work.writes, write.account.id ∈ work.held.ids) :
    ∀ write ∈ (work.save account).2.writes, write.account.id ∈ work.held.ids := by
  unfold save
  split
  · next held =>
    intro write member
    rcases mem_placeWrite member with same | member
    · rw [same]
      exact HeldLocks.contains_iff.mp held
    · exact locked write member
  · exact locked

end UnitOfWork

namespace MemoryStore

theorem unit_setUnit (store : MemoryStore) (unit other : UnitId) (work : UnitOfWork) :
    (store.setUnit unit work).unit other = if unit = other then work else store.unit other := by
  have same : unit.number = other.number ↔ unit = other := by
    cases unit
    cases other
    simp
  simp only [MemoryStore.unit, setUnit, Table.find?_put, same]
  split <;> rfl

@[simp]
theorem unit_setUnit_self (store : MemoryStore) (unit : UnitId) (work : UnitOfWork) :
    (store.setUnit unit work).unit unit = work := by
  simp [unit_setUnit]

theorem unit_setUnit_of_ne {store : MemoryStore} {unit other : UnitId} {work : UnitOfWork}
    (differs : other ≠ unit) : (store.setUnit unit work).unit other = store.unit other := by
  simp [unit_setUnit, Ne.symm differs]

end MemoryStore

end AccountLedger
