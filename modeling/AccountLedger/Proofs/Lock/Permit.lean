import AccountLedger.Lock.Held
import Mathlib.Data.List.Basic

/-!
What a unit of work that holds some rows is permitted to lock: the rest of an order, if all of it
lies above what is held.
-/

namespace AccountLedger

theorem Uuid.eq_of_value {a b : Uuid} (same : a.value = b.value) : a = b := by
  cases a
  cases b
  cases same
  rfl

namespace HeldLocks

/-- One step in the search for the largest id. -/
def larger : Option Uuid → Uuid → Option Uuid
  | .none, id => some id
  | some other, id => if other.value ≤ id.value then some id else some other

theorem highest?_eq (held : HeldLocks) : held.highest? = held.ids.foldl larger .none := by
  unfold highest?
  congr 1
  funext highest id
  cases highest <;> rfl

theorem foldl_larger (ids : List Uuid) (start : Uuid) :
    ∃ highest, ids.foldl larger (some start) = some highest ∧ start.value ≤ highest.value ∧
      ∀ id ∈ ids, id.value ≤ highest.value := by
  induction ids generalizing start with
  | nil => exact ⟨start, rfl, Nat.le_refl _, by simp⟩
  | cons head rest ih =>
    rw [List.foldl_cons]
    by_cases below : start.value ≤ head.value
    · obtain ⟨highest, found, above, all⟩ := ih head
      refine ⟨highest, by simpa [larger, below] using found, Nat.le_trans below above, ?_⟩
      intro id member
      rcases List.mem_cons.mp member with rfl | member
      · exact above
      · exact all id member
    · obtain ⟨highest, found, above, all⟩ := ih start
      refine ⟨highest, by simpa [larger, below] using found, above, ?_⟩
      intro id member
      rcases List.mem_cons.mp member with rfl | member
      · omega
      · exact all id member

theorem highest?_above {held : HeldLocks} {id : Uuid} (member : id ∈ held.ids) :
    ∃ highest, held.highest? = some highest ∧ ∀ other ∈ held.ids, other.value ≤ highest.value := by
  rw [highest?_eq]
  cases ids : held.ids with
  | nil =>
    rw [ids] at member
    cases member
  | cons head rest =>
    obtain ⟨highest, found, above, all⟩ := foldl_larger rest head
    refine ⟨highest, found, ?_⟩
    intro other inside
    rcases List.mem_cons.mp inside with rfl | inside
    · exact above
    · exact all other inside

theorem contains_iff {held : HeldLocks} {id : Uuid} : held.contains id = true ↔ id ∈ held.ids := by
  simp [contains]

theorem mem_fresh {held : HeldLocks} {order : LockOrder} {id : Uuid} :
    id ∈ held.fresh order ↔ id ∈ order.ids ∧ id ∉ held.ids := by
  simp [fresh, ← contains_iff]

theorem fresh_ascending (held : HeldLocks) (order : LockOrder) :
    (held.fresh order).Pairwise (fun a b => a.value < b.value) :=
  order.ascending.filter _

theorem permit_ids {held : HeldLocks} {order permitted : LockOrder}
    (granted : held.permit order = .ok permitted) : permitted.ids = held.fresh order := by
  unfold permit at granted
  split at granted
  · split at granted
    · cases granted
    · cases granted
      rfl
  · cases granted
    rfl

/-- What is permitted lies above all that is held. -/
theorem permit_above {held : HeldLocks} {order permitted : LockOrder}
    (granted : held.permit order = .ok permitted) :
    ∀ id ∈ held.ids, ∀ other ∈ permitted.ids, id.value < other.value := by
  intro id heldId other member
  have ids := permit_ids granted
  rw [ids] at member
  obtain ⟨highest, found, below⟩ := highest?_above heldId
  cases fresh : held.fresh order with
  | nil =>
    rw [fresh] at member
    cases member
  | cons first rest =>
    have sorted := fresh_ascending held order
    rw [fresh] at sorted member
    have firstFresh : first ∈ held.fresh order := by rw [fresh]; exact List.mem_cons_self
    have notBelow : ¬ first.value < highest.value := by
      intro under
      simp [permit, found, fresh, under] at granted
    have notHeld := (mem_fresh.mp firstFresh).2
    have differs : id.value ≠ first.value := fun same =>
      notHeld (Uuid.eq_of_value same ▸ heldId)
    have bound := below id heldId
    have least : first.value ≤ other.value := by
      rcases List.mem_cons.mp member with rfl | member
      · exact Nat.le_refl _
      · exact Nat.le_of_lt ((List.pairwise_cons.mp sorted).1 other member)
    omega

theorem permit_of_none {order : LockOrder} (held : HeldLocks) (nothing : held.ids = []) :
    ∃ permitted, held.permit order = .ok permitted := by
  have none : held.highest? = .none := by simp [highest?_eq, nothing]
  unfold permit
  rw [none]
  exact ⟨_, rfl⟩

end HeldLocks

end AccountLedger
