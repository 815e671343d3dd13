import AccountLedger.Proofs.Interleaving.Invariant
import AccountLedger.Proofs.Lock.Waiting

/-!
Units of work that lock rows never come to wait for each other in a circle, whatever orders they ask
for and wherever they are broken off.
-/

namespace AccountLedger

namespace Pool

open Relation (TransGen ReflTransGen)

variable {pool : Pool} {unit : UnitId}

theorem Sound.ordered (sound : pool.Sound) : pool.store.locks.Ordered :=
  ⟨fun owner => (sound.valid ⟨owner⟩).one, fun owner => (sound.valid ⟨owner⟩).above⟩

/-- Whoever has a row is still at work. -/
theorem Sound.present (sound : pool.Sound) {account : Uuid}
    (has : pool.store.locks.Has unit.number account) : pool.activity unit ≠ .gone := by
  intro gone
  obtain ⟨ticket, present, own, _, _⟩ := has
  have bare := (follows_gone gone).mp (sound.follows unit)
  by_cases held : ticket.phase = .held
  · have inside : ticket.guard ∈ (pool.standing unit).held := ⟨ticket, present, own, held, rfl⟩
    rw [bare] at inside
    exact inside
  · have inside : ticket.guard ∈ (pool.standing unit).awaited := ⟨ticket, present, own, held, rfl⟩
    rw [bare] at inside
    exact inside

theorem Sound.above (sound : pool.Sound) {waited : RowGuard}
    (waits : waited ∈ pool.store.locks.awaitedBy unit.number) {id : Uuid}
    (has : id ∈ (pool.store.unit unit).held.ids ∨
      ∃ guard ∈ pool.store.locks.heldBy unit.number, guard.account = id) :
    id.value < waited.account.value := by
  have valid := sound.valid unit
  rcases has with member | ⟨guard, held, rfl⟩
  · have listed : id ∈ (pool.store.unit unit).guards.map (·.account) := valid.ids ▸ member
    obtain ⟨guard, inside, rfl⟩ := List.mem_map.mp listed
    exact valid.above waited waits guard (valid.guarded guard inside)
  · exact valid.above waited waits guard held

/-- Each unit of work holds its rows in ascending order and waits only for one above them; nobody
waits for itself through others, and behind everybody who waits there is one that has the row in
question and does not wait. -/
theorem Reachable.deadlock_free (reachable : pool.Reachable) :
    (∀ unit,
      (pool.store.unit unit).held.ids = (pool.store.unit unit).guards.map (·.account) ∧
      (pool.store.unit unit).held.ids.Pairwise (fun a b => a.value < b.value) ∧
      (∀ guard ∈ (pool.store.unit unit).guards,
        guard ∈ pool.store.locks.heldBy unit.number) ∧
      (pool.activity unit = .idle →
        pool.store.locks.heldBy unit.number = {guard | guard ∈ (pool.store.unit unit).guards}) ∧
      ∀ waited ∈ pool.store.locks.awaitedBy unit.number, ∀ id,
        (id ∈ (pool.store.unit unit).held.ids ∨
          ∃ guard ∈ pool.store.locks.heldBy unit.number, guard.account = id) →
        id.value < waited.account.value) ∧
    (∀ unit : UnitId, ¬ TransGen pool.store.locks.WaitsFor unit.number unit.number) ∧
    ∀ (unit : UnitId) (account : Uuid), pool.store.locks.Waits unit.number account →
      ∃ (last : UnitId) (row : Uuid) (holder : UnitId),
        ReflTransGen pool.store.locks.WaitsFor unit.number last.number ∧
        pool.store.locks.Waits last.number row ∧ pool.store.locks.Has holder.number row ∧
        pool.activity holder ≠ .gone ∧ ∀ other, ¬ pool.store.locks.Waits holder.number other := by
  have sound := reachable.sound
  refine ⟨fun unit => ?_, fun unit => LockTable.no_cycle sound.locks sound.ordered unit.number, ?_⟩
  · have valid := sound.valid unit
    have ascending : (pool.store.unit unit).held.ids.Pairwise (fun a b => a.value < b.value) := by
      rw [show (pool.store.unit unit).held.ids = _ from valid.ids]
      exact valid.ascending
    refine ⟨valid.ids, ascending, valid.guarded, fun idle => ?_, fun waited waits id has =>
      sound.above waits has⟩
    exact ((follows_idle idle).mp (sound.follows unit)).held
  · intro unit account waits
    obtain ⟨last, row, holder, chain, waitsLast, has, runs⟩ := waits.runner sound.locks sound.ordered
    exact ⟨⟨last⟩, row, ⟨holder⟩, chain, waitsLast, has, sound.present has, runs⟩

/-- Two units of work want the same row: the second waits for the first, which does not wait. -/
theorem contended_runner : ∃ pool : Pool, pool.Reachable ∧ pool.store.locks.Waits 1 Uuid.nil ∧
    ∃ holder : UnitId, pool.activity holder ≠ .gone ∧
      ∀ other, ¬ pool.store.locks.Waits holder.number other := by
  have idle : start.started.started.Reachable := Reachable.started (Reachable.started .refl)
  have first := idle.asked ⟨0⟩ (.lock ⟨0⟩ (LockOrder.single Uuid.nil) 10) rfl rfl
  have firstEntered := (first.answered ⟨0⟩ rfl).locked ⟨0⟩ rfl (.enter ..)
  have firstHas := firstEntered.waiting ⟨0⟩ rfl (.join rfl rfl)
  have second := firstHas.asked ⟨1⟩ (.lock ⟨1⟩ (LockOrder.single Uuid.nil) 10) rfl rfl
  have secondEntered := (second.answered ⟨1⟩ rfl).locked ⟨1⟩ rfl (.enter ..)
  have secondWaits := secondEntered.waiting ⟨1⟩ rfl (.join rfl rfl)
  refine ⟨_, secondWaits, ⟨1, ⟨1, 1, Uuid.nil, 0, .queued⟩, rfl, rfl, rfl, rfl⟩, ?_⟩
  obtain ⟨_, _, holder, _, _, _, present, runs⟩ := secondWaits.deadlock_free.2.2 ⟨1⟩ Uuid.nil
    ⟨1, ⟨1, 1, Uuid.nil, 0, .queued⟩, rfl, rfl, rfl, rfl⟩
  exact ⟨holder, present, runs⟩

end Pool

end AccountLedger
