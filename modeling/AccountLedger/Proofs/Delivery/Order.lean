import AccountLedger.Memory.Tables
import Mathlib.Data.List.Perm.Basic

/-!
The order in which a sweep takes failed entries, and what it says of an entry that was left out.
-/

namespace AccountLedger

local instance : Ord Timestamp := ⟨Timestamp.compare⟩

local instance : Std.TransOrd Timestamp :=
  inferInstanceAs
    (Std.TransCmp (compareLex (compareOn Timestamp.seconds) (compareOn Timestamp.nanos)))

namespace Tables

variable {entries : List OutboxEntry} {entry other : OutboxEntry} {limit : Int}

theorem compareAttempts_eq (a b : Option Timestamp) : compareAttempts a b = compare a b := by
  cases a <;> cases b <;> rfl

/-- By the time of the last attempt, then by age. -/
def attemptOrder : OutboxEntry → OutboxEntry → Ordering :=
  compareLex (compareOn OutboxEntry.lastAttemptAt) (compareOn OutboxEntry.createdAt)

instance : Std.TransCmp attemptOrder :=
  inferInstanceAs (Std.TransCmp
    (compareLex (compareOn OutboxEntry.lastAttemptAt) (compareOn OutboxEntry.createdAt)))

theorem lessAttemptedFirst_eq (a b : OutboxEntry) :
    lessAttemptedFirst a b = (attemptOrder a b).isLE := by
  have same : (compareAttempts a.lastAttemptAt b.lastAttemptAt).then
      (a.createdAt.compare b.createdAt) = attemptOrder a b := by
    rw [compareAttempts_eq]
    rfl
  rw [lessAttemptedFirst, same]
  cases attemptOrder a b <;> rfl

theorem lessAttemptedFirst_refl (entry : OutboxEntry) : lessAttemptedFirst entry entry = true := by
  rw [lessAttemptedFirst_eq, @Std.ReflCmp.compare_self _ attemptOrder]
  rfl

theorem lessAttemptedFirst_trans (a b c : OutboxEntry) (first : lessAttemptedFirst a b = true)
    (second : lessAttemptedFirst b c = true) : lessAttemptedFirst a c = true := by
  rw [lessAttemptedFirst_eq] at *
  exact Std.TransCmp.isLE_trans first second

theorem lessAttemptedFirst_total (a b : OutboxEntry) :
    (lessAttemptedFirst a b || lessAttemptedFirst b a) = true := by
  rw [lessAttemptedFirst_eq, lessAttemptedFirst_eq, @Std.OrientedCmp.eq_swap _ attemptOrder _ a b]
  cases attemptOrder b a <;> rfl

/-- An entry that was attempted later comes later. -/
theorem lessAttemptedFirst_of_lt {last time : Timestamp} (tried : entry.lastAttemptAt = some last)
    (again : other.lastAttemptAt = some time) (later : last.lt time = true) :
    lessAttemptedFirst other entry = false := by
  have before : last.compare time = .lt := eq_of_beq later
  have after : time.compare last = .gt := by
    have swapped : time.compare last = (last.compare time).swap :=
      @Std.OrientedOrd.eq_swap Timestamp _ _ time last
    rw [swapped, before]
    rfl
  rw [lessAttemptedFirst, tried, again]
  show ((time.compare last).then _ != .gt) = false
  rw [after]
  rfl

/-- If an entry is left out, there are as many as there may be, and it comes after all of them. -/
theorem before_of_left_out (listed : entry ∈ entries)
    (out : entry ∉ takeFirst limit (entries.mergeSort lessAttemptedFirst)) :
    (takeFirst limit (entries.mergeSort lessAttemptedFirst)).length = limit.toNat ∧
      ∀ other ∈ takeFirst limit (entries.mergeSort lessAttemptedFirst),
        lessAttemptedFirst other entry = true := by
  have sorted := List.pairwise_mergeSort lessAttemptedFirst_trans lessAttemptedFirst_total entries
  have split := List.take_append_drop limit.toNat (entries.mergeSort lessAttemptedFirst)
  have rest : entry ∈ (entries.mergeSort lessAttemptedFirst).drop limit.toNat := by
    have inside : entry ∈ entries.mergeSort lessAttemptedFirst := List.mem_mergeSort.mpr listed
    rw [← split] at inside
    exact (List.mem_append.mp inside).resolve_left out
  constructor
  · have some : 0 < ((entries.mergeSort lessAttemptedFirst).drop limit.toNat).length :=
      List.length_pos_of_mem rest
    rw [List.length_drop] at some
    rw [takeFirst, List.length_take]
    omega
  · rw [← split] at sorted
    exact fun other taken => (List.pairwise_append.mp sorted).2.2 other taken entry rest

end Tables

end AccountLedger
