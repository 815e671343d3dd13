import Mathlib.Data.List.Sort

/-!
Sorting by a total order and leaving out: what is kept may be chosen before or after.
-/

namespace AccountLedger

variable {α : Type}

/-- Those before the split are the ones that lack what those after it have. -/
theorem filter_split {holds : α → Bool} {before after : List α}
    (lacks : ∀ entry ∈ before, holds entry = false) (has : ∀ entry ∈ after, holds entry = true) :
    (before ++ after).filter (fun entry => !holds entry) = before ∧
      (before ++ after).filter holds = after := by
  constructor
  · rw [List.filter_append, List.filter_eq_self.mpr (by simpa using lacks),
      List.filter_eq_nil_iff.mpr (by simpa using has), List.append_nil]
  · rw [List.filter_append, List.filter_eq_nil_iff.mpr (by simpa using lacks),
      List.filter_eq_self.mpr has, List.nil_append]

/-- What is kept of a sorted list comes first if with every entry all before it are kept. -/
theorem filter_isPrefix {le : α → α → Bool} {keep : α → Bool} {entries : List α}
    (sorted : entries.Pairwise fun a b => le a b = true)
    (closed : ∀ a b, le a b = true → keep b = true → keep a = true) :
    entries.filter keep <+: entries := by
  induction sorted with
  | nil => exact List.prefix_rfl
  | @cons entry rest before sorted ih =>
    by_cases kept : keep entry = true
    · rw [List.filter_cons_of_pos kept]
      exact (List.prefix_cons_inj entry).mpr ih
    · have none : (entry :: rest).filter keep = [] := by
        rw [List.filter_cons_of_neg kept, List.filter_eq_nil_iff]
        exact fun other inside keptToo => kept (closed entry other (before other inside) keptToo)
      rw [none]
      exact List.nil_prefix

variable {le : α → α → Bool} (trans : ∀ a b c, le a b = true → le b c = true → le a c = true)
  (total : ∀ a b, (le a b || le b a) = true)
include trans total

/-- Sorting goes around an entry: those before it are smaller, those after it are not. -/
theorem mergeSort_around (entry : α) (rest : List α) : ∃ before after,
    (entry :: rest).mergeSort le = before ++ entry :: after ∧ rest.mergeSort le = before ++ after ∧
      (∀ other ∈ before, le entry other = false) ∧ ∀ other ∈ after, le entry other = true := by
  obtain ⟨before, after, sorted, others, smaller⟩ := List.mergeSort_cons trans total entry rest
  refine ⟨before, after, sorted, others, ?_, ?_⟩
  · intro other inside
    simpa using smaller other inside
  · have ordered := List.pairwise_mergeSort trans total (entry :: rest)
    rw [sorted] at ordered
    exact (List.pairwise_cons.mp (List.pairwise_append.mp ordered).2.1).1

/-- It makes no difference whether some are left out before or after the others are sorted. -/
theorem filter_mergeSort (keep : α → Bool) (entries : List α) :
    (entries.mergeSort le).filter keep = (entries.filter keep).mergeSort le := by
  induction entries with
  | nil => simp
  | cons entry rest ih =>
    obtain ⟨before, after, sorted, others, smaller, notSmaller⟩ :=
      mergeSort_around trans total entry rest
    rw [others, List.filter_append] at ih
    rw [sorted, List.filter_append]
    by_cases kept : keep entry = true
    · obtain ⟨first, last, sortedKept, othersKept, smallerKept, notSmallerKept⟩ :=
        mergeSort_around trans total entry (rest.filter keep)
      obtain ⟨firstKept, lastKept⟩ := filter_split smallerKept notSmallerKept
      -- both lists without the entry are the same, and the entry splits them in the same place
      obtain ⟨firstSame, lastSame⟩ := filter_split
        (fun other inside => smaller other (List.mem_of_mem_filter inside))
        (fun other inside => notSmaller other (List.mem_of_mem_filter inside))
      rw [ih, othersKept] at firstSame lastSame
      rw [List.filter_cons_of_pos kept, List.filter_cons_of_pos kept, sortedKept, ← firstSame,
        ← lastSame, firstKept, lastKept]
    · rw [List.filter_cons_of_neg kept, List.filter_cons_of_neg kept, ih]

end AccountLedger
