import AccountLedger.Table
import Mathlib.Data.List.Nodup

/-!
The rows of a table: those found under its keys, with no key twice.
-/

namespace AccountLedger

namespace Table

variable {κ α : Type} [DecidableEq κ]

theorem mem_rows_of_find? {table : Table κ α} {key : κ} {row : α}
    (found : table.find? key = some row) : row ∈ table.rows := by
  obtain ⟨entries⟩ := table
  have inside : findIn key entries = some row := found
  show row ∈ entries.map (·.2)
  induction entries with
  | nil => cases inside
  | cons head rest ih =>
    obtain ⟨other, old⟩ := head
    rw [findIn] at inside
    split at inside
    · cases inside
      exact List.mem_cons_self
    · exact List.mem_cons_of_mem _ (ih inside inside)

theorem putIn_of_absent {key : κ} {row : α} {entries : List (κ × α)}
    (absent : findIn key entries = none) : putIn key row entries = entries ++ [(key, row)] := by
  induction entries with
  | nil => rfl
  | cons head rest ih =>
    obtain ⟨other, old⟩ := head
    unfold findIn at absent
    by_cases same : other = key
    · rw [if_pos same] at absent
      cases absent
    · rw [if_neg same] at absent
      rw [putIn, if_neg same, ih absent, List.cons_append]

/-- A row under a new key comes last. -/
theorem put_rows_of_absent {table : Table κ α} {key : κ} {row : α}
    (absent : table.find? key = none) : (table.put key row).rows = table.rows ++ [row] := by
  rw [rows, put, putIn_of_absent absent, List.map_append]
  rfl

/-- No key is used twice. -/
def Distinct (table : Table κ α) : Prop := (table.entries.map (·.1)).Nodup

variable {table : Table κ α} {key : κ} {row : α}

theorem putIn_keys (key : κ) (row : α) (entries : List (κ × α)) :
    (putIn key row entries).map (·.1) = entries.map (·.1) ∨
      key ∉ entries.map (·.1) ∧
        (putIn key row entries).map (·.1) = entries.map (·.1) ++ [key] := by
  induction entries with
  | nil => exact Or.inr ⟨List.not_mem_nil, rfl⟩
  | cons head rest ih =>
    obtain ⟨other, old⟩ := head
    unfold putIn
    by_cases same : other = key
    · rw [if_pos same]
      exact Or.inl (by simp [same])
    · rw [if_neg same]
      rcases ih with kept | ⟨absent, added⟩
      · exact Or.inl (by simpa using kept)
      · refine Or.inr ⟨?_, by simpa using added⟩
        simpa [Ne.symm same] using absent

theorem Distinct.put (distinct : table.Distinct) (key : κ) (row : α) :
    (table.put key row).Distinct := by
  show ((putIn key row table.entries).map (·.1)).Nodup
  rcases putIn_keys key row table.entries with kept | ⟨absent, added⟩
  · rw [kept]
    exact distinct
  · rw [added, List.nodup_append]
    refine ⟨distinct, List.nodup_singleton key, fun one inside other last => ?_⟩
    rw [List.mem_singleton.mp last]
    rintro rfl
    exact absent inside

theorem find?_of_mem (distinct : table.Distinct) (inside : (key, row) ∈ table.entries) :
    table.find? key = some row := by
  obtain ⟨entries⟩ := table
  show findIn key entries = some row
  induction entries with
  | nil => cases inside
  | cons head rest ih =>
    obtain ⟨other, old⟩ := head
    obtain ⟨absent, restDistinct⟩ := List.nodup_cons.mp distinct
    rw [findIn]
    rcases List.mem_cons.mp inside with same | later
    · cases same
      rw [if_pos rfl]
    · rw [if_neg, ih restDistinct later]
      rintro rfl
      exact absent (List.mem_map.mpr ⟨_, later, rfl⟩)

/-- The rows are those found under the keys. -/
theorem mem_rows_iff (distinct : table.Distinct) :
    row ∈ table.rows ↔ ∃ key, table.find? key = some row := by
  constructor
  · intro inside
    obtain ⟨⟨key, stored⟩, member, rfl⟩ := List.mem_map.mp inside
    exact ⟨key, find?_of_mem distinct member⟩
  · rintro ⟨key, found⟩
    exact mem_rows_of_find? found

/-- Rows that carry their keys carry no key twice. -/
theorem rows_nodup {name : α → κ} (distinct : table.Distinct)
    (own : ∀ {key row}, table.find? key = some row → name row = key) :
    (table.rows.map name).Nodup := by
  have same : table.rows.map name = table.entries.map (·.1) := by
    rw [rows, List.map_map]
    refine List.map_congr_left fun entry inside => ?_
    exact own (find?_of_mem distinct inside)
  rw [same]
  exact distinct

end Table

end AccountLedger
