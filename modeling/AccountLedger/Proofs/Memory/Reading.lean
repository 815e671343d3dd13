import AccountLedger.Proofs.Interleaving.Pool
import AccountLedger.Proofs.Memory.Commit

/-!
What a unit of work reads that has not written anything: the stored rows of an order, or a complaint
about the first one that is missing.
-/

namespace AccountLedger

namespace UnitOfWork

variable {work : UnitOfWork} {tables : Tables}

/-- Nothing is kept aside for the commit. -/
structure Unwritten (work : UnitOfWork) : Prop where
  inserted : work.inserted = []
  writes : work.writes = []

theorem Unwritten.staged? (unwritten : work.Unwritten) (id : Uuid) : work.staged? id = none := by
  simp [UnitOfWork.staged?, unwritten.inserted, unwritten.writes]

theorem Unwritten.row (unwritten : work.Unwritten) (id : Uuid) :
    work.row tables id =
      match tables.accounts.find? id with
      | some account => .ok account
      | none => .error (.notFound id) := by
  cases found : tables.accounts.find? id <;> simp [UnitOfWork.row, unwritten.staged?, found]

/-- The rows are there to be read. -/
theorem Unwritten.rows_fit (unwritten : work.Unwritten) {ids : List Uuid} {rows : List Account}
    (same : rows.map (·.id) = ids)
    (stored : ∀ row ∈ rows, tables.accounts.find? row.id = some row) :
    ids.mapM (work.row tables) = .ok rows := by
  induction rows generalizing ids with
  | nil =>
    subst same
    rfl
  | cons row rest ih =>
    subst same
    have found := stored row List.mem_cons_self
    have others := ih rfl fun other member => stored other (List.mem_cons_of_mem _ member)
    rw [List.map_cons, List.mapM_cons, unwritten.row, found, others]
    rfl

/-- Whatever is read are the stored rows. -/
theorem Unwritten.rows_ok (unwritten : work.Unwritten) (keyed : tables.Keyed) {ids : List Uuid}
    {rows : List Account} (read : ids.mapM (work.row tables) = .ok rows) :
    rows.map (·.id) = ids ∧
      ids.filterMap (fun id =>
        if (work.staged? id).isSome then none else tables.accounts.find? id) = rows := by
  induction ids generalizing rows with
  | nil =>
    cases read
    exact ⟨rfl, rfl⟩
  | cons id rest ih =>
    rw [List.mapM_cons, unwritten.row] at read
    cases found : tables.accounts.find? id with
    | none =>
      rw [found] at read
      cases read
    | some row =>
      rw [found] at read
      cases others : rest.mapM (work.row tables) with
      | error error =>
        rw [others] at read
        cases read
      | ok rows =>
        rw [others] at read
        cases read
        obtain ⟨same, listed⟩ := ih others
        refine ⟨by rw [List.map_cons, same, keyed id row found], ?_⟩
        rw [List.filterMap_cons, unwritten.staged?, found]
        simp only [Option.isSome_none, Bool.false_eq_true, if_false]
        rw [listed]

/-- Reading fails at a row that is neither kept aside nor stored. -/
theorem rows_error {ids : List Uuid} {error : LedgerError}
    (failed : ids.mapM (work.row tables) = .error error) :
    ∃ id ∈ ids, error = .notFound id ∧ (work.staged? id).or (tables.accounts.find? id) = none := by
  induction ids with
  | nil => cases failed
  | cons id rest ih =>
    rw [List.mapM_cons, UnitOfWork.row] at failed
    cases found : (work.staged? id).or (tables.accounts.find? id) with
    | none =>
      rw [found] at failed
      cases failed
      exact ⟨id, List.mem_cons_self, rfl, found⟩
    | some row =>
      rw [found] at failed
      cases others : rest.mapM (work.row tables) with
      | error other =>
        rw [others] at failed
        cases failed
        obtain ⟨missing, inside, known⟩ := ih others
        exact ⟨missing, List.mem_cons_of_mem _ inside, known⟩
      | ok rows =>
        rw [others] at failed
        cases failed

end UnitOfWork

end AccountLedger
