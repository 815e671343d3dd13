import AccountLedger.Memory.UnitOfWork
import Mathlib.Data.List.Basic

/-!
What a commit does to the tables: the accounts and the outbox entries of the unit of work are put
under their ids if its checks succeed, and nothing is changed otherwise.
-/

namespace AccountLedger

namespace Tables

/-- Accounts are stored under their own ids. -/
def Keyed (tables : Tables) : Prop :=
  ∀ id account, tables.accounts.find? id = some account → account.id = id

theorem empty_keyed : empty.Keyed := by
  intro id account found
  cases found

end Tables

namespace Table

variable {κ α : Type} [DecidableEq κ]

/-- Rows put under their keys, one after another. -/
def putAll (key : α → κ) (table : Table κ α) (rows : List α) : Table κ α :=
  rows.foldl (fun table row => table.put (key row) row) table

theorem putAll_find?_of_not_mem {key : α → κ} {table : Table κ α} {rows : List α} {wanted : κ}
    (absent : wanted ∉ rows.map key) :
    (table.putAll key rows).find? wanted = table.find? wanted := by
  induction rows generalizing table with
  | nil => rfl
  | cons row rest ih =>
    simp only [List.map_cons, List.mem_cons, not_or] at absent
    show ((table.put (key row) row).putAll key rest).find? wanted = table.find? wanted
    rw [ih absent.2, find?_put, if_neg (Ne.symm absent.1)]

/-- Under a key there is what was put there last, or what was there before. -/
theorem putAll_find? (key : α → κ) (table : Table κ α) (rows : List α) (wanted : κ) :
    (wanted ∉ rows.map key ∧ (table.putAll key rows).find? wanted = table.find? wanted) ∨
      ∃ row ∈ rows, key row = wanted ∧ (table.putAll key rows).find? wanted = some row := by
  induction rows generalizing table with
  | nil => exact Or.inl ⟨List.not_mem_nil, rfl⟩
  | cons row rest ih =>
    rcases ih (table.put (key row) row) with ⟨absent, found⟩ | ⟨last, member, same, found⟩
    · rw [find?_put] at found
      by_cases same : key row = wanted
      · rw [if_pos same] at found
        exact Or.inr ⟨row, List.mem_cons_self, same, found⟩
      · rw [if_neg same] at found
        refine Or.inl ⟨fun inside => ?_, found⟩
        rcases List.mem_cons.mp inside with isThis | inRest
        · exact same isThis.symm
        · exact absent inRest
    · exact Or.inr ⟨last, List.mem_cons_of_mem _ member, same, found⟩

theorem putAll_keyed {key : α → κ} {table : Table κ α} {rows : List α}
    (keyed : ∀ wanted row, table.find? wanted = some row → key row = wanted) :
    ∀ wanted row, (table.putAll key rows).find? wanted = some row → key row = wanted := by
  induction rows generalizing table with
  | nil => exact keyed
  | cons row rest ih =>
    apply @ih (table.put (key row) row)
    intro wanted stored found
    rw [find?_put] at found
    split at found
    · next same =>
      cases found
      exact same
    · exact keyed wanted stored found

end Table

namespace UnitOfWork

variable {work : UnitOfWork} {tables after : Tables}

/-- All accounts that a commit puts into the table, in this order. -/
def rowsPut (work : UnitOfWork) : List Account :=
  work.inserted ++ work.writes.map fun write => write.account.stored

theorem foldl_putAccount (rows : List Account) (tables : Tables) :
    rows.foldl putAccount tables =
      { tables with accounts := tables.accounts.putAll Account.id rows } := by
  induction rows generalizing tables with
  | nil => rfl
  | cons row rest ih => rw [List.foldl_cons, ih]; rfl

theorem foldl_putEntry (entries : List OutboxEntry) (tables : Tables) :
    entries.foldl putEntry tables =
      { tables with outbox := tables.outbox.putAll OutboxEntry.id entries } := by
  induction entries generalizing tables with
  | nil => rfl
  | cons entry rest ih => rw [List.foldl_cons, ih]; rfl

theorem checkInserted_ok {accounts : List Account} :
    checkInserted tables accounts = .ok () ↔
      ∀ account ∈ accounts, tables.accounts.find? account.id = none := by
  induction accounts with
  | nil => simp [checkInserted]
  | cons account rest ih =>
    unfold checkInserted
    cases found : tables.accounts.find? account.id with
    | some stored => simp [found]
    | none => simp [found, ih]

theorem checkWrites_ok {writes : List StagedWrite} :
    checkWrites tables writes = .ok () ↔
      ∀ write ∈ writes,
        (tables.accounts.find? write.account.id).map (·.revision) = some write.expected := by
  induction writes with
  | nil => simp [checkWrites]
  | cons write rest ih =>
    rw [checkWrites, List.forall_mem_cons]
    by_cases same : (tables.accounts.find? write.account.id).map (·.revision) = some write.expected
    · rw [if_pos same, ih]
      exact ⟨fun others => ⟨same, others⟩, And.right⟩
    · rw [if_neg same]
      constructor
      · intro absurdly
        cases absurdly
      · intro all
        exact absurd all.1 same

/-- The tables after a commit that succeeds. -/
def committedTables (work : UnitOfWork) (tables : Tables) : Tables :=
  { tables with accounts := tables.accounts.putAll Account.id work.rowsPut
                outbox := tables.outbox.putAll OutboxEntry.id work.entries }

/-- When a commit succeeds. -/
structure Accepted (work : UnitOfWork) (tables : Tables) : Prop where
  inserted : ∀ account ∈ work.inserted, tables.accounts.find? account.id = none
  writes : ∀ write ∈ work.writes,
    (tables.accounts.find? write.account.id).map (·.revision) = some write.expected

theorem apply_of_accepted (accepted : work.Accepted tables) :
    work.apply tables = .ok (work.committedTables tables) := by
  have inserted := checkInserted_ok.mpr accepted.inserted
  have writes := checkWrites_ok.mpr accepted.writes
  simp only [apply, inserted, writes, bind, Except.bind, pure, Except.pure, foldl_putAccount,
    foldl_putEntry]
  simp [committedTables, rowsPut, Table.putAll, List.foldl_append]

theorem accepted_of_apply (applied : work.apply tables = .ok after) : work.Accepted tables := by
  unfold apply at applied
  cases inserted : checkInserted tables work.inserted with
  | error error => simp [inserted, bind, Except.bind] at applied
  | ok _ =>
    cases writes : checkWrites tables work.writes with
    | error error => simp [inserted, writes, bind, Except.bind] at applied
    | ok _ => exact ⟨checkInserted_ok.mp inserted, checkWrites_ok.mp writes⟩

theorem apply_ok (applied : work.apply tables = .ok after) :
    after = work.committedTables tables := by
  rw [apply_of_accepted (accepted_of_apply applied)] at applied
  cases applied
  rfl

theorem committedTables_keyed (keyed : tables.Keyed) : (work.committedTables tables).Keyed :=
  Table.putAll_keyed keyed

/-- A commit touches no account but those it puts. -/
theorem committedTables_find? {id : Uuid} (inserted : id ∉ work.inserted.map (·.id))
    (written : ∀ write ∈ work.writes, write.account.id ≠ id) :
    (work.committedTables tables).accounts.find? id = tables.accounts.find? id := by
  refine Table.putAll_find?_of_not_mem ?_
  simp only [rowsPut, List.map_append, List.mem_append, not_or, List.map_map, List.mem_map,
    Function.comp_apply, not_exists, not_and]
  refine ⟨fun account member same => inserted (List.mem_map.mpr ⟨account, member, same⟩), ?_⟩
  intro write member same
  exact written write member same

end UnitOfWork

namespace Tables

variable {tables : Tables}

theorem answer_accounts (request : TableRequest) :
    (tables.answer request).2.accounts = tables.accounts := by
  cases request with
  | recordAttempt id status time =>
    simp only [answer, recordAttempt]
    split <;> rfl
  | insertRecord record =>
    simp only [answer, insertRecord]
    split
    · rfl
    · split <;> rfl
  | updateRecord record =>
    simp only [answer, updateRecord]
    split <;> rfl
  | _ => rfl

/-- The revision in which an account is written past all locks. -/
def raisedRevision (tables : Tables) (account : Account) : Int :=
  ((tables.accounts.find? account.id).map fun current =>
    max account.revision (current.revision + 1)).getD account.revision

theorem overwriteAccount_find? (tables : Tables) (account : Account) (id : Uuid) :
    (tables.overwriteAccount account).accounts.find? id =
      if account.id = id then some { account with revision := tables.raisedRevision account }
      else tables.accounts.find? id := by
  unfold overwriteAccount raisedRevision
  rw [Table.find?_put]
  cases tables.accounts.find? account.id <;> rfl

theorem raisedRevision_gt {account current : Account}
    (found : tables.accounts.find? account.id = some current) :
    current.revision < tables.raisedRevision account := by
  simp only [raisedRevision, found, Option.map_some, Option.getD_some]
  omega

/-- It is that of the account that is written, or one more than that of the account that is there. -/
theorem raisedRevision_cases (tables : Tables) (account : Account) :
    tables.raisedRevision account = account.revision ∨
      ∃ current, tables.accounts.find? account.id = some current ∧
        tables.raisedRevision account = current.revision + 1 := by
  unfold raisedRevision
  cases tables.accounts.find? account.id with
  | none => exact Or.inl rfl
  | some current =>
    rcases Int.le_total (current.revision + 1) account.revision with below | above
    · exact Or.inl (Int.max_eq_left below)
    · exact Or.inr ⟨current, rfl, Int.max_eq_right above⟩

theorem overwriteAccount_keyed (keyed : tables.Keyed) (account : Account) :
    (tables.overwriteAccount account).Keyed := by
  intro id stored found
  rw [overwriteAccount_find?] at found
  split at found
  · next same =>
    cases found
    exact same
  · exact keyed id stored found

end Tables

end AccountLedger
