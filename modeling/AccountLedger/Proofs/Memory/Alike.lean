import AccountLedger.Proofs.Memory.Commit

/-!
Tables that differ at most in how far outbox entries have been delivered, and in the records of the
transaction service.
-/

namespace AccountLedger

namespace Table

variable {κ α β : Type} [DecidableEq κ]

def mapRows (change : α → β) (table : Table κ α) : Table κ β :=
  ⟨table.entries.map fun row => (row.1, change row.2)⟩

theorem mapRows_find? (change : α → β) (table : Table κ α) (key : κ) :
    (table.mapRows change).find? key = (table.find? key).map change := by
  show findIn key (table.entries.map _) = (findIn key table.entries).map change
  induction table.entries with
  | nil => rfl
  | cons head rest ih =>
    rw [List.map_cons, findIn, findIn, ih]
    split <;> rfl

theorem mapRows_put (change : α → β) (table : Table κ α) (key : κ) (row : α) :
    (table.put key row).mapRows change = (table.mapRows change).put key (change row) := by
  apply congrArg Table.mk
  show (putIn key row table.entries).map _ = putIn key (change row) (table.entries.map _)
  induction table.entries with
  | nil => rfl
  | cons head rest ih =>
    rw [List.map_cons, putIn, putIn, ← ih]
    split <;> rfl

/-- A row is put in the place of one that is the same. -/
theorem putIn_of_findIn {key : κ} {row : α} {entries : List (κ × α)}
    (found : findIn key entries = some row) : putIn key row entries = entries := by
  induction entries with
  | nil => cases found
  | cons head rest ih =>
    obtain ⟨other, old⟩ := head
    unfold findIn at found
    unfold putIn
    by_cases same : other = key
    · rw [if_pos same] at found
      rw [if_pos same]
      cases found
      rw [same]
    · rw [if_neg same] at found
      rw [if_neg same, ih found]

theorem put_of_find? {table : Table κ α} {key : κ} {row : α} (found : table.find? key = some row) :
    table.put key row = table :=
  congrArg Table.mk (putIn_of_findIn found)

end Table

/-- An entry as if nobody had tried to deliver it yet. -/
def OutboxEntry.undelivered (entry : OutboxEntry) : OutboxEntry :=
  { entry with status := .pending, attempts := 0, lastAttemptAt := none }

/-- The outbox as if nobody had tried to deliver anything yet. -/
def Tables.staged (tables : Tables) : Table Uuid OutboxEntry :=
  tables.outbox.mapRows OutboxEntry.undelivered

theorem Tables.staged_find? (tables : Tables) (id : Uuid) :
    tables.staged.find? id = (tables.outbox.find? id).map OutboxEntry.undelivered :=
  Table.mapRows_find? _ _ _

theorem putAll_staged (outbox : Table Uuid OutboxEntry) (entries : List OutboxEntry) :
    (outbox.putAll OutboxEntry.id entries).mapRows OutboxEntry.undelivered =
      (outbox.mapRows OutboxEntry.undelivered).putAll OutboxEntry.id
        (entries.map OutboxEntry.undelivered) := by
  induction entries generalizing outbox with
  | nil => rfl
  | cons entry rest ih =>
    show ((outbox.put entry.id entry).putAll OutboxEntry.id rest).mapRows _ = _
    rw [ih, Table.mapRows_put]
    rfl

namespace Tables

/-- The same accounts, and the same outbox apart from deliveries. -/
structure Alike (tables other : Tables) : Prop where
  accounts : tables.accounts = other.accounts
  staged : tables.staged = other.staged

variable {tables other third : Tables}

theorem Alike.refl (tables : Tables) : tables.Alike tables := ⟨rfl, rfl⟩

theorem Alike.of_eq (same : tables = other) : tables.Alike other := ⟨by rw [same], by rw [same]⟩

theorem Alike.symm (alike : tables.Alike other) : other.Alike tables :=
  ⟨alike.accounts.symm, alike.staged.symm⟩

theorem Alike.trans (one : tables.Alike other) (two : other.Alike third) : tables.Alike third :=
  ⟨one.accounts.trans two.accounts, one.staged.trans two.staged⟩

/-- The same ids have entries. -/
theorem Alike.entry (alike : tables.Alike other) {id : Uuid} {entry : OutboxEntry}
    (found : tables.outbox.find? id = some entry) :
    ∃ twin, other.outbox.find? id = some twin ∧ twin.undelivered = entry.undelivered := by
  have here : tables.staged.find? id = some entry.undelivered := by
    rw [staged_find?, found]
    rfl
  rw [alike.staged, staged_find?] at here
  obtain ⟨twin, there, same⟩ := Option.map_eq_some_iff.mp here
  exact ⟨twin, there, same⟩

theorem Alike.committed (alike : tables.Alike other) (work : UnitOfWork) :
    (work.committedTables tables).Alike (work.committedTables other) := by
  constructor
  · show tables.accounts.putAll Account.id _ = other.accounts.putAll Account.id _
    rw [alike.accounts]
  · show (tables.outbox.putAll OutboxEntry.id _).mapRows _ =
      (other.outbox.putAll OutboxEntry.id _).mapRows _
    have same : tables.outbox.mapRows OutboxEntry.undelivered =
        other.outbox.mapRows OutboxEntry.undelivered := alike.staged
    rw [putAll_staged, putAll_staged, same]

theorem Alike.overwritten (alike : tables.Alike other) (account : Account) :
    (tables.overwriteAccount account).Alike (other.overwriteAccount account) := by
  refine ⟨?_, alike.staged⟩
  unfold overwriteAccount
  rw [alike.accounts]

/-- What needs no unit of work changes nothing but deliveries and transaction records. -/
theorem answer_alike (request : TableRequest) : (tables.answer request).2.Alike tables := by
  refine ⟨answer_accounts request, ?_⟩
  cases request with
  | recordAttempt id status time =>
    simp only [answer, recordAttempt]
    cases found : tables.outbox.find? id with
    | none => rfl
    | some entry =>
      show (tables.outbox.put id _).mapRows _ = _
      rw [Table.mapRows_put]
      apply Table.put_of_find?
      rw [Table.mapRows_find?, found]
      rfl
  | insertRecord record =>
    simp only [answer, insertRecord]
    split
    · rfl
    · split <;> rfl
  | updateRecord record =>
    simp only [answer, updateRecord]
    split <;> rfl
  | _ => rfl

end Tables

end AccountLedger
