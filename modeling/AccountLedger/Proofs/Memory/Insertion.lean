import AccountLedger.Proofs.Memory.RevisionGuard

/-!
What a commit inserts. Accounts are inserted only under ids that were free before. Entries are put
into the outbox without such a check, so that one that is there already, and may have been sent, gives
way to one that was staged under its id.
-/

namespace AccountLedger

open Deed (inserts saves)

namespace Deed

/-- The entry that was staged for the outbox. -/
def entry? : Deed → Option OutboxEntry
  | ⟨.stage _ entry, _⟩ => some entry
  | _ => none

/-- The entries that were staged for the outbox. -/
def entries (deeds : List Deed) : List OutboxEntry := deeds.filterMap entry?

theorem entries_concat (deeds : List Deed) (deed : Deed) :
    entries (deeds ++ [deed]) = entries deeds ++ deed.entry?.toList := by
  cases kind : deed.entry? <;> simp [entries, List.filterMap_append, kind]

end Deed

open Deed (entries)

namespace Table

variable {κ α : Type} [DecidableEq κ]

theorem putAll_find?_of_last {key : α → κ} {table : Table κ α} {early late : List α} {row : α}
    (last : key row ∉ late.map key) :
    (table.putAll key (early ++ row :: late)).find? (key row) = some row := by
  have split : table.putAll key (early ++ row :: late) =
      (((table.putAll key early).put (key row) row).putAll key late) := by
    simp [putAll, List.foldl_append]
  rw [split, putAll_find?_of_not_mem last, find?_put, if_pos rfl]

end Table

namespace UnitOfWork

variable {work : UnitOfWork} {tables : Tables} {id : Uuid}

theorem save_entries (work : UnitOfWork) (account : Account) :
    (work.save account).2.entries = work.entries := by
  unfold save
  split <;> rfl

/-- What is stored stays as it is unless it is written. -/
theorem committedTables_stays (accepted : work.Accepted tables) {row : Account}
    (unwritten : write? work.writes id = none) (found : tables.accounts.find? id = some row) :
    (work.committedTables tables).accounts.find? id = some row := by
  rw [committedTables_unwritten unwritten, Table.putAll_find?_of_not_mem, found]
  intro inside
  obtain ⟨account, member, rfl⟩ := List.mem_map.mp inside
  simp [accepted.inserted account member] at found

end UnitOfWork

namespace MemoryStore

variable {before : MemoryStore} {unit : UnitId}

/-- A commit that does not succeed changes nothing. -/
theorem unapplied (failed : (before.answer (.apply unit)).1 ≠ .ok ()) :
    (before.answer (.apply unit)).2 = before := by
  simp only [answer] at failed ⊢
  cases outcome : (before.unit unit).apply before.tables with
  | error error => rfl
  | ok tables =>
    rw [outcome] at failed
    exact absurd rfl failed

end MemoryStore

namespace Course

variable {considerate : Prop} {unit : UnitId} {deeds : List Deed} {store last : MemoryStore}

theorem staged_entries (course : Course considerate unit deeds store) :
    (store.unit unit).entries = entries deeds := by
  refine course.induction
    (motive := fun deeds store => (store.unit unit).entries = entries deeds)
    ?start ?lock ?insert ?save ?stage
  case start =>
    intro store unused
    rw [unused]
    rfl
  case lock =>
    intro deeds store order timeoutMs answer after guards _ ih passes _
    rw [passes.content, Deed.entries_concat, ← ih]
    exact (List.append_nil _).symm
  case insert =>
    intro deeds store account answer after _ ih passes
    rw [passes.content, Deed.entries_concat, ← ih]
    exact (List.append_nil _).symm
  case save =>
    intro deeds store account after _ ih passes
    rw [passes.content, UnitOfWork.save_entries, Deed.entries_concat, ← ih]
    exact (List.append_nil _).symm
  case stage =>
    intro deeds store entry answer after _ ih passes
    rw [passes.content, Deed.entries_concat, ← ih]
    rfl

/-- A commit fails and changes nothing, or it inserts. Then no account was inserted under an id that
was taken, and those that were there are unchanged if they were not written; what was inserted last
under an id, and not written, is stored as it is. The outbox keeps its entries except for those under
whose ids others were staged: there the last of these is stored, as it was staged. -/
theorem commit_inserts {answer : Except LedgerError Unit}
    (course : Course considerate unit deeds store)
    (committed : MemoryStore.Serves considerate unit store (UnitRequest.commit unit).inMemory
      answer last) :
    ∃ before after, store.Passes considerate unit (store.unit unit) before ∧
      before.answer (.apply unit) = (answer, after) ∧
      (answer ≠ .ok () → after = before) ∧
      (answer = .ok () →
        (∀ id row, before.tables.accounts.find? id = some row →
          id ∉ (inserts deeds).map (·.id) ∧
            (saves id deeds = [] → after.tables.accounts.find? id = some row)) ∧
        (∀ early account late, inserts deeds = early ++ account :: late →
          account.id ∉ late.map (·.id) → saves account.id deeds = [] →
          after.tables.accounts.find? account.id = some account) ∧
        (∀ id, id ∉ (entries deeds).map (·.id) →
          after.tables.outbox.find? id = before.tables.outbox.find? id) ∧
        ∀ early entry late, entries deeds = early ++ entry :: late →
          entry.id ∉ late.map (·.id) → after.tables.outbox.find? entry.id = some entry) := by
  obtain ⟨before, passes, outcome⟩ := committed.commit
  have aside : KeptAside deeds (before.unit unit) := passes.content ▸ course.keptAside
  have staged : (before.unit unit).entries = entries deeds := passes.content ▸ course.staged_entries
  have unwritten : ∀ id, saves id deeds = [] →
      UnitOfWork.write? (before.unit unit).writes id = none := by
    intro id unsaved
    rw [aside.writes, unsaved]
    rfl
  refine ⟨before, (before.answer (.apply unit)).2, passes, Prod.ext outcome.symm rfl,
    fun failed => MemoryStore.unapplied (outcome ▸ failed), fun succeeded => ?_⟩
  obtain ⟨accepted, tables⟩ := MemoryStore.applied (outcome.symm.trans succeeded)
  rw [tables]
  refine ⟨fun id row found => ⟨fun inside => ?taken, fun unsaved => ?kept⟩,
    fun early account late split isLast unsaved => ?inserted, fun id absent => ?unstaged,
    fun early entry late split isLast => ?staged⟩
  case taken =>
    obtain ⟨account, member, rfl⟩ := List.mem_map.mp inside
    simp [accepted.inserted account (aside.inserted ▸ member)] at found
  case kept => exact UnitOfWork.committedTables_stays accepted (unwritten id unsaved) found
  case inserted =>
    rw [UnitOfWork.committedTables_unwritten (unwritten account.id unsaved), aside.inserted, split]
    exact Table.putAll_find?_of_last isLast
  case unstaged => exact Table.putAll_find?_of_not_mem (staged ▸ absent)
  case staged =>
    rw [UnitOfWork.committedTables, staged, split]
    exact Table.putAll_find?_of_last isLast

/-- An account and an entry are inserted next to an account that is there. -/
theorem commit_inserts_beside :
    let row := Account.opened Uuid.nil Uuid.nil "USD" Decimal.zero ⟨0, 0⟩
    let added := Account.opened (Uuid.ofNat 1) Uuid.nil "USD" Decimal.zero ⟨0, 0⟩
    let entry := OutboxEntry.ofEvent Uuid.nil (.accountClosed Uuid.nil ⟨0, 0⟩) ⟨0, 0⟩
    ∃ store last, Course False ⟨0⟩ [⟨.insert ⟨0⟩ added, .ok ()⟩, ⟨.stage ⟨0⟩ entry, .ok ()⟩] store ∧
      MemoryStore.Serves False ⟨0⟩ store (UnitRequest.commit ⟨0⟩).inMemory
        (.ok () : Except LedgerError Unit) last ∧
      ∃ before after : MemoryStore, before.answer (.apply ⟨0⟩) = (.ok (), after) ∧
        (∀ stored, before.tables.accounts.find? row.id = some stored →
          after.tables.accounts.find? row.id = some stored) ∧
        after.tables.accounts.find? added.id = some added ∧
        after.tables.outbox.find? entry.id = some entry := by
  intro row added entry
  have begun : Course False ⟨0⟩ [] (.stocked row) := .start rfl
  have inserted := Course.call (.insert ⟨0⟩ added) begun rfl rfl (.stored (.done _ _))
  have course := Course.call (.stage ⟨0⟩ entry) inserted rfl rfl (.stored (.done _ _))
  obtain ⟨last, committed⟩ := @MemoryStore.serves_commit False ⟨0⟩ _
  obtain ⟨before, after, _, outcome, _, inserts⟩ := course.commit_inserts committed
  obtain ⟨kept, new, _, staged⟩ := inserts rfl
  exact ⟨_, last, course, committed, before, after, outcome,
    fun stored found => (kept row.id stored found).2 rfl,
    new [] added [] rfl List.not_mem_nil rfl, staged [] entry [] rfl List.not_mem_nil⟩

/-- An entry that has been sent is staged once more as it was at first: the commit succeeds, and the
entry waits to be sent again. -/
theorem sent_entry_pends_again :
    let entry := OutboxEntry.ofEvent Uuid.nil (.accountClosed Uuid.nil ⟨0, 0⟩) ⟨0, 0⟩
    let posted : MemoryStore := { MemoryStore.empty with tables := UnitOfWork.putEntry .empty entry }
    let sent := (posted.answer (.table (.recordAttempt entry.id .sent ⟨0, 0⟩))).2
    ∃ store after, Course False ⟨0⟩ [⟨.stage ⟨0⟩ entry, .ok ()⟩] store ∧
      store.tables = sent.tables ∧ (store.tables.outbox.find? entry.id).map (·.status) = some .sent ∧
      store.answer (.apply ⟨0⟩) = (.ok (), after) ∧
      (after.tables.outbox.find? entry.id).map (·.status) = some .pending := by
  intro entry posted sent
  have begun : Course False ⟨0⟩ [] sent := .start rfl
  have course := Course.call (.stage ⟨0⟩ entry) begun rfl rfl (.stored (.done _ _))
  exact ⟨_, _, course, rfl, rfl, rfl, rfl⟩

end Course

end AccountLedger
