import AccountLedger.Proofs.Memory.Course
import Mathlib.Data.List.Nodup

/-!
The revision guard of a commit. The first accepted write of an account has to present the revision
that is stored; those after it take its place unchecked, so that the stored revision is raised by one
above the last presented and tells the number of writes only if each was made from the one before.
-/

namespace AccountLedger

open Deed (inserts saves)

namespace Table

variable {κ α : Type} [DecidableEq κ]

theorem putAll_find?_of_mem {key : α → κ} {table : Table κ α} {rows : List α} {row : α}
    (distinct : (rows.map key).Nodup) (member : row ∈ rows) :
    (table.putAll key rows).find? (key row) = some row := by
  rcases putAll_find? key table rows (key row) with ⟨absent, _⟩ | ⟨other, present, same, found⟩
  · exact absurd (List.mem_map_of_mem member) absent
  · rwa [List.inj_on_of_nodup_map distinct present member same] at found

end Table

namespace UnitOfWork

variable {work : UnitOfWork} {tables : Tables} {id : Uuid} {write : StagedWrite}

theorem committedTables_accounts (work : UnitOfWork) (tables : Tables) :
    (work.committedTables tables).accounts =
      (tables.accounts.putAll Account.id work.inserted).putAll Account.id
        (work.writes.map fun write => write.account.stored) :=
  List.foldl_append

theorem written_ids (work : UnitOfWork) :
    (work.writes.map fun write => write.account.stored).map Account.id =
      work.writes.map (·.account.id) := by
  rw [List.map_map]
  rfl

theorem mem_of_write? (found : write? work.writes id = some write) :
    write ∈ work.writes ∧ write.account.id = id :=
  ⟨List.mem_of_find?_eq_some found, by simpa using List.find?_some found⟩

theorem write?_of_mem (distinct : (work.writes.map (·.account.id)).Nodup)
    (member : write ∈ work.writes) : write? work.writes write.account.id = some write := by
  cases found : write? work.writes write.account.id with
  | none => simpa using List.find?_eq_none.mp found write member
  | some other =>
    obtain ⟨present, same⟩ := mem_of_write? found
    rw [List.inj_on_of_nodup_map distinct present member same]

theorem committedTables_written (distinct : (work.writes.map (·.account.id)).Nodup)
    (found : write? work.writes id = some write) :
    (work.committedTables tables).accounts.find? id = some write.account.stored := by
  obtain ⟨member, rfl⟩ := mem_of_write? found
  rw [committedTables_accounts]
  have stored : write.account.stored ∈ work.writes.map fun write => write.account.stored :=
    List.mem_map.mpr ⟨write, member, rfl⟩
  exact Table.putAll_find?_of_mem (by rwa [written_ids]) stored

theorem committedTables_unwritten (missing : write? work.writes id = none) :
    (work.committedTables tables).accounts.find? id =
      (tables.accounts.putAll Account.id work.inserted).find? id := by
  rw [committedTables_accounts]
  refine Table.putAll_find?_of_not_mem fun inside => ?_
  rw [written_ids] at inside
  obtain ⟨write, member, same⟩ := List.mem_map.mp inside
  simpa [same] using List.find?_eq_none.mp missing write member

end UnitOfWork

namespace MemoryStore

variable {before : MemoryStore} {unit : UnitId}

/-- A commit that succeeds has had its checks succeed, and stores what was kept aside. -/
theorem applied (committed : (before.answer (.apply unit)).1 = .ok ()) :
    (before.unit unit).Accepted before.tables ∧
      (before.answer (.apply unit)).2.tables = (before.unit unit).committedTables before.tables := by
  cases outcome : (before.unit unit).apply before.tables with
  | error error =>
    simp only [answer, outcome] at committed
    cases committed
  | ok tables =>
    simp only [answer, outcome]
    exact ⟨UnitOfWork.accepted_of_apply outcome, UnitOfWork.apply_ok outcome⟩

theorem applies (accepted : (before.unit unit).Accepted before.tables) :
    (before.answer (.apply unit)).1 = .ok () := by
  simp only [answer, UnitOfWork.apply_of_accepted accepted]
  rfl

end MemoryStore

/-- Each was written from the row as the one before leaves it. -/
def Consecutive (accounts : List Account) : Prop :=
  accounts.IsChain fun earlier later => later.revision = earlier.revision + 1

theorem Consecutive.last {first : Account} {more : List Account}
    (consecutive : Consecutive (first :: more)) :
    ((first :: more).getLast (List.cons_ne_nil first more)).revision =
      first.revision + more.length := by
  induction more generalizing first with
  | nil => simp
  | cons second rest ih =>
    obtain ⟨follows, others⟩ := List.isChain_cons_cons.mp consecutive
    have last := ih others
    rw [List.getLast_cons (List.cons_ne_nil second rest), last, follows, List.length_cons]
    omega

/-- After a commit the accounts that were written are stored as written last, with the revision one
higher; what was stored had the revision that the first write presented. If each write presented
the revision that follows the one before then the stored revision is raised by their number. -/
theorem Course.revision_guard {considerate : Prop} {unit : UnitId} {deeds : List Deed}
    {store last : MemoryStore} (course : Course considerate unit deeds store)
    (committed : MemoryStore.Serves considerate unit store (UnitRequest.commit unit).inMemory
      (.ok () : Except LedgerError Unit) last) :
    ∃ before after, store.Passes considerate unit (store.unit unit) before ∧
      before.answer (.apply unit) = (.ok (), after) ∧ ∀ id,
        (saves id deeds = [] → id ∉ (inserts deeds).map (·.id) →
          after.tables.accounts.find? id = before.tables.accounts.find? id) ∧
        ∀ first more, saves id deeds = first :: more →
          ∃ stored now, before.tables.accounts.find? id = some stored ∧
            after.tables.accounts.find? id = some now ∧ stored.revision = first.revision ∧
            now = ((first :: more).getLast (List.cons_ne_nil first more)).stored ∧
            (Consecutive (first :: more) →
              now.revision = stored.revision + (first :: more).length) := by
  obtain ⟨before, passes, outcome⟩ := committed.commit
  have aside : KeptAside deeds (before.unit unit) := passes.content ▸ course.keptAside
  obtain ⟨accepted, tables⟩ := MemoryStore.applied outcome.symm
  refine ⟨before, (before.answer (.apply unit)).2, passes, Prod.ext outcome.symm rfl,
    fun id => ⟨fun unsaved new => ?_, fun first more saved => ?_⟩⟩
  · have unwritten : UnitOfWork.write? (before.unit unit).writes id = none := by
      rw [aside.writes, unsaved]
      rfl
    rw [tables, UnitOfWork.committedTables_unwritten unwritten]
    exact Table.putAll_find?_of_not_mem (aside.inserted ▸ new)
  · have written := aside.writes id
    rw [saved] at written
    obtain ⟨member, same⟩ := UnitOfWork.mem_of_write? written
    have expected := accepted.writes _ member
    rw [same] at expected
    obtain ⟨stored, found, presented⟩ := Option.map_eq_some_iff.mp expected
    have revision : stored.revision = first.revision := presented
    refine ⟨stored, _, found, ?_, revision, rfl, fun consecutive => ?_⟩
    · rw [tables]
      exact UnitOfWork.committedTables_written aside.distinct written
    · have last := consecutive.last
      show ((first :: more).getLast _).revision + 1 = _
      rw [last, revision, List.length_cons]
      omega

/-- A store with one account in it. -/
def MemoryStore.stocked (account : Account) : MemoryStore :=
  { MemoryStore.empty with tables := UnitOfWork.putAccount .empty account }

/-- Two writes made from the same row: both are accepted and the commit succeeds, but the stored
revision is raised by one only. -/
theorem Course.two_writes_raise_once :
    let row := Account.opened Uuid.nil Uuid.nil "USD" Decimal.zero ⟨0, 0⟩
    ∃ deeds store last, Course False ⟨0⟩ deeds store ∧ saves Uuid.nil deeds = [row, row] ∧
      MemoryStore.Serves False ⟨0⟩ store (UnitRequest.commit ⟨0⟩).inMemory
        (.ok () : Except LedgerError Unit) last ∧
      ∃ (before after : MemoryStore) (stored now : Account),
        before.answer (.apply ⟨0⟩) = (.ok (), after) ∧
        before.tables.accounts.find? Uuid.nil = some stored ∧ stored.revision = 0 ∧
        after.tables.accounts.find? Uuid.nil = some now ∧ now.revision = 1 := by
  intro row
  have begun : Course False ⟨0⟩ [] (.stocked row) := .start rfl
  have locked := Course.call (.lock ⟨0⟩ (.single Uuid.nil) 10) begun rfl rfl
    (.stored (.locked (.enter ..) (.waited (.join rfl rfl) (.serve rfl)
      (.stored (.stored (.done _ _))))))
  have first := Course.call (.save ⟨0⟩ row) locked rfl rfl (.stored (.done _ _))
  have second := Course.call (.save ⟨0⟩ row) first rfl rfl (.stored (.done _ _))
  obtain ⟨last, committed⟩ := @MemoryStore.serves_commit False ⟨0⟩ _
  obtain ⟨before, after, _, outcome, each⟩ := second.revision_guard committed
  obtain ⟨stored, now, found, written, presented, same, _⟩ := (each Uuid.nil).2 row [row] rfl
  refine ⟨_, _, last, second, rfl, committed, before, after, stored, now, outcome, found, presented,
    written, ?_⟩
  rw [same]
  rfl

end AccountLedger
