import AccountLedger.Proofs.Memory.RevisionGuard
import Mathlib.Logic.Function.Basic

/-!
A unit of work reads what it has written, and commits what was written from what it read, as far as
the accounts that it inserted itself are left as they were inserted: a write of one of these is
accepted and read back, but then the commit finds nothing stored in the revision that it expects.
-/

namespace AccountLedger

open Deed (inserts saves)

namespace Deed

/-- The rows that have been read and not been written since, once this has been done too. -/
def lend (lent : Uuid → Option Account) : Deed → Uuid → Option Account
  | ⟨.save _ account, _⟩ => Function.update lent account.id none
  | deed => fun id => (deed.lent? id).or (lent id)

/-- The row of an id as it was read last, if it has not been written since. -/
def lent (deeds : List Deed) : Uuid → Option Account := deeds.foldl lend fun _ => none

theorem lent_concat (deeds : List Deed) (deed : Deed) :
    lent (deeds ++ [deed]) = lend (lent deeds) deed :=
  List.foldl_append

/-- An account as the unit of work has written it. -/
def staged (deeds : List Deed) (id : Uuid) : Option Account :=
  ((saves id deeds).getLast?.map Account.stored).or
    ((inserts deeds).find? fun account => account.id == id)

end Deed

open Deed (lent staged)

theorem StagedWrite.of_account (accepted : List Account) :
    (of accepted).map (·.account) = accepted.getLast? := by
  cases accepted with
  | nil => rfl
  | cons first more => exact (List.getLast?_eq_some_getLast (List.cons_ne_nil first more)).symm

theorem KeptAside.staged {deeds : List Deed} {work : UnitOfWork} (aside : KeptAside deeds work)
    (id : Uuid) : work.staged? id = staged deeds id := by
  rw [UnitOfWork.staged?_eq, aside.writes, aside.inserted, Deed.staged,
    ← StagedWrite.of_account, Option.map_map]
  rfl

namespace UnitOfWork

variable {work : UnitOfWork} {tables : Tables} {id : Uuid} {row : Account}

theorem row_ok : work.row tables id = .ok row ↔
    (work.staged? id).or (tables.accounts.find? id) = some row := by
  unfold UnitOfWork.row
  cases (work.staged? id).or (tables.accounts.find? id) <;> simp

/-- What was read for an id of an order is its row. -/
theorem rows_lookup {ids : List Uuid} {rows : List Account}
    (read : ids.mapM (work.row tables) = .ok rows) (found : (ids.zip rows).lookup id = some row) :
    id ∈ ids ∧ work.row tables id = .ok row := by
  induction ids generalizing rows with
  | nil => cases found
  | cons head rest ih =>
    rw [List.mapM_cons] at read
    cases first : work.row tables head with
    | error error =>
      rw [first] at read
      cases read
    | ok own =>
      cases others : rest.mapM (work.row tables) with
      | error error =>
        rw [first, others] at read
        cases read
      | ok more =>
        rw [first, others] at read
        cases read
        rw [List.zip_cons_cons, List.lookup_cons] at found
        by_cases same : id = head
        · subst same
          simp only [BEq.rfl] at found
          cases found
          exact ⟨List.mem_cons_self, first⟩
        · rw [beq_eq_false_iff_ne.mpr same] at found
          exact (ih others found).imp_left (List.mem_cons_of_mem _)

end UnitOfWork

/-- Every account that is written was read under a lock and not written since, and carries the
revision that was read; no account is inserted twice. -/
structure Orderly (unit : UnitId) (deeds : List Deed) : Prop where
  based : ∀ early account answer late, deeds = early ++ ⟨.save unit account, answer⟩ :: late →
    ∃ row, lent early account.id = some row ∧ account.revision = row.revision
  distinct : ((inserts deeds).map (·.id)).Nodup

theorem Orderly.before {unit : UnitId} {deeds : List Deed} {deed : Deed}
    (orderly : Orderly unit (deeds ++ [deed])) : Orderly unit deeds := by
  refine ⟨fun early account answer late split => ?_, ?_⟩
  · refine orderly.based early account answer (late ++ [deed]) ?_
    rw [split, List.append_assoc, List.cons_append]
  · have distinct := orderly.distinct
    rw [Deed.inserts_concat, List.map_append] at distinct
    exact (List.nodup_append.mp distinct).1

theorem orderly_nil (unit : UnitId) : Orderly unit [] :=
  ⟨fun early _ _ _ split => by simp at split, List.nodup_nil⟩

/-- What stands in a list with one more at its end. -/
theorem split_concat {α : Type} {list early late : List α} {last found : α}
    (split : list ++ [last] = early ++ found :: late) :
    (list = early ∧ last = found) ∨ ∃ rest, list = early ++ found :: rest := by
  rcases List.eq_nil_or_concat late with rfl | ⟨rest, other, rfl⟩
  · obtain ⟨same, ends⟩ := List.append_inj' split rfl
    exact Or.inl ⟨same, List.cons.inj ends |>.1⟩
  · rw [List.concat_eq_append, ← List.cons_append, ← List.append_assoc] at split
    exact Or.inr ⟨rest, (List.append_inj' split rfl).1⟩

theorem Orderly.concat {unit : UnitId} {deeds : List Deed} {deed : Deed}
    (orderly : Orderly unit deeds)
    (based : ∀ account answer, deed = ⟨.save unit account, answer⟩ →
      ∃ row, lent deeds account.id = some row ∧ account.revision = row.revision)
    (distinct : ((inserts (deeds ++ [deed])).map (·.id)).Nodup) :
    Orderly unit (deeds ++ [deed]) := by
  refine ⟨fun early account answer late split => ?_, distinct⟩
  rcases split_concat split with ⟨rfl, last⟩ | ⟨rest, same⟩
  · exact based account answer last
  · exact orderly.based early account answer rest same

namespace Course

/-- What an orderly course keeps, as long as nobody else touches the rows of the unit. -/
structure Keeps (unit : UnitId) (deeds : List Deed) (store : MemoryStore) : Prop where
  reading : ∀ id row, lent deeds id = some row → id ∈ (store.unit unit).held.ids ∧
    (staged deeds id = none → store.tables.accounts.find? id = some row)
  written : ∀ id first more, saves id deeds = first :: more → id ∉ (inserts deeds).map (·.id) →
    id ∈ (store.unit unit).held.ids ∧
      ∃ stored, store.tables.accounts.find? id = some stored ∧ stored.revision = first.revision
  accepted : ∀ account outcome, ⟨.save unit account, outcome⟩ ∈ deeds → outcome = .ok ()
  own : ∀ early order timeoutMs rows late,
    deeds = early ++ ⟨.lock unit order timeoutMs, .ok rows⟩ :: late → ∀ id row,
      (order.ids.zip rows).lookup id = some row → ∀ mine, staged early id = some mine → row = mine

variable {unit : UnitId} {deeds : List Deed} {store after : MemoryStore} {work : UnitOfWork}

theorem keeps_start : Keeps unit [] store :=
  ⟨fun _ _ => nofun, fun _ _ _ => nofun, fun _ _ => nofun, fun early _ _ _ _ split => by
    simp at split⟩

/-- One more thing done that writes nothing: what was read before is still so, and what it reads
itself is as the unit of work has it. -/
theorem Keeps.unsaved (keeps : Keeps unit deeds store) {deed : Deed}
    (passes : store.Passes True unit work after) (unsaved : deed.saved? = none)
    (lends : Deed.lend (lent deeds) deed = fun id => (deed.lent? id).or (lent deeds id))
    (other : ∀ account outcome, deed ≠ ⟨.save unit account, outcome⟩)
    (held : ∀ id ∈ (store.unit unit).held.ids, id ∈ work.held.ids)
    (reads : ∀ id row, deed.lent? id = some row → id ∈ work.held.ids ∧
      (staged deeds id).or (after.tables.accounts.find? id) = some row) :
    Keeps unit (deeds ++ [deed]) after := by
  have stays : ∀ id ∈ (store.unit unit).held.ids,
      after.tables.accounts.find? id = store.tables.accounts.find? id :=
    fun id inside => passes.rows trivial id (Or.inl inside)
  have same : ∀ id, saves id (deeds ++ [deed]) = saves id deeds :=
    fun id => Deed.saves_concat_of_none unsaved id deeds
  have unstaged : ∀ id, staged (deeds ++ [deed]) id = none → staged deeds id = none := by
    intro id none
    simp only [staged, same, Deed.inserts_concat, List.find?_append, Option.or_eq_none_iff]
      at none ⊢
    exact ⟨none.1, none.2.1⟩
  rw [← passes.content] at held reads
  refine ⟨fun id row found => ?_, fun id first more saved new => ?_,
    fun account outcome member => ?_, fun early order timeoutMs rows late split => ?_⟩
  · rw [Deed.lent_concat, lends] at found
    rcases Option.or_eq_some_iff.mp found with now | ⟨_, already⟩
    · obtain ⟨inside, value⟩ := reads id row now
      refine ⟨inside, fun none => ?_⟩
      rwa [unstaged id none, Option.none_or] at value
    · obtain ⟨inside, stored⟩ := keeps.reading id row already
      exact ⟨held id inside, fun none => (stays id inside).trans (stored (unstaged id none))⟩
  · rw [same] at saved
    rw [Deed.inserts_concat, List.map_append, List.mem_append, not_or] at new
    obtain ⟨inside, stored, found, revision⟩ := keeps.written id first more saved new.1
    exact ⟨held id inside, stored, (stays id inside).trans found, revision⟩
  · rcases List.mem_append.mp member with member | member
    · exact keeps.accepted account outcome member
    · exact absurd (List.mem_singleton.mp member).symm (other account outcome)
  · rcases split_concat split with ⟨rfl, rfl⟩ | ⟨rest, rfl⟩
    · intro id row found mine own
      obtain ⟨_, value⟩ := reads id row found
      rw [own, Option.some_or] at value
      exact (Option.some.inj value).symm
    · exact keeps.own early order timeoutMs rows rest rfl

theorem saves_saved (account : Account) (id : Uuid) (deeds : List Deed) :
    saves id (deeds ++ [⟨.save unit account, .ok ()⟩]) =
      if account.id = id then saves id deeds ++ [account] else saves id deeds := by
  rw [Deed.saves_concat]
  by_cases same : account.id = id <;> simp [Deed.saved?, same]

/-- What is neither written nor inserted is stored as it was read. -/
theorem Keeps.unwritten (keeps : Keeps unit deeds store) {id : Uuid} {row : Account}
    (borrowed : lent deeds id = some row) (unsaved : saves id deeds = [])
    (new : id ∉ (inserts deeds).map (·.id)) : store.tables.accounts.find? id = some row := by
  have absent : (inserts deeds).find? (fun other => other.id == id) = none :=
    List.find?_eq_none.mpr fun other member equal =>
      new (List.mem_map.mpr ⟨other, member, by simpa using equal⟩)
  exact (keeps.reading id row borrowed).2 (by simp [staged, unsaved, absent])

/-- A row that was read is written. It is still held, so that the write is accepted, and if it is
the first then it presents the revision that is stored. -/
theorem Keeps.saved (keeps : Keeps unit deeds store) (account : Account) {row : Account}
    (aside : KeptAside deeds (store.unit unit))
    (passes : store.Passes True unit ((store.unit unit).save account).2 after)
    (borrowed : lent deeds account.id = some row) (revision : account.revision = row.revision) :
    Keeps unit (deeds ++ [⟨.save unit account, ((store.unit unit).save account).1⟩]) after := by
  have held := (keeps.reading account.id row borrowed).1
  have saved : ((store.unit unit).save account).1 = .ok () := by
    simp [UnitOfWork.save, HeldLocks.contains_iff.mpr held]
  have content : (after.unit unit).held = (store.unit unit).held := by
    rw [passes.content, UnitOfWork.save_held]
  have stays : ∀ id ∈ (store.unit unit).held.ids,
      after.tables.accounts.find? id = store.tables.accounts.find? id :=
    fun id inside => passes.rows trivial id (Or.inl inside)
  have inserted : inserts (deeds ++ [⟨.save unit account, .ok ()⟩]) = inserts deeds := by
    rw [Deed.inserts_concat]
    exact List.append_nil _
  rw [saved]
  refine ⟨fun id found present => ?_, fun id first more written new => ?_,
    fun other outcome member => ?_, fun early order timeoutMs rows late split => ?_⟩
  · rw [Deed.lent_concat] at present
    have differs : account.id ≠ id := by
      rintro rfl
      simp [Deed.lend] at present
    have before : lent deeds id = some found := by
      simpa [Deed.lend, Function.update_of_ne (Ne.symm differs)] using present
    obtain ⟨inside, value⟩ := keeps.reading id found before
    refine ⟨content ▸ inside, fun none => ?_⟩
    simp only [staged, saves_saved, inserted, if_neg differs] at none
    exact (stays id inside).trans (value none)
  · rw [inserted] at new
    rw [saves_saved] at written
    by_cases same : account.id = id
    · subst same
      rw [if_pos rfl] at written
      rw [content, stays _ held]
      refine ⟨held, ?_⟩
      cases earlier : saves account.id deeds with
      | nil =>
        rw [earlier] at written
        cases written
        exact ⟨row, keeps.unwritten borrowed earlier new, revision.symm⟩
      | cons head rest =>
        rw [earlier] at written
        obtain ⟨rfl, _⟩ := List.cons.inj written
        exact (keeps.written account.id head rest earlier new).2
    · rw [if_neg same] at written
      obtain ⟨inside, found⟩ := keeps.written id first more written new
      rw [content, stays id inside]
      exact ⟨inside, found⟩
  · rcases List.mem_append.mp member with member | member
    · exact keeps.accepted other outcome member
    · cases List.mem_singleton.mp member
      rfl
  · rcases split_concat split with ⟨_, wrong⟩ | ⟨rest, rfl⟩
    · cases wrong
    · exact keeps.own early order timeoutMs rows rest rfl

theorem keeps (course : Course True unit deeds store) (orderly : Orderly unit deeds) :
    Keeps unit deeds store := by
  refine course.induction (motive := fun deeds store => Orderly unit deeds → Keeps unit deeds store)
    ?start ?lock ?insert ?save ?stage orderly
  case start => exact fun _ _ _ => keeps_start
  case lock =>
    intro deeds store order timeoutMs answer after guards course ih passes read orderly
    have aside := course.keptAside
    refine (ih orderly.before).unsaved passes rfl rfl
      (fun _ _ same => nomatch congrArg Deed.request same) (fun id inside => ?_)
      fun id row lends => ?_
    · rw [UnitOfWork.hold_ids]
      exact List.mem_append_left _ inside
    · cases answer with
      | error error => cases lends
      | ok rows =>
        obtain ⟨accounts, values⟩ := read rows rfl
        obtain ⟨inside, value⟩ := UnitOfWork.rows_lookup values lends
        refine ⟨?_, ?_⟩
        · rw [UnitOfWork.hold_ids, accounts, List.mem_append]
          by_cases already : id ∈ (store.unit unit).held.ids
          · exact Or.inl already
          · exact Or.inr (HeldLocks.mem_fresh.mpr ⟨inside, already⟩)
        · rw [← aside.staged]
          exact UnitOfWork.row_ok.mp value
  case insert =>
    intro deeds store account answer after _ ih passes orderly
    exact (ih orderly.before).unsaved passes rfl rfl
      (fun _ _ same => nomatch congrArg Deed.request same) (fun _ inside => inside) fun _ _ => nofun
  case save =>
    intro deeds store account after course ih passes orderly
    obtain ⟨row, borrowed, revision⟩ :=
      orderly.based deeds account ((store.unit unit).save account).1 [] rfl
    exact (ih orderly.before).saved account course.keptAside passes borrowed revision
  case stage =>
    intro deeds store entry answer after _ ih passes orderly
    exact (ih orderly.before).unsaved passes rfl rfl
      (fun _ _ same => nomatch congrArg Deed.request same) (fun _ inside => inside) fun _ _ => nofun

/-- A commit of a unit of work whose rows nobody else has touched succeeds just when none of the
accounts that it inserted was written again. -/
theorem accepted_iff {before : MemoryStore} (keeps : Keeps unit deeds store)
    (aside : KeptAside deeds (store.unit unit))
    (passes : store.Passes True unit (store.unit unit) before)
    (new : ∀ account ∈ inserts deeds, store.tables.accounts.find? account.id = none) :
    (before.unit unit).Accepted before.tables ↔
      ∀ account ∈ inserts deeds, saves account.id deeds = [] := by
  have stays : ∀ id, (store.unit unit).Owns id →
      before.tables.accounts.find? id = store.tables.accounts.find? id := passes.rows trivial
  have absent : ∀ account ∈ inserts deeds, before.tables.accounts.find? account.id = none := by
    intro account member
    rw [stays _ (Or.inr (aside.inserted ▸ List.mem_map_of_mem member))]
    exact new account member
  rw [passes.content]
  constructor
  · intro accepted account member
    cases written : saves account.id deeds with
    | nil => rfl
    | cons first more =>
      have write := aside.writes account.id
      rw [written] at write
      obtain ⟨inside, same⟩ := UnitOfWork.mem_of_write? write
      have expected := accepted.writes _ inside
      rw [same, absent account member] at expected
      cases expected
  · intro unsaved
    refine ⟨fun account member => absent account (aside.inserted ▸ member), fun write member => ?_⟩
    have found := UnitOfWork.write?_of_mem aside.distinct member
    have written := found.symm.trans (aside.writes write.account.id)
    cases all : saves write.account.id deeds with
    | nil =>
      rw [all] at written
      cases written
    | cons first more =>
      rw [all] at written
      have notInserted : write.account.id ∉ (inserts deeds).map (·.id) := by
        intro inside
        obtain ⟨account, present, same⟩ := List.mem_map.mp inside
        have none := unsaved account present
        rw [show account.id = write.account.id from same, all] at none
        cases none
      obtain ⟨held, stored, there, revision⟩ := keeps.written _ first more all notInserted
      rw [stays _ (Or.inl held), there, Option.some.inj written]
      exact congrArg some revision

/-- A unit of work in which every write starts from a row that it read under a lock, and whose rows
nobody else touches: every write is accepted, every row that it reads after writing it is as it wrote
it last, and the commit succeeds unless an account that it inserted was written again. Then every
account is stored as written last, with the revision one higher, or as inserted. -/
theorem read_your_writes {last : MemoryStore} {answer : (UnitRequest.commit unit).Answer}
    (course : Course True unit deeds store) (orderly : Orderly unit deeds)
    (new : ∀ account ∈ inserts deeds, store.tables.accounts.find? account.id = none)
    (ended : MemoryStore.Serves True unit store (UnitRequest.commit unit).inMemory answer last) :
    (∀ account outcome, ⟨.save unit account, outcome⟩ ∈ deeds → outcome = .ok ()) ∧
    (∀ early order timeoutMs rows late,
      deeds = early ++ ⟨.lock unit order timeoutMs, .ok rows⟩ :: late → ∀ id row,
        (order.ids.zip rows).lookup id = some row → ∀ own, staged early id = some own → row = own) ∧
    (answer = .ok () ↔ ∀ account ∈ inserts deeds, saves account.id deeds = []) ∧
    (answer = .ok () → ∃ before after, store.Passes True unit (store.unit unit) before ∧
      before.answer (.apply unit) = (.ok (), after) ∧
      (∀ id written, (saves id deeds).getLast? = some written →
        after.tables.accounts.find? id = some written.stored) ∧
      ∀ account ∈ inserts deeds, after.tables.accounts.find? account.id = some account) := by
  have keeps := course.keeps orderly
  have aside := course.keptAside
  obtain ⟨before, passes, outcome⟩ := ended.commit
  have accepted := accepted_iff keeps aside passes new
  have succeeds : answer = .ok () ↔ ∀ account ∈ inserts deeds, saves account.id deeds = [] := by
    rw [outcome, ← accepted]
    exact ⟨fun committed => (MemoryStore.applied committed).1, MemoryStore.applies⟩
  refine ⟨keeps.accepted, keeps.own, succeeds, fun committed => ?_⟩
  have unsaved := succeeds.mp committed
  obtain ⟨_, tables⟩ := MemoryStore.applied (outcome.symm.trans committed)
  rw [passes.content] at tables
  refine ⟨before, (before.answer (.apply unit)).2, passes,
    Prod.ext (outcome.symm.trans committed) rfl, fun id written latest => ?_,
    fun account member => ?_⟩
  · rw [← StagedWrite.of_account, ← aside.writes, Option.map_eq_some_iff] at latest
    obtain ⟨write, found, rfl⟩ := latest
    rw [tables]
    exact UnitOfWork.committedTables_written aside.distinct found
  · have unwritten : UnitOfWork.write? (store.unit unit).writes account.id = none := by
      rw [aside.writes, unsaved account member]
      rfl
    rw [tables, UnitOfWork.committedTables_unwritten unwritten, aside.inserted]
    exact Table.putAll_find?_of_mem orderly.distinct member

/-- An account is written twice, each time from the row as it was read last, and another one is
inserted. -/
theorem rewritten_and_inserted :
    let row := Account.opened Uuid.nil Uuid.nil "USD" Decimal.zero ⟨0, 0⟩
    let added := Account.opened (Uuid.ofNat 1) Uuid.nil "USD" Decimal.zero ⟨0, 0⟩
    let read (found : Account) : Deed := ⟨.lock ⟨0⟩ (.single Uuid.nil) 10, .ok [found]⟩
    let write (account : Account) : Deed := ⟨.save ⟨0⟩ account, .ok ()⟩
    let deeds := [read row, write row, read row.stored, write row.stored,
      ⟨.insert ⟨0⟩ added, .ok ()⟩]
    ∃ store last, Course True ⟨0⟩ deeds store ∧ Orderly ⟨0⟩ deeds ∧
      MemoryStore.Serves True ⟨0⟩ store (UnitRequest.commit ⟨0⟩).inMemory
        (.ok () : Except LedgerError Unit) last ∧
      ∃ before after : MemoryStore, before.answer (.apply ⟨0⟩) = (.ok (), after) ∧
        after.tables.accounts.find? Uuid.nil = some row.stored.stored ∧
        after.tables.accounts.find? added.id = some added := by
  intro row added read write deeds
  have begun : Course True ⟨0⟩ [] (.stocked row) := .start rfl
  have locked := Course.call (.lock ⟨0⟩ (.single Uuid.nil) 10) begun rfl rfl
    (.stored (.locked (.enter ..) (.waited (.join rfl rfl) (.serve rfl)
      (.stored (.stored (.done _ _))))))
  have first := Course.call (.save ⟨0⟩ row) locked rfl rfl (.stored (.done _ _))
  have again := Course.call (.lock ⟨0⟩ (.single Uuid.nil) 10) first rfl rfl
    (.stored (.stored (.stored (.done _ _))))
  have second := Course.call (.save ⟨0⟩ row.stored) again rfl rfl (.stored (.done _ _))
  have course : Course True ⟨0⟩ deeds _ :=
    Course.call (.insert ⟨0⟩ added) second rfl rfl (.stored (.done _ _))
  have reads : Orderly ⟨0⟩ [read row] := (orderly_nil ⟨0⟩).concat
    (fun _ _ same => nomatch congrArg Deed.request same) List.nodup_nil
  have writes : Orderly ⟨0⟩ [read row, write row] := reads.concat
    (fun account answer same => ⟨row, by cases same; exact ⟨rfl, rfl⟩⟩) List.nodup_nil
  have rereads : Orderly ⟨0⟩ [read row, write row, read row.stored] := writes.concat
    (fun _ _ same => nomatch congrArg Deed.request same) List.nodup_nil
  have rewrites : Orderly ⟨0⟩ [read row, write row, read row.stored, write row.stored] :=
    rereads.concat (fun account answer same => ⟨row.stored, by cases same; exact ⟨rfl, rfl⟩⟩)
      List.nodup_nil
  have orderly : Orderly ⟨0⟩ deeds := rewrites.concat
    (fun _ _ same => nomatch congrArg Deed.request same) (List.nodup_singleton _)
  -- what the store has come to is not looked into from here on
  have concluded : ∀ store, Course True ⟨0⟩ deeds store →
      store.tables.accounts.find? added.id = none → ∃ last,
        MemoryStore.Serves True ⟨0⟩ store (UnitRequest.commit ⟨0⟩).inMemory
          (.ok () : Except LedgerError Unit) last ∧
        ∃ before after : MemoryStore, before.answer (.apply ⟨0⟩) = (.ok (), after) ∧
          after.tables.accounts.find? Uuid.nil = some row.stored.stored ∧
          after.tables.accounts.find? added.id = some added := by
    intro store course absent
    obtain ⟨last, ends⟩ := @MemoryStore.serves_commit True ⟨0⟩ store
    obtain ⟨_, _, succeeds, commits⟩ := course.read_your_writes orderly
      (fun account member => List.mem_singleton.mp member ▸ absent) ends
    have accepted := succeeds.mpr fun account member => by
      rw [List.mem_singleton.mp member]
      rfl
    obtain ⟨before, after, _, outcome, written, inserted⟩ := commits accepted
    exact ⟨last, accepted ▸ ends, before, after, outcome, written Uuid.nil row.stored rfl,
      inserted added (List.mem_singleton.mpr rfl)⟩
  obtain ⟨last, ends⟩ := concluded _ course rfl
  exact ⟨_, last, course, orderly, ends⟩

/-- An account that was inserted is read back and written, in one unit of work that nobody else is
there to disturb: everything is accepted, and the commit complains that the account is not stored. -/
theorem rewritten_insert_fails :
    let added := Account.opened Uuid.nil Uuid.nil "USD" Decimal.zero ⟨0, 0⟩
    let deeds : List Deed := [⟨.insert ⟨0⟩ added, .ok ()⟩,
      ⟨.lock ⟨0⟩ (.single Uuid.nil) 10, .ok [added]⟩, ⟨.save ⟨0⟩ added, .ok ()⟩]
    ∃ store last, Course True ⟨0⟩ deeds store ∧ Orderly ⟨0⟩ deeds ∧
      (∀ account ∈ inserts deeds, store.tables.accounts.find? account.id = none) ∧
      MemoryStore.Serves True ⟨0⟩ store (UnitRequest.commit ⟨0⟩).inMemory
        (.error (.concurrentModification Uuid.nil 0 none) : Except LedgerError Unit) last := by
  intro added deeds
  have begun : Course True ⟨0⟩ [] .empty := .start rfl
  have inserted := Course.call (.insert ⟨0⟩ added) begun rfl rfl (.stored (.done _ _))
  have locked := Course.call (.lock ⟨0⟩ (.single Uuid.nil) 10) inserted rfl rfl
    (.stored (.locked (.enter ..) (.waited (.join rfl rfl) (.serve rfl)
      (.stored (.stored (.done _ _))))))
  have course : Course True ⟨0⟩ deeds _ :=
    Course.call (.save ⟨0⟩ added) locked rfl rfl (.stored (.done _ _))
  have first : Orderly ⟨0⟩ [⟨.insert ⟨0⟩ added, .ok ()⟩] := (orderly_nil ⟨0⟩).concat
    (fun _ _ same => nomatch congrArg Deed.request same) (List.nodup_singleton _)
  have second : Orderly ⟨0⟩ [⟨.insert ⟨0⟩ added, .ok ()⟩,
      ⟨.lock ⟨0⟩ (.single Uuid.nil) 10, .ok [added]⟩] := first.concat
    (fun _ _ same => nomatch congrArg Deed.request same) (List.nodup_singleton _)
  have orderly : Orderly ⟨0⟩ deeds := second.concat
    (fun account answer same => ⟨added, by cases same; exact ⟨rfl, rfl⟩⟩) (List.nodup_singleton _)
  obtain ⟨last, committed⟩ := @MemoryStore.serves_commit True ⟨0⟩ _
  exact ⟨_, last, course, orderly,
    fun account member => by cases List.mem_singleton.mp member; rfl, committed⟩

end Course

end AccountLedger
