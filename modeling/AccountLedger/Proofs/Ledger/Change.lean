import AccountLedger.Ledger.Service
import AccountLedger.Memory.UnitOfWork
import AccountLedger.Proofs.Account.Movement
import AccountLedger.Proofs.Lock.Permit
import Mathlib.Data.List.Nodup
import Mathlib.Tactic.Tauto

/-!
The calls of the ledger service that change accounts, and what each of them commits, told from the
rows it has read, the ids it has drawn and the clock readings.
-/

namespace AccountLedger

/-- A call of the ledger service. -/
inductive ServiceCall where
  | openAccount (policy : LedgerPolicy) (owner : Uuid) (currency : String)
    (overdraftLimit : Option Decimal)
  | closeAccount (policy : LedgerPolicy) (account : Uuid)
  | deposit (policy : LedgerPolicy) (account : Uuid) (amount : Amount)
  | withdraw (policy : LedgerPolicy) (account : Uuid) (amount : Amount)
  | transfer (policy : LedgerPolicy) (source target : Uuid) (amount : Amount)
  deriving DecidableEq

inductive ServiceReply where
  | account (account : Account)
  | transfer (receipt : TransferReceipt)
  deriving DecidableEq

/-- A program that ends with the outcome of a call. -/
abbrev Script : Type := Program service (Outcome LedgerError ServiceReply)

/-- The steps of a call. -/
def ServiceCall.action : ServiceCall → LedgerAction ServiceReply
  | .openAccount policy owner currency overdraftLimit =>
    ServiceReply.account <$> policy.openAccount owner currency overdraftLimit
  | .closeAccount policy account => ServiceReply.account <$> policy.closeAccount account
  | .deposit policy account amount => ServiceReply.account <$> policy.deposit account amount
  | .withdraw policy account amount => ServiceReply.account <$> policy.withdraw account amount
  | .transfer policy source target amount =>
    ServiceReply.transfer <$> policy.transfer source target amount

def ServiceCall.program (call : ServiceCall) : Script :=
  call.action.run

/-- What a call has drawn from the host: fresh ids and clock readings, each in their order. -/
structure Tape where
  ids : List Uuid
  times : List Timestamp
  deriving DecidableEq, Repr

namespace Tape

def empty : Tape := ⟨[], []⟩

def drawn (tape : Tape) (id : Uuid) : Tape := { tape with ids := tape.ids ++ [id] }

def told (tape : Tape) (time : Timestamp) : Tape := { tape with times := tape.times ++ [time] }

/-- The tape after an answer of the host. -/
def after (tape : Tape) : (request : HostRequest) → request.Answer → Tape
  | .freshId, id => tape.drawn id
  | .now, time => tape.told time
  | _, _ => tape

end Tape

namespace UnitOfWork

/-- What a unit of work would store, apart from its row locks. -/
def content (work : UnitOfWork) : UnitOfWork := { work with guards := [] }

/-- A unit of work with nothing to store that has locked some rows. -/
def locking (ids : List Uuid) : UnitOfWork := { empty with held := ⟨ids⟩ }

end UnitOfWork

/-- A change of one account and the event that tells of it. -/
structure OneChange where
  account : Uuid
  change : Account → Timestamp → Outcome Refusal Account
  event : Account → Timestamp → LedgerEvent

namespace ServiceCall

/-- The calls that change one account. -/
def one? : ServiceCall → Option OneChange
  | .closeAccount _ account =>
    some ⟨account, Account.close, fun row _ => .accountClosed account row.updatedAt⟩
  | .deposit _ account amount =>
    some ⟨account, fun row now => row.credit amount now,
      fun row now => .fundsDeposited account amount.value row.balance.value now⟩
  | .withdraw _ account amount =>
    some ⟨account, fun row now => row.debit amount now,
      fun row now => .fundsWithdrawn account amount.value row.balance.value now⟩
  | _ => none

end ServiceCall

/-- What a call commits and replies, given what it has drawn and read. -/
inductive Change : ServiceCall → Tape → List Account → UnitOfWork → ServiceReply → Prop
  | opened {policy owner currency overdraftLimit code} {id entry : Uuid} {created staged : Timestamp} :
    (overdraftLimit.getD policy.defaultOverdraftLimit).lt Decimal.zero = false →
    normalizeCurrency currency = .ok code →
    Change (.openAccount policy owner currency overdraftLimit) ⟨[id, entry], [created, staged]⟩ []
      { UnitOfWork.empty with
        inserted := [Account.opened id owner code
          (overdraftLimit.getD policy.defaultOverdraftLimit) created]
        entries := [OutboxEntry.ofEvent entry (.accountOpened id owner code created) staged] }
      (.account (Account.opened id owner code
        (overdraftLimit.getD policy.defaultOverdraftLimit) created))
  | changed {call : ServiceCall} {one : OneChange} {row after : Account} {entry : Uuid}
    {changed happened staged : Timestamp} :
    call.one? = some one → row.id = one.account → one.change row changed = .ok after →
    Change call ⟨[entry], [changed, happened, staged]⟩ [row]
      { UnitOfWork.locking [one.account] with
        writes := [⟨after.revision, after⟩]
        entries := [OutboxEntry.ofEvent entry (one.event after.stored happened) staged] }
      (.account after.stored)
  | transferred {policy source target amount} {order : LockOrder} {rows : List Account}
    {paying paid payingAfter paidAfter : Account} {transfer entry : Uuid}
    {debited credited happened staged : Timestamp} :
    LockOrder.pair source target = .ok order → rows.map (·.id) = order.ids →
    rows.find? (fun row => row.id == source) = some paying →
    rows.find? (fun row => row.id == target) = some paid →
    LedgerAction.checkSides ⟨paying, paid⟩ amount = .ok () →
    paying.debit amount debited = .ok payingAfter → paid.credit amount credited = .ok paidAfter →
    Change (.transfer policy source target amount)
      ⟨[transfer, entry], [debited, credited, happened, staged]⟩ rows
      { UnitOfWork.locking order.ids with
        writes := [⟨payingAfter.revision, payingAfter⟩, ⟨paidAfter.revision, paidAfter⟩]
        entries := [OutboxEntry.ofEvent entry
          (.fundsTransferred transfer source target amount.value happened) staged] }
      (.transfer ⟨transfer, payingAfter.stored, paidAfter.stored, amount⟩)

theorem ServiceCall.one?_moved {call : ServiceCall} {one : OneChange} {row after : Account}
    {now : Timestamp} (known : call.one? = some one) (done : one.change row now = .ok after) :
    row.Moved after := by
  cases call with
  | closeAccount policy account =>
    cases known
    exact Account.close_moved done
  | deposit policy account amount =>
    cases known
    exact Account.credit_moved done
  | withdraw policy account amount =>
    cases known
    exact Account.debit_moved done
  | _ => cases known

namespace LockOrder

theorem mem_insertId {id other : Uuid} {ids : List Uuid} :
    other ∈ insertId id ids ↔ other = id ∨ other ∈ ids := by
  induction ids with
  | nil => simp [insertId]
  | cons head rest ih =>
    unfold insertId
    split
    · simp
    · split
      · next same =>
        rw [Uuid.eq_of_value same]
        simp
      · simp only [List.mem_cons, ih]
        tauto

theorem pair_ok {source target : Uuid} {order : LockOrder}
    (paired : pair source target = .ok order) :
    source ≠ target ∧ ∀ id, id ∈ order.ids ↔ id = source ∨ id = target := by
  unfold pair at paired
  split at paired
  · cases paired
  · next differs =>
    cases paired
    refine ⟨differs, fun id => ?_⟩
    simp only [ofList, List.foldl_cons, List.foldl_nil, mem_insertId, List.not_mem_nil, or_false]
    exact Or.comm

/-- Rows in the order of their ids are different rows. -/
theorem row_unique {order : LockOrder} {rows : List Account} (ids : rows.map (·.id) = order.ids)
    {first second : Account} (one : first ∈ rows) (two : second ∈ rows) (same : first.id = second.id) :
    first = second := by
  have nodup : (rows.map (·.id)).Nodup := by
    rw [ids]
    refine List.Pairwise.imp ?_ order.ascending
    intro a b below equal
    rw [equal] at below
    exact Nat.lt_irrefl _ below
  exact List.inj_on_of_nodup_map nodup one two same

end LockOrder

namespace Change

variable {call : ServiceCall} {tape : Tape} {reads : List Account} {work : UnitOfWork}
  {reply : ServiceReply}

/-- A row taken out of those of a transfer. -/
theorem found_row {rows : List Account} {id : Uuid} {row : Account}
    (found : rows.find? (fun row => row.id == id) = some row) : row ∈ rows ∧ row.id = id :=
  ⟨List.mem_of_find?_eq_some found, by simpa using List.find?_some found⟩

/-- Every write expects the revision that was read. -/
theorem expected (change : Change call tape reads work reply) :
    ∀ write ∈ work.writes, ∃ row ∈ reads, row.id = write.account.id ∧
      row.revision = write.expected := by
  cases change with
  | opened => simp [UnitOfWork.empty]
  | changed known same done =>
    have moved := ServiceCall.one?_moved known done
    simp [moved.terms.id, moved.revision]
  | transferred paired ids foundPaying foundPaid checked debit credit =>
    have debited := Account.debit_moved debit
    have credited := Account.credit_moved credit
    intro write member
    simp only [List.mem_cons, List.not_mem_nil, or_false] at member
    rcases member with rfl | rfl
    · exact ⟨_, (found_row foundPaying).1, debited.terms.id.symm, debited.revision.symm⟩
    · exact ⟨_, (found_row foundPaid).1, credited.terms.id.symm, credited.revision.symm⟩

/-- Every row that was read is written. -/
theorem read_written (change : Change call tape reads work reply) :
    ∀ row ∈ reads, ∃ write ∈ work.writes, write.account.id = row.id ∧
      write.expected = row.revision := by
  cases change with
  | opened => simp
  | changed known same done =>
    have moved := ServiceCall.one?_moved known done
    simp [moved.terms.id, moved.revision]
  | transferred paired ids foundPaying foundPaid checked debit credit =>
    have debited := Account.debit_moved debit
    have credited := Account.credit_moved credit
    have paying := found_row foundPaying
    have paid := found_row foundPaid
    intro row member
    have inside : row.id ∈ _ := ids ▸ List.mem_map_of_mem member
    rcases ((LockOrder.pair_ok paired).2 _).mp inside with same | same
    · have unique := LockOrder.row_unique ids member paying.1 (same.trans paying.2.symm)
      subst unique
      exact ⟨_, List.mem_cons_self, debited.terms.id, debited.revision⟩
    · have unique := LockOrder.row_unique ids member paid.1 (same.trans paid.2.symm)
      subst unique
      exact ⟨_, List.mem_cons_of_mem _ List.mem_cons_self, credited.terms.id, credited.revision⟩

/-- A new account has an id that was drawn for it. -/
theorem inserted_drawn (change : Change call tape reads work reply) :
    ∀ account ∈ work.inserted, account.id ∈ tape.ids := by
  cases change with
  | opened => simp [Account.opened]
  | _ => simp [UnitOfWork.locking, UnitOfWork.empty]

theorem entry_drawn (change : Change call tape reads work reply) :
    ∀ entry ∈ work.entries, entry.id ∈ tape.ids := by
  cases change <;> simp [OutboxEntry.ofEvent]

end Change

end AccountLedger
