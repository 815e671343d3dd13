import AccountLedger.Proofs.Lock.Holding
import Mathlib.Data.List.Nodup
import Mathlib.Logic.Relation

/-!
Who waits for whom. Along a chain of waiting the row that is waited for ascends, and on the same row
one comes closer to the head of its queue, so that nobody waits for itself and at the end of every
chain somebody holds a row and does not wait.
-/

namespace AccountLedger.LockTable

open Relation (TransGen ReflTransGen)

/-- A party waits for a row at some place among all tickets. -/
def QueuedAt (table : LockTable) (owner : Nat) (account : Uuid) (place : Nat) : Prop :=
  ∃ ticket, table.tickets[place]? = some ticket ∧ ticket.owner = owner ∧
    ticket.account = account ∧ ticket.phase = .queued

def Waits (table : LockTable) (owner : Nat) (account : Uuid) : Prop :=
  ∃ place, table.QueuedAt owner account place

/-- A party has a row, whether it has noticed so or not. -/
def Has (table : LockTable) (owner : Nat) (account : Uuid) : Prop :=
  ∃ ticket ∈ table.tickets, ticket.owner = owner ∧ ticket.account = account ∧
    ticket.isExclusive = true

/-- One party waits for another: for a row that the other has, or behind it for the same row. -/
def WaitsFor (table : LockTable) (owner other : Nat) : Prop :=
  ∃ account place, table.QueuedAt owner account place ∧
    (table.Has other account ∨ ∃ earlier < place, table.QueuedAt other account earlier)

/-- Every party waits for one row at a time, always for one above all that it holds. -/
structure Ordered (table : LockTable) : Prop where
  one : ∀ owner, ∀ first ∈ table.awaitedBy owner, ∀ second ∈ table.awaitedBy owner, first = second
  above : ∀ owner, ∀ waited ∈ table.awaitedBy owner, ∀ guard ∈ table.heldBy owner,
    guard.account.value < waited.account.value

variable {table : LockTable} {owner other : Nat} {account : Uuid} {place : Nat}

theorem QueuedAt.awaited (queued : table.QueuedAt owner account place) :
    ∃ ticket ∈ table.tickets, table.tickets[place]? = some ticket ∧ ticket.phase = .queued ∧
      ticket.account = account ∧ ticket.guard ∈ table.awaitedBy owner := by
  obtain ⟨ticket, found, own, same, phase⟩ := queued
  have present := List.mem_of_getElem? found
  exact ⟨ticket, present, found, phase, same, ticket, present, own, by simp [phase], rfl⟩

/-- A party has one place in one queue. -/
theorem QueuedAt.unique (sound : table.Sound) (ordered : table.Ordered) {account' : Uuid}
    {place' : Nat} (first : table.QueuedAt owner account place)
    (second : table.QueuedAt owner account' place') : account = account' ∧ place = place' := by
  obtain ⟨a, presentA, foundA, _, rfl, waitsA⟩ := first.awaited
  obtain ⟨b, presentB, foundB, _, rfl, waitsB⟩ := second.awaited
  have guards := ordered.one owner _ waitsA _ waitsB
  have same := sound.eq_of_number presentA presentB (congrArg RowGuard.ticket guards)
  subst same
  have inside : place < table.tickets.length := (List.getElem?_eq_some_iff.mp foundA).1
  exact ⟨rfl, (List.getElem?_inj inside sound.numbers.of_map).mp (foundA.trans foundB.symm)⟩

/-- Whoever has a row and waits, waits for a row above it. -/
theorem QueuedAt.above_has (sound : table.Sound) (ordered : table.Ordered) {held : Uuid}
    (queued : table.QueuedAt owner account place) (has : table.Has owner held) :
    held.value < account.value := by
  obtain ⟨a, presentA, _, phase, rfl, waits⟩ := queued.awaited
  obtain ⟨b, presentB, own, rfl, exclusive⟩ := has
  rcases b.isExclusive_iff.mp exclusive with granted | isHeld
  · have notHeld : b.phase ≠ .held := by simp [granted]
    have guards := ordered.one owner _ waits _ ⟨b, presentB, own, notHeld, rfl⟩
    have same := sound.eq_of_number presentA presentB (congrArg RowGuard.ticket guards)
    rw [same, granted] at phase
    cases phase
  · exact ordered.above owner _ waits _ ⟨b, presentB, own, isHeld, rfl⟩

/-- Somebody has every row that is waited for. -/
theorem Waits.has (sound : table.Sound) (waits : table.Waits owner account) :
    ∃ holder, table.Has holder account := by
  obtain ⟨place, queued⟩ := waits
  obtain ⟨ticket, present, _, phase, rfl, _⟩ := queued.awaited
  obtain ⟨holding, presentHolding, sameMutex, exclusive⟩ := sound.taken ticket present phase
  exact ⟨holding.owner, holding, presentHolding, rfl,
    sound.account_eq presentHolding present sameMutex, exclusive⟩

/-- The rank that a chain of waiting ascends. -/
theorem WaitsFor.ascends (sound : table.Sound) (ordered : table.Ordered)
    (waitsFor : table.WaitsFor owner other) (queued : table.QueuedAt other account place) :
    ∃ before earlier, table.QueuedAt owner before earlier ∧
      (before.value < account.value ∨ before = account ∧ place < earlier) := by
  obtain ⟨before, earlier, waits, has | ⟨ahead, closer, same⟩⟩ := waitsFor
  · exact ⟨before, earlier, waits, Or.inl (queued.above_has sound ordered has)⟩
  · obtain ⟨rfl, rfl⟩ := same.unique sound ordered queued
    exact ⟨before, earlier, waits, Or.inr ⟨rfl, closer⟩⟩

theorem chain_ascends (sound : table.Sound) (ordered : table.Ordered)
    (chain : TransGen table.WaitsFor owner other) (queued : table.QueuedAt other account place) :
    ∃ before earlier, table.QueuedAt owner before earlier ∧
      (before.value < account.value ∨ before = account ∧ place < earlier) := by
  induction chain generalizing account place with
  | single waitsFor => exact waitsFor.ascends sound ordered queued
  | tail _ waitsFor ih =>
    obtain ⟨middle, between, waits, last⟩ := waitsFor.ascends sound ordered queued
    obtain ⟨before, earlier, first, rest⟩ := ih waits
    refine ⟨before, earlier, first, ?_⟩
    rcases rest with below | ⟨rfl, closer⟩
    · rcases last with below' | ⟨rfl, _⟩
      · exact Or.inl (Nat.lt_trans below below')
      · exact Or.inl below
    · exact last.imp_right fun same => ⟨same.1, Nat.lt_trans same.2 closer⟩

theorem no_cycle (sound : table.Sound) (ordered : table.Ordered) (owner : Nat) :
    ¬ TransGen table.WaitsFor owner owner := by
  intro cycle
  obtain ⟨next, first, _⟩ := TransGen.head'_iff.mp cycle
  obtain ⟨account, place, queued, _⟩ := first
  obtain ⟨before, earlier, waits, rank⟩ := chain_ascends sound ordered cycle queued
  obtain ⟨rfl, rfl⟩ := waits.unique sound ordered queued
  rcases rank with below | ⟨_, closer⟩
  · exact Nat.lt_irrefl _ below
  · exact Nat.lt_irrefl _ closer

/-- At the end of every chain somebody has the row that is waited for and waits for nothing. -/
theorem Waits.runner (sound : table.Sound) (ordered : table.Ordered)
    (waits : table.Waits owner account) :
    ∃ last row holder, ReflTransGen table.WaitsFor owner last ∧ table.Waits last row ∧
      table.Has holder row ∧ ∀ other, ¬ table.Waits holder other := by
  -- the row that is waited for ascends, and there are only finitely many above it
  induction left : 0x100000000000000000000000000000000 - account.value using Nat.strong_induction_on
    generalizing owner account with
  | _ _ ih =>
    obtain ⟨holder, has⟩ := waits.has sound
    by_cases runs : ∀ other, ¬ table.Waits holder other
    · exact ⟨owner, account, holder, .refl, waits, has, runs⟩
    · simp only [not_forall, not_not] at runs
      obtain ⟨next, waitsNext⟩ := runs
      obtain ⟨place, queued⟩ := waits
      obtain ⟨placeNext, queuedNext⟩ := waitsNext
      have above := queuedNext.above_has sound ordered has
      have bounded := next.value_lt
      obtain ⟨last, row, runner, chain, rest⟩ :=
        ih _ (by omega) ⟨placeNext, queuedNext⟩ rfl
      exact ⟨last, row, runner, .head ⟨account, place, queued, Or.inl has⟩ chain, rest⟩

end AccountLedger.LockTable
