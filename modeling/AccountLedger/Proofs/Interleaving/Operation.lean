import AccountLedger.Proofs.Interleaving.Standing
import AccountLedger.Proofs.Memory.Units

/-!
Every operation of a unit of work keeps to the rules for row locks and leaves the unit with the
locks of its guards, or with none if it was the last one.
-/

namespace AccountLedger

namespace Standing

open LockTable (except)

variable {unit : UnitId} {standing : Standing} {α : Type}

theorem Valid.guard_nodup (valid : standing.Valid) : standing.work.guards.Nodup := by
  have accounts : (standing.work.guards.map (·.account)).Nodup := by
    refine List.Pairwise.imp ?_ valid.ascending
    intro a b below same
    rw [same] at below
    exact Nat.lt_irrefl _ below
  exact List.Nodup.of_map (·.account) accounts

/-- Tickets are different as far as the locks are. -/
def Distinct (standing : Standing) : Prop :=
  ∀ first second, (first ∈ standing.held ∨ first ∈ standing.awaited) →
    (second ∈ standing.held ∨ second ∈ standing.awaited) → first.ticket = second.ticket →
      first = second

theorem tickets_nodup {guards : List RowGuard} (nodup : guards.Nodup)
    (inside : ∀ guard ∈ guards, guard ∈ standing.held) (distinct : standing.Distinct) :
    (guards.map (·.ticket)).Nodup :=
  nodup.map_on fun first one second two same =>
    distinct first second (Or.inl (inside first one)) (Or.inl (inside second two)) same

theorem ensures_finish {result : Unit → Standing → Prop} (valid : standing.Valid)
    (distinct : standing.Distinct) (resting : standing.Resting)
    (after : result () bare) :
    unit.finish.Ensures (rule unit) standing result := by
  refine ⟨rfl, ?_⟩
  show (UnitId.locking _).Ensures _ _ _
  rw [ensures_locking]
  refine ensures_releaseAll ∅ standing.work.guards resting.awaited ?_
    ⟨tickets_nodup valid.guard_nodup valid.guarded distinct, by simp⟩ (by simp [UnitOfWork.empty])
    after
  rw [resting.held]
  ext guard
  simp [plus]

/-- Locking the rows of an order ends in one of three ways: it is out of order, a row cannot be had
in time, or all rows are locked and read. -/
theorem ensures_lockRows {result : Except LedgerError (List Account) → Standing → Prop}
    (order : LockOrder) (timeoutMs : Nat) (valid : standing.Valid) (resting : standing.Resting)
    (refused : ∀ error, standing.work.held.permit order = .error error →
      result (.error error) standing)
    (late : ∀ account waitedMs, result (.error (.lockTimeout account waitedMs)) standing)
    (locked : ∀ (more : List RowGuard) (tables : Tables), tables.Keyed →
      more.map (·.account) = standing.work.held.fresh order →
      (∀ id ∈ standing.work.held.ids, ∀ other ∈ standing.work.held.fresh order,
        id.value < other.value) →
      result ((standing.work.hold more).rows tables order)
        ⟨plus standing.held more, ∅, standing.work.hold more,
          standing.reads ++ (standing.work.hold more).readRows tables order⟩) :
    (unit.lockRows order timeoutMs).Ensures (rule unit) standing result := by
  refine ⟨rfl, ?_⟩
  cases permitted : standing.work.held.permit order with
  | error error => exact refused error permitted
  | ok fresh =>
    have ids := HeldLocks.permit_ids permitted
    have above := HeldLocks.permit_above permitted
    have guarded : ∀ guard, guard ∈ standing.held ↔ guard ∈ standing.work.guards := by
      intro guard
      rw [resting.held]
      rfl
    show ((UnitId.locking _).bind _).Ensures _ _ _
    rw [Program.ensures_bind, ensures_locking]
    refine ensures_acquireAll standing.held timeoutMs fresh.ids resting.awaited
      (by ext guard; simp [plus]) ⟨by simp, by simp⟩ fresh.ascending ?_
      (fun guard member => valid.guarded guard member) ?_ ?_
    · intro guard member id inside
      refine above guard.account ?_ id inside
      rw [valid.ids]
      exact List.mem_map_of_mem ((guarded guard).mp member)
    · intro more accounts apart
      rw [ids] at accounts above
      refine ⟨rfl, fun guard member => Or.inr (by simpa using member), ?_, rfl, ?_, ?_⟩
      · rw [List.map_append, List.nil_append, accounts, ← valid.ids]
        refine List.pairwise_append.mpr ⟨?_, HeldLocks.fresh_ascending _ _, above⟩
        rw [valid.ids]
        exact valid.ascending
      · intro id member
        rw [List.nil_append, UnitOfWork.hold_ids, accounts, List.mem_append]
        by_cases already : id ∈ standing.work.held.ids
        · exact Or.inl already
        · exact Or.inr (HeldLocks.mem_fresh.mpr ⟨member, already⟩)
      · intro tables keyed
        exact locked more tables keyed accounts above
    · intro account waitedMs
      have same := late account waitedMs
      rw [← resting.awaited]
      exact same

/-! ## A unit of work that is cut off -/

theorem ensures_giveUp {result : Unit → Standing → Prop} (tickets : List Ticket)
    (nodup : (tickets.map (·.number)).Nodup)
    (awaited : standing.awaited = {guard | ∃ ticket ∈ tickets, ticket.guard = guard})
    (notHeld : ∀ ticket ∈ tickets, ∀ guard ∈ standing.held, guard.ticket ≠ ticket.number)
    (guarded : ∀ guard ∈ standing.work.guards, guard ∈ standing.held)
    (after : result () { standing with awaited := ∅ }) :
    (UnitId.giveUp tickets).Ensures (lockRule unit) standing result := by
  induction tickets generalizing standing with
  | nil =>
    have nothing : standing.awaited = ∅ := by rw [awaited]; ext; simp
    show result () standing
    rw [← nothing] at after
    exact after
  | cons ticket rest ih =>
    have absent := (List.nodup_cons.mp nodup).1
    have heldSame : except standing.held ticket.number = standing.held :=
      LockTable.except_eq_self (notHeld ticket List.mem_cons_self)
    refine ⟨⟨ticket.guard, Or.inr ?_, rfl⟩,
      fun guard member => notHeld ticket List.mem_cons_self guard (guarded guard member), ?_⟩
    · rw [awaited]
      exact ⟨ticket, List.mem_cons_self, rfl⟩
    · rw [heldSame]
      refine ih (List.nodup_cons.mp nodup).2 ?_
        (fun other member => notHeld other (List.mem_cons_of_mem _ member)) guarded after
      ext guard
      simp only [except, awaited, Set.mem_ofPred_eq]
      constructor
      · rintro ⟨⟨other, member, rfl⟩, differs⟩
        rcases List.mem_cons.mp member with rfl | member
        · exact absurd rfl differs
        · exact ⟨other, member, rfl⟩
      · rintro ⟨other, member, rfl⟩
        exact ⟨⟨other, List.mem_cons_of_mem _ member, rfl⟩,
          fun same => absent (List.mem_map.mpr ⟨other, member, same⟩)⟩

section Loose

variable {store : MemoryStore} {guard : RowGuard}

theorem mem_looseTickets {ticket : Ticket} :
    ticket ∈ unit.looseTickets store ↔ ticket ∈ store.locks.tickets ∧
      ticket.owner = unit.number ∧
        ∀ guard ∈ (store.unit unit).guards, guard.ticket ≠ ticket.number := by
  simp only [UnitId.looseTickets, LockTable.ticketsOf, List.mem_filter, List.mem_map,
    decide_eq_true_eq, beq_iff_eq, not_exists, not_and]
  exact ⟨fun inside => ⟨inside.1.1, inside.1.2, inside.2⟩,
    fun inside => ⟨⟨inside.1, inside.2.1⟩, inside.2.2⟩⟩

theorem looseTickets_nodup (sound : store.locks.Sound) :
    ((unit.looseTickets store).map (·.number)).Nodup :=
  (((List.filter_sublist).trans List.filter_sublist).map _).nodup sound.numbers

variable (guarded : ∀ guard ∈ (store.unit unit).guards, guard ∈ store.locks.heldBy unit.number)

include guarded

/-- Nothing that is waited for has been taken over as a guard. -/
theorem awaitedBy_loose (sound : store.locks.Sound) :
    store.locks.awaitedBy unit.number =
      {guard | ∃ ticket ∈ (unit.looseTickets store).filter fun ticket => ticket.phase ≠ .held,
        ticket.guard = guard} := by
  ext guard
  simp only [LockTable.awaitedBy, Set.mem_ofPred_eq, List.mem_filter, mem_looseTickets,
    decide_eq_true_eq]
  constructor
  · rintro ⟨ticket, member, own, waits, same⟩
    refine ⟨ticket, ⟨⟨member, own, fun guard inside sameTicket => ?_⟩, waits⟩, same⟩
    obtain ⟨other, present, _, isHeld, rfl⟩ := guarded guard inside
    exact waits (sound.eq_of_number present member sameTicket ▸ isHeld)
  · rintro ⟨ticket, ⟨⟨member, own, _⟩, waits⟩, same⟩
    exact ⟨ticket, member, own, waits, same⟩

/-- What is held is a guard, or was taken on the way. -/
theorem heldBy_loose (sound : store.locks.Sound) :
    guard ∈ store.locks.heldBy unit.number ↔ guard ∈ (store.unit unit).guards ∨
      ∃ ticket ∈ unit.looseTickets store, ticket.phase = .held ∧ ticket.guard = guard := by
  constructor
  · intro inside
    by_cases own : guard ∈ (store.unit unit).guards
    · exact Or.inl own
    · obtain ⟨ticket, present, owner, isHeld, rfl⟩ := inside
      refine Or.inr ⟨ticket, mem_looseTickets.mpr ⟨present, owner, fun guard member same => ?_⟩,
        isHeld, rfl⟩
      obtain ⟨other, known, _, _, rfl⟩ := guarded guard member
      exact own (sound.eq_of_number known present same ▸ member)
  · rintro (own | ⟨ticket, member, isHeld, rfl⟩)
    · exact guarded guard own
    · obtain ⟨present, owner, _⟩ := mem_looseTickets.mp member
      exact ⟨ticket, present, owner, isHeld, rfl⟩

end Loose

/-- What is broken off keeps the locks of its guards and nothing else. -/
theorem ensures_breakOff {store : MemoryStore} {result : Unit → Standing → Prop}
    (sound : store.locks.Sound) (work : standing.work = store.unit unit)
    (held : standing.held = store.locks.heldBy unit.number)
    (awaited : standing.awaited = store.locks.awaitedBy unit.number) (valid : standing.Valid)
    (after : result () { standing with held := {guard | guard ∈ standing.work.guards}
                                       awaited := ∅ }) :
    (unit.breakOff store).Ensures (rule unit) standing result := by
  have guarded : ∀ guard ∈ (store.unit unit).guards,
      guard ∈ store.locks.heldBy unit.number := by
    rw [← work, ← held]
    exact valid.guarded
  have numbers := @looseTickets_nodup unit store sound
  show ((UnitId.locking _).bind _).Ensures _ _ _
  rw [Program.ensures_bind, ensures_locking]
  refine ensures_giveUp _ ((List.filter_sublist.map _).nodup numbers)
    (awaited.trans (awaitedBy_loose guarded sound)) ?_ valid.guarded ?_
  · intro ticket member guard inside same
    simp only [List.mem_filter, mem_looseTickets, decide_eq_true_eq] at member
    obtain ⟨other, present, _, isHeld, rfl⟩ := held ▸ inside
    exact member.2 (sound.eq_of_number present member.1.1 same ▸ isHeld)
  show (UnitId.locking _).Ensures _ _ _
  rw [ensures_locking]
  have listed : ∀ guard, guard ∈ ((unit.looseTickets store).filter
      fun ticket => ticket.phase = .held).map (fun ticket => ⟨ticket.account, ticket.number⟩) ↔
        ∃ ticket ∈ unit.looseTickets store, ticket.phase = .held ∧ ticket.guard = guard := by
    intro guard
    simp only [List.mem_map, List.mem_filter, decide_eq_true_eq, and_assoc]
    rfl
  have unguarded : ∀ guard ∈ standing.work.guards, guard.ticket ∉
      (((unit.looseTickets store).filter fun ticket => ticket.phase = .held).map
        fun ticket => (⟨ticket.account, ticket.number⟩ : RowGuard)).map (·.ticket) := by
    intro guard member inside
    obtain ⟨other, isListed, same⟩ := List.mem_map.mp inside
    obtain ⟨ticket, isLoose, _, rfl⟩ := (listed other).mp isListed
    exact (mem_looseTickets.mp isLoose).2.2 guard (work ▸ member) same.symm
  refine ensures_releaseAll {guard | guard ∈ standing.work.guards} _ rfl ?_
    ⟨?_, unguarded⟩ unguarded after
  · ext guard
    simp only [plus, Set.mem_ofPred_eq, listed]
    rw [held, work]
    exact heldBy_loose guarded sound
  · rw [List.map_map]
    exact (List.filter_sublist.map _).nodup numbers

/-- What is cut off keeps nothing. -/
theorem ensures_cutOff {store : MemoryStore} {result : Unit → Standing → Prop}
    (sound : store.locks.Sound) (work : standing.work = store.unit unit)
    (held : standing.held = store.locks.heldBy unit.number)
    (awaited : standing.awaited = store.locks.awaitedBy unit.number) (valid : standing.Valid)
    (after : result () bare) :
    (unit.cutOff store).Ensures (rule unit) standing result := by
  apply (Program.ensures_bind (unit.breakOff store) _ _ _).mpr
  apply ensures_breakOff sound work held awaited valid
  refine ensures_finish ⟨valid.ids, fun guard member => member, valid.ascending, by simp,
    by simp, valid.locked, valid.read⟩ ?_ ⟨rfl, rfl⟩ after
  intro first second one two same
  simp only [Set.mem_ofPred_eq, Set.mem_empty_iff_false, or_false] at one two
  have inside : ∀ guard ∈ standing.work.guards, guard ∈ store.locks.heldBy unit.number :=
    held ▸ valid.guarded
  exact (sound.guard_unique (Or.inl (inside first one)) (Or.inl (inside second two)) same).2

/-! ## All operations -/

theorem resting_hold {more : List RowGuard} (resting : standing.Resting) (reads : List Account) :
    Resting ⟨plus standing.held more, ∅, standing.work.hold more, reads⟩ := by
  refine ⟨rfl, ?_⟩
  ext guard
  simp [plus, resting.held, UnitOfWork.hold]

/-- Every operation that a unit of work can be asked for. -/
theorem ensures_inMemory {request : UnitRequest} (own : request.unit? = some unit)
    (valid : standing.Valid) (distinct : standing.Distinct) (resting : standing.Resting) :
    request.inMemory.Ensures (rule unit) standing fun _ later => later.Finished request := by
  cases request with
  | start => cases own
  | lock own' order timeoutMs =>
    cases own
    exact ensures_lockRows order timeoutMs valid resting (fun _ _ => resting)
      (fun _ _ => resting) (fun _ _ _ _ _ => resting_hold resting _)
  | insert own' account =>
    cases own
    exact ⟨rfl, ⟨resting.awaited, resting.held⟩⟩
  | save own' account =>
    cases own
    refine ⟨rfl, resting.awaited, ?_⟩
    show standing.held = {guard | guard ∈ (standing.work.save account).2.guards}
    rw [UnitOfWork.save_guards]
    exact resting.held
  | stage own' entry =>
    cases own
    exact ⟨rfl, ⟨resting.awaited, resting.held⟩⟩
  | commit own' =>
    cases own
    refine ⟨rfl, fun outcome => ?_⟩
    exact (Program.ensures_bind unit.finish _ _ _).mpr (ensures_finish valid distinct resting rfl)
  | abandon own' =>
    cases own
    exact ensures_finish valid distinct resting rfl

end Standing

end AccountLedger
