import AccountLedger.Proofs.Interleaving.Pool
import AccountLedger.Proofs.Lock.Grip
import AccountLedger.Proofs.Lock.Holding

/-!
A lock table in the hands of any number of callers at once. Rows are locked one by one or several in
order, a call can be dropped wherever it stands, and a row lock that was handed out is let go by
unlocking the row and then, in a step of its own, freeing its slot. Every row lock has one owner, and
whoever has a row or queues for it does so at the mutex that the row's slot names.
-/

namespace AccountLedger

/-- A call in progress: what it has in hand, whether it can still be dropped, and what it goes on to
do. -/
structure LockCall where
  grip : Grip
  breakable : Bool
  rest : Program lockInterface (Except LedgerError (List RowGuard))

/-- The lock table, the row locks that have been handed out, and the calls in progress. -/
structure LockDesk where
  locks : LockTable
  inHand : List RowGuard
  calls : Nat → Option LockCall

namespace LockDesk

def start : LockDesk := ⟨.empty, [], fun _ => none⟩

def withCall (desk : LockDesk) (caller : Nat) (call : Option LockCall) : LockDesk :=
  { desk with calls := Function.update desk.calls caller call }

def withLocks (desk : LockDesk) (locks : LockTable) : LockDesk := { desk with locks }

def withInHand (desk : LockDesk) (inHand : List RowGuard) : LockDesk := { desk with inHand }

/-- What is in hand outside all calls, or in one of them. -/
def grip (desk : LockDesk) : Option Nat → Grip
  | none => .of desk.inHand
  | some caller => (desk.calls caller).elim (.of []) (·.grip)

/-- The call with its next request answered. -/
def answered (desk : LockDesk) (caller : Nat) (grip : Grip) (breakable : Bool)
    (request : LockRequest) (answer : request.Answer) (locks : LockTable)
    (resume : request.Answer → Program lockInterface (Except LedgerError (List RowGuard))) :
    LockDesk :=
  (desk.withLocks locks).withCall caller
    (some ⟨grip.after request answer, breakable, resume answer⟩)

/-- One row lock is let go by whoever has it. -/
def dropped (desk : LockDesk) (caller : Nat) (guard : RowGuard) : LockDesk :=
  (desk.withInHand (desk.inHand.erase guard)).withCall caller
    (some ⟨.of [guard], false, (Grip.of [guard]).letGo⟩)

/-- One step: a call is made, waits, gets an answer, is over or is dropped, or a row lock is let
go. -/
inductive Step (desk : LockDesk) : LockDesk → Prop
  | call {caller} (errand : LockErrand) : desk.calls caller = none →
    Step desk (desk.withCall caller (some ⟨.of [], true, errand.program caller⟩))
  | wait {caller grip breakable request resume locks} :
    desk.calls caller = some ⟨grip, breakable, .ask request resume⟩ →
    LockStep request desk.locks none locks → Step desk (desk.withLocks locks)
  | answer {caller grip breakable request resume answer locks} :
    desk.calls caller = some ⟨grip, breakable, .ask request resume⟩ →
    LockStep request desk.locks (some answer) locks →
    Step desk (desk.answered caller grip breakable request answer locks resume)
  | conclude {caller grip breakable outcome} :
    desk.calls caller = some ⟨grip, breakable, .done outcome⟩ →
    Step desk ((desk.withInHand (desk.inHand ++ Grip.handed outcome)).withCall caller none)
  | breakOff {caller grip rest} : desk.calls caller = some ⟨grip, true, rest⟩ →
    Step desk (desk.withCall caller (some ⟨grip, false, grip.letGo⟩))
  | drop {caller guard} : guard ∈ desk.inHand → desk.calls caller = none →
    Step desk (desk.dropped caller guard)

/-- What a lock table that nobody has used yet can come to. -/
def Reachable (desk : LockDesk) : Prop := Relation.ReflTransGen Step start desk

end LockDesk

/-! ## One step at the lock table -/

/-- The ticket that a request is about. -/
def LockRequest.ticket? : LockRequest → Option Nat
  | .await number _ => some number
  | .leave number => some number
  | _ => none

theorem Grip.Permits.own {grip : Grip} {request : LockRequest} {number : Nat}
    (permitted : grip.Permits request) (about : request.ticket? = some number) :
    ∃ guard ∈ grip.guards, guard.ticket = number := by
  cases request with
  | await ticket timeoutMs =>
    cases about
    obtain ⟨guard, waits, same⟩ := permitted
    exact ⟨guard, by simp [guards, waits], same⟩
  | leave ticket =>
    cases about
    exact permitted
  | enter owner account => cases about
  | prune account => cases about

namespace LockStep

variable {request : LockRequest} {table next : LockTable} {owner : Nat} {guard : RowGuard}

theorem sound {answer : Option request.Answer} (step : LockStep request table answer next)
    (before : table.Sound) : next.Sound := by
  cases step with
  | enter owner account => exact LockTable.enter_sound before owner account
  | join => exact LockTable.join_sound before _
  | serve noticed => exact LockTable.notice_sound before noticed
  | expire => exact LockTable.leave_sound before _
  | leave => exact LockTable.leave_sound before _
  | prune => exact LockTable.prune_sound before _

/-- While one waits nothing changes for anybody. -/
theorem kept_waiting (step : LockStep request table none next) (before : table.Sound) :
    (guard ∈ table.heldBy owner → guard ∈ next.heldBy owner) ∧
      (guard ∈ table.awaitedBy owner → guard ∈ next.awaitedBy owner) := by
  cases step with
  | @join _ _ _ ticket found entered =>
    have notHeld : ticket.phase ≠ .held := by simp [entered]
    rw [LockTable.heldBy_join before found notHeld, LockTable.awaitedBy_join before found notHeld]
    exact ⟨id, id⟩

theorem leave_kept {number : Nat} (differs : guard.ticket ≠ number) :
    (guard ∈ table.heldBy owner → guard ∈ (table.leave number).2.heldBy owner) ∧
      (guard ∈ table.awaitedBy owner → guard ∈ (table.leave number).2.awaitedBy owner) := by
  cases found : table.ticket? number with
  | none => simp [LockTable.leave_missing found]
  | some ticket =>
    rw [LockTable.heldBy_leave found, LockTable.awaitedBy_leave found]
    exact ⟨fun member => ⟨member, differs⟩, fun member => ⟨member, differs⟩⟩

/-- A step about one ticket changes nothing for the others. -/
theorem kept {answer : Option request.Answer} (step : LockStep request table answer next)
    (before : table.Sound) (other : request.ticket? ≠ some guard.ticket) :
    (guard ∈ table.heldBy owner → guard ∈ next.heldBy owner) ∧
      (guard ∈ table.awaitedBy owner → guard ∈ next.awaitedBy owner) := by
  have differs : ∀ number, request.ticket? = some number → guard.ticket ≠ number :=
    fun number about same => other (same ▸ about)
  cases answer with
  | none => exact step.kept_waiting before
  | some given =>
    cases step with
    | enter caller account =>
      rw [LockTable.heldBy_enter]
      refine ⟨id, fun member => ?_⟩
      by_cases same : owner = caller
      · subst same
        rw [LockTable.awaitedBy_enter_self]
        exact Set.mem_insert_of_mem _ member
      · rwa [LockTable.awaitedBy_enter_other account same]
    | serve noticed =>
      obtain ⟨ticket, found, _, _⟩ := LockTable.notice_true noticed
      rw [LockTable.heldBy_notice before noticed found, LockTable.awaitedBy_notice noticed]
      exact ⟨Or.inl, fun member => ⟨member, differs _ rfl⟩⟩
    | expire => exact leave_kept (differs _ rfl)
    | leave => exact leave_kept (differs _ rfl)
    | prune account =>
      rw [LockTable.heldBy_of_tickets (LockTable.prune_tickets account),
        LockTable.awaitedBy_of_tickets (LockTable.prune_tickets account)]
      exact ⟨id, id⟩

end LockStep

/-! ## What is in hand is in the table -/

namespace Grip

variable {grip mine : Grip} {request : LockRequest} {table next : LockTable}

/-- The table has a ticket of its own for everything in hand. -/
structure Backed (grip : Grip) (table : LockTable) : Prop where
  held : ∀ guard ∈ grip.held, ∃ owner, guard ∈ table.heldBy owner
  awaited : ∀ guard, grip.awaited = some guard → ∃ owner, guard ∈ table.awaitedBy owner
  distinct : grip.Distinct

theorem mem_guards {guard : RowGuard} :
    guard ∈ grip.guards ↔ guard ∈ grip.held ∨ grip.awaited = some guard := by
  simp [guards]

theorem backed_of {guards : List RowGuard} : (of guards).Backed table ↔
    (∀ guard ∈ guards, ∃ owner, guard ∈ table.heldBy owner) ∧
      (guards.map (·.ticket)).Nodup :=
  ⟨fun backed => ⟨backed.held, distinct_of.mp backed.distinct⟩,
    fun ⟨held, distinct⟩ => ⟨held, fun _ => nofun, distinct_of.mpr distinct⟩⟩

/-- Everything in hand has its ticket. -/
theorem Backed.owned (backed : grip.Backed table) {guard : RowGuard} (member : guard ∈ grip.guards) :
    ∃ owner, guard ∈ table.heldBy owner ∨ guard ∈ table.awaitedBy owner := by
  rcases mem_guards.mp member with held | waits
  · obtain ⟨owner, has⟩ := backed.held guard held
    exact ⟨owner, Or.inl has⟩
  · obtain ⟨owner, has⟩ := backed.awaited guard waits
    exact ⟨owner, Or.inr has⟩

theorem Backed.issued (backed : grip.Backed table) (sound : table.Sound) {guard : RowGuard}
    (member : guard ∈ grip.guards) : guard.ticket < table.nextTicket := by
  obtain ⟨owner, has⟩ := backed.owned member
  exact sound.issued_guard has

/-- What somebody else does leaves everything in hand. -/
theorem Backed.others (backed : grip.Backed table) {answer : Option request.Answer}
    (step : LockStep request table answer next) (sound : table.Sound)
    (other : ∀ guard ∈ grip.guards, request.ticket? ≠ some guard.ticket) : grip.Backed next := by
  refine ⟨fun guard member => ?_, fun guard waits => ?_, backed.distinct⟩
  · obtain ⟨owner, has⟩ := backed.held guard member
    exact ⟨owner, (step.kept sound (other guard (mem_guards.mpr (Or.inl member)))).1 has⟩
  · obtain ⟨owner, has⟩ := backed.awaited guard waits
    exact ⟨owner, (step.kept sound (other guard (mem_guards.mpr (Or.inr waits)))).2 has⟩

theorem Backed.waiting (backed : grip.Backed table) (step : LockStep request table none next)
    (sound : table.Sound) : grip.Backed next := by
  refine ⟨fun guard member => ?_, fun guard waits => ?_, backed.distinct⟩
  · obtain ⟨owner, has⟩ := backed.held guard member
    exact ⟨owner, (step.kept_waiting sound).1 has⟩
  · obtain ⟨owner, has⟩ := backed.awaited guard waits
    exact ⟨owner, (step.kept_waiting sound).2 has⟩

theorem Backed.admits (backed : grip.Backed table) {answer : request.Answer}
    (step : LockStep request table (some answer) next) (sound : table.Sound) :
    grip.Admits request answer := by
  cases step with
  | enter owner account =>
    intro guard member
    rw [LockTable.enter_number]
    exact Nat.ne_of_lt (backed.issued sound member)
  | _ => trivial

/-- Only entering puts something new in hand, under the ticket that is issued. -/
theorem mem_after {answer : request.Answer} {guard : RowGuard}
    (step : LockStep request table (some answer) next)
    (member : guard ∈ (grip.after request answer).guards) :
    guard ∈ grip.guards ∨ guard.ticket = table.nextTicket := by
  cases step with
  | enter owner account =>
    rcases mem_guards.mp member with held | waits
    · exact Or.inl (mem_guards.mpr (Or.inl held))
    · cases waits
      exact Or.inr (LockTable.enter_number owner account)
  | serve noticed => exact Or.inl (by simpa [after] using member)
  | expire found waits =>
    have held : guard ∈ grip.held := by simpa [after] using member
    exact Or.inl (mem_guards.mpr (Or.inl held))
  | leave number =>
    refine Or.inl (mem_guards.mpr ((mem_guards.mp member).imp ?_ ?_))
    · exact fun held => (List.mem_filter.mp held).1
    · exact fun waits => (Option.filter_eq_some_iff.mp waits).1
  | prune account => exact Or.inl member

theorem guards_after_leave (grip : Grip) (number : Nat) :
    (grip.after (.leave number) ()).guards = grip.guards.filter (·.ticket != number) := by
  rw [guards, guards, List.filter_append, ← Option.toList_filter]
  rfl

/-- The row lock that is waited for has a ticket of its own. -/
theorem Backed.awaited_apart (backed : grip.Backed table) {waited guard : RowGuard}
    (waits : grip.awaited = some waited) (held : guard ∈ grip.held) :
    guard.ticket ≠ waited.ticket := by
  have distinct := backed.distinct
  simp only [Distinct, guards, waits, Option.toList_some, List.map_append, List.map_cons,
    List.map_nil, List.nodup_append] at distinct
  exact distinct.2.2 _ (List.mem_map_of_mem held) _ List.mem_cons_self

theorem Backed.entered (backed : grip.Backed table) (sound : table.Sound)
    (nothing : grip.awaited = none) (owner : Nat) (account : Uuid) :
    (grip.after (.enter owner account) (table.enter owner account).1).Backed
      (table.enter owner account).2 := by
  have step := LockStep.enter owner account table
  refine ⟨fun guard member => ?_, ?_, ?_⟩
  · obtain ⟨holder, has⟩ := backed.held guard member
    exact ⟨holder, (step.kept sound nofun).1 has⟩
  · rintro _ ⟨⟩
    refine ⟨owner, ?_⟩
    rw [LockTable.awaitedBy_enter_self]
    exact Set.mem_insert _ _
  · have distinct : (of grip.held).Distinct := by
      have all := backed.distinct
      rwa [Distinct, guards, nothing] at all
    have new : ∀ other ∈ grip.held,
        other.ticket ≠ (RowGuard.mk account (table.enter owner account).1).ticket :=
      fun other member => backed.admits step sound other (mem_guards.mpr (Or.inl member))
    have grown := distinct.concat new
    rwa [distinct_of] at grown

theorem Backed.served (backed : grip.Backed table) (sound : table.Sound) {waited : RowGuard}
    {timeoutMs : Nat} (waits : grip.awaited = some waited)
    (noticed : (table.notice waited.ticket).1 = true) :
    (grip.after (.await waited.ticket timeoutMs) true).Backed (table.notice waited.ticket).2 := by
  have step : LockStep (.await waited.ticket timeoutMs) table _ _ := .serve noticed
  refine backed_of.mpr ⟨fun guard member => ?_, backed.distinct⟩
  rcases mem_guards.mp member with held | same
  · obtain ⟨owner, has⟩ := backed.held guard held
    refine ⟨owner, (step.kept sound fun about => ?_).1 has⟩
    exact backed.awaited_apart waits held (Option.some.inj about).symm
  · obtain ⟨owner, has⟩ := backed.awaited guard same
    obtain rfl : waited = guard := Option.some.inj (waits.symm.trans same)
    obtain ⟨ticket, present, own, rfl⟩ := LockTable.ticket_of_mem (Or.inr has)
    refine ⟨owner, ?_⟩
    rw [LockTable.heldBy_notice sound noticed (sound.ticket?_of_mem present)]
    exact Or.inr ⟨own, rfl⟩

/-- Whatever the lock table answers, it has a ticket for all that is then in hand. -/
theorem Backed.after (backed : grip.Backed table) {answer : request.Answer}
    (permitted : grip.Permits request) (step : LockStep request table (some answer) next)
    (sound : table.Sound) : (grip.after request answer).Backed next := by
  have kept : ∀ guard ∈ grip.held, request.ticket? ≠ some guard.ticket →
      ∃ owner, guard ∈ next.heldBy owner := by
    intro guard member other
    obtain ⟨owner, has⟩ := backed.held guard member
    exact ⟨owner, (step.kept sound other).1 has⟩
  cases step with
  | enter owner account => exact backed.entered sound permitted owner account
  | serve noticed =>
    obtain ⟨waited, waits, rfl⟩ := permitted
    exact backed.served sound waits noticed
  | expire found late =>
    obtain ⟨waited, waits, rfl⟩ := permitted
    refine backed_of.mpr ⟨fun guard member => kept guard member fun about => ?_, ?_⟩
    · exact backed.awaited_apart waits member (Option.some.inj about).symm
    · exact ((List.sublist_append_left _ _).map _).nodup backed.distinct
  | leave number =>
    have differs : ∀ guard : RowGuard, (guard.ticket != number) = true →
        (LockRequest.leave number).ticket? ≠ some guard.ticket := by
      intro guard other about
      simp [Option.some.inj about] at other
    refine ⟨fun guard member => ?_, fun guard waits => ?_, ?_⟩
    · obtain ⟨inside, other⟩ := List.mem_filter.mp member
      exact kept guard inside (differs guard other)
    · obtain ⟨inside, other⟩ := Option.filter_eq_some_iff.mp waits
      obtain ⟨owner, has⟩ := backed.awaited guard inside
      exact ⟨owner, ((LockStep.leave number table).kept sound (differs guard other)).2 has⟩
    · have fewer : (grip.after (.leave number) ()).guards.Sublist grip.guards := by
        rw [guards_after_leave]
        exact List.filter_sublist
      exact (fewer.map _).nodup backed.distinct
  | prune account =>
    exact backed.others (.prune account table) sound fun _ _ => nofun

end Grip

end AccountLedger
