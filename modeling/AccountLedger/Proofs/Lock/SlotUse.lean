import AccountLedger.Proofs.Lock.MutualExclusion

/-!
What becomes of the slots. Whoever unlocks a row, or has waited for it too long, frees its slot right
after that unless the row is in use. A call that is dropped while it waits only leaves its place, so
the slot of a row stays if the last to leave the row was such a call. If none was, the rows that have
a slot are those that somebody has or waits for.
-/

namespace AccountLedger

/-! ## One step at the lock table -/

section Table

variable {request : LockRequest} {table next : LockTable} {account : Uuid}

theorem LockTable.left_number {number : Nat} :
    ∀ ticket ∈ (table.leave number).2.tickets, ticket.number ≠ number := by
  intro ticket member same
  cases found : table.ticket? number with
  | none =>
    rw [leave_missing found] at member
    simpa [same] using List.find?_eq_none.mp found ticket member
  | some known =>
    obtain ⟨before, _, differs, _, sameGuard, _⟩ := (mem_leave found).2 ticket member
    exact differs ((congrArg RowGuard.ticket sameGuard).symm.trans same)

theorem LockTable.leave_slots (number : Nat) : (table.leave number).2.slots = table.slots := by
  cases found : table.ticket? number with
  | none => rw [leave_missing found]
  | some ticket =>
    rcases leave_cases found with ⟨result, _⟩ | ⟨_, _, _, _, _, _, result⟩ <;> rw [result]

/-- A slot that stays when it could be freed is the slot of a row in use. -/
theorem LockTable.Sound.slot_used (sound : table.Sound)
    (slot : ((table.prune account).slots.lookup account).isSome) :
    ∃ ticket ∈ table.tickets, ticket.account = account := by
  unfold prune at slot
  split at slot
  · next missing =>
    rw [missing] at slot
    cases slot
  · next mutex found =>
    split at slot
    · next used =>
      obtain ⟨ticket, member, same⟩ := List.any_eq_true.mp used
      have mutexes := List.inj_on_of_nodup_map sound.mutexes (sound.slotted ticket member)
        (lookup_mem found) (eq_of_beq same)
      exact ⟨ticket, member, congrArg Prod.fst mutexes⟩
    · obtain ⟨mutex, kept⟩ := Option.isSome_iff_exists.mp slot
      simpa using (List.mem_filter.mp (lookup_mem kept)).2

/-- Only who enters makes a slot. -/
theorem LockStep.slot_before {answer : Option request.Answer}
    (step : LockStep request table answer next) (slot : (next.slots.lookup account).isSome) :
    (table.slots.lookup account).isSome ∨ ∃ owner, request = .enter owner account := by
  cases step with
  | enter owner entered =>
    by_cases same : account = entered
    · exact Or.inr ⟨owner, by rw [same]⟩
    · left
      change ((table.mutexOf entered).2.slots.lookup account).isSome at slot
      unfold LockTable.mutexOf at slot
      split at slot
      · exact slot
      · rwa [List.lookup_cons, beq_false_of_ne same] at slot
  | join found _ =>
    rw [LockTable.join_eq found] at slot
    exact Or.inl slot
  | serve noticed =>
    obtain ⟨_, _, _, result⟩ := LockTable.notice_true noticed
    rw [result] at slot
    exact Or.inl slot
  | expire =>
    rw [LockTable.leave_slots] at slot
    exact Or.inl slot
  | leave =>
    rw [LockTable.leave_slots] at slot
    exact Or.inl slot
  | prune other =>
    left
    obtain ⟨mutex, found⟩ := Option.isSome_iff_exists.mp slot
    have member := LockTable.lookup_mem found
    by_contra missing
    rw [Option.not_isSome_iff_eq_none] at missing
    have absent := LockTable.lookup_none missing
    apply absent
    unfold LockTable.prune at member
    split at member
    · exact List.mem_map_of_mem member
    · split at member
      · exact List.mem_map_of_mem member
      · exact List.mem_map_of_mem (List.mem_filter.mp member).1

end Table

namespace Grip

variable {grip : Grip} {guard : RowGuard} {request : LockRequest} {answer : request.Answer}
  {table next : LockTable}

/-- What goes out of hand is seen to, unless it was only waited for by a call that was dropped. -/
theorem kept_or_due (distinct : grip.Distinct) (permitted : grip.Permits request)
    (member : guard ∈ grip.guards) : guard ∈ (grip.after request answer).guards ∨
      Chore.dueAfter grip request answer = some guard.account ∨
        request = .leave guard.ticket ∧ grip.awaited = some guard := by
  cases request with
  | enter owner account =>
    rcases mem_guards.mp member with held | waits
    · exact Or.inl (mem_guards.mpr (Or.inl held))
    · cases (show grip.awaited = none from permitted).symm.trans waits
  | await number timeoutMs =>
    cases answer with
    | true => exact Or.inl (by simpa [after] using member)
    | false =>
      rcases mem_guards.mp member with held | waits
      · exact Or.inl (by simpa [after] using held)
      · exact Or.inr (Or.inl (by simp [Chore.dueAfter, waits]))
  | leave number =>
    by_cases same : guard.ticket = number
    · subst same
      rcases mem_guards.mp member with held | waits
      · right
        left
        cases found : grip.held.find? (·.ticket == guard.ticket) with
        | none => simpa using List.find?_eq_none.mp found guard held
        | some other =>
          have inside : other ∈ grip.guards :=
            mem_guards.mpr (Or.inl (List.mem_of_find?_eq_some found))
          have sameTicket := List.find?_some found
          have one := List.inj_on_of_nodup_map distinct inside member (eq_of_beq sameTicket)
          simp only [Chore.dueAfter, found, one, Option.map_some]
      · exact Or.inr (Or.inr ⟨rfl, waits⟩)
    · left
      show guard ∈ (grip.after (.leave number) ()).guards
      rw [guards_after_leave]
      exact List.mem_filter.mpr ⟨member, by simpa using same⟩
  | prune account => exact Or.inl member

/-- What still has its ticket is still in hand. -/
theorem kept_of_present (permitted : grip.Permits request)
    (step : LockStep request table (some answer) next) (member : guard ∈ grip.guards)
    (present : ∃ ticket ∈ next.tickets, ticket.number = guard.ticket) :
    guard ∈ (grip.after request answer).guards := by
  cases step with
  | enter owner account =>
    rcases mem_guards.mp member with held | waits
    · exact mem_guards.mpr (Or.inl held)
    · cases (show grip.awaited = none from permitted).symm.trans waits
  | serve noticed => simpa [after] using member
  | @expire number _ _ _ found late =>
    obtain ⟨waited, waits, rfl⟩ := permitted
    obtain ⟨ticket, inside, same⟩ := present
    rcases mem_guards.mp member with held | waitsToo
    · simpa [after] using held
    · cases waits.symm.trans waitsToo
      exact absurd same (LockTable.left_number ticket inside)
  | leave number =>
    obtain ⟨ticket, inside, same⟩ := present
    show guard ∈ (grip.after (.leave number) ()).guards
    rw [guards_after_leave]
    refine List.mem_filter.mpr ⟨member, bne_iff_ne.mpr fun number => ?_⟩
    exact LockTable.left_number ticket inside (same.trans number)
  | prune account => exact member

end Grip

namespace LockDesk

open Relation (ReflTransGen)

variable {desk next : LockDesk} {caller : Nat} {grip : Grip} {breakable : Bool} {guard : RowGuard}
  {account : Uuid}

/-! ## Every ticket is in some hand -/

/-- Somebody has the row lock or waits for it. -/
def Has (desk : LockDesk) (guard : RowGuard) : Prop := ∃ place, guard ∈ (desk.grip place).guards

def Owned (desk : LockDesk) : Prop := ∀ ticket ∈ desk.locks.tickets, desk.Has ticket.guard

theorem Has.of_grips (had : desk.Has guard) (grips : ∀ place, next.grip place = desk.grip place) :
    next.Has guard := by
  obtain ⟨place, member⟩ := had
  exact ⟨place, grips place ▸ member⟩

theorem Has.answered {request : LockRequest} {answer : request.Answer} {locks : LockTable}
    {resume : request.Answer → Program lockInterface (Except LedgerError (List RowGuard))}
    (had : desk.Has guard) (mine : desk.grip (some caller) = grip)
    (kept : guard ∈ grip.guards → guard ∈ (grip.after request answer).guards) :
    (desk.answered caller grip breakable request answer locks resume).Has guard := by
  obtain ⟨place, member⟩ := had
  refine ⟨place, ?_⟩
  by_cases own : place = some caller
  · subst own
    rw [grip_answered_self]
    exact kept (mine ▸ member)
  · rwa [grip_answered_other own]

/-- Row locks pass between a call and those who have been handed some. -/
theorem Has.regrouped {inHand moved taken : List RowGuard} {call : Option LockCall}
    (had : desk.Has guard) (before : desk.grip (some caller) = .of taken)
    (after : call.elim (.of []) (·.grip) = .of moved)
    (all : desk.inHand ++ taken ⊆ inHand ++ moved) :
    ((desk.withInHand inHand).withCall caller call).Has guard := by
  have mine : ((desk.withInHand inHand).withCall caller call).grip (some caller) = .of moved :=
    (grip_withCall_self call).trans after
  have placed : guard ∈ desk.inHand ++ taken →
      ((desk.withInHand inHand).withCall caller call).Has guard := by
    intro member
    rcases List.mem_append.mp (all member) with member | member
    · refine ⟨none, ?_⟩
      show guard ∈ (Grip.of inHand).guards
      rwa [Grip.guards_of]
    · refine ⟨some caller, ?_⟩
      rwa [mine, Grip.guards_of]
  obtain ⟨_ | other, member⟩ := had
  · exact placed (List.mem_append_left _ (by simpa [LockDesk.grip] using member))
  · by_cases own : other = caller
    · subst own
      rw [before, Grip.guards_of] at member
      exact placed (List.mem_append_right _ member)
    · refine ⟨some other, ?_⟩
      rw [grip_withCall_other _ fun same => own (Option.some.inj same)]
      exact member

theorem Has.concluded (had : desk.Has guard) (sound : desk.Sound)
    {outcome : Except LedgerError (List RowGuard)}
    (busy : desk.calls caller = some ⟨grip, breakable, .done outcome⟩) :
    ((desk.withInHand (desk.inHand ++ Grip.handed outcome)).withCall caller none).Has guard := by
  have mine : grip = .of (Grip.handed outcome) := sound.keeps caller _ busy
  refine had.regrouped ((grip_call busy).trans mine) rfl ?_
  rw [List.append_nil]
  exact List.Subset.refl _

theorem Has.dropped {dropped : RowGuard} (had : desk.Has guard) (idle : desk.calls caller = none) :
    (desk.dropped caller dropped).Has guard := by
  refine had.regrouped (grip_idle idle) rfl ?_
  rw [List.append_nil]
  intro other member
  by_cases same : other = dropped
  · exact List.mem_append_right _ (List.mem_singleton.mpr same)
  · exact List.mem_append_left _ ((List.mem_erase_of_ne same).mpr member)

theorem Owned.step (owned : desk.Owned) (sound : desk.Sound) (step : Step desk next) :
    next.Owned := by
  intro ticket member
  cases step with
  | call errand idle =>
    exact (owned ticket member).of_grips (grip_replaced (grip_idle idle))
  | wait busy step =>
    rcases step.attached_cases ⟨ticket, member, rfl, rfl⟩ with
      ⟨before, present, same, _⟩ | ⟨_, _, entered, _⟩
    · rw [← same]
      exact (owned before present).of_grips (grip_withLocks _)
    · subst entered
      cases step
  | @answer caller grip breakable request resume answer locks busy step =>
    have mine := grip_call busy
    obtain ⟨permitted, _⟩ := sound.keeps caller _ busy
    rcases step.attached_cases ⟨ticket, member, rfl, rfl⟩ with
      ⟨before, present, same, _⟩ | ⟨owner, account, rfl, same⟩
    · rw [← same]
      refine (owned before present).answered mine fun inside => ?_
      exact Grip.kept_of_present permitted step inside
        ⟨ticket, member, (congrArg RowGuard.ticket same).symm⟩
    · rw [same]
      refine ⟨some caller, ?_⟩
      rw [grip_answered_self]
      cases step
      refine Grip.mem_guards.mpr (Or.inr ?_)
      rw [← LockTable.enter_number owner account]
      rfl
  | conclude busy => exact (owned ticket member).concluded sound busy
  | breakOff busy => exact (owned ticket member).of_grips (grip_replaced (grip_call busy))
  | drop _ idle => exact (owned ticket member).dropped idle

end LockDesk

/-! ## What a call has still to see to -/

namespace LockCall

/-- The call sees to this slot before anything else, and to the slots of all rows that it goes on to
unlock. -/
def Owes (call : LockCall) (due : Option Uuid) : Prop :=
  call.rest.Ensures Chore.rule ⟨call.grip, due⟩ Chore.Done

/-- The call waits for a mutex. -/
def Waits (call : LockCall) : Prop :=
  ∃ ticket timeoutMs resume, call.rest = .ask (.await ticket timeoutMs) resume

variable {call : LockCall} {grip : Grip} {breakable : Bool} {account : Uuid}

theorem Waits.owes_nothing (waits : call.Waits) : ¬ call.Owes (some account) := by
  intro owes
  obtain ⟨grip, breakable, rest⟩ := call
  obtain ⟨ticket, timeoutMs, resume, rfl⟩ := waits
  cases owes.1.2 account rfl

theorem Owes.answered {request : LockRequest} {answer : request.Answer} {due : Option Uuid}
    {resume : request.Answer → Program lockInterface (Except LedgerError (List RowGuard))}
    (owes : (⟨grip, breakable, .ask request resume⟩ : LockCall).Owes due)
    (admitted : grip.Admits request answer) :
    (⟨grip.after request answer, breakable, resume answer⟩ : LockCall).Owes
      (Chore.dueAfter grip request answer) := owes.2 answer admitted

theorem owes_letGo (distinct : grip.Distinct) :
    (⟨grip, breakable, grip.letGo⟩ : LockCall).Owes none := Chore.ensures_letGo distinct

end LockCall

namespace LockDesk

open Relation (ReflTransGen)

/-! ## Steps that leave no slot behind -/

/-- A step of callers who drop a call only while it waits, and no such call is the last to leave one
of these rows. -/
inductive Considerate (rows : Set Uuid) (desk : LockDesk) : LockDesk → Prop
  | call (caller) (errand : LockErrand) : desk.calls caller = none →
    Considerate rows desk (desk.withCall caller (some ⟨.of [], true, errand.program caller⟩))
  | wait (caller) {grip breakable request resume locks} :
    desk.calls caller = some ⟨grip, breakable, .ask request resume⟩ →
    LockStep request desk.locks none locks → Considerate rows desk (desk.withLocks locks)
  | answer (caller) {grip breakable request resume answer locks} :
    desk.calls caller = some ⟨grip, breakable, .ask request resume⟩ →
    LockStep request desk.locks (some answer) locks →
    (∀ guard, request = .leave guard.ticket → grip.awaited = some guard → guard.account ∈ rows →
      ∃ ticket ∈ locks.tickets, ticket.account = guard.account) →
    Considerate rows desk (desk.answered caller grip breakable request answer locks resume)
  | conclude (caller) {grip breakable outcome} :
    desk.calls caller = some ⟨grip, breakable, .done outcome⟩ →
    Considerate rows desk
      ((desk.withInHand (desk.inHand ++ Grip.handed outcome)).withCall caller none)
  | breakOff (caller) {grip rest} : desk.calls caller = some ⟨grip, true, rest⟩ →
    (⟨grip, true, rest⟩ : LockCall).Waits →
    Considerate rows desk (desk.withCall caller (some ⟨grip, false, grip.letGo⟩))
  | drop (caller) {guard} : guard ∈ desk.inHand → desk.calls caller = none →
    Considerate rows desk (desk.dropped caller guard)

variable {desk next : LockDesk} {caller : Nat} {grip : Grip} {breakable : Bool} {guard : RowGuard}
  {account : Uuid} {rows : Set Uuid}

theorem Considerate.step (considerate : Considerate rows desk next) : Step desk next := by
  cases considerate with
  | call _ errand idle => exact .call errand idle
  | wait _ busy step => exact .wait busy step
  | answer _ busy step _ => exact .answer busy step
  | conclude _ busy => exact .conclude busy
  | breakOff _ busy _ => exact .breakOff busy
  | drop _ member idle => exact .drop member idle

/-- Somebody has the row or waits for it. -/
def InUse (desk : LockDesk) (account : Uuid) : Prop :=
  ∃ guard, desk.Has guard ∧ guard.account = account

/-- The slot of a row, if there is one, is in use or seen to next by one of the calls. -/
structure Tended (desk : LockDesk) (account : Uuid) : Prop where
  owned : desk.Owned
  owes : ∀ caller call, desk.calls caller = some call → ∃ due, call.Owes due
  used : (desk.locks.slots.lookup account).isSome → desk.InUse account ∨
    ∃ caller call, desk.calls caller = some call ∧ call.Owes (some account)

theorem start_tended (account : Uuid) : start.Tended account where
  owned _ member := nomatch member
  owes _ _ := nofun
  used slot := nomatch slot

theorem calls_withCall_other {call : Option LockCall} {other : Nat} (differs : other ≠ caller) :
    (desk.withCall caller call).calls other = desk.calls other := by
  simp [withCall, Function.update_of_ne differs]

/-- A call is replaced by one that owes nothing, or is over, and nothing goes out of hand. -/
theorem Tended.replaced (tended : desk.Tended account) {inHand : List RowGuard}
    {call : Option LockCall} (owned : ((desk.withInHand inHand).withCall caller call).Owned)
    (has : ∀ guard, desk.Has guard → ((desk.withInHand inHand).withCall caller call).Has guard)
    (old : ∀ found, desk.calls caller = some found → ¬ found.Owes (some account))
    (new : ∀ found, call = some found → found.Owes none) :
    ((desk.withInHand inHand).withCall caller call).Tended account := by
  refine ⟨owned, fun other found present => ?_, fun slot => ?_⟩
  · rcases calls_withCall present with same | before
    · exact ⟨none, new found same⟩
    · exact tended.owes other found before
  · rcases tended.used slot with ⟨guard, had, same⟩ | ⟨other, found, present, owes⟩
    · exact Or.inl ⟨guard, has guard had, same⟩
    · have differs : other ≠ caller := by
        rintro rfl
        exact old found present owes
      exact Or.inr ⟨other, found, (calls_withCall_other differs).trans present, owes⟩

/-- What the caller who was answered no longer has in hand it sees to. -/
theorem Tended.answered (tended : desk.Tended account) (sound : desk.Sound) {request : LockRequest}
    {answer : request.Answer} {locks : LockTable}
    {resume : request.Answer → Program lockInterface (Except LedgerError (List RowGuard))}
    (busy : desk.calls caller = some ⟨grip, breakable, .ask request resume⟩)
    (step : LockStep request desk.locks (some answer) locks)
    (remains : ∀ guard, request = .leave guard.ticket → grip.awaited = some guard →
      guard.account = account → ∃ ticket ∈ locks.tickets, ticket.account = guard.account) :
    (desk.answered caller grip breakable request answer locks resume).Tended account := by
  have owned := tended.owned.step sound (.answer busy step)
  have mine := grip_call busy
  have backed : grip.Backed desk.locks := mine ▸ sound.backed (some caller)
  obtain ⟨permitted, _⟩ := sound.keeps caller _ busy
  obtain ⟨due, owes⟩ := tended.owes caller _ busy
  have owesNext := owes.answered (backed.admits step sound.locks)
  refine ⟨owned, fun other found present => ?_, fun slot => ?_⟩
  · rcases calls_withCall present with same | before
    · cases same
      exact ⟨_, owesNext⟩
    · exact tended.owes other found before
  rcases step.slot_before slot with before | ⟨owner, rfl⟩
  · rcases tended.used before with ⟨guard, ⟨place, member⟩, same⟩ | ⟨other, found, present, owing⟩
    · by_cases own : place = some caller
      -- what the caller lost was unlocked or given up in time, or is left by a dropped call
      · rw [own, mine] at member
        rcases Grip.kept_or_due backed.distinct permitted member with kept | seen | ⟨left, waited⟩
        · exact Or.inl ⟨guard, ⟨some caller, grip_answered_self ▸ kept⟩, same⟩
        · rw [seen, same] at owesNext
          exact Or.inr ⟨caller, _, Function.update_self .., owesNext⟩
        · obtain ⟨ticket, inside, used⟩ := remains guard left waited same
          exact Or.inl ⟨ticket.guard, owned ticket inside, used.trans same⟩
      · exact Or.inl ⟨guard, ⟨place, by rwa [grip_answered_other own]⟩, same⟩
    · by_cases own : other = caller
      -- the slot was seen to just now, and has been left to somebody
      · subst own
        cases busy.symm.trans present
        obtain rfl := owing.1.2 account rfl
        cases step
        obtain ⟨ticket, inside, used⟩ := sound.locks.slot_used slot
        exact Or.inl ⟨ticket.guard, (tended.owned ticket inside).answered mine id, used⟩
      · exact Or.inr ⟨other, found, (calls_withCall_other own).trans present, owing⟩
  · refine Or.inl ⟨⟨account, answer⟩, ⟨some caller, ?_⟩, rfl⟩
    rw [grip_answered_self]
    exact Grip.mem_guards.mpr (Or.inr rfl)

theorem Tended.step (tended : desk.Tended account) (sound : desk.Sound) (inside : account ∈ rows)
    (considerate : Considerate rows desk next) : next.Tended account := by
  have owned := tended.owned.step sound considerate.step
  cases considerate with
  | call _ errand idle =>
    refine tended.replaced owned (fun _ had => had.of_grips (grip_replaced (grip_idle idle))) ?_ ?_
    · intro found present
      cases idle.symm.trans present
    · rintro _ ⟨⟩
      exact errand.ensures_done _
  | wait _ busy step =>
    refine ⟨owned, tended.owes, fun slot => ?_⟩
    have before : (desk.locks.slots.lookup account).isSome := by
      rcases step.slot_before slot with before | ⟨owner, rfl⟩
      · exact before
      · cases step
    refine (tended.used before).imp_left fun ⟨guard, had, same⟩ => ?_
    exact ⟨guard, had.of_grips (grip_withLocks _), same⟩
  | answer _ busy step remains =>
    exact tended.answered sound busy step fun guard left waited same =>
      remains guard left waited (same ▸ inside)
  | conclude _ busy =>
    refine tended.replaced owned (fun _ had => had.concluded sound busy) ?_ fun _ => nofun
    intro found present owes
    cases busy.symm.trans present
    cases owes
  | breakOff caller busy waits =>
    have mine := grip_call busy
    refine tended.replaced owned (fun _ had => had.of_grips (grip_replaced mine)) ?_ ?_
    · intro found present
      cases busy.symm.trans present
      exact waits.owes_nothing
    · rintro _ ⟨⟩
      exact LockCall.owes_letGo (mine ▸ (sound.backed (some caller)).distinct)
  | drop _ member idle =>
    refine tended.replaced owned (fun _ had => had.dropped idle) ?_ ?_
    · intro found present
      cases idle.symm.trans present
    · rintro _ ⟨⟩
      exact LockCall.owes_letGo (Grip.distinct_of.mpr (List.nodup_singleton _))

theorem tended_of_run (run : ReflTransGen (Considerate rows) start desk) (inside : account ∈ rows) :
    desk.Tended account ∧ desk.Sound := by
  induction run with
  | refl => exact ⟨start_tended account, start_sound⟩
  | tail _ considerate ih =>
    exact ⟨ih.1.step ih.2 inside considerate, ih.2.step considerate.step⟩

/-- All that goes on is waiting. -/
def Settled (desk : LockDesk) : Prop :=
  ∀ caller call, desk.calls caller = some call → call.Waits

theorem Tended.slot_iff (tended : desk.Tended account) (sound : desk.Sound)
    (settled : desk.Settled) :
    (desk.locks.slots.lookup account).isSome ↔ desk.InUse account := by
  constructor
  · intro slot
    rcases tended.used slot with used | ⟨caller, call, present, owes⟩
    · exact used
    · exact absurd owes (settled caller call present).owes_nothing
  · rintro ⟨guard, ⟨place, member⟩, rfl⟩
    obtain ⟨mutex, _, found⟩ := sound.attached member
    rw [found]
    rfl

/-- Where no dropped call is the last to leave a row, the row has a slot if and only if somebody has
it or waits for it. Where this is so for all rows, there is no slot once nobody has or waits for a
row. -/
theorem slots_in_use (run : ReflTransGen (Considerate rows) start desk) (settled : desk.Settled) :
    (∀ account ∈ rows, (desk.locks.slots.lookup account).isSome ↔
      ∃ place, ∃ guard ∈ (desk.grip place).guards, guard.account = account) ∧
    (rows = Set.univ → (∀ place, (desk.grip place).guards = []) →
      desk.locks.activeSlots = 0) := by
  have used : ∀ account ∈ rows, (desk.locks.slots.lookup account).isSome ↔
      ∃ place, ∃ guard ∈ (desk.grip place).guards, guard.account = account := by
    intro account inside
    obtain ⟨tended, sound⟩ := tended_of_run run inside
    rw [tended.slot_iff sound settled]
    constructor
    · rintro ⟨guard, ⟨place, member⟩, same⟩
      exact ⟨place, guard, member, same⟩
    · rintro ⟨place, guard, member, same⟩
      exact ⟨guard, ⟨place, member⟩, same⟩
  refine ⟨used, fun all empty => ?_⟩
  cases slots : desk.locks.slots with
  | nil =>
    rw [LockTable.activeSlots, slots]
    rfl
  | cons slot rest =>
    have found : (desk.locks.slots.lookup slot.1).isSome := by
      rw [slots, List.lookup_cons, beq_self_eq_true]
      rfl
    obtain ⟨place, guard, member, _⟩ := (used slot.1 (all ▸ Set.mem_univ _)).mp found
    rw [empty place] at member
    cases member

/-! ## A holder and a waiter -/

theorem Settled.of_idle (idle : ∀ caller, desk.calls caller = none) : desk.Settled := by
  intro caller call present
  cases (idle caller).symm.trans present

theorem guards_of_idle (idle : ∀ caller, desk.calls caller = none) (nothing : desk.inHand = [])
    (place : Option Nat) : (desk.grip place).guards = [] := by
  cases place with
  | none => simp [LockDesk.grip, nothing]
  | some caller => simp [grip_idle (idle caller)]

/-- The waiter is dropped while the holder has the row, and then the holder lets it go. -/
theorem slots_in_use_dropped : ∃ desk, ReflTransGen (Considerate Set.univ) start desk ∧
    desk.Settled ∧ desk.locks.nextTicket = 2 ∧ desk.locks.activeSlots = 0 := by
  have unused : ReflTransGen (Considerate Set.univ) start start := .refl
  have entered := (unused.tail (.call 0 (.acquire Uuid.nil 10) rfl)).tail
    (.answer 0 rfl (.enter ..) nofun)
  have served := (entered.tail (.wait 0 rfl (.join rfl rfl))).tail
    (.answer 0 rfl (.serve rfl) nofun)
  have handed := served.tail (.conclude 0 rfl)
  have queued := (handed.tail (.call 1 (.acquire Uuid.nil 10) rfl)).tail
    (.answer 1 rfl (.enter ..) nofun)
  have contended := queued.tail (.wait 1 rfl (.join rfl rfl))
  have broken := contended.tail (.breakOff 1 rfl ⟨_, _, _, rfl⟩)
  have left := broken.tail (.answer 1 rfl (.leave ..) fun guard _ same _ => by
    cases same
    exact ⟨_, List.mem_cons_self, rfl⟩)
  have dropped := (left.tail (.conclude 1 rfl)).tail (.drop 0 List.mem_cons_self rfl)
  have unlocked := dropped.tail (.answer 0 rfl (.leave ..) fun _ _ => nofun)
  have freed := (unlocked.tail (.answer 0 rfl (.prune ..) nofun)).tail (.conclude 0 rfl)
  refine ⟨_, freed, .of_idle ?idle, rfl,
    (slots_in_use freed (.of_idle ?idle)).2 rfl (guards_of_idle ?idle rfl)⟩
  exact fun | 0 => rfl | 1 => rfl | _ + 2 => rfl

/-- The row is let go and handed to the waiter, and the waiter is dropped before it has noticed: the
slot is left behind. -/
theorem slot_left_behind : ∃ desk, ReflTransGen (Considerate ∅) start desk ∧ desk.Settled ∧
    (∀ place, (desk.grip place).guards = []) ∧ desk.locks.activeSlots = 1 := by
  have unused : ReflTransGen (Considerate ∅) start start := .refl
  have entered := (unused.tail (.call 0 (.acquire Uuid.nil 10) rfl)).tail
    (.answer 0 rfl (.enter ..) nofun)
  have served := (entered.tail (.wait 0 rfl (.join rfl rfl))).tail
    (.answer 0 rfl (.serve rfl) nofun)
  have handed := served.tail (.conclude 0 rfl)
  have queued := (handed.tail (.call 1 (.acquire Uuid.nil 10) rfl)).tail
    (.answer 1 rfl (.enter ..) nofun)
  have contended := queued.tail (.wait 1 rfl (.join rfl rfl))
  have dropped := contended.tail (.drop 0 List.mem_cons_self rfl)
  have unlocked := dropped.tail (.answer 0 rfl (.leave ..) fun _ _ => nofun)
  have passed := (unlocked.tail (.answer 0 rfl (.prune ..) nofun)).tail (.conclude 0 rfl)
  have broken := passed.tail (.breakOff 1 rfl ⟨_, _, _, rfl⟩)
  have left := broken.tail (.answer 1 rfl (.leave ..) fun _ _ _ => False.elim)
  have ended := left.tail (.conclude 1 rfl)
  refine ⟨_, ended, .of_idle ?idle, guards_of_idle ?idle rfl, rfl⟩
  exact fun | 0 => rfl | 1 => rfl | _ + 2 => rfl

end LockDesk

end AccountLedger
