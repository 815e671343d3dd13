import AccountLedger.Proofs.Lock.Desk

/-!
Mutual exclusion. However calls, answers, timeouts, drops and the freeing of slots follow each other,
a row lock is in one hand only and no two hands have the same row; whoever has a row or queues for
it does so at the mutex that the row's slot names, and the slot stays the same for as long.
-/

namespace AccountLedger

namespace LockDesk

variable {desk next : LockDesk} {caller : Nat} {grip : Grip} {breakable : Bool}
  {rest : Program lockInterface (Except LedgerError (List RowGuard))}

structure Sound (desk : LockDesk) : Prop where
  locks : desk.locks.Sound
  backed : ∀ place, (desk.grip place).Backed desk.locks
  apart : ∀ first second, ∀ a ∈ (desk.grip first).guards, ∀ b ∈ (desk.grip second).guards,
    a.ticket = b.ticket → first = second
  keeps : ∀ caller call, desk.calls caller = some call →
    call.rest.Ensures Grip.rule call.grip Grip.Handed

/-! ## What is in hand after each step -/

theorem grip_call (busy : desk.calls caller = some ⟨grip, breakable, rest⟩) :
    desk.grip (some caller) = grip := by
  simp [LockDesk.grip, busy]

theorem grip_idle (idle : desk.calls caller = none) : desk.grip (some caller) = .of [] := by
  simp [LockDesk.grip, idle]

@[simp]
theorem grip_withLocks (locks : LockTable) (place : Option Nat) :
    (desk.withLocks locks).grip place = desk.grip place := by
  cases place <;> rfl

theorem grip_withCall_self (call : Option LockCall) :
    (desk.withCall caller call).grip (some caller) = call.elim (.of []) (·.grip) := by
  simp [LockDesk.grip, withCall]

theorem grip_withCall_other (call : Option LockCall) {place : Option Nat}
    (differs : place ≠ some caller) : (desk.withCall caller call).grip place = desk.grip place := by
  cases place with
  | none => rfl
  | some other =>
    have apart : other ≠ caller := fun same => differs (same ▸ rfl)
    simp [LockDesk.grip, withCall, Function.update_of_ne apart]

section Answered

variable {request : LockRequest} {answer : request.Answer} {locks : LockTable}
  {resume : request.Answer → Program lockInterface (Except LedgerError (List RowGuard))}

theorem grip_answered_self : (desk.answered caller grip breakable request answer locks resume).grip
    (some caller) = grip.after request answer := grip_withCall_self _

theorem grip_answered_other {place : Option Nat} (differs : place ≠ some caller) :
    (desk.answered caller grip breakable request answer locks resume).grip place =
      desk.grip place := by
  rw [LockDesk.answered, grip_withCall_other _ differs, grip_withLocks]

end Answered

theorem calls_withCall {call : Option LockCall} {other : Nat} {found : LockCall}
    (present : (desk.withCall caller call).calls other = some found) :
    call = some found ∨ desk.calls other = some found := by
  by_cases same : other = caller
  · subst same
    exact Or.inl (by simpa [withCall] using present)
  · exact Or.inr (by simpa [withCall, Function.update_of_ne same] using present)

theorem start_sound : start.Sound := by
  have empty : ∀ place, start.grip place = .of [] := by
    intro place
    cases place <;> rfl
  refine ⟨LockTable.empty_sound, fun place => ?_, fun first _ a member => ?_, fun _ _ => nofun⟩
  · rw [empty]
    exact Grip.backed_of.mpr ⟨nofun, List.nodup_nil⟩
  · rw [empty] at member
    cases member

theorem grip_replaced {call : LockCall} (same : desk.grip (some caller) = call.grip)
    (place : Option Nat) : (desk.withCall caller (some call)).grip place = desk.grip place := by
  by_cases own : place = some caller
  · rw [own, grip_withCall_self, same]
    rfl
  · exact grip_withCall_other _ own

/-- A call goes on with what it has in hand; nothing else changes. -/
theorem Sound.replaced (sound : desk.Sound) {call : LockCall}
    (same : desk.grip (some caller) = call.grip)
    (keeps : call.rest.Ensures Grip.rule call.grip Grip.Handed) :
    (desk.withCall caller (some call)).Sound := by
  have grips := grip_replaced same
  refine ⟨sound.locks, fun place => ?_, fun first second => ?_, fun other found present => ?_⟩
  · rw [grips]
    exact sound.backed place
  · rw [grips, grips]
    exact sound.apart first second
  · rcases calls_withCall present with own | other
    · cases own
      exact keeps
    · exact sound.keeps _ _ other

theorem Sound.waited (sound : desk.Sound) {request : LockRequest} {locks : LockTable}
    (step : LockStep request desk.locks none locks) : (desk.withLocks locks).Sound := by
  refine ⟨step.sound sound.locks, fun place => ?_, fun first second => ?_, sound.keeps⟩
  · rw [grip_withLocks]
    exact (sound.backed place).waiting step sound.locks
  · rw [grip_withLocks, grip_withLocks]
    exact sound.apart first second

/-- The lock table answers one of the calls. -/
theorem Sound.answered (sound : desk.Sound) {request : LockRequest} {answer : request.Answer}
    {locks : LockTable}
    {resume : request.Answer → Program lockInterface (Except LedgerError (List RowGuard))}
    (busy : desk.calls caller = some ⟨grip, breakable, .ask request resume⟩)
    (step : LockStep request desk.locks (some answer) locks) :
    (desk.answered caller grip breakable request answer locks resume).Sound := by
  have mine := grip_call busy
  have backed : grip.Backed desk.locks := mine ▸ sound.backed (some caller)
  obtain ⟨permitted, after⟩ := sound.keeps caller _ busy
  have own : (desk.answered caller grip breakable request answer locks resume).grip (some caller) =
      grip.after request answer := grip_answered_self
  have others : ∀ place, place ≠ some caller →
      (desk.answered caller grip breakable request answer locks resume).grip place =
        desk.grip place := fun place differs => grip_answered_other differs
  -- a ticket in hand somewhere else is neither the one in question nor the one that is issued
  have elsewhere : ∀ place, place ≠ some caller → ∀ guard ∈ (desk.grip place).guards,
      ∀ other ∈ (grip.after request answer).guards, guard.ticket ≠ other.ticket := by
    intro place differs guard member other inside same
    rcases Grip.mem_after step inside with inside | new
    · exact differs (sound.apart place (some caller) guard member other (mine ▸ inside) same)
    · have issued := (sound.backed place).issued sound.locks member
      omega
  refine ⟨step.sound sound.locks, fun place => ?_, fun first second a inA b inB same => ?_,
    fun other found present => ?_⟩
  · by_cases self : place = some caller
    · rw [self, own]
      exact backed.after permitted step sound.locks
    · rw [others place self]
      refine (sound.backed place).others step sound.locks fun guard member about => ?_
      obtain ⟨mineToo, inside, same⟩ := permitted.own about
      exact self (sound.apart place (some caller) guard member mineToo (mine ▸ inside) same.symm)
  · by_cases firstOwn : first = some caller
    · by_cases secondOwn : second = some caller
      · rw [firstOwn, secondOwn]
      · rw [firstOwn, own] at inA
        rw [others second secondOwn] at inB
        exact absurd same.symm (elsewhere second secondOwn b inB a inA)
    · by_cases secondOwn : second = some caller
      · rw [others first firstOwn] at inA
        rw [secondOwn, own] at inB
        exact absurd same (elsewhere first firstOwn a inA b inB)
      · rw [others first firstOwn] at inA
        rw [others second secondOwn] at inB
        exact sound.apart first second a inA b inB same
  · rcases calls_withCall present with same | other
    · cases same
      exact after answer (backed.admits step sound.locks)
    · exact sound.keeps _ _ other

/-- What has been handed out, together with what a call has that waits for nothing, is in the table,
and nobody else has any of it. -/
theorem Sound.joint (sound : desk.Sound) {had : List RowGuard}
    (before : desk.grip (some caller) = .of had) :
    (Grip.of (desk.inHand ++ had)).Backed desk.locks ∧
      ∀ guard ∈ desk.inHand ++ had, ∀ other, other ≠ caller →
        ∀ known ∈ (desk.grip (some other)).guards, guard.ticket ≠ known.ticket := by
  obtain ⟨heldHand, distinctHand⟩ := Grip.backed_of.mp (sound.backed none)
  obtain ⟨heldHad, distinctHad⟩ := Grip.backed_of.mp (before ▸ sound.backed (some caller))
  have inHand : ∀ guard ∈ desk.inHand, guard ∈ (desk.grip none).guards := by simp [LockDesk.grip]
  have inCall : ∀ guard ∈ had, guard ∈ (desk.grip (some caller)).guards := by simp [before]
  refine ⟨Grip.backed_of.mpr ⟨fun guard member => ?_, ?_⟩, ?_⟩
  · exact (List.mem_append.mp member).elim (heldHand guard) (heldHad guard)
  · rw [List.map_append, List.nodup_append]
    refine ⟨distinctHand, distinctHad, ?_⟩
    intro number inFirst other inSecond equal
    obtain ⟨a, inA, rfl⟩ := List.mem_map.mp inFirst
    obtain ⟨b, inB, rfl⟩ := List.mem_map.mp inSecond
    cases sound.apart none (some caller) a (inHand a inA) b (inCall b inB) equal
  · intro guard member other differs known inside equal
    rcases List.mem_append.mp member with member | member
    · cases sound.apart none (some other) guard (inHand guard member) known inside equal
    · cases sound.apart (some caller) (some other) guard (inCall guard member) known inside equal
      exact differs rfl

/-- Hands are apart if what has been handed out is apart from the calls, and these from each other. -/
theorem apart_of
    (hand : ∀ a ∈ (desk.grip none).guards, ∀ other, ∀ b ∈ (desk.grip (some other)).guards,
      a.ticket ≠ b.ticket)
    (calls : ∀ first second, first ≠ second → ∀ a ∈ (desk.grip (some first)).guards,
      ∀ b ∈ (desk.grip (some second)).guards, a.ticket ≠ b.ticket) :
    ∀ first second, ∀ a ∈ (desk.grip first).guards, ∀ b ∈ (desk.grip second).guards,
      a.ticket = b.ticket → first = second := by
  rintro (_ | first) (_ | second) a inA b inB equal
  · rfl
  · exact absurd equal (hand a inA second b inB)
  · exact absurd equal.symm (hand b inB first a inA)
  · by_cases same : first = second
    · rw [same]
    · exact absurd equal (calls first second same a inA b inB)

/-- Row locks pass between a call that waits for nothing and those who have been handed some. -/
theorem Sound.regrouped (sound : desk.Sound) {inHand moved had : List RowGuard}
    {call : Option LockCall} (before : desk.grip (some caller) = .of had)
    (after : call.elim (.of []) (·.grip) = .of moved)
    (same : (inHand ++ moved).Perm (desk.inHand ++ had))
    (keeps : ∀ found, call = some found →
      found.rest.Ensures Grip.rule found.grip Grip.Handed) :
    ((desk.withInHand inHand).withCall caller call).Sound := by
  obtain ⟨joint, alone⟩ := sound.joint before
  obtain ⟨held, distinct⟩ := Grip.backed_of.mp joint
  have parts := (same.map (·.ticket)).nodup_iff.mpr distinct
  rw [List.map_append, List.nodup_append] at parts
  obtain ⟨distinctHand, distinctMoved, differ⟩ := parts
  let next := (desk.withInHand inHand).withCall caller call
  have mine : next.grip (some caller) = .of moved := (grip_withCall_self call).trans after
  have others : ∀ other, other ≠ caller → next.grip (some other) = desk.grip (some other) :=
    fun other differs => grip_withCall_other call fun equal => differs (Option.some.inj equal)
  refine ⟨sound.locks, ?_, ?_, fun other found present => ?_⟩
  · rintro (_ | other)
    · exact Grip.backed_of.mpr
        ⟨fun guard member => held guard (same.mem_iff.mp (List.mem_append_left _ member)),
          distinctHand⟩
    · show (next.grip (some other)).Backed desk.locks
      by_cases own : other = caller
      · rw [own, mine]
        exact Grip.backed_of.mpr
          ⟨fun guard member => held guard (same.mem_iff.mp (List.mem_append_right _ member)),
            distinctMoved⟩
      · rw [others other own]
        exact sound.backed (some other)
  · have crossed : ∀ a ∈ inHand, ∀ other, ∀ b ∈ (next.grip (some other)).guards,
        a.ticket ≠ b.ticket := by
      intro a inA other b inB
      by_cases own : other = caller
      · rw [own, mine, Grip.guards_of] at inB
        exact differ _ (List.mem_map_of_mem inA) _ (List.mem_map_of_mem inB)
      · rw [others other own] at inB
        exact alone a (same.mem_iff.mp (List.mem_append_left _ inA)) other own b inB
    have movedApart : ∀ a ∈ (next.grip (some caller)).guards, ∀ other, other ≠ caller →
        ∀ b ∈ (next.grip (some other)).guards, a.ticket ≠ b.ticket := by
      intro a inA other differs b inB
      rw [mine, Grip.guards_of] at inA
      rw [others other differs] at inB
      exact alone a (same.mem_iff.mp (List.mem_append_right _ inA)) other differs b inB
    have hand : (next.grip none).guards = inHand := Grip.guards_of inHand
    refine apart_of (fun a inA => crossed a (hand ▸ inA)) ?_
    intro first second differs a inA b inB equal
    by_cases firstOwn : first = caller
    · have secondOther : second ≠ caller := fun same => differs (firstOwn.trans same.symm)
      exact movedApart a (firstOwn ▸ inA) second secondOther b inB equal
    · by_cases secondOwn : second = caller
      · exact movedApart b (secondOwn ▸ inB) first firstOwn a inA equal.symm
      · exact differs (Option.some.inj (sound.apart (some first) (some second) a
          (others first firstOwn ▸ inA) b (others second secondOwn ▸ inB) equal))
  · rcases calls_withCall present with own | other
    · exact keeps found own
    · exact sound.keeps _ _ other

/-- The caller takes over what its call has in hand. -/
theorem Sound.concluded (sound : desk.Sound) {outcome : Except LedgerError (List RowGuard)}
    (busy : desk.calls caller = some ⟨grip, breakable, .done outcome⟩) :
    ((desk.withInHand (desk.inHand ++ Grip.handed outcome)).withCall caller none).Sound := by
  have mine : grip = .of (Grip.handed outcome) := sound.keeps caller _ busy
  refine sound.regrouped ((grip_call busy).trans mine) rfl ?_ fun _ => nofun
  rw [List.append_nil]

/-- A row lock that was handed out goes to somebody who lets it go. -/
theorem Sound.dropped (sound : desk.Sound) {guard : RowGuard} (member : guard ∈ desk.inHand)
    (idle : desk.calls caller = none) : (desk.dropped caller guard).Sound := by
  refine sound.regrouped (grip_idle idle) rfl ?_ ?_
  · rw [List.append_nil]
    exact (List.perm_append_singleton guard _).trans (List.perm_cons_erase member).symm
  · rintro _ ⟨⟩
    exact Grip.ensures_letGo (Grip.distinct_of.mpr (List.nodup_singleton _))

theorem Sound.step (sound : desk.Sound) (step : Step desk next) : next.Sound := by
  cases step with
  | call errand idle => exact sound.replaced (grip_idle idle) (errand.ensures_program _)
  | wait busy step => exact sound.waited step
  | answer busy step => exact sound.answered busy step
  | conclude busy => exact sound.concluded busy
  | @breakOff caller grip rest busy =>
    have mine := grip_call busy
    have distinct : grip.Distinct := mine ▸ (sound.backed (some caller)).distinct
    exact sound.replaced mine (Grip.ensures_letGo distinct)
  | drop member idle => exact sound.dropped member idle

theorem Reachable.sound (reachable : desk.Reachable) : desk.Sound := by
  induction reachable with
  | refl => exact start_sound
  | tail _ step ih => exact ih.step step

end LockDesk

/-! ## The mutex of a row -/

/-- A row lock is had or waited for at this mutex. -/
def LockTable.Attached (table : LockTable) (guard : RowGuard) (mutex : Nat) : Prop :=
  ∃ ticket ∈ table.tickets, ticket.guard = guard ∧ ticket.mutex = mutex

theorem LockTable.Sound.lookup {table : LockTable} (sound : table.Sound) {guard : RowGuard}
    {mutex : Nat} (attached : table.Attached guard mutex) :
    table.slots.lookup guard.account = some mutex := by
  obtain ⟨ticket, present, rfl, rfl⟩ := attached
  have slot := sound.slotted ticket present
  cases found : table.slots.lookup ticket.account with
  | none => exact absurd (List.mem_map_of_mem slot) (lookup_none found)
  | some mutex =>
    have same := List.inj_on_of_nodup_map sound.accounts (lookup_mem found) slot rfl
    exact found.trans (congrArg (some ·.2) same)

theorem Grip.Backed.attached {grip : Grip} {table : LockTable} (backed : grip.Backed table)
    {guard : RowGuard} (member : guard ∈ grip.guards) : ∃ mutex, table.Attached guard mutex := by
  obtain ⟨owner, has⟩ := backed.owned member
  obtain ⟨ticket, present, _, same⟩ := LockTable.ticket_of_mem has
  exact ⟨ticket.mutex, ticket, present, same, rfl⟩

namespace LockStep

variable {request : LockRequest} {answer : Option request.Answer} {table next : LockTable}
  {guard : RowGuard} {mutex : Nat}

theorem leave_attached {number : Nat} (attached : (table.leave number).2.Attached guard mutex) :
    table.Attached guard mutex := by
  cases found : table.ticket? number with
  | none => rwa [LockTable.leave_missing found] at attached
  | some ticket =>
    have kept : ∀ other ∈ LockTable.without table.tickets number, other ∈ table.tickets :=
      fun other member => (LockTable.mem_without.mp member).1
    obtain ⟨other, member, same, at_⟩ := attached
    rcases LockTable.leave_cases found with ⟨result, _⟩ | ⟨front, served, back, split, _, _, result⟩
    · rw [result] at member
      exact ⟨other, kept other member, same, at_⟩
    · rw [result] at member
      rw [split] at kept
      simp only [List.mem_append, List.mem_cons] at member
      rcases member with member | rfl | member
      · exact ⟨other, kept other (by simp [member]), same, at_⟩
      · exact ⟨served, kept served (by simp), same, at_⟩
      · exact ⟨other, kept other (by simp [member]), same, at_⟩

/-- Whoever has or waits for a row did so before at the same mutex, or came just now. -/
theorem attached_cases (step : LockStep request table answer next)
    (attached : next.Attached guard mutex) : table.Attached guard mutex ∨
      ∃ owner account, request = .enter owner account ∧ guard = ⟨account, table.nextTicket⟩ := by
  cases step with
  | enter owner account =>
    obtain ⟨ticket, member, rfl, at_⟩ := attached
    rw [LockTable.enter_tickets] at member
    rcases List.mem_append.mp member with member | member
    · exact Or.inl ⟨ticket, member, rfl, at_⟩
    · rw [List.mem_singleton.mp member]
      exact Or.inr ⟨owner, account, rfl, rfl⟩
  | join found _ =>
    obtain ⟨ticket, member, same, at_⟩ := attached
    rcases (LockTable.mem_join found).mp member with ⟨member, _⟩ | rfl
    · exact Or.inl ⟨ticket, member, same, at_⟩
    · exact Or.inl ⟨_, (LockTable.of_ticket? found).1, same, at_⟩
  | serve noticed =>
    obtain ⟨ticket, member, same, at_⟩ := attached
    obtain ⟨_, _, _, result⟩ := LockTable.notice_true noticed
    rw [result] at member
    obtain ⟨before, present, rfl⟩ := List.mem_map.mp member
    exact Or.inl ⟨before, present, (LockTable.served_guard before).symm.trans same,
      (LockTable.served_mutex _ before).symm.trans at_⟩
  | expire => exact Or.inl (leave_attached attached)
  | leave => exact Or.inl (leave_attached attached)
  | prune account =>
    obtain ⟨ticket, member, same, at_⟩ := attached
    rw [LockTable.prune_tickets] at member
    exact Or.inl ⟨ticket, member, same, at_⟩

theorem attached_before (step : LockStep request table answer next)
    (attached : next.Attached guard mutex) (old : guard.ticket < table.nextTicket) :
    table.Attached guard mutex := by
  rcases step.attached_cases attached with before | ⟨_, _, _, rfl⟩
  · exact before
  · exact absurd old (Nat.lt_irrefl _)

theorem issues (step : LockStep request table answer next) :
    table.nextTicket ≤ next.nextTicket := by
  have left : ∀ number, (table.leave number).2.nextTicket = table.nextTicket := by
    intro number
    cases found : table.ticket? number with
    | none => rw [LockTable.leave_missing found]
    | some ticket =>
      rcases LockTable.leave_cases found with ⟨result, _⟩ | ⟨_, _, _, _, _, _, result⟩ <;>
        rw [result]
  cases step with
  | enter owner account =>
    show table.nextTicket ≤ (table.mutexOf account).2.nextTicket + 1
    rw [LockTable.mutexOf_nextTicket]
    exact Nat.le_succ _
  | join found _ => rw [LockTable.join_eq found]
  | serve noticed =>
    obtain ⟨_, _, _, result⟩ := LockTable.notice_true noticed
    rw [result]
  | expire => exact (left _).ge
  | leave => exact (left _).ge
  | prune account =>
    unfold LockTable.prune
    split
    · exact Nat.le_refl _
    · split <;> exact Nat.le_refl _

end LockStep

namespace LockDesk

open Relation (ReflTransGen)

variable {desk next : LockDesk} {guard : RowGuard} {mutex : Nat}

theorem Step.attached_before (step : Step desk next) (attached : next.locks.Attached guard mutex)
    (old : guard.ticket < desk.locks.nextTicket) : desk.locks.Attached guard mutex := by
  cases step with
  | wait _ step => exact step.attached_before attached old
  | answer _ step => exact step.attached_before attached old
  | _ => exact attached

theorem Step.issues (step : Step desk next) : desk.locks.nextTicket ≤ next.locks.nextTicket := by
  cases step with
  | wait _ step => exact step.issues
  | answer _ step => exact step.issues
  | _ => exact Nat.le_refl _

theorem issues {later : LockDesk} (run : ReflTransGen Step desk later) :
    desk.locks.nextTicket ≤ later.locks.nextTicket := by
  induction run with
  | refl => exact Nat.le_refl _
  | tail _ step ih => exact Nat.le_trans ih step.issues

theorem attached_before {later : LockDesk} (run : ReflTransGen Step desk later)
    (attached : later.locks.Attached guard mutex) (old : guard.ticket < desk.locks.nextTicket) :
    desk.locks.Attached guard mutex := by
  induction run with
  | refl => exact attached
  | tail run step ih =>
    exact ih (step.attached_before attached (Nat.lt_of_lt_of_le old (issues run)))

theorem Sound.attached (sound : desk.Sound) {place : Option Nat}
    (member : guard ∈ (desk.grip place).guards) : ∃ mutex, desk.locks.Attached guard mutex ∧
      desk.locks.slots.lookup guard.account = some mutex := by
  obtain ⟨mutex, attached⟩ := (sound.backed place).attached member
  exact ⟨mutex, attached, sound.locks.lookup attached⟩

theorem Sound.one_holder (sound : desk.Sound) {first second : Option Nat} {a b : RowGuard}
    (inA : a ∈ (desk.grip first).held) (inB : b ∈ (desk.grip second).held)
    (same : a.account = b.account) : first = second ∧ a = b := by
  obtain ⟨one, hasA⟩ := (sound.backed first).held a inA
  obtain ⟨two, hasB⟩ := (sound.backed second).held b inB
  obtain ⟨_, rfl⟩ := sound.locks.held_unique hasA hasB same
  exact ⟨sound.apart first second a (Grip.mem_guards.mpr (Or.inl inA)) a
    (Grip.mem_guards.mpr (Or.inl inB)) rfl, rfl⟩

theorem Sound.once (sound : desk.Sound) (place : Option Nat) :
    ((desk.grip place).held.map (·.account)).Nodup := by
  have tickets : ((desk.grip place).held.map (·.ticket)).Nodup :=
    ((List.sublist_append_left _ _).map _).nodup (sound.backed place).distinct
  exact (List.Nodup.of_map _ tickets).map_on fun a inA b inB same =>
    (sound.one_holder inA inB same).2

/-- A row lock is in one hand only, whether handed out or in a call on its way, and no two are for
the same row. All that have a row or wait for it do so at the mutex that its slot names, and this is
the same mutex for as long as they do. -/
theorem Reachable.mutual_exclusion (reachable : desk.Reachable) :
    (∀ first second, ∀ a ∈ (desk.grip first).held, ∀ b ∈ (desk.grip second).held,
      a.account = b.account → first = second ∧ a = b) ∧
    (∀ place, ((desk.grip place).held.map (·.account)).Nodup) ∧
    (∀ place, ∀ guard ∈ (desk.grip place).guards,
      ∃ mutex, desk.locks.slots.lookup guard.account = some mutex ∧
        ∀ other, desk.locks.Attached guard other ↔ other = mutex) ∧
    ∀ between later, ReflTransGen Step desk between → ReflTransGen Step between later →
      ∀ place, ∀ guard ∈ (desk.grip place).guards, ∀ now, guard ∈ (later.grip now).guards →
        between.locks.slots.lookup guard.account = desk.locks.slots.lookup guard.account := by
  have sound := reachable.sound
  refine ⟨fun first second a inA b inB same => sound.one_holder inA inB same, sound.once, ?_, ?_⟩
  · intro place guard member
    obtain ⟨mutex, attached, found⟩ := sound.attached member
    refine ⟨mutex, found, fun other => ⟨fun also => ?_, fun same => same ▸ attached⟩⟩
    exact Option.some.inj ((sound.locks.lookup also).symm.trans found)
  · intro between later first second place guard member now still
    have soundBetween : between.Sound := Reachable.sound (reachable.trans first)
    have soundLater : later.Sound := Reachable.sound ((reachable.trans first).trans second)
    obtain ⟨mutex, attached, _⟩ := soundLater.attached still
    have old := (sound.backed place).issued sound.locks member
    have before := attached_before (first.trans second) attached old
    have middle := attached_before second attached (Nat.lt_of_lt_of_le old (issues first))
    rw [soundBetween.locks.lookup middle, sound.locks.lookup before]

/-! ## Runs -/

theorem called (run : ReflTransGen Step desk next) (caller : Nat) (errand : LockErrand)
    (idle : next.calls caller = none) :
    ReflTransGen Step desk (next.withCall caller (some ⟨.of [], true, errand.program caller⟩)) :=
  run.tail (.call errand idle)

theorem waited (run : ReflTransGen Step desk next) (caller : Nat) {grip breakable request resume}
    {locks : LockTable} (busy : next.calls caller = some ⟨grip, breakable, .ask request resume⟩)
    (step : LockStep request next.locks none locks) :
    ReflTransGen Step desk (next.withLocks locks) :=
  run.tail (.wait busy step)

theorem stepped (run : ReflTransGen Step desk next) (caller : Nat) {grip breakable request resume}
    {answer : request.Answer} {locks : LockTable}
    (busy : next.calls caller = some ⟨grip, breakable, .ask request resume⟩)
    (step : LockStep request next.locks (some answer) locks) :
    ReflTransGen Step desk (next.answered caller grip breakable request answer locks resume) :=
  run.tail (.answer busy step)

theorem handedOver (run : ReflTransGen Step desk next) (caller : Nat) {grip breakable outcome}
    (busy : next.calls caller = some ⟨grip, breakable, .done outcome⟩) :
    ReflTransGen Step desk
      ((next.withInHand (next.inHand ++ Grip.handed outcome)).withCall caller none) :=
  run.tail (.conclude busy)

theorem letGo (run : ReflTransGen Step desk next) (caller : Nat) (member : guard ∈ next.inHand)
    (idle : next.calls caller = none) : ReflTransGen Step desk (next.dropped caller guard) :=
  run.tail (.drop member idle)

/-- A run that starts where another one has come to. -/
theorem onward (_ : ReflTransGen Step desk next) : ReflTransGen Step next next := .refl

/-- A row is let go while a second caller queues for it: the slot outlives the first. -/
theorem slot_outlives_holder : ∃ desk later : LockDesk, desk.Reachable ∧
    desk.inHand = [⟨Uuid.nil, 0⟩] ∧ (desk.grip (some 1)).awaited = some ⟨Uuid.nil, 1⟩ ∧
    ReflTransGen Step desk later ∧ later.inHand = [] ∧ later.calls 0 = none ∧
    later.locks.slots.lookup Uuid.nil = desk.locks.slots.lookup Uuid.nil := by
  have unused : ReflTransGen Step start start := .refl
  have entered := stepped (called unused 0 (.acquire Uuid.nil 10) rfl) 0 rfl (.enter ..)
  have served := stepped (waited entered 0 rfl (.join rfl rfl)) 0 rfl (.serve rfl)
  have handed := handedOver served 0 rfl
  have queued := stepped (called handed 1 (.acquire Uuid.nil 10) rfl) 1 rfl (.enter ..)
  have contended := waited queued 1 rfl (.join rfl rfl)
  have dropped := letGo (onward contended) 0 List.mem_cons_self rfl
  have unlocked := stepped dropped 0 rfl (.leave ..)
  have freed := handedOver (stepped unlocked 0 rfl (.prune ..)) 0 rfl
  refine ⟨_, _, contended, rfl, rfl, freed, rfl, rfl, ?_⟩
  exact (Reachable.mutual_exclusion contended).2.2.2 _ _ freed .refl (some 1) ⟨Uuid.nil, 1⟩
    List.mem_cons_self (some 1) List.mem_cons_self

end LockDesk

end AccountLedger
