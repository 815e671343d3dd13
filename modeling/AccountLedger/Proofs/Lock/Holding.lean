import AccountLedger.Proofs.Lock.Sound

/-!
Who holds which row locks, and who still waits for one, as told by the tickets of the lock table.
Each change of the table changes this for one party only.
-/

namespace AccountLedger.LockTable

variable {table : LockTable} {owner other number : Nat} {ticket : Ticket}

/-- The row locks that a party has. -/
def heldBy (table : LockTable) (owner : Nat) : Set RowGuard :=
  {guard | ∃ ticket ∈ table.tickets, ticket.owner = owner ∧ ticket.phase = .held ∧
    ticket.guard = guard}

/-- The row locks that a party has asked for and not noticed to have. -/
def awaitedBy (table : LockTable) (owner : Nat) : Set RowGuard :=
  {guard | ∃ ticket ∈ table.tickets, ticket.owner = owner ∧ ticket.phase ≠ .held ∧
    ticket.guard = guard}

/-- All but one of a set of row locks. -/
def except (guards : Set RowGuard) (number : Nat) : Set RowGuard :=
  {guard ∈ guards | guard.ticket ≠ number}

theorem except_eq_self {guards : Set RowGuard} (absent : ∀ guard ∈ guards, guard.ticket ≠ number) :
    except guards number = guards :=
  Set.ext fun guard => ⟨fun member => member.1, fun member => ⟨member, absent guard member⟩⟩

theorem heldBy_of_tickets {other : LockTable} (same : other.tickets = table.tickets) :
    other.heldBy owner = table.heldBy owner := by
  unfold heldBy
  rw [same]

theorem awaitedBy_of_tickets {other : LockTable} (same : other.tickets = table.tickets) :
    other.awaitedBy owner = table.awaitedBy owner := by
  unfold awaitedBy
  rw [same]

theorem ticket_of_mem {guard : RowGuard}
    (member : guard ∈ table.heldBy owner ∨ guard ∈ table.awaitedBy owner) :
    ∃ ticket ∈ table.tickets, ticket.owner = owner ∧ ticket.guard = guard := by
  rcases member with ⟨ticket, present, own, _, same⟩ | ⟨ticket, present, own, _, same⟩ <;>
    exact ⟨ticket, present, own, same⟩

namespace Sound

/-- A number stands for one row lock of one party. -/
theorem guard_unique (sound : table.Sound) {first second : RowGuard}
    (one : first ∈ table.heldBy owner ∨ first ∈ table.awaitedBy owner)
    (two : second ∈ table.heldBy other ∨ second ∈ table.awaitedBy other)
    (same : first.ticket = second.ticket) : owner = other ∧ first = second := by
  obtain ⟨a, presentA, rfl, rfl⟩ := ticket_of_mem one
  obtain ⟨b, presentB, rfl, rfl⟩ := ticket_of_mem two
  have equal := sound.eq_of_number presentA presentB same
  exact ⟨by rw [equal], by rw [equal]⟩

theorem held_unique (sound : table.Sound) {first second : RowGuard}
    (one : first ∈ table.heldBy owner) (two : second ∈ table.heldBy other)
    (same : first.account = second.account) : owner = other ∧ first = second := by
  obtain ⟨a, presentA, rfl, heldA, rfl⟩ := one
  obtain ⟨b, presentB, rfl, heldB, rfl⟩ := two
  have equal := sound.eq_of_exclusive presentA presentB same
    (a.isExclusive_iff.mpr (Or.inr heldA)) (b.isExclusive_iff.mpr (Or.inr heldB))
  exact ⟨by rw [equal], by rw [equal]⟩

theorem issued_guard (sound : table.Sound) {guard : RowGuard}
    (member : guard ∈ table.heldBy owner ∨ guard ∈ table.awaitedBy owner) :
    guard.ticket < table.nextTicket := by
  obtain ⟨ticket, present, _, rfl⟩ := ticket_of_mem member
  exact sound.issued ticket present

theorem heldBy_disjoint (sound : table.Sound) {guard : RowGuard}
    (held : guard ∈ table.heldBy owner) : guard ∉ table.awaitedBy owner := by
  rintro ⟨b, presentB, _, notHeld, sameB⟩
  obtain ⟨a, presentA, _, heldA, sameA⟩ := held
  have equal := sound.eq_of_number presentA presentB
    (congrArg RowGuard.ticket (sameA.trans sameB.symm))
  exact notHeld (equal ▸ heldA)

end Sound

/-! ## Entering -/

theorem heldBy_enter (account : Uuid) :
    (table.enter owner account).2.heldBy other = table.heldBy other := by
  ext guard
  simp [heldBy, enter_tickets, newTicket, or_and_right, exists_or]

theorem awaitedBy_enter_self (account : Uuid) :
    (table.enter owner account).2.awaitedBy owner =
      insert ⟨account, (table.enter owner account).1⟩ (table.awaitedBy owner) := by
  ext guard
  simp only [awaitedBy, enter_tickets, enter_number, List.mem_append, List.mem_singleton,
    Set.mem_ofPred_eq, Set.mem_insert_iff]
  constructor
  · rintro ⟨ticket, member | rfl, own, waits, same⟩
    · exact Or.inr ⟨ticket, member, own, waits, same⟩
    · exact Or.inl same.symm
  · rintro (rfl | ⟨ticket, member, own, waits, same⟩)
    · exact ⟨table.newTicket owner account, Or.inr rfl, rfl, by simp [newTicket], rfl⟩
    · exact ⟨ticket, Or.inl member, own, waits, same⟩

theorem awaitedBy_enter_other (account : Uuid) (differs : other ≠ owner) :
    (table.enter owner account).2.awaitedBy other = table.awaitedBy other := by
  ext guard
  simp [awaitedBy, enter_tickets, newTicket, or_and_right, exists_or, Ne.symm differs]

/-! ## Queueing -/

theorem joinedPhase_ne_held : table.joinedPhase ticket ≠ .held := by
  unfold joinedPhase
  split <;> simp

theorem heldBy_join (sound : table.Sound) (found : table.ticket? number = some ticket)
    (notHeld : ticket.phase ≠ .held) : (table.join number).heldBy owner = table.heldBy owner := by
  obtain ⟨present, rfl⟩ := of_ticket? found
  ext guard
  simp only [heldBy, Set.mem_ofPred_eq]
  constructor
  · rintro ⟨a, member, own, held, same⟩
    rcases (mem_join found).mp member with kept | rfl
    · exact ⟨a, kept.1, own, held, same⟩
    · exact absurd held joinedPhase_ne_held
  · rintro ⟨a, member, own, held, same⟩
    refine ⟨a, (mem_join found).mpr (Or.inl ⟨member, fun self => notHeld ?_⟩), own, held, same⟩
    rw [← sound.eq_of_number member present self]
    exact held

theorem awaitedBy_join (sound : table.Sound) (found : table.ticket? number = some ticket)
    (notHeld : ticket.phase ≠ .held) :
    (table.join number).awaitedBy owner = table.awaitedBy owner := by
  obtain ⟨present, rfl⟩ := of_ticket? found
  ext guard
  simp only [awaitedBy, Set.mem_ofPred_eq]
  constructor
  · rintro ⟨a, member, own, waits, same⟩
    rcases (mem_join found).mp member with kept | rfl
    · exact ⟨a, kept.1, own, waits, same⟩
    · exact ⟨ticket, present, own, notHeld, same⟩
  · rintro ⟨a, member, own, waits, same⟩
    by_cases self : a.number = ticket.number
    · rw [sound.eq_of_number member present self] at own same
      exact ⟨_, (mem_join found).mpr (Or.inr rfl), own, joinedPhase_ne_held, same⟩
    · exact ⟨a, (mem_join found).mpr (Or.inl ⟨member, self⟩), own, waits, same⟩

/-! ## Being served -/

theorem served_owner (ticket : Ticket) : (served number ticket).owner = ticket.owner := by
  unfold served
  split <;> rfl

theorem served_guard (ticket : Ticket) : (served number ticket).guard = ticket.guard := by
  unfold served
  split <;> rfl

theorem served_held (ticket : Ticket) :
    (served number ticket).phase = .held ↔ ticket.number = number ∨ ticket.phase = .held := by
  unfold served
  split
  · next same => simp [same]
  · next differs => simp [differs]

theorem heldBy_notice (sound : table.Sound) (noticed : (table.notice number).1 = true)
    (found : table.ticket? number = some ticket) :
    (table.notice number).2.heldBy owner =
      {guard | guard ∈ table.heldBy owner ∨ (ticket.owner = owner ∧ guard = ticket.guard)} := by
  obtain ⟨_, _, _, result⟩ := notice_true noticed
  obtain ⟨present, rfl⟩ := of_ticket? found
  ext guard
  simp only [heldBy, result, Set.mem_ofPred_eq, List.mem_map]
  constructor
  · rintro ⟨_, ⟨a, member, rfl⟩, own, held, same⟩
    rw [served_owner] at own
    rw [served_guard] at same
    rcases (served_held a).mp held with self | held
    · rw [sound.eq_of_number member present self] at own same
      exact Or.inr ⟨own, same.symm⟩
    · exact Or.inl ⟨a, member, own, held, same⟩
  · rintro (⟨a, member, own, held, same⟩ | ⟨own, rfl⟩)
    · exact ⟨_, ⟨a, member, rfl⟩, (served_owner a).trans own, (served_held a).mpr (Or.inr held),
        (served_guard a).trans same⟩
    · exact ⟨_, ⟨ticket, present, rfl⟩, (served_owner ticket).trans own,
        (served_held ticket).mpr (Or.inl rfl), served_guard ticket⟩

theorem awaitedBy_notice (noticed : (table.notice number).1 = true) :
    (table.notice number).2.awaitedBy owner = except (table.awaitedBy owner) number := by
  obtain ⟨_, _, _, result⟩ := notice_true noticed
  ext guard
  simp only [awaitedBy, except, result, Set.mem_ofPred_eq, List.mem_map]
  constructor
  · rintro ⟨_, ⟨a, member, rfl⟩, own, waits, same⟩
    rw [served_owner] at own
    rw [served_guard] at same
    rw [Ne, served_held, not_or] at waits
    exact ⟨⟨a, member, own, waits.2, same⟩, by rw [← same]; exact waits.1⟩
  · rintro ⟨⟨a, member, own, waits, rfl⟩, differs⟩
    refine ⟨_, ⟨a, member, rfl⟩, (served_owner a).trans own, ?_, served_guard a⟩
    rw [Ne, served_held, not_or]
    exact ⟨differs, waits⟩

/-! ## Leaving -/

/-- What a ticket becomes when another one is given up: the same, or served in its turn. -/
theorem mem_leave (found : table.ticket? number = some ticket) :
    (∀ a ∈ table.tickets, a.number ≠ number →
      ∃ b ∈ (table.leave number).2.tickets, b.owner = a.owner ∧ b.guard = a.guard ∧
        (b.phase = .held ↔ a.phase = .held)) ∧
    (∀ b ∈ (table.leave number).2.tickets,
      ∃ a ∈ table.tickets, a.number ≠ number ∧ b.owner = a.owner ∧ b.guard = a.guard ∧
        (b.phase = .held ↔ a.phase = .held)) := by
  rcases leave_cases found with ⟨result, _⟩ | ⟨front, next, rest, split, _, waits, result⟩
  · rw [result]
    exact ⟨fun a member differs => ⟨a, mem_without.mpr ⟨member, differs⟩, rfl, rfl, Iff.rfl⟩,
      fun b member => ⟨b, (mem_without.mp member).1, (mem_without.mp member).2, rfl, rfl, Iff.rfl⟩⟩
  · rw [result]
    constructor
    · intro a member differs
      have kept : a ∈ front ++ next :: rest := by
        rw [← split]
        exact mem_without.mpr ⟨member, differs⟩
      simp only [List.mem_append, List.mem_cons] at kept
      rcases kept with kept | rfl | kept
      · exact ⟨a, by simp [kept], rfl, rfl, Iff.rfl⟩
      · exact ⟨{ a with phase := .granted }, by simp, rfl, rfl, by simp [waits.2]⟩
      · exact ⟨a, by simp [kept], rfl, rfl, Iff.rfl⟩
    · intro b member
      have before : ∀ a ∈ front ++ next :: rest, a ∈ table.tickets ∧ a.number ≠ number := by
        intro a kept
        rw [← split] at kept
        exact mem_without.mp kept
      simp only [List.mem_append, List.mem_cons] at member
      rcases member with kept | rfl | kept
      · exact ⟨b, (before b (by simp [kept])).1, (before b (by simp [kept])).2, rfl, rfl, Iff.rfl⟩
      · exact ⟨next, (before next (by simp)).1, (before next (by simp)).2, rfl, rfl,
          by simp [waits.2]⟩
      · exact ⟨b, (before b (by simp [kept])).1, (before b (by simp [kept])).2, rfl, rfl, Iff.rfl⟩

theorem heldBy_leave (found : table.ticket? number = some ticket) :
    (table.leave number).2.heldBy owner = except (table.heldBy owner) number := by
  obtain ⟨forward, backward⟩ := mem_leave found
  ext guard
  constructor
  · rintro ⟨b, member, own, held, same⟩
    obtain ⟨a, present, differs, sameOwner, sameGuard, phase⟩ := backward b member
    refine ⟨⟨a, present, sameOwner.symm.trans own, phase.mp held, sameGuard.symm.trans same⟩, ?_⟩
    rw [← same, sameGuard]
    exact differs
  · rintro ⟨⟨a, present, own, held, same⟩, differs⟩
    obtain ⟨b, member, sameOwner, sameGuard, phase⟩ :=
      forward a present (by rw [← same] at differs; exact differs)
    exact ⟨b, member, sameOwner.trans own, phase.mpr held, sameGuard.trans same⟩

theorem awaitedBy_leave (found : table.ticket? number = some ticket) :
    (table.leave number).2.awaitedBy owner = except (table.awaitedBy owner) number := by
  obtain ⟨forward, backward⟩ := mem_leave found
  ext guard
  constructor
  · rintro ⟨b, member, own, waits, same⟩
    obtain ⟨a, present, differs, sameOwner, sameGuard, phase⟩ := backward b member
    refine ⟨⟨a, present, sameOwner.symm.trans own, fun held => waits (phase.mpr held),
      sameGuard.symm.trans same⟩, ?_⟩
    rw [← same, sameGuard]
    exact differs
  · rintro ⟨⟨a, present, own, waits, same⟩, differs⟩
    obtain ⟨b, member, sameOwner, sameGuard, phase⟩ :=
      forward a present (by rw [← same] at differs; exact differs)
    exact ⟨b, member, sameOwner.trans own, fun held => waits (phase.mp held), sameGuard.trans same⟩

end AccountLedger.LockTable
