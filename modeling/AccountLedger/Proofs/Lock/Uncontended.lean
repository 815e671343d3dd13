import AccountLedger.Proofs.Lock.Sound

/-!
A row that nobody has or waits for is handed over at once to whoever joins.
-/

namespace AccountLedger.LockTable

variable {table : LockTable} {number : Nat} {ticket : Ticket}

theorem joinedPhase_granted (sound : table.Sound) (present : ticket ∈ table.tickets)
    (free : ∀ other ∈ table.tickets, other.account = ticket.account → other.number = ticket.number) :
    table.joinedPhase ticket = .granted := by
  unfold joinedPhase
  rw [if_neg]
  intro taken
  obtain ⟨other, member, sameMutex, _⟩ := isTaken_iff.mp taken
  obtain ⟨member, differs⟩ := mem_without.mp member
  exact differs (free other member (sound.account_eq member present sameMutex))

theorem served_account (ticket : Ticket) : (served number ticket).account = ticket.account := by
  unfold served
  split <;> rfl

/-- Whoever is the only one at a row gets it by joining. -/
theorem join_free (sound : table.Sound) (found : table.ticket? number = some ticket)
    (free : ∀ other ∈ table.tickets, other.account = ticket.account → other.number = number) :
    ((table.join number).notice number).1 = true ∧
      ((table.join number).notice number).2.Sound ∧
      ∀ other ∈ ((table.join number).notice number).2.tickets,
        ∃ before ∈ table.tickets, before.account = other.account := by
  obtain ⟨present, rfl⟩ := of_ticket? found
  have joined := join_sound sound ticket.number
  have granted := joinedPhase_granted sound present free
  have again : (table.join ticket.number).ticket? ticket.number =
      some { ticket with phase := .granted } := by
    rw [← granted]
    exact joined.ticket?_of_mem ((mem_join found).mpr (Or.inr rfl))
  have noticed : ((table.join ticket.number).notice ticket.number).1 = true := by
    simp [notice, again]
  refine ⟨noticed, notice_sound joined noticed, ?_⟩
  obtain ⟨_, _, _, result⟩ := notice_true noticed
  rw [result]
  intro other member
  obtain ⟨after, inside, rfl⟩ := List.mem_map.mp member
  rw [served_account]
  rcases (mem_join found).mp inside with ⟨kept, _⟩ | rfl
  · exact ⟨after, kept, rfl⟩
  · exact ⟨ticket, present, rfl⟩

/-- Taking a free row. -/
theorem take_free (sound : table.Sound) (owner : Nat) {account : Uuid}
    (free : ∀ ticket ∈ table.tickets, ticket.account ≠ account) :
    (((table.enter owner account).2.join (table.enter owner account).1).notice
        (table.enter owner account).1).1 = true ∧
      (((table.enter owner account).2.join (table.enter owner account).1).notice
        (table.enter owner account).1).2.Sound ∧
      ∀ ticket ∈ (((table.enter owner account).2.join (table.enter owner account).1).notice
        (table.enter owner account).1).2.tickets,
        ticket.account = account ∨ ∃ other ∈ table.tickets, other.account = ticket.account := by
  have entered := enter_sound sound owner account
  have last : table.newTicket owner account ∈ (table.enter owner account).2.tickets := by
    rw [enter_tickets]
    exact List.mem_append_right _ (List.mem_singleton.mpr rfl)
  have found : (table.enter owner account).2.ticket? (table.enter owner account).1 =
      some (table.newTicket owner account) := by
    rw [enter_number]
    exact entered.ticket?_of_mem last
  have member : ∀ ticket ∈ (table.enter owner account).2.tickets,
      ticket ∈ table.tickets ∨ ticket = table.newTicket owner account := by
    intro ticket inside
    rw [enter_tickets] at inside
    exact (List.mem_append.mp inside).imp_right List.mem_singleton.mp
  obtain ⟨noticed, sound', before⟩ := join_free entered found (by
    intro other inside same
    rcases member other inside with old | rfl
    · exact absurd same (free other old)
    · exact (enter_number owner account).symm)
  refine ⟨noticed, sound', fun ticket inside => ?_⟩
  obtain ⟨other, present, same⟩ := before ticket inside
  rcases member other present with old | rfl
  · exact Or.inr ⟨other, old, same⟩
  · exact Or.inl same.symm

end AccountLedger.LockTable
