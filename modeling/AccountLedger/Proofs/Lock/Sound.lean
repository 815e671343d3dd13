import AccountLedger.Lock.Acquire
import Mathlib.Data.Set.Insert
import Mathlib.Data.List.Nodup

/-!
The table of row locks stays sound under everything that is done to it: all who are interested in a
row share the mutex that its slot names, at most one of them has it, and nobody queues for a mutex
that nobody has.
-/

namespace AccountLedger

namespace Ticket

theorem isExclusive_iff (ticket : Ticket) :
    ticket.isExclusive = true ↔ ticket.phase = .granted ∨ ticket.phase = .held := by
  simp [isExclusive]

/-- The row lock that a ticket stands for once it is held. -/
def guard (ticket : Ticket) : RowGuard := ⟨ticket.account, ticket.number⟩

end Ticket

namespace LockTable

structure Sound (table : LockTable) : Prop where
  numbers : (table.tickets.map (·.number)).Nodup
  issued : ∀ ticket ∈ table.tickets, ticket.number < table.nextTicket
  accounts : (table.slots.map (·.1)).Nodup
  mutexes : (table.slots.map (·.2)).Nodup
  made : ∀ slot ∈ table.slots, slot.2 < table.nextMutex
  slotted : ∀ ticket ∈ table.tickets, (ticket.account, ticket.mutex) ∈ table.slots
  exclusive : ∀ a ∈ table.tickets, ∀ b ∈ table.tickets, a.mutex = b.mutex →
    a.isExclusive = true → b.isExclusive = true → a.number = b.number
  taken : ∀ a ∈ table.tickets, a.phase = .queued →
    ∃ b ∈ table.tickets, b.mutex = a.mutex ∧ b.isExclusive = true

theorem empty_sound : empty.Sound := by
  constructor <;> simp [empty]

variable {table : LockTable}

namespace Sound

theorem eq_of_number (sound : table.Sound) {a b : Ticket} (first : a ∈ table.tickets)
    (second : b ∈ table.tickets) (same : a.number = b.number) : a = b :=
  List.inj_on_of_nodup_map sound.numbers first second same

theorem mutex_eq (sound : table.Sound) {a b : Ticket} (first : a ∈ table.tickets)
    (second : b ∈ table.tickets) (same : a.account = b.account) : a.mutex = b.mutex := by
  have slots := List.inj_on_of_nodup_map sound.accounts (sound.slotted a first)
    (sound.slotted b second) same
  exact congrArg Prod.snd slots

theorem account_eq (sound : table.Sound) {a b : Ticket} (first : a ∈ table.tickets)
    (second : b ∈ table.tickets) (same : a.mutex = b.mutex) : a.account = b.account := by
  have slots := List.inj_on_of_nodup_map sound.mutexes (sound.slotted a first)
    (sound.slotted b second) same
  exact congrArg Prod.fst slots

/-- Two parties never have the same row. -/
theorem eq_of_exclusive (sound : table.Sound) {a b : Ticket} (first : a ∈ table.tickets)
    (second : b ∈ table.tickets) (same : a.account = b.account)
    (firstHas : a.isExclusive = true) (secondHas : b.isExclusive = true) : a = b :=
  sound.eq_of_number first second
    (sound.exclusive a first b second (sound.mutex_eq first second same) firstHas secondHas)

end Sound

theorem of_ticket? {number : Nat} {ticket : Ticket} (found : table.ticket? number = some ticket) :
    ticket ∈ table.tickets ∧ ticket.number = number :=
  ⟨List.mem_of_find?_eq_some found, by simpa using List.find?_some found⟩

theorem Sound.ticket?_of_mem (sound : table.Sound) {ticket : Ticket}
    (member : ticket ∈ table.tickets) : table.ticket? ticket.number = some ticket := by
  cases found : table.ticket? ticket.number with
  | none =>
    have differs := List.find?_eq_none.mp found ticket member
    simp at differs
  | some other =>
    obtain ⟨present, same⟩ := of_ticket? found
    rw [sound.eq_of_number present member same]

theorem mem_without {tickets : List Ticket} {number : Nat} {ticket : Ticket} :
    ticket ∈ without tickets number ↔ ticket ∈ tickets ∧ ticket.number ≠ number := by
  simp [without]

theorem isTaken_iff {tickets : List Ticket} {mutex : Nat} :
    isTaken tickets mutex = true ↔
      ∃ ticket ∈ tickets, ticket.mutex = mutex ∧ ticket.isExclusive = true := by
  simp [isTaken]

theorem lookup_mem {slots : List (Uuid × Nat)} {account : Uuid} {mutex : Nat}
    (found : slots.lookup account = some mutex) : (account, mutex) ∈ slots := by
  obtain ⟨front, rest, split, _⟩ := List.lookup_eq_some_iff.mp found
  simp [split]

theorem lookup_none {slots : List (Uuid × Nat)} {account : Uuid}
    (missing : slots.lookup account = none) : account ∉ slots.map (·.1) := by
  intro member
  obtain ⟨slot, present, rfl⟩ := List.mem_map.mp member
  have differs := List.lookup_eq_none_iff.mp missing slot present
  simp at differs

/-! ## Entering -/

theorem mutexOf_sound (sound : table.Sound) (account : Uuid) :
    (table.mutexOf account).2.Sound := by
  unfold mutexOf
  split
  · exact sound
  · next missing =>
    have below : ∀ slot ∈ table.slots, slot.2 < table.nextMutex := sound.made
    refine ⟨sound.numbers, sound.issued, ?_, ?_, ?_, ?_, sound.exclusive, sound.taken⟩
    · simpa using ⟨by simpa using lookup_none missing, sound.accounts⟩
    · simp only [List.map_cons, List.nodup_cons]
      refine ⟨fun member => ?_, sound.mutexes⟩
      obtain ⟨slot, present, same⟩ := List.mem_map.mp member
      exact absurd (below slot present) (by omega)
    · intro slot member
      rcases List.mem_cons.mp member with rfl | member
      · exact Nat.lt_succ_self _
      · exact Nat.lt_succ_of_lt (below slot member)
    · intro ticket member
      exact List.mem_cons_of_mem _ (sound.slotted ticket member)

theorem mutexOf_tickets (account : Uuid) : (table.mutexOf account).2.tickets = table.tickets := by
  unfold mutexOf
  split <;> rfl

theorem mutexOf_nextTicket (account : Uuid) :
    (table.mutexOf account).2.nextTicket = table.nextTicket := by
  unfold mutexOf
  split <;> rfl

theorem mutexOf_slot (account : Uuid) :
    (account, (table.mutexOf account).1) ∈ (table.mutexOf account).2.slots := by
  unfold mutexOf
  split
  · next found => exact lookup_mem found
  · exact List.mem_cons_self

/-- The ticket that entering adds. -/
def newTicket (table : LockTable) (owner : Nat) (account : Uuid) : Ticket :=
  ⟨table.nextTicket, owner, account, (table.mutexOf account).1, .entered⟩

theorem enter_number (owner : Nat) (account : Uuid) :
    (table.enter owner account).1 = table.nextTicket := by
  simp [enter, mutexOf_nextTicket]

theorem enter_tickets (owner : Nat) (account : Uuid) :
    (table.enter owner account).2.tickets = table.tickets ++ [table.newTicket owner account] := by
  simp [enter, newTicket, mutexOf_tickets, mutexOf_nextTicket]

theorem enter_sound (sound : table.Sound) (owner : Nat) (account : Uuid) :
    (table.enter owner account).2.Sound := by
  have prepared := mutexOf_sound sound account
  have tickets : (table.mutexOf account).2.tickets = table.tickets := mutexOf_tickets account
  have next : (table.mutexOf account).2.nextTicket = table.nextTicket := mutexOf_nextTicket account
  refine ⟨?_, ?_, prepared.accounts, prepared.mutexes, prepared.made, ?_, ?_, ?_⟩
  · rw [enter_tickets, List.map_append, List.nodup_append]
    refine ⟨sound.numbers, by simp, ?_⟩
    intro number member other single same
    obtain ⟨ticket, present, rfl⟩ := List.mem_map.mp member
    have issued := sound.issued ticket present
    simp only [newTicket, List.map_cons, List.map_nil, List.mem_singleton] at single
    omega
  · intro ticket member
    rw [enter_tickets] at member
    simp only [enter, next]
    rcases List.mem_append.mp member with member | member
    · exact Nat.lt_succ_of_lt (sound.issued ticket member)
    · rw [List.mem_singleton.mp member]
      exact Nat.lt_succ_self _
  · intro ticket member
    rw [enter_tickets] at member
    rcases List.mem_append.mp member with member | member
    · exact prepared.slotted ticket (by rw [tickets]; exact member)
    · rw [List.mem_singleton.mp member]
      exact mutexOf_slot account
  · intro a first b second
    rw [enter_tickets] at first second
    rcases List.mem_append.mp first with first | first
    · rcases List.mem_append.mp second with second | second
      · exact sound.exclusive a first b second
      · rw [List.mem_singleton.mp second]
        simp [newTicket, Ticket.isExclusive]
    · rw [List.mem_singleton.mp first]
      simp [newTicket, Ticket.isExclusive]
  · intro a member queued
    rw [enter_tickets] at member ⊢
    rcases List.mem_append.mp member with member | member
    · obtain ⟨b, present, same, has⟩ := sound.taken a member queued
      exact ⟨b, List.mem_append_left _ present, same, has⟩
    · rw [List.mem_singleton.mp member] at queued
      simp [newTicket] at queued

/-! ## Queueing -/

theorem without_numbers (sound : table.Sound) (number : Nat) :
    ((without table.tickets number).map (·.number)).Nodup :=
  (List.filter_sublist.map _).nodup sound.numbers

/-- The phase in which somebody comes out of joining. -/
def joinedPhase (table : LockTable) (ticket : Ticket) : TicketPhase :=
  if isTaken (without table.tickets ticket.number) ticket.mutex then .queued else .granted

theorem join_eq {number : Nat} {ticket : Ticket} (found : table.ticket? number = some ticket) :
    table.join number =
      { table with tickets := without table.tickets number ++
          [{ ticket with phase := table.joinedPhase ticket }] } := by
  simp only [join, found, joinedPhase, (of_ticket? found).2]

theorem mem_join {number : Nat} {ticket other : Ticket}
    (found : table.ticket? number = some ticket) :
    other ∈ (table.join number).tickets ↔
      (other ∈ table.tickets ∧ other.number ≠ number) ∨
        other = { ticket with phase := table.joinedPhase ticket } := by
  simp [join_eq found, mem_without]

theorem join_missing {number : Nat} (missing : table.ticket? number = none) :
    table.join number = table := by
  simp [join, missing]

section Joining

variable {ticket : Ticket} (found : table.ticket? ticket.number = some ticket)

include found

/-- If the new ticket has the mutex then nobody else had it. -/
theorem join_exclusive (sound : table.Sound) : ∀ a ∈ (table.join ticket.number).tickets,
    ∀ b ∈ (table.join ticket.number).tickets, a.mutex = b.mutex → a.isExclusive = true →
      b.isExclusive = true → a.number = b.number := by
  have alone : ∀ other ∈ table.tickets, other.number ≠ ticket.number →
      other.mutex = ticket.mutex → other.isExclusive = true →
      table.joinedPhase ticket = .queued := by
    intro other member differs sameMutex has
    have takenBy : isTaken (without table.tickets ticket.number) ticket.mutex = true :=
      isTaken_iff.mpr ⟨other, mem_without.mpr ⟨member, differs⟩, sameMutex, has⟩
    simp [joinedPhase, takenBy]
  intro a first b second same firstHas secondHas
  rcases (mem_join found).mp first with keptFirst | rfl
  · rcases (mem_join found).mp second with keptSecond | rfl
    · exact sound.exclusive a keptFirst.1 b keptSecond.1 same firstHas secondHas
    · have queued := alone a keptFirst.1 keptFirst.2 same firstHas
      simp [Ticket.isExclusive_iff, queued] at secondHas
  · rcases (mem_join found).mp second with keptSecond | rfl
    · have queued := alone b keptSecond.1 keptSecond.2 same.symm secondHas
      simp [Ticket.isExclusive_iff, queued] at firstHas
    · rfl

/-- Whoever had the mutex that others queue for still has it, or gets it again. -/
theorem join_taken (present : ticket ∈ table.tickets) (sound : table.Sound) : ∀ a ∈ (table.join ticket.number).tickets,
    a.phase = .queued →
      ∃ b ∈ (table.join ticket.number).tickets, b.mutex = a.mutex ∧ b.isExclusive = true := by
  intro a member queued
  rcases (mem_join found).mp member with kept | rfl
  · obtain ⟨b, presentB, same, has⟩ := sound.taken a kept.1 queued
    by_cases self : b.number = ticket.number
    · have equal := sound.eq_of_number presentB present self
      subst equal
      have free : isTaken (without table.tickets b.number) b.mutex = false := by
        rw [Bool.eq_false_iff]
        intro others
        obtain ⟨c, presentC, sameC, hasC⟩ := isTaken_iff.mp others
        have keptC := mem_without.mp presentC
        exact keptC.2 (sound.exclusive c keptC.1 b present sameC hasC has)
      refine ⟨{ b with phase := table.joinedPhase b }, (mem_join found).mpr (Or.inr rfl),
        same, ?_⟩
      simp [Ticket.isExclusive_iff, joinedPhase, free]
    · exact ⟨b, (mem_join found).mpr (Or.inl ⟨presentB, self⟩), same, has⟩
  · have taken : isTaken (without table.tickets ticket.number) ticket.mutex = true := by
      by_contra free
      simp [joinedPhase, free] at queued
    obtain ⟨b, presentB, same, has⟩ := isTaken_iff.mp taken
    exact ⟨b, (mem_join found).mpr (Or.inl (mem_without.mp presentB)), same, has⟩

end Joining

theorem join_sound (sound : table.Sound) (number : Nat) : (table.join number).Sound := by
  cases found : table.ticket? number with
  | none => rwa [join_missing found]
  | some ticket =>
    obtain ⟨present, rfl⟩ := of_ticket? found
    have slots : (table.join ticket.number).slots = table.slots := by rw [join_eq found]
    refine ⟨?_, ?_, ?_, ?_, ?_, ?_, join_exclusive found sound,
      join_taken found present sound⟩
    · rw [join_eq found, List.map_append, List.nodup_append]
      refine ⟨without_numbers sound _, by simp, ?_⟩
      intro number member other single same
      obtain ⟨kept, keptPresent, rfl⟩ := List.mem_map.mp member
      have differs := (mem_without.mp keptPresent).2
      simp only [List.map_cons, List.map_nil, List.mem_singleton] at single
      exact differs (same.trans single)
    · intro other member
      rw [join_eq found]
      rcases (mem_join found).mp member with kept | rfl
      · exact sound.issued other kept.1
      · exact sound.issued ticket present
    · rw [slots]
      exact sound.accounts
    · rw [slots]
      exact sound.mutexes
    · rw [join_eq found]
      exact sound.made
    · intro other member
      rw [slots]
      rcases (mem_join found).mp member with kept | rfl
      · exact sound.slotted other kept.1
      · exact sound.slotted ticket present

/-! ## Being served -/

/-- A ticket once the one of this number is held. -/
def served (number : Nat) (ticket : Ticket) : Ticket :=
  if ticket.number = number then { ticket with phase := .held } else ticket

theorem served_number (number : Nat) (ticket : Ticket) :
    (served number ticket).number = ticket.number := by
  unfold served
  split <;> rfl

theorem served_mutex (number : Nat) (ticket : Ticket) :
    (served number ticket).mutex = ticket.mutex := by
  unfold served
  split <;> rfl

theorem notice_true {number : Nat} (noticed : (table.notice number).1 = true) :
    ∃ ticket, table.ticket? number = some ticket ∧ ticket.phase = .granted ∧
      (table.notice number).2 = { table with tickets := table.tickets.map (served number) } := by
  cases found : table.ticket? number with
  | none => simp [notice, found] at noticed
  | some ticket =>
    by_cases granted : ticket.phase = .granted
    · refine ⟨ticket, rfl, granted, ?_⟩
      simp only [notice, found, granted, if_true]
      rfl
    · simp [notice, found, granted] at noticed

theorem notice_sound (sound : table.Sound) {number : Nat}
    (noticed : (table.notice number).1 = true) : (table.notice number).2.Sound := by
  obtain ⟨ticket, found, granted, result⟩ := notice_true noticed
  obtain ⟨present, rfl⟩ := of_ticket? found
  rw [result]
  have hasBefore : ∀ other ∈ table.tickets, (served ticket.number other).isExclusive = true →
      other.isExclusive = true := by
    intro other member has
    by_cases self : other.number = ticket.number
    · rw [sound.eq_of_number member present self]
      simp [Ticket.isExclusive_iff, granted]
    · simpa [served, self] using has
  have hasAfter : ∀ other, other.isExclusive = true →
      (served ticket.number other).isExclusive = true := by
    intro other has
    by_cases self : other.number = ticket.number
    · simp [served, self, Ticket.isExclusive_iff]
    · simpa [served, self] using has
  refine ⟨?_, ?_, sound.accounts, sound.mutexes, sound.made, ?_, ?_, ?_⟩
  · simpa [List.map_map, Function.comp_def, served_number] using sound.numbers
  · intro other member
    obtain ⟨before, presentBefore, rfl⟩ := List.mem_map.mp member
    rw [served_number]
    exact sound.issued before presentBefore
  · intro other member
    obtain ⟨before, presentBefore, rfl⟩ := List.mem_map.mp member
    have slot := sound.slotted before presentBefore
    by_cases self : before.number = ticket.number <;> simpa [served, self] using slot
  · intro a first b second same firstHas secondHas
    obtain ⟨a, presentA, rfl⟩ := List.mem_map.mp first
    obtain ⟨b, presentB, rfl⟩ := List.mem_map.mp second
    rw [served_number, served_number]
    rw [served_mutex, served_mutex] at same
    exact sound.exclusive a presentA b presentB same (hasBefore a presentA firstHas)
      (hasBefore b presentB secondHas)
  · intro a member queued
    obtain ⟨a, presentA, rfl⟩ := List.mem_map.mp member
    have queuedBefore : a.phase = .queued := by
      by_cases self : a.number = ticket.number
      · simp [served, self] at queued
      · simpa [served, self] using queued
    obtain ⟨b, presentB, same, has⟩ := sound.taken a presentA queuedBefore
    refine ⟨served ticket.number b, List.mem_map_of_mem presentB, ?_, hasAfter b has⟩
    rw [served_mutex, served_mutex]
    exact same

/-! ## Leaving -/

/-- Whether a ticket is in the queue for a mutex. -/
def queuesFor (mutex : Nat) (ticket : Ticket) : Prop :=
  ticket.mutex = mutex ∧ ticket.phase = .queued

theorem handOver_cases (mutex : Nat) (tickets : List Ticket) :
    (handOver mutex tickets = (none, tickets) ∧ ∀ ticket ∈ tickets, ¬queuesFor mutex ticket) ∨
      ∃ front ticket rest, tickets = front ++ ticket :: rest ∧ queuesFor mutex ticket ∧
        handOver mutex tickets =
          (some ticket.number, front ++ { ticket with phase := .granted } :: rest) := by
  induction tickets with
  | nil => exact Or.inl ⟨rfl, by simp⟩
  | cons head rest ih =>
    by_cases queues : head.mutex = mutex ∧ head.phase = .queued
    · exact Or.inr ⟨[], head, rest, rfl, queues, by rw [handOver, if_pos queues]; rfl⟩
    · rcases ih with ⟨unchanged, nobody⟩ | ⟨front, ticket, back, split, waits, result⟩
      · refine Or.inl ⟨by rw [handOver, if_neg queues, unchanged], ?_⟩
        intro ticket member
        rcases List.mem_cons.mp member with rfl | member
        · exact queues
        · exact nobody ticket member
      · refine Or.inr ⟨head :: front, ticket, back, by simp [split], waits, ?_⟩
        rw [handOver, if_neg queues, result]
        rfl

theorem leave_missing {number : Nat} (missing : table.ticket? number = none) :
    (table.leave number).2 = table := by
  simp [leave, missing]

/-- What is left when a ticket is given up: either nobody is served by it, or the first in the queue
behind it is. -/
theorem leave_cases {number : Nat} {ticket : Ticket} (found : table.ticket? number = some ticket) :
    ((table.leave number).2 = { table with tickets := without table.tickets number } ∧
        (ticket.isExclusive = true →
          ∀ other ∈ without table.tickets number, ¬queuesFor ticket.mutex other)) ∨
      ∃ front next rest, without table.tickets number = front ++ next :: rest ∧
        ticket.isExclusive = true ∧ queuesFor ticket.mutex next ∧
        (table.leave number).2 =
          { table with tickets := front ++ { next with phase := .granted } :: rest } := by
  by_cases has : ticket.isExclusive = true
  · rcases handOver_cases ticket.mutex (without table.tickets number) with
      ⟨unchanged, nobody⟩ | ⟨front, next, rest, split, waits, result⟩
    · exact Or.inl ⟨by simp [leave, found, has, unchanged], fun _ => nobody⟩
    · exact Or.inr ⟨front, next, rest, split, has, waits, by simp [leave, found, has, result]⟩
  · exact Or.inl ⟨by simp [leave, found, has], fun absurdly => absurd absurdly has⟩

theorem without_sound (sound : table.Sound) {number : Nat} {ticket : Ticket}
    (found : table.ticket? number = some ticket)
    (unwanted : ticket.isExclusive = true →
      ∀ other ∈ without table.tickets number, ¬queuesFor ticket.mutex other) :
    ({ table with tickets := without table.tickets number } : LockTable).Sound := by
  obtain ⟨present, rfl⟩ := of_ticket? found
  have kept : ∀ other ∈ without table.tickets ticket.number, other ∈ table.tickets :=
    fun other member => (mem_without.mp member).1
  refine ⟨without_numbers sound _, fun other member => sound.issued other (kept other member),
    sound.accounts, sound.mutexes, sound.made,
    fun other member => sound.slotted other (kept other member),
    fun a first b second => sound.exclusive a (kept a first) b (kept b second), ?_⟩
  intro a member queued
  obtain ⟨b, presentB, same, has⟩ := sound.taken a (kept a member) queued
  by_cases self : b.number = ticket.number
  · have equal := sound.eq_of_number presentB present self
    subst equal
    exact absurd ⟨same.symm, queued⟩ (unwanted has a member)
  · exact ⟨b, mem_without.mpr ⟨presentB, self⟩, same, has⟩

/-- Giving a free mutex to somebody in its queue. -/
theorem grant_sound {front rest : List Ticket} {next : Ticket} {slots : List (Uuid × Nat)}
    {nextMutex nextTicket : Nat} (queues : next.phase = .queued)
    (numbers : ((front ++ next :: rest).map (·.number)).Nodup)
    (issued : ∀ ticket ∈ front ++ next :: rest, ticket.number < nextTicket)
    (accounts : (slots.map (·.1)).Nodup) (mutexes : (slots.map (·.2)).Nodup)
    (made : ∀ slot ∈ slots, slot.2 < nextMutex)
    (slotted : ∀ ticket ∈ front ++ next :: rest, (ticket.account, ticket.mutex) ∈ slots)
    (exclusive : ∀ a ∈ front ++ next :: rest, ∀ b ∈ front ++ next :: rest, a.mutex = b.mutex →
      a.isExclusive = true → b.isExclusive = true → a.number = b.number)
    (free : ∀ ticket ∈ front ++ next :: rest, ticket.mutex = next.mutex →
      ticket.isExclusive = false)
    (taken : ∀ a ∈ front ++ next :: rest, a.phase = .queued → a.mutex ≠ next.mutex →
      ∃ b ∈ front ++ next :: rest, b.mutex = a.mutex ∧ b.isExclusive = true) :
    (⟨slots, front ++ { next with phase := .granted } :: rest, nextMutex, nextTicket⟩ :
      LockTable).Sound := by
  have old : ∀ ticket ∈ front ++ { next with phase := TicketPhase.granted } :: rest,
      ticket = { next with phase := .granted } ∨ ticket ∈ front ++ next :: rest := by
    intro ticket member
    simp only [List.mem_append, List.mem_cons] at member ⊢
    tauto
  have kept : ∀ ticket ∈ front ++ next :: rest, ticket.phase ≠ .queued →
      ticket ∈ front ++ { next with phase := TicketPhase.granted } :: rest := by
    intro ticket member notQueued
    simp only [List.mem_append, List.mem_cons] at member ⊢
    rcases member with member | rfl | member
    · exact Or.inl member
    · exact absurd queues notQueued
    · exact Or.inr (Or.inr member)
  have here : next ∈ front ++ next :: rest := by simp
  refine ⟨by simpa using numbers, ?_, accounts, mutexes, made, ?_, ?_, ?_⟩
  · intro ticket member
    rcases old ticket member with rfl | member
    · exact issued next here
    · exact issued ticket member
  · intro ticket member
    rcases old ticket member with rfl | member
    · exact slotted next here
    · exact slotted ticket member
  · intro a first b second same firstHas secondHas
    rcases old a first with rfl | first
    · rcases old b second with rfl | second
      · rfl
      · simp [free b second same.symm] at secondHas
    · rcases old b second with rfl | second
      · simp [free a first same] at firstHas
      · exact exclusive a first b second same firstHas secondHas
  · intro a member queued
    by_cases same : a.mutex = next.mutex
    · exact ⟨{ next with phase := .granted }, by simp, same.symm, by simp [Ticket.isExclusive_iff]⟩
    · rcases old a member with rfl | member
      · exact absurd rfl same
      · obtain ⟨b, present, sameB, has⟩ := taken a member queued same
        refine ⟨b, kept b present ?_, sameB, has⟩
        intro queuedB
        simp [Ticket.isExclusive_iff, queuedB] at has

theorem leave_sound (sound : table.Sound) (number : Nat) : (table.leave number).2.Sound := by
  cases found : table.ticket? number with
  | none => rwa [leave_missing found]
  | some ticket =>
    rcases leave_cases found with ⟨result, unwanted⟩ | ⟨front, next, rest, split, has, waits, result⟩
    · rw [result]
      exact without_sound sound found unwanted
    · rw [result]
      obtain ⟨present, rfl⟩ := of_ticket? found
      have kept : ∀ other ∈ front ++ next :: rest,
          other ∈ table.tickets ∧ other.number ≠ ticket.number := by
        intro other member
        rw [← split] at member
        exact mem_without.mp member
      refine grant_sound waits.2 (by rw [← split]; exact without_numbers sound _)
        (fun other member => sound.issued other (kept other member).1) sound.accounts
        sound.mutexes sound.made (fun other member => sound.slotted other (kept other member).1)
        (fun a first b second => sound.exclusive a (kept a first).1 b (kept b second).1) ?_ ?_
      · intro other member same
        rw [Bool.eq_false_iff]
        intro otherHas
        exact (kept other member).2 (sound.exclusive other (kept other member).1 ticket present
          (same.trans waits.1) otherHas has)
      · intro a member queued differs
        obtain ⟨b, presentB, same, hasB⟩ := sound.taken a (kept a member).1 queued
        refine ⟨b, ?_, same, hasB⟩
        rw [← split]
        refine mem_without.mpr ⟨presentB, fun self => differs ?_⟩
        rw [sound.eq_of_number presentB present self] at same
        exact same.symm.trans waits.1.symm

/-! ## Removing slots -/

theorem prune_tickets (account : Uuid) : (table.prune account).tickets = table.tickets := by
  unfold prune
  split
  · rfl
  · split <;> rfl

theorem prune_sound (sound : table.Sound) (account : Uuid) : (table.prune account).Sound := by
  unfold prune
  split
  · exact sound
  · next mutex found =>
    split
    · exact sound
    · next unused =>
      refine ⟨sound.numbers, sound.issued, (List.filter_sublist.map _).nodup sound.accounts,
        (List.filter_sublist.map _).nodup sound.mutexes,
        fun slot member => sound.made slot (List.mem_filter.mp member).1, ?_, sound.exclusive,
        sound.taken⟩
      intro ticket member
      refine List.mem_filter.mpr ⟨sound.slotted ticket member, ?_⟩
      simp only [bne_iff_ne, ne_eq]
      intro same
      apply unused
      have slots := List.inj_on_of_nodup_map sound.accounts (sound.slotted ticket member)
        (lookup_mem found) same
      simp only [List.any_eq_true, beq_iff_eq]
      exact ⟨ticket, member, congrArg Prod.snd slots⟩

end LockTable

end AccountLedger
