import AccountLedger.Proofs.Interleaving.Operation

/-!
One step of a unit of work, seen by itself and by the others: it goes on as its rule says, stays
valid, and changes nothing about where the others stand.
-/

namespace AccountLedger

namespace Pool

open LockTable (except)

/-- Where a unit of work stands at a pool. -/
def standing (pool : Pool) (unit : UnitId) : Standing :=
  ⟨pool.store.locks.heldBy unit.number, pool.store.locks.awaitedBy unit.number,
    pool.store.unit unit, pool.reads unit⟩

theorem distinct {pool : Pool} (sound : pool.store.locks.Sound) (unit : UnitId) :
    (pool.standing unit).Distinct :=
  fun _ _ one two same => (sound.guard_unique one two same).2

variable {pool : Pool} {unit other : UnitId}

/-! ## Requests to the store -/

theorem standing_of_same {after : Pool} (locks : after.store.locks = pool.store.locks)
    (work : after.store.unit unit = pool.store.unit unit)
    (reads : after.reads unit = pool.reads unit) :
    after.standing unit = pool.standing unit := by
  simp only [standing, locks, work, reads]

theorem standing_of_setUnit {after : Pool} (work : UnitOfWork) (reads : List Account)
    (store : after.store = pool.store.setUnit unit work) (read : after.reads unit = reads) :
    after.standing unit = { pool.standing unit with work, reads } := by
  simp only [standing, store, read, MemoryStore.unit_setUnit_self]
  rfl

theorem standing_answered_apply {request resume} :
    (pool.answered unit request (.apply other) resume).standing unit = pool.standing unit := by
  simp only [answered, MemoryStore.answer]
  split <;> rfl

theorem standing_answered_of_ne {request asked resume} (differs : other ≠ unit)
    {result} (permitted : Standing.storeRule unit asked (pool.standing unit) result) :
    (pool.answered unit request asked resume).standing other = pool.standing other := by
  cases asked with
  | startUnit => exact permitted.elim
  | table asked => exact permitted.elim
  | permit own order => rfl
  | hold own guards =>
    obtain ⟨rfl, _⟩ := permitted
    exact standing_of_same rfl (MemoryStore.unit_setUnit_of_ne differs) rfl
  | rows own order =>
    obtain ⟨rfl, _⟩ := permitted
    exact standing_of_same rfl rfl (Function.update_of_ne differs _ _)
  | insert own account =>
    obtain ⟨rfl, _⟩ := permitted
    exact standing_of_same rfl (MemoryStore.unit_setUnit_of_ne differs) rfl
  | save own account =>
    obtain ⟨rfl, _⟩ := permitted
    exact standing_of_same rfl (MemoryStore.unit_setUnit_of_ne differs) rfl
  | stage own entry =>
    obtain ⟨rfl, _⟩ := permitted
    exact standing_of_same rfl (MemoryStore.unit_setUnit_of_ne differs) rfl
  | apply own =>
    simp only [answered, MemoryStore.answer]
    split <;> rfl
  | endUnit own =>
    obtain ⟨rfl, _⟩ := permitted
    exact standing_of_same rfl (MemoryStore.unit_setUnit_of_ne differs)
      (Function.update_of_ne differs _ _)

theorem mem_readRows {work : UnitOfWork} {tables : Tables} {order : LockOrder} {row : Account}
    (member : row ∈ work.readRows tables order) :
    ∃ id ∈ order.ids, tables.accounts.find? id = some row := by
  obtain ⟨id, inside, found⟩ := List.mem_filterMap.mp member
  split at found
  · cases found
  · exact ⟨id, inside, found⟩

/-- The answer of the store is the one that the rule speaks of. -/
theorem answered_follows {request asked resume result} (keyed : pool.tables.Keyed)
    (permitted : Standing.storeRule unit asked (pool.standing unit) result) :
    result (pool.store.answer asked).1
      ((pool.answered unit request asked resume).standing unit) := by
  cases asked with
  | startUnit => exact permitted.elim
  | table asked => exact permitted.elim
  | permit own order =>
    obtain ⟨rfl, after⟩ := permitted
    exact after
  | hold own guards =>
    obtain ⟨rfl, _, _, after⟩ := permitted
    rw [standing_of_setUnit _ _ rfl rfl]
    exact after
  | rows own order =>
    obtain ⟨rfl, _, after⟩ := permitted
    have reads := Function.update_self own
      (pool.reads own ++ (pool.store.unit own).readRows pool.tables order) pool.reads
    have next : (pool.answered own request (.rows own order) resume).standing own =
        { pool.standing own with
          reads := pool.reads own ++ (pool.store.unit own).readRows pool.tables order } := by
      simp only [standing, answered, readsAfter, reads]
      rfl
    rw [next]
    exact after pool.tables keyed
  | insert own account =>
    obtain ⟨rfl, after⟩ := permitted
    rw [standing_of_setUnit _ _ rfl rfl]
    exact after
  | save own account =>
    obtain ⟨rfl, after⟩ := permitted
    rw [standing_of_setUnit _ _ rfl rfl]
    exact after
  | stage own entry =>
    obtain ⟨rfl, after⟩ := permitted
    rw [standing_of_setUnit _ _ rfl rfl]
    exact after
  | apply own =>
    obtain ⟨rfl, after⟩ := permitted
    rw [standing_answered_apply]
    exact after _
  | endUnit own =>
    obtain ⟨rfl, after⟩ := permitted
    rw [standing_of_setUnit _ [] rfl (Function.update_self _ _ _)]
    exact after

theorem hold_valid {standing : Standing} {guards : List RowGuard} (valid : standing.Valid)
    (held : ∀ guard ∈ guards, guard ∈ standing.held)
    (ascending : ((standing.work.guards ++ guards).map (·.account)).Pairwise
      (fun a b => a.value < b.value)) :
    Standing.Valid { standing with work := standing.work.hold guards } := by
  refine ⟨?_, ?_, ascending, valid.one, valid.above, ?_, ?_⟩
  · rw [UnitOfWork.hold_ids, valid.ids, ← List.map_append]
    rfl
  · intro guard member
    rcases List.mem_append.mp member with member | member
    · exact valid.guarded guard member
    · exact held guard member
  · intro write member
    rw [UnitOfWork.hold_ids]
    exact List.mem_append_left _ (valid.locked write member)
  · intro row member
    rw [UnitOfWork.hold_ids]
    exact List.mem_append_left _ (valid.read row member)

/-- A unit of work stays valid with every answer of the store. -/
theorem answered_valid {request asked resume result} (keyed : pool.tables.Keyed)
    (valid : (pool.standing unit).Valid)
    (permitted : Standing.storeRule unit asked (pool.standing unit) result) :
    ((pool.answered unit request asked resume).standing unit).Valid := by
  cases asked with
  | startUnit => exact permitted.elim
  | table asked => exact permitted.elim
  | permit own order => exact valid
  | hold own guards =>
    obtain ⟨rfl, held, ascending, _⟩ := permitted
    rw [standing_of_setUnit _ _ rfl rfl]
    exact hold_valid valid held ascending
  | rows own order =>
    obtain ⟨rfl, locked, _⟩ := permitted
    refine ⟨valid.ids, valid.guarded, valid.ascending, valid.one, valid.above, valid.locked, ?_⟩
    intro row member
    simp only [standing, answered, readsAfter, Function.update_self] at member
    rcases List.mem_append.mp member with member | member
    · exact valid.read row member
    · obtain ⟨id, inside, found⟩ := mem_readRows member
      rw [keyed id row found]
      exact locked id inside
  | insert own account =>
    obtain ⟨rfl, _⟩ := permitted
    rw [standing_of_setUnit _ _ rfl rfl]
    exact ⟨valid.ids, valid.guarded, valid.ascending, valid.one, valid.above, valid.locked,
      valid.read⟩
  | save own account =>
    obtain ⟨rfl, _⟩ := permitted
    have next : (pool.answered own request (.save own account) resume).standing own =
        { pool.standing own with work := ((pool.store.unit own).save account).2 } :=
      standing_of_setUnit _ _ rfl rfl
    rw [next]
    have held := UnitOfWork.save_held (pool.store.unit own) account
    have guards := UnitOfWork.save_guards (pool.store.unit own) account
    refine ⟨?_, ?_, ?_, valid.one, valid.above, ?_, ?_⟩
    · rw [held, guards]
      exact valid.ids
    · rw [guards]
      exact valid.guarded
    · rw [guards]
      exact valid.ascending
    · rw [held]
      exact UnitOfWork.save_locked valid.locked
    · rw [held]
      exact valid.read
  | stage own entry =>
    obtain ⟨rfl, _⟩ := permitted
    rw [standing_of_setUnit _ _ rfl rfl]
    exact ⟨valid.ids, valid.guarded, valid.ascending, valid.one, valid.above, valid.locked,
      valid.read⟩
  | apply own =>
    obtain ⟨rfl, _⟩ := permitted
    rw [standing_answered_apply]
    exact valid
  | endUnit own =>
    obtain ⟨rfl, _⟩ := permitted
    rw [standing_of_setUnit _ [] rfl (Function.update_self _ _ _)]
    exact ⟨rfl, by simp [UnitOfWork.empty], by simp [UnitOfWork.empty], valid.one, valid.above,
      by simp [UnitOfWork.empty], by simp⟩

/-! ## Requests to the lock table -/

/-- Where a unit of work stands once the lock table has changed. -/
def relocked (pool : Pool) (unit : UnitId) (locks : LockTable) : Standing :=
  { pool.standing unit with held := locks.heldBy unit.number
                            awaited := locks.awaitedBy unit.number }

/-- What a step at the lock table means for the unit of work that takes it and for the others. -/
structure Relocked (pool : Pool) (unit : UnitId) (locks : LockTable) : Prop where
  sound : locks.Sound
  valid : (pool.relocked unit locks).Valid
  others : ∀ other, other ≠ unit → pool.relocked other locks = pool.standing other

theorem number_ne (differs : other ≠ unit) : other.number ≠ unit.number := by
  intro same
  apply differs
  cases other
  cases unit
  cases same
  rfl

theorem relocked_of_same {locks : LockTable}
    (held : locks.heldBy unit.number = pool.store.locks.heldBy unit.number)
    (awaited : locks.awaitedBy unit.number = pool.store.locks.awaitedBy unit.number) :
    pool.relocked unit locks = pool.standing unit := by
  simp only [relocked, held, awaited]
  rfl

theorem except_other (sound : pool.store.locks.Sound) {guard : RowGuard}
    (own : guard ∈ (pool.standing unit).held ∨ guard ∈ (pool.standing unit).awaited)
    (differs : other ≠ unit) :
    except (pool.store.locks.heldBy other.number) guard.ticket =
        pool.store.locks.heldBy other.number ∧
      except (pool.store.locks.awaitedBy other.number) guard.ticket =
        pool.store.locks.awaitedBy other.number :=
  ⟨LockTable.except_eq_self fun _ member same =>
      number_ne differs (sound.guard_unique (Or.inl member) own same).1,
    LockTable.except_eq_self fun _ member same =>
      number_ne differs (sound.guard_unique (Or.inr member) own same).1⟩

/-- Giving up a ticket of one's own. -/
theorem leave_relocked (sound : pool.store.locks.Sound) (valid : (pool.standing unit).Valid)
    {guard : RowGuard}
    (own : guard ∈ (pool.standing unit).held ∨ guard ∈ (pool.standing unit).awaited)
    (unguarded : ∀ mine ∈ (pool.standing unit).work.guards, mine.ticket ≠ guard.ticket) :
    Relocked pool unit (pool.store.locks.leave guard.ticket).2 ∧
      pool.relocked unit (pool.store.locks.leave guard.ticket).2 =
        { pool.standing unit with held := except (pool.standing unit).held guard.ticket
                                  awaited := except (pool.standing unit).awaited guard.ticket } := by
  obtain ⟨ticket, present, _, rfl⟩ := LockTable.ticket_of_mem own
  have found : pool.store.locks.ticket? ticket.guard.ticket = some ticket :=
    sound.ticket?_of_mem present
  have mine : pool.relocked unit (pool.store.locks.leave ticket.guard.ticket).2 =
      { pool.standing unit with held := except (pool.standing unit).held ticket.guard.ticket
                                awaited := except (pool.standing unit).awaited
                                  ticket.guard.ticket } := by
    simp only [relocked, LockTable.heldBy_leave found, LockTable.awaitedBy_leave found]
    rfl
  refine ⟨⟨LockTable.leave_sound sound _, ?_, ?_⟩, mine⟩
  · rw [mine]
    exact ⟨valid.ids, fun guard member => ⟨valid.guarded guard member, unguarded guard member⟩,
      valid.ascending, fun first one second two => valid.one first one.1 second two.1,
      fun waited one guard member => valid.above waited one.1 guard member.1, valid.locked,
      valid.read⟩
  · intro other differs
    obtain ⟨held, awaited⟩ := except_other sound own differs
    refine relocked_of_same ?_ ?_
    · exact (LockTable.heldBy_leave found).trans held
    · exact (LockTable.awaitedBy_leave found).trans awaited

theorem same_relocked {locks : LockTable} (sound : locks.Sound) (valid : (pool.standing unit).Valid)
    (same : ∀ other, pool.relocked other locks = pool.standing other) : Relocked pool unit locks :=
  ⟨sound, by rw [same]; exact valid, fun other _ => same other⟩

theorem enter_relocked (sound : pool.store.locks.Sound) (valid : (pool.standing unit).Valid)
    {account : Uuid} (nothing : (pool.standing unit).awaited = ∅)
    (above : ∀ guard ∈ (pool.standing unit).held, guard.account.value < account.value) :
    Relocked pool unit (pool.store.locks.enter unit.number account).2 ∧
      pool.relocked unit (pool.store.locks.enter unit.number account).2 =
        { pool.standing unit with
          awaited := {⟨account, (pool.store.locks.enter unit.number account).1⟩} } := by
  have mine : pool.relocked unit (pool.store.locks.enter unit.number account).2 =
      { pool.standing unit with
        awaited := {⟨account, (pool.store.locks.enter unit.number account).1⟩} } := by
    have nobody : pool.store.locks.awaitedBy unit.number = ∅ := nothing
    simp only [relocked, LockTable.heldBy_enter, LockTable.awaitedBy_enter_self, nobody,
      insert_empty_eq]
    rfl
  refine ⟨⟨LockTable.enter_sound sound _ _, ?_, ?_⟩, mine⟩
  · rw [mine]
    refine ⟨valid.ids, valid.guarded, valid.ascending, ?_, ?_, valid.locked, valid.read⟩
    · intro first rfl second equal
      subst equal
      rfl
    · rintro waited rfl guard member
      exact above guard member
  · intro other differs
    exact relocked_of_same (LockTable.heldBy_enter account)
      (LockTable.awaitedBy_enter_other account (number_ne differs))

theorem serve_relocked (sound : pool.store.locks.Sound) (valid : (pool.standing unit).Valid)
    {guard : RowGuard} (awaited : (pool.standing unit).awaited = {guard})
    (noticed : (pool.store.locks.notice guard.ticket).1 = true) :
    Relocked pool unit (pool.store.locks.notice guard.ticket).2 ∧
      pool.relocked unit (pool.store.locks.notice guard.ticket).2 =
        { pool.standing unit with held := insert guard (pool.standing unit).held, awaited := ∅ } := by
  have own : guard ∈ (pool.standing unit).awaited := by
    rw [awaited]
    rfl
  obtain ⟨ticket, present, owner, rfl⟩ := LockTable.ticket_of_mem (Or.inr own)
  have found := sound.ticket?_of_mem present
  have mine : pool.relocked unit (pool.store.locks.notice ticket.guard.ticket).2 =
      { pool.standing unit with held := insert ticket.guard (pool.standing unit).held
                                awaited := ∅ } := by
    have none : except (pool.store.locks.awaitedBy unit.number) ticket.guard.ticket = ∅ := by
      have waits : pool.store.locks.awaitedBy unit.number = {ticket.guard} := awaited
      rw [waits]
      ext other
      simp only [except, Set.mem_ofPred_eq, Set.mem_singleton_iff, Set.mem_empty_iff_false,
        iff_false, not_and, not_not]
      intro equal
      subst equal
      rfl
    have grown : {guard | guard ∈ pool.store.locks.heldBy unit.number ∨
        (ticket.owner = unit.number ∧ guard = ticket.guard)} =
          insert ticket.guard (pool.standing unit).held := by
      ext other
      simp only [Set.mem_ofPred_eq, Set.mem_insert_iff, owner, true_and]
      exact Or.comm
    simp only [relocked, LockTable.heldBy_notice sound noticed found,
      LockTable.awaitedBy_notice noticed, none, grown]
  refine ⟨⟨LockTable.notice_sound sound noticed, ?_, ?_⟩, mine⟩
  · rw [mine]
    exact ⟨valid.ids, fun guard member => Or.inr (valid.guarded guard member), valid.ascending,
      by simp, by simp, valid.locked, valid.read⟩
  · intro other differs
    refine relocked_of_same ?_ ?_
    · rw [LockTable.heldBy_notice sound noticed found]
      ext guard
      simp only [Set.mem_ofPred_eq, or_iff_left_iff_imp, and_imp]
      intro same
      exact absurd (same.symm.trans owner) (number_ne differs)
    · rw [LockTable.awaitedBy_notice noticed]
      exact (except_other sound (Or.inr own) differs).2

/-- The row lock that a unit of work waits for, given up before it is had. -/
theorem expire_relocked (sound : pool.store.locks.Sound) (valid : (pool.standing unit).Valid)
    {guard : RowGuard} (awaited : (pool.standing unit).awaited = {guard}) :
    Relocked pool unit (pool.store.locks.leave guard.ticket).2 ∧
      pool.relocked unit (pool.store.locks.leave guard.ticket).2 =
        { pool.standing unit with awaited := ∅ } := by
  have own : guard ∈ (pool.standing unit).awaited := by
    rw [awaited]
    rfl
  have notHeld : ∀ mine ∈ (pool.standing unit).held, mine.ticket ≠ guard.ticket := by
    intro mine member same
    have equal := (sound.guard_unique (Or.inl member) (Or.inr own) same).2
    rw [equal] at member
    exact sound.heldBy_disjoint member own
  obtain ⟨relocked, mine⟩ := leave_relocked sound valid (Or.inr own)
    fun mine member => notHeld mine (valid.guarded mine member)
  refine ⟨relocked, ?_⟩
  have nothing : except (pool.standing unit).awaited guard.ticket = ∅ := by
    ext other
    simp only [except, awaited, Set.mem_ofPred_eq, Set.mem_singleton_iff, Set.mem_empty_iff_false,
      iff_false, not_and, not_not]
    intro equal
    subst equal
    rfl
  rw [mine, nothing, LockTable.except_eq_self notHeld]

/-- Every step at the lock table is one that the rule speaks of. -/
theorem lockStep_relocked {asked answer locks result} (sound : pool.store.locks.Sound)
    (valid : (pool.standing unit).Valid) (step : LockStep asked pool.store.locks answer locks)
    (permitted : Standing.lockRule unit asked (pool.standing unit) result) :
    Relocked pool unit locks ∧ (answer = none → pool.relocked unit locks = pool.standing unit) ∧
      ∀ given, answer = some given → result given (pool.relocked unit locks) := by
  cases step with
  | enter owner account =>
    obtain ⟨rfl, nothing, above, after⟩ := permitted
    obtain ⟨relocked, mine⟩ := enter_relocked sound valid nothing above
    refine ⟨relocked, by simp, ?_⟩
    rintro _ ⟨⟩
    rw [mine]
    apply after _
    intro guard member
    have issued := sound.issued_guard (Or.inl member)
    rw [LockTable.enter_number]
    exact Nat.ne_of_lt issued
  | @join number timeoutMs _ ticket found entered =>
    have notHeld : ticket.phase ≠ .held := by
      rw [entered]
      decide
    have same : ∀ other : UnitId,
        pool.relocked other (pool.store.locks.join number) = pool.standing other := fun other =>
      relocked_of_same (LockTable.heldBy_join sound found notHeld)
        (LockTable.awaitedBy_join sound found notHeld)
    exact ⟨same_relocked (LockTable.join_sound sound _) valid same, fun _ => same unit, by simp⟩
  | serve noticed =>
    obtain ⟨account, awaited, served, _⟩ := permitted
    obtain ⟨relocked, mine⟩ := serve_relocked sound valid awaited noticed
    refine ⟨relocked, by simp, ?_⟩
    rintro _ ⟨⟩
    rw [mine]
    exact served
  | expire found waits =>
    obtain ⟨account, awaited, _, late⟩ := permitted
    obtain ⟨relocked, mine⟩ := expire_relocked sound valid awaited
    refine ⟨relocked, by simp, ?_⟩
    rintro _ ⟨⟩
    rw [mine]
    exact late
  | leave number =>
    obtain ⟨⟨guard, own, rfl⟩, unguarded, after⟩ := permitted
    obtain ⟨relocked, mine⟩ := leave_relocked sound valid own unguarded
    refine ⟨relocked, by simp, ?_⟩
    rintro _ ⟨⟩
    rw [mine]
    exact after
  | prune account =>
    have tickets : (pool.store.locks.prune account).tickets = pool.store.locks.tickets :=
      LockTable.prune_tickets account
    have same : ∀ other : UnitId,
        pool.relocked other (pool.store.locks.prune account) = pool.standing other := fun other =>
      relocked_of_same (LockTable.heldBy_of_tickets tickets) (LockTable.awaitedBy_of_tickets tickets)
    refine ⟨same_relocked (LockTable.prune_sound sound _) valid same, by simp, ?_⟩
    rintro _ ⟨⟩
    rw [same]
    exact permitted

end Pool

end AccountLedger
