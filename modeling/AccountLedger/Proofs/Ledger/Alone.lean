import AccountLedger.Proofs.Ledger.Change
import AccountLedger.Proofs.Lock.Uncontended
import AccountLedger.Proofs.Memory.Reading
import AccountLedger.Proofs.Memory.Units

/-!
A call of the ledger service that has a store to itself: every request is answered at once, and
fresh ids and clock readings come from a tape. Runs of calls one at a time are made of these.
-/

namespace AccountLedger

/-- The answer of a lock table to somebody who has it to himself. -/
def LockRequest.alone : (request : LockRequest) → StateM LockTable request.Answer
  | .enter owner account => fun table => table.enter owner account
  | .await number _ => fun table => (table.join number).notice number
  | .leave number => fun table => ((), (table.leave number).2)
  | .prune account => fun table => ((), table.prune account)

/-- What a program comes to at a lock table that it has to itself. -/
def LockTable.run (table : LockTable) (program : Program lockInterface α) : α × LockTable :=
  program.interpret LockRequest.alone table

/-- The answer of a store to somebody who has it to himself. -/
def MemoryRequest.alone : (request : MemoryRequest) → StateM MemoryStore request.Answer
  | .lock request => fun store =>
    ((request.alone store.locks).1, { store with locks := (request.alone store.locks).2 })
  | .store request => fun store => store.answer request

/-- What a program comes to on a store that it has to itself. -/
def MemoryStore.run (store : MemoryStore) (program : Program memory α) : α × MemoryStore :=
  program.interpret MemoryRequest.alone store

/-- A store and what is left of a tape. -/
structure Solo where
  store : MemoryStore
  tape : Tape

/-- The answer of a service's surroundings to somebody who has them to himself; none once the tape
has ended, nor where others are needed. -/
def ServiceRequest.alone : (request : ServiceRequest) → StateT Solo Option request.Answer
  | .unit request => fun solo =>
    some ((solo.store.run request.inMemory).1,
      { solo with store := (solo.store.run request.inMemory).2 })
  | .table request => fun solo =>
    let (answer, tables) := solo.store.tables.answer request
    some (answer, { solo with store := { solo.store with tables } })
  | .host .freshId => fun solo =>
    match solo.tape.ids with
    | [] => none
    | id :: ids => some (id, { solo with tape := { solo.tape with ids } })
  | .host .now => fun solo =>
    match solo.tape.times with
    | [] => none
    | time :: times => some (time, { solo with tape := { solo.tape with times } })
  | .host (.dispatch _) => fun solo => some ((), solo)
  | .host _ => fun _ => none

/-- What a program comes to that has a store and a tape to itself. -/
def Solo.run (solo : Solo) (program : Program service α) : Option (α × Solo) :=
  program.interpret ServiceRequest.alone solo

/-- A store on which nothing has happened yet but that its tables have these rows. -/
def Tables.fresh (tables : Tables) (unit : UnitId) : MemoryStore :=
  ⟨tables, .empty, .empty, unit.number⟩

namespace ServiceCall

/-- What a call comes to by itself, with its unit of work under this name, if it uses up exactly
this tape: its outcome, and the tables after it. -/
def alone (call : ServiceCall) (unit : UnitId) (tape : Tape) (tables : Tables) :
    Option (Outcome LedgerError ServiceReply × Tables) :=
  match (Solo.mk (tables.fresh unit) tape).run call.program with
  | some (outcome, ⟨store, ⟨[], []⟩⟩) => some (outcome, store.tables)
  | _ => none

end ServiceCall

variable {α β : Type}

theorem LockTable.run_bind (table : LockTable) (program : Program lockInterface α)
    (next : α → Program lockInterface β) :
    table.run (program.bind next) = (table.run program).2.run (next (table.run program).1) :=
  congrFun (Program.interpret_bind LockRequest.alone program next) table

theorem MemoryStore.run_bind (store : MemoryStore) (program : Program memory α)
    (next : α → Program memory β) :
    store.run (program.bind next) = (store.run program).2.run (next (store.run program).1) :=
  congrFun (Program.interpret_bind MemoryRequest.alone program next) store

/-- A program goes on from what its first part has come to. -/
theorem MemoryStore.run_bind_of {store after : MemoryStore} {program : Program memory α} {answer :
    α}
    {next : α → Program memory β} (first : store.run program = (answer, after)) :
    store.run (program.bind next) = after.run (next answer) := by
  rw [run_bind, first]

theorem MemoryStore.run_locking (store : MemoryStore) (program : Program lockInterface α) :
    store.run (UnitId.locking program) =
      ((store.locks.run program).1, { store with locks := (store.locks.run program).2 }) := by
  induction program generalizing store with
  | done value => rfl
  | ask request resume ih => exact ih _ _

/-! ## Locking alone -/

theorem acquire_alone {table : LockTable} (owner timeoutMs : Nat) {account : Uuid}
    (sound : table.Sound) (free : ∀ ticket ∈ table.tickets, ticket.account ≠ account) :
    ∃ guard after, guard.account = account ∧
      table.run (RowGuard.acquire owner account timeoutMs) = (.ok guard, after) ∧
      after.Sound ∧ ∀ ticket ∈ after.tickets,
        ticket.account = account ∨ ∃ other ∈ table.tickets, other.account = ticket.account := by
  obtain ⟨noticed, sound', before⟩ := LockTable.take_free sound owner free
  refine ⟨⟨account, (table.enter owner account).1⟩, _, rfl, ?_, sound', before⟩
  have served : ∀ (late : Program lockInterface (Except LedgerError RowGuard)) (guard : RowGuard)
      (answer : Bool × LockTable), answer.1 = true →
      answer.2.run (if answer.1 then .done (.ok guard) else late) = (.ok guard, answer.2) := by
    intro late guard answer yes
    rw [if_pos yes]
    rfl
  exact served _ _ _ noticed

theorem acquireAll_alone (owner timeoutMs : Nat) {ids : List Uuid} {table : LockTable}
    (ascending : ids.Pairwise (fun a b => a.value < b.value)) (sound : table.Sound)
    (free : ∀ ticket ∈ table.tickets, ticket.account ∉ ids) (taken : List RowGuard) :
    ∃ guards after, guards.map (·.account) = ids ∧
      table.run (RowGuard.acquireAll owner timeoutMs taken ids) = (.ok (taken ++ guards), after) ∧
      (ids = [] → after = table) := by
  induction ids generalizing table taken with
  | nil => exact ⟨[], table, rfl, by rw [List.append_nil]; rfl, fun _ => rfl⟩
  | cons id rest ih =>
    have below := (List.pairwise_cons.mp ascending).1
    obtain ⟨guard, after, same, acquired, sound', before⟩ :=
      acquire_alone owner timeoutMs sound fun ticket member inside =>
        free ticket member (inside ▸ List.mem_cons_self)
    obtain ⟨guards, last, accounts, all, _⟩ := ih (List.pairwise_cons.mp ascending).2 sound' (by
      intro ticket member inside
      rcases before ticket member with own | ⟨other, present, sameAccount⟩
      · exact Nat.lt_irrefl _ (below _ (own ▸ inside))
      · exact free other present (sameAccount ▸ List.mem_cons_of_mem _ inside)) (taken ++ [guard])
    refine ⟨guard :: guards, last, by simp [same, accounts], ?_, by simp⟩
    show table.run (Program.bind _ _) = _
    rw [LockTable.run_bind, acquired]
    show after.run (RowGuard.acquireAll owner timeoutMs (taken ++ [guard]) rest) = _
    rw [all, List.append_assoc]
    rfl

/-! ## Units of work alone -/

theorem permit_empty (order : LockOrder) :
    ∃ permitted, UnitOfWork.empty.held.permit order = .ok permitted ∧
      permitted.ids = order.ids := by
  obtain ⟨permitted, granted⟩ := @HeldLocks.permit_of_none order UnitOfWork.empty.held rfl
  refine ⟨permitted, granted, (HeldLocks.permit_ids granted).trans ?_⟩
  exact List.filter_eq_self.mpr fun id _ => rfl

theorem hold_empty {guards : List RowGuard} {ids : List Uuid}
    (accounts : guards.map (·.account) = ids) :
    (UnitOfWork.empty.hold guards).content = UnitOfWork.locking ids := by
  have held := UnitOfWork.hold_ids UnitOfWork.empty guards
  rw [accounts] at held
  show ({ UnitOfWork.empty.hold guards with guards := [] } : UnitOfWork) = _
  have same : (UnitOfWork.empty.hold guards).held = ⟨ids⟩ := by
    rw [← show UnitOfWork.empty.held.ids ++ ids = ids from List.nil_append ids, ← held]
  simp only [UnitOfWork.locking, same]
  rfl

/-- Locking rows that nobody has or waits for gives them as they are stored. -/
theorem lock_free {store : MemoryStore} {unit : UnitId} (order : LockOrder) (timeoutMs : Nat)
    (unused : store.unit unit = UnitOfWork.empty) (sound : store.locks.Sound)
    (free : ∀ ticket ∈ store.locks.tickets, ticket.account ∉ order.ids) :
    ∃ guards locks, guards.map (·.account) = order.ids ∧
      store.run (UnitRequest.lock unit order timeoutMs).inMemory =
        ((UnitOfWork.empty.hold guards).rows store.tables order,
          { store with locks }.setUnit unit (UnitOfWork.empty.hold guards)) ∧
      (order.ids = [] → locks = store.locks) := by
  obtain ⟨permitted, granted, same⟩ := permit_empty order
  obtain ⟨guards, locks, accounts, acquired, none⟩ := acquireAll_alone unit.number timeoutMs
    permitted.ascending sound (fun ticket member => same ▸ free ticket member) []
  rw [same] at accounts none
  have begun : @MemoryStore.run (Except LedgerError LockOrder) store
      (StoreRequest.permit unit order).perform = (.ok permitted, store) := by
    show ((store.unit unit).held.permit order, store) = _
    rw [unused, granted]
  have locked : store.run (UnitId.locking (RowGuard.acquireAll unit.number timeoutMs []
      permitted.ids)) = (.ok guards, { store with locks }) := by
    rw [MemoryStore.run_locking, acquired]
    rfl
  refine ⟨guards, locks, accounts, ?_, none⟩
  refine (MemoryStore.run_bind_of begun).trans ((MemoryStore.run_bind_of locked).trans ?_)
  show ((({ store with locks }.setUnit unit ((store.unit unit).hold guards)).unit unit).rows
    store.tables order, { store with locks }.setUnit unit ((store.unit unit).hold guards)) = _
  rw [unused, MemoryStore.unit_setUnit_self]

/-- Locking rows that are there, by oneself. -/
theorem lock_alone {store : MemoryStore} {unit : UnitId} {order : LockOrder} (timeoutMs : Nat)
    {rows : List Account} (unused : store.unit unit = UnitOfWork.empty)
    (unlocked : store.locks = LockTable.empty) (ids : rows.map (·.id) = order.ids)
    (stored : ∀ row ∈ rows, store.tables.accounts.find? row.id = some row) :
    ∃ after, store.run (UnitRequest.lock unit order timeoutMs).inMemory = (.ok rows, after) ∧
      after.tables = store.tables ∧ (after.unit unit).content = UnitOfWork.locking order.ids ∧
      (order.ids = [] → after.unit unit = UnitOfWork.empty ∧ after.locks = LockTable.empty) := by
  obtain ⟨guards, locks, accounts, locked, none⟩ := lock_free order timeoutMs unused
    (unlocked ▸ LockTable.empty_sound) (by rw [unlocked]; exact fun ticket member => nomatch member)
  have unwritten : (UnitOfWork.empty.hold guards).Unwritten := ⟨rfl, rfl⟩
  have read := unwritten.rows_fit ids stored
  refine ⟨{ store with locks }.setUnit unit (UnitOfWork.empty.hold guards), ?_, rfl, ?_, ?_⟩
  · rw [locked, UnitOfWork.rows, read]
    rfl
  · rw [MemoryStore.unit_setUnit_self]
    exact hold_empty accounts
  · intro nothing
    rw [nothing, List.map_eq_nil_iff] at accounts
    subst accounts
    exact ⟨MemoryStore.unit_setUnit_self _ _ _, (none nothing).trans unlocked⟩

theorem finish_alone (store : MemoryStore) (unit : UnitId) :
    (store.run unit.finish).2.tables = store.tables := by
  show (MemoryStore.run _ (UnitId.locking _)).2.tables = _
  rw [MemoryStore.run_locking]
  rfl

theorem commit_alone {store : MemoryStore} {unit : UnitId}
    (accepted : (store.unit unit).Accepted store.tables) :
    ∃ after, store.run (UnitRequest.commit unit).inMemory = (.ok (), after) ∧
      after.tables = (store.unit unit).committedTables store.tables := by
  have applied : store.answer (.apply unit) =
      (.ok (), { store with tables := (store.unit unit).committedTables store.tables }) := by
    simp only [MemoryStore.answer, UnitOfWork.apply_of_accepted accepted]
  have rest : ∀ answer : Except LedgerError Unit × MemoryStore,
      answer.2.run (unit.finish.bind fun _ => .done answer.1) =
        (answer.1, (answer.2.run unit.finish).2) := fun answer => MemoryStore.run_bind _ _ _
  have operation : store.run (UnitRequest.commit unit).inMemory =
      ((store.answer (.apply unit)).1, ((store.answer (.apply unit)).2.run unit.finish).2) :=
    rest (store.answer (.apply unit))
  refine ⟨((store.answer (.apply unit)).2.run unit.finish).2, ?_, ?_⟩
  · rw [operation, applied]
    rfl
  · rw [finish_alone, applied]

/-! ## Steps of a call alone -/

theorem Solo.run_ask {solo after : Solo} {request : ServiceRequest} {α : Type}
    {resume : request.Answer → Program service α} {answer : request.Answer}
    (answered : request.alone solo = some (answer, after)) :
    solo.run (.ask request resume) = after.run (resume answer) := by
  show (request.alone solo).bind _ = _
  rw [answered]
  rfl

theorem Solo.run_unit {solo : Solo} {request : UnitRequest} {α : Type}
    {resume : request.Answer → Program service α} {answer : request.Answer} {store : MemoryStore}
    (answered : solo.store.run request.inMemory = (answer, store)) :
    solo.run (.ask (.unit request) resume) = Solo.run ⟨store, solo.tape⟩ (resume answer) := by
  have both : ServiceRequest.alone (.unit request) solo = some (answer, ⟨store, solo.tape⟩) := by
    show some ((solo.store.run request.inMemory).1, _) = _
    rw [answered]
  exact Solo.run_ask both

end AccountLedger
