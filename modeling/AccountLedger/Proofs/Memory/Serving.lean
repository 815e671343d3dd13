import AccountLedger.Proofs.Ensures
import AccountLedger.Proofs.Interleaving.Pool
import AccountLedger.Proofs.Memory.Units

/-!
The operations of one unit of work on an in-memory store that it shares with others. Between any two
of its requests the others do to the store what they like, as far as it is not the content of this
unit; they may also keep off the rows that it has locked or inserted.
-/

namespace AccountLedger

namespace UnitOfWork

/-- The rows that a unit of work has locked or inserted. -/
def Owns (work : UnitOfWork) (id : Uuid) : Prop :=
  id ∈ work.held.ids ∨ id ∈ work.inserted.map (·.id)

variable {work : UnitOfWork} {id : Uuid}

theorem Owns.hold (owns : work.Owns id) (guards : List RowGuard) : (work.hold guards).Owns id :=
  owns.imp_left fun held => by
    rw [hold_ids]
    exact List.mem_append_left _ held

theorem Owns.insert (owns : work.Owns id) (account : Account) : (work.insert account).Owns id :=
  owns.imp_right fun inserted => by
    rw [UnitOfWork.insert, List.map_append]
    exact List.mem_append_left _ inserted

theorem Owns.save (owns : work.Owns id) (account : Account) : (work.save account).2.Owns id := by
  unfold UnitOfWork.save
  split <;> exact owns

end UnitOfWork

namespace MemoryStore

/-- The store comes from one state to another in which the unit of work has this content. If the
others are considerate then none of them has touched a row of the unit. -/
structure Passes (considerate : Prop) (unit : UnitId) (store : MemoryStore) (work : UnitOfWork)
    (after : MemoryStore) : Prop where
  content : after.unit unit = work
  rows : considerate → ∀ id, (store.unit unit).Owns id →
    after.tables.accounts.find? id = store.tables.accounts.find? id

/-- How the store answers one request. -/
inductive Answers (store : MemoryStore) : (request : MemoryRequest) → request.Answer →
    MemoryStore → Prop
  | stored (asked) : Answers store (.store asked) (store.answer asked).1 (store.answer asked).2
  | locked {asked answer locks} : LockStep asked store.locks (some answer) locks →
    Answers store (.lock asked) answer { store with locks }

/-- A program of this unit of work runs to its end, while others have their turns in between. -/
inductive Serves {α : Type} (considerate : Prop) (unit : UnitId) :
    MemoryStore → Program memory α → α → MemoryStore → Prop
  | done (value store) : Serves considerate unit store (.done value) value store
  | ask {store between after last : MemoryStore} {request resume answer value} :
    Passes considerate unit store (store.unit unit) between → Answers between request answer after →
    Serves considerate unit after (resume answer) value last →
    Serves considerate unit store (.ask request resume) value last

variable {considerate : Prop} {unit : UnitId} {store between after : MemoryStore}
  {work later : UnitOfWork} {α β : Type}

theorem Passes.refl (store : MemoryStore) :
    store.Passes considerate unit (store.unit unit) store := ⟨rfl, fun _ _ _ => rfl⟩

theorem Passes.trans (first : store.Passes considerate unit work between)
    (second : between.Passes considerate unit later after)
    (grows : ∀ id, (store.unit unit).Owns id → work.Owns id) :
    store.Passes considerate unit later after := by
  refine ⟨second.content, fun kind id owns => ?_⟩
  have still : (between.unit unit).Owns id := first.content ▸ grows id owns
  exact (second.rows kind id still).trans (first.rows kind id owns)

/-- Others have their turn, then the unit does something to its own content. -/
theorem Passes.set (passes : store.Passes considerate unit work between) (later : UnitOfWork) :
    store.Passes considerate unit later (between.setUnit unit later) :=
  ⟨unit_setUnit_self _ _ _, passes.rows⟩

/-! ## What every run comes to -/

/-- What is known after each answer, whatever the others do. -/
def serving (considerate : Prop) (unit : UnitId) : RequestRule memory MemoryStore :=
  fun request store result => ∀ between answer after,
    store.Passes considerate unit (store.unit unit) between → Answers between request answer after →
      result answer after

theorem serving_monotone : (serving considerate unit).Monotone :=
  fun _ _ _ _ weaker ensured between _ after passes answers =>
    weaker _ _ (ensured between _ after passes answers)

theorem Serves.ensured {program : Program memory α} {value : α} {result : α → MemoryStore → Prop}
    (ran : Serves considerate unit store program value after)
    (ensured : program.Ensures (serving considerate unit) store result) : result value after := by
  induction ran with
  | done value store => exact ensured
  | ask passes answers _ ih => exact ih (ensured _ _ _ passes answers)

/-- Any answer may come. -/
def unforeseen {I : Interface} : RequestRule I Unit :=
  fun _ _ result => ∀ answer, result answer ()

theorem unforeseen_monotone {I : Interface} : (unforeseen : RequestRule I Unit).Monotone :=
  fun _ _ _ _ weaker ensured answer => weaker _ _ (ensured answer)

/-- Programs that only lock or unlock rows leave everything else to the others. -/
theorem ensures_locking {program : Program lockInterface α} {result : α → Prop}
    (ensured : program.Ensures unforeseen () fun value _ => result value) (store : MemoryStore) :
    (UnitId.locking program).Ensures (serving considerate unit) store fun value after =>
      result value ∧ store.Passes considerate unit (store.unit unit) after := by
  suffices from_ : ∀ start : MemoryStore,
      start.Passes considerate unit (start.unit unit) store →
      (UnitId.locking program).Ensures (serving considerate unit) store fun value after =>
        result value ∧ start.Passes considerate unit (start.unit unit) after from
    from_ store (.refl store)
  induction program generalizing store with
  | done value => exact fun start passes => ⟨ensured, passes⟩
  | ask request resume ih =>
    intro start passes between answer after passed answers
    cases answers with
    | @locked _ _ locks step =>
      refine ih _ (ensured answer) { between with locks } start ?_
      rw [passes.content] at passed
      exact passes.trans ⟨passed.content, passed.rows⟩ fun _ owns => owns

theorem releaseAll_unforeseen (guards : List RowGuard) :
    (RowGuard.releaseAll guards).Ensures unforeseen () fun _ _ => True := by
  induction guards with
  | nil => trivial
  | cons guard rest ih => exact fun _ _ => ih

theorem acquireAll_accounts (owner timeoutMs : Nat) (taken : List RowGuard) (ids : List Uuid) :
    (RowGuard.acquireAll owner timeoutMs taken ids).Ensures unforeseen () fun outcome _ =>
      ∀ guards, outcome = .ok guards →
        guards.map (·.account) = taken.map (·.account) ++ ids := by
  induction ids generalizing taken with
  | nil =>
    rintro guards ⟨⟩
    rw [List.append_nil]
  | cons id rest ih =>
    intro ticket served
    cases served with
    | true =>
      have others := ih (taken ++ [⟨id, ticket⟩])
      rw [List.map_append, List.append_assoc] at others
      exact others
    | false =>
      intro _
      show Program.Ensures unforeseen (Program.bind (RowGuard.releaseAll taken) _) _ _
      rw [Program.ensures_bind]
      exact Program.Ensures.imp unforeseen_monotone (fun _ _ _ => nofun)
        (releaseAll_unforeseen taken)

/-- Locking rows takes over their locks, or changes nothing; what is then read is read under these
locks. -/
theorem ensures_lockRows (store : MemoryStore) (order : LockOrder) (timeoutMs : Nat) :
    (unit.lockRows order timeoutMs).Ensures (serving considerate unit) store fun answer after =>
      ∃ guards, store.Passes considerate unit ((store.unit unit).hold guards) after ∧
        ∀ rows, answer = .ok rows →
          guards.map (·.account) = (store.unit unit).held.fresh order ∧
            ((store.unit unit).hold guards).rows after.tables order = .ok rows := by
  have unchanged : (store.unit unit).hold [] = store.unit unit := by simp [UnitOfWork.hold]
  rintro begun _ _ passed ⟨⟩
  have same : (begun.unit unit).held = (store.unit unit).held := congrArg _ passed.content
  generalize granted : (begun.answer (StoreRequest.permit unit order)).1 = permitted
  have permit : (store.unit unit).held.permit order = permitted := same ▸ granted
  cases permitted with
  | error error => exact ⟨[], by rw [unchanged]; exact passed, nofun⟩
  | ok fresh =>
    show Program.Ensures _ (Program.bind (UnitId.locking _) _) begun _
    rw [Program.ensures_bind]
    refine Program.Ensures.imp serving_monotone ?_
      (ensures_locking (acquireAll_accounts unit.number timeoutMs [] fresh.ids) begun)
    rintro outcome locked ⟨accounts, passes⟩
    rw [passed.content] at passes
    have reached := passed.trans passes fun _ owns => owns
    cases outcome with
    | error error => exact ⟨[], by rwa [unchanged], nofun⟩
    | ok guards =>
      rintro before _ _ toHold ⟨⟩ later _ _ toRead ⟨⟩
      have content : before.unit unit = store.unit unit := toHold.content.trans reached.content
      rw [reached.content] at toHold
      have holding : store.Passes considerate unit ((store.unit unit).hold guards)
          (before.setUnit unit ((before.unit unit).hold guards)) :=
        content ▸ (reached.trans toHold fun _ owns => owns).set _
      have reading := holding.trans (holding.content ▸ toRead) fun _ owns => owns.hold guards
      refine ⟨guards, reading, fun rows read => ⟨?_, ?_⟩⟩
      · rw [accounts guards rfl, HeldLocks.permit_ids permit]
        rfl
      · rw [← reading.content]
        exact read

theorem Serves.lock {order : LockOrder} {timeoutMs : Nat}
    {answer : (UnitRequest.lock unit order timeoutMs).Answer}
    (ran : Serves considerate unit store (UnitRequest.lock unit order timeoutMs).inMemory answer
      after) :
    ∃ guards, store.Passes considerate unit ((store.unit unit).hold guards) after ∧
      ∀ rows, answer = .ok rows →
        guards.map (·.account) = (store.unit unit).held.fresh order ∧
          ((store.unit unit).hold guards).rows after.tables order = .ok rows :=
  ran.ensured (ensures_lockRows store order timeoutMs)

theorem Serves.insert {account : Account} {answer : (UnitRequest.insert unit account).Answer}
    (ran : Serves considerate unit store (UnitRequest.insert unit account).inMemory answer after) :
    store.Passes considerate unit ((store.unit unit).insert account) after := by
  cases ran with
  | ask passes answers rest =>
    cases answers
    cases rest
    exact passes.content ▸ passes.set _

theorem Serves.save {account : Account} {answer : (UnitRequest.save unit account).Answer}
    (ran : Serves considerate unit store (UnitRequest.save unit account).inMemory answer after) :
    answer = ((store.unit unit).save account).1 ∧
      store.Passes considerate unit ((store.unit unit).save account).2 after := by
  cases ran with
  | ask passes answers rest =>
    cases answers
    cases rest
    rw [← passes.content]
    exact ⟨rfl, passes.set _⟩

theorem Serves.stage {entry : OutboxEntry} {answer : (UnitRequest.stage unit entry).Answer}
    (ran : Serves considerate unit store (UnitRequest.stage unit entry).inMemory answer after) :
    store.Passes considerate unit ((store.unit unit).stage entry) after := by
  cases ran with
  | ask passes answers rest =>
    cases answers
    cases rest
    exact passes.content ▸ passes.set _

/-- A commit is decided in one step; after it only row locks are freed. -/
theorem ensures_commit (store : MemoryStore) (unit : UnitId) :
    (UnitRequest.commit unit).inMemory.Ensures (serving considerate unit) store fun answer _ =>
      ∃ before, store.Passes considerate unit (store.unit unit) before ∧
        answer = (before.answer (.apply unit)).1 := by
  rintro before _ _ passes ⟨⟩
  have freed : ∀ (given : Except LedgerError Unit) (start : MemoryStore),
      (unit.finish.bind fun _ => .done given).Ensures (serving considerate unit) start
        fun answer _ => answer = given := by
    intro given start
    rw [Program.ensures_bind]
    rintro _ _ _ _ ⟨⟩
    exact Program.Ensures.imp serving_monotone (fun _ _ _ => rfl)
      (ensures_locking (releaseAll_unforeseen _) _)
  exact Program.Ensures.imp serving_monotone (fun _ _ same => ⟨before, passes, same⟩) (freed _ _)

theorem Serves.commit {answer : (UnitRequest.commit unit).Answer}
    (ran : Serves considerate unit store (UnitRequest.commit unit).inMemory answer after) :
    ∃ before, store.Passes considerate unit (store.unit unit) before ∧
      answer = (before.answer (.apply unit)).1 :=
  ran.ensured (ensures_commit store unit)

/-! ## Runs -/

section Runs

variable {last : MemoryStore} {value : α}

theorem Serves.stored {asked : StoreRequest} {resume : asked.Answer → Program memory α}
    (rest : Serves considerate unit (store.answer asked).2 (resume (store.answer asked).1) value
      last) : Serves considerate unit store (.ask (.store asked) resume) value last :=
  .ask (.refl store) (.stored asked) rest

theorem Serves.locked {asked : LockRequest} {resume : asked.Answer → Program memory α}
    {answer : asked.Answer} {locks : LockTable}
    (step : LockStep asked store.locks (some answer) locks)
    (rest : Serves considerate unit { store with locks } (resume answer) value last) :
    Serves considerate unit store (.ask (.lock asked) resume) value last :=
  .ask (.refl store) (.locked step) rest

/-- The mutex is waited for before it is had. -/
theorem Serves.waited {asked : LockRequest} {resume : asked.Answer → Program memory α}
    {answer : asked.Answer} {queued locks : LockTable}
    (_ : LockStep asked store.locks none queued)
    (step : LockStep asked queued (some answer) locks)
    (rest : Serves considerate unit { store with locks } (resume answer) value last) :
    Serves considerate unit store (.ask (.lock asked) resume) value last := by
  have queueing : store.Passes considerate unit (store.unit unit) { store with locks := queued } :=
    ⟨rfl, fun _ _ _ => rfl⟩
  exact .ask queueing (.locked step) rest

/-- Giving row locks back needs nobody else. -/
theorem serves_releaseAll (guards : List RowGuard) (store : MemoryStore) (value : α) :
    ∃ last, Serves considerate unit store
      ((UnitId.locking (RowGuard.releaseAll guards)).bind fun _ => .done value) value last := by
  induction guards generalizing store with
  | nil => exact ⟨store, .done value store⟩
  | cons guard rest ih =>
    obtain ⟨last, others⟩ := ih
      { store with locks := (store.locks.leave guard.ticket).2.prune guard.account }
    exact ⟨last, .locked (.leave ..) (.locked (.prune ..) others)⟩

/-- A commit always comes to its end. -/
theorem serves_commit (store : MemoryStore) :
    ∃ last, Serves considerate unit store (UnitRequest.commit unit).inMemory
      (store.answer (.apply unit)).1 last := by
  obtain ⟨last, freed⟩ := serves_releaseAll _ _ _
  exact ⟨last, .stored (.stored freed)⟩

end Runs

end MemoryStore

end AccountLedger
