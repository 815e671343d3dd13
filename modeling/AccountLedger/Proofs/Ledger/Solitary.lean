import AccountLedger.Proofs.Ledger.Alone
import AccountLedger.Proofs.Ledger.Discipline

/-!
The steps of a change of the ledger that has a store to itself, each told by what it adds to the
unit of work. A failure leaves the tables as they were.
-/

namespace AccountLedger

namespace Solo

/-- Every request has the one answer that it gets alone. -/
def rule : RequestRule service Solo := fun request solo result =>
  ∃ answer after, request.alone solo = some (answer, after) ∧ result answer after

theorem rule_monotone : rule.Monotone := by
  rintro request solo weak strong weaker ⟨answer, after, answered, kept⟩
  exact ⟨answer, after, answered, weaker _ _ kept⟩

/-- What a program ensures alone is what it comes to. -/
theorem run_of_ensures {α : Type} {solo : Solo} {program : Program service α}
    {result : α → Solo → Prop} (ensured : program.Ensures rule solo result) :
    ∃ value after, solo.run program = some (value, after) ∧ result value after := by
  induction program generalizing solo with
  | done value => exact ⟨value, solo, rfl, ensured⟩
  | ask request resume ih =>
    obtain ⟨answer, after, answered, rest⟩ := ensured
    obtain ⟨value, last, ran, kept⟩ := ih answer rest
    exact ⟨value, last, (run_ask answered).trans ran, kept⟩

/-- A unit of work in progress: what it would store on these tables, and what the tape has left. -/
structure Holds (solo : Solo) (unit : UnitId) (tables : Tables) (work : UnitOfWork) (tape : Tape) :
    Prop where
  tables : solo.store.tables = tables
  content : (solo.store.unit unit).content = work
  tape : solo.tape = tape

/-- A unit of work has just been started. -/
structure Begun (before solo : Solo) (unit : UnitId) : Prop where
  tables : solo.store.tables = before.store.tables
  locks : solo.store.locks = before.store.locks
  unused : solo.store.unit unit = UnitOfWork.empty
  tape : solo.tape = before.tape

end Solo

/-- The failure of the ledger that a failure of its rules is. -/
def Failure.refused : Failure Refusal → Failure LedgerError
  | .error refusal => .error (.refused refusal)
  | .overflow direction => .overflow direction

namespace LedgerAction

open Solo (Holds Begun)

variable {α β : Type} {solo : Solo} {unit : UnitId} {tables : Tables} {work : UnitOfWork}
  {ids : List Uuid} {times : List Timestamp}
  {failed : Failure LedgerError → Solo → Prop}

theorem keeps_unit {request : UnitRequest} {answer : request.Answer} {store : MemoryStore}
    {result : request.Answer → Solo → Prop}
    (answered : solo.store.run request.inMemory = (answer, store))
    (kept : result answer { solo with store }) :
    request.perform.Ensures Solo.rule solo result := by
  refine ⟨answer, { solo with store }, ?_, kept⟩
  show some ((solo.store.run request.inMemory).1, _) = _
  rw [answered]
  rfl

/-! ## Rules -/

theorem granted_alone {outcome : Outcome Refusal α} {value : α} {ok : α → Solo → Prop}
    (granted : outcome = .ok value) (kept : ok value solo) :
    Keeps Solo.rule (ofOutcome outcome) solo ok failed := by
  subst granted
  exact kept

theorem refused_alone {outcome : Outcome Refusal α} {failure : Failure Refusal}
    {ok : α → Solo → Prop} (refused : outcome = .error failure)
    (kept : failed failure.refused solo) : Keeps Solo.rule (ofOutcome outcome) solo ok failed := by
  subst refused
  cases failure <;> exact kept

/-! ## The host -/

theorem freshId_alone {id : Uuid} {ok : Uuid → Solo → Prop}
    (holds : solo.Holds unit tables work ⟨id :: ids, times⟩)
    (next : ∀ later : Solo, later.Holds unit tables work ⟨ids, times⟩ → ok id later) :
    Keeps Solo.rule freshId solo ok failed := by
  refine (keeps_lift _).mpr ⟨id, { solo with tape := ⟨ids, times⟩ }, ?_, next _ ?_⟩
  · obtain ⟨store, tape⟩ := solo
    obtain rfl : tape = ⟨id :: ids, times⟩ := holds.tape
    rfl
  · exact ⟨holds.tables, holds.content, rfl⟩

theorem now_alone {time : Timestamp} {ok : Timestamp → Solo → Prop}
    (holds : solo.Holds unit tables work ⟨ids, time :: times⟩)
    (next : ∀ later : Solo, later.Holds unit tables work ⟨ids, times⟩ → ok time later) :
    Keeps Solo.rule now solo ok failed := by
  refine (keeps_lift _).mpr ⟨time, { solo with tape := ⟨ids, times⟩ }, ?_, next _ ?_⟩
  · obtain ⟨store, tape⟩ := solo
    obtain rfl : tape = ⟨ids, time :: times⟩ := holds.tape
    rfl
  · exact ⟨holds.tables, holds.content, rfl⟩

/-! ## The unit of work -/

/-- What a write that is kept aside for the commit does. -/
theorem written_alone {request : UnitRequest} {answer : request.Answer} {tape : Tape}
    {result : request.Answer → Solo → Prop} (change : UnitOfWork → UnitOfWork)
    (content : ∀ work, (change work).content = change work.content)
    (holds : solo.Holds unit tables work tape)
    (answered : solo.store.run request.inMemory =
      (answer, solo.store.setUnit unit (change (solo.store.unit unit))))
    (next : ∀ later : Solo, later.Holds unit tables (change work) tape → result answer later) :
    request.perform.Ensures Solo.rule solo result := by
  refine keeps_unit answered (next _ ⟨holds.tables, ?_, holds.tape⟩)
  show (MemoryStore.unit _ unit).content = _
  rw [MemoryStore.unit_setUnit_self, content, holds.content]

theorem save_alone {account : Account} {tape : Tape} {ok : Account → Solo → Prop}
    (holds : solo.Holds unit tables work tape) (locked : account.id ∈ work.held.ids)
    (next : ∀ later : Solo, later.Holds unit tables
      { work with writes := UnitOfWork.placeWrite account work.writes } tape →
        ok account.stored later) :
    Keeps Solo.rule (save unit account) solo ok failed := by
  apply (keeps_bind _ _).mpr
  apply (keeps_ofAnswer _).mpr
  have held : (solo.store.unit unit).held.contains account.id = true := by
    have same : (solo.store.unit unit).held = work.held := by
      rw [← holds.content]
      rfl
    rw [same]
    exact HeldLocks.contains_iff.mpr locked
  refine @written_alone _ _ _ _ (.save unit account) (.ok ()) _ _
    (fun work => { work with writes := UnitOfWork.placeWrite account work.writes }) (fun _ => rfl)
    holds ?_ next
  show (((solo.store.unit unit).save account).1,
    solo.store.setUnit unit ((solo.store.unit unit).save account).2) = _
  simp only [UnitOfWork.save, held, if_true]
  rfl

theorem recordEvent_alone {event : LedgerEvent} {id : Uuid} {time : Timestamp}
    {ok : OutboxEntry → Solo → Prop}
    (holds : solo.Holds unit tables work ⟨id :: ids, time :: times⟩)
    (next : ∀ later : Solo,
      later.Holds unit tables (work.stage (.ofEvent id event time)) ⟨ids, times⟩ →
        ok (.ofEvent id event time) later) :
    Keeps Solo.rule (recordEvent unit event) solo ok failed := by
  refine (keeps_bind _ _).mpr (freshId_alone holds fun named holds => ?_)
  refine (keeps_bind _ _).mpr (now_alone holds fun told holds => ?_)
  refine (keeps_bind _ _).mpr ((keeps_ofAnswer _).mpr ?_)
  exact @written_alone _ _ _ _ (.stage unit (.ofEvent id event time)) (.ok ()) _ _
    (fun work => work.stage (.ofEvent id event time)) (fun _ => rfl) holds rfl next

/-- Rows that nobody has or waits for are locked and read as they are stored. -/
theorem lock_alone_keeps {before : Solo} {order : LockOrder} (timeoutMs : Nat)
    (begun : before.Begun solo unit) (sound : before.store.locks.Sound)
    (free : ∀ ticket ∈ before.store.locks.tickets, ticket.account ∉ order.ids)
    {ok : List Account → Solo → Prop}
    (missing : ∀ (later : Solo) error, later.store.tables = before.store.tables →
      order.ids.mapM (UnitOfWork.empty.row before.store.tables) = .error error →
        failed (.error error) later)
    (locked : ∀ (later : Solo) rows,
      later.Holds unit before.store.tables (UnitOfWork.locking order.ids) before.tape →
      order.ids.mapM (UnitOfWork.empty.row before.store.tables) = .ok rows → ok rows later) :
    Keeps Solo.rule (lock unit order timeoutMs) solo ok failed := by
  obtain ⟨guards, locks, accounts, ran, _⟩ := lock_free order timeoutMs begun.unused
    (begun.locks ▸ sound) (begun.locks ▸ free)
  have read : (UnitOfWork.empty.hold guards).rows solo.store.tables order =
      order.ids.mapM (UnitOfWork.empty.row before.store.tables) := by
    rw [← begun.tables]
    rfl
  refine (keeps_ofAnswer _).mpr (keeps_unit ran ?_)
  rw [read]
  cases rows : order.ids.mapM (UnitOfWork.empty.row before.store.tables) with
  | error error => exact missing _ error begun.tables rows
  | ok given =>
    refine locked _ given ⟨begun.tables, ?_, begun.tape⟩ rows
    show (MemoryStore.unit _ unit).content = _
    rw [MemoryStore.unit_setUnit_self]
    exact hold_empty accounts

/-- Work in a unit of work of its own, and its commit. -/
theorem committed_alone {work : UnitId → LedgerAction α} {ok : α → Solo → Prop}
    (working : ∀ unit started, solo.Begun started unit → Keeps Solo.rule (work unit) started
      (fun value later => ∃ content tape, later.Holds unit solo.store.tables content tape ∧
        content.Accepted solo.store.tables ∧ ∀ last : Solo,
          last.store.tables = content.committedTables solo.store.tables → ok value last)
      fun failure later => later.store.tables = solo.store.tables ∧ ∀ last : Solo,
        last.store.tables = solo.store.tables → failed failure last) :
    Keeps Solo.rule (committed work) solo ok failed := by
  refine (keeps_bind _ _).mpr ((keeps_ofAnswer _).mpr
    (@keeps_unit solo .start (.ok ⟨solo.store.nextUnit⟩) _ _ rfl ?_))
  refine (keeps_bind _ _).mpr ((keeps_orAbandon _ _).mpr ?_)
  refine keeps_imp Solo.rule_monotone (working ⟨solo.store.nextUnit⟩ _ ⟨rfl, rfl, ?_, rfl⟩) ?_ ?_
  · exact MemoryStore.unit_setUnit_self solo.store ⟨solo.store.nextUnit⟩ _
  · rintro value later ⟨content, tape, holds, accepted, stored⟩
    have acceptedThere : (later.store.unit ⟨solo.store.nextUnit⟩).Accepted later.store.tables := by
      rw [← holds.content] at accepted
      rw [holds.tables]
      exact ⟨accepted.inserted, accepted.writes⟩
    obtain ⟨after, committed, tables⟩ := commit_alone acceptedThere
    refine (keeps_bind _ _).mpr ((keeps_ofAnswer _).mpr (keeps_unit committed (stored _ ?_)))
    show after.tables = _
    rw [tables, holds.tables, ← holds.content]
    rfl
  · rintro failure later ⟨tables, refused⟩
    refine @keeps_unit later (.abandon ⟨solo.store.nextUnit⟩) _ _ _ rfl (refused _ ?_)
    exact (finish_alone _ _).trans tables

end LedgerAction

end AccountLedger
