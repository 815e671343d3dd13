import AccountLedger.Proofs.Ledger.Alone
import AccountLedger.Proofs.Ledger.Discipline

/-!
Next to every call one can imagine the same call alone on tables that have the rows it has read. As
long as the call may still commit, the other one has been answered the same.
-/

namespace AccountLedger

namespace Tape

def append (tape more : Tape) : Tape := ⟨tape.ids ++ more.ids, tape.times ++ more.times⟩

theorem append_empty (tape : Tape) : tape.append .empty = tape := by
  simp [append, empty]

theorem drawn_append (tape more : Tape) (id : Uuid) :
    (tape.drawn id).append more = tape.append { more with ids := id :: more.ids } := by
  simp [append, drawn]

theorem told_append (tape more : Tape) (time : Timestamp) :
    (tape.told time).append more = tape.append { more with times := time :: more.times } := by
  simp [append, told]

end Tape

/-- Rows that are the stored ones. -/
def Tables.Fits (tables : Tables) (rows : List Account) : Prop :=
  ∀ row ∈ rows, tables.accounts.find? row.id = some row

namespace Errand

/-- The store of a call that is alone, as the call knows it. -/
structure OnStore (errand : Errand) (tables : Tables) (store : MemoryStore) : Prop where
  tables : store.tables = tables
  content : (store.unit errand.unit).content = errand.work
  unused : errand.work = UnitOfWork.empty →
    store.unit errand.unit = UnitOfWork.empty ∧ store.locks = LockTable.empty

/-- Before it has a unit of work, a call that is alone has come as far under any name for one. -/
def ShadowOutside (call : ServiceCall) (tape : Tape)
    (rest : Script) : Prop :=
  ∀ (tables : Tables) (unit : UnitId) (more : Tape),
    Solo.run ⟨tables.fresh unit, tape.append more⟩ call.program =
      Solo.run ⟨tables.fresh unit, more⟩ rest

/-- A call that is alone on tables with the rows read has come as far. -/
def Shadow (call : ServiceCall) (errand : Errand)
    (rest : Script) : Prop :=
  ∀ tables : Tables, tables.Fits errand.reads → ∀ more : Tape,
    ∃ store, errand.OnStore tables store ∧
      Solo.run ⟨tables.fresh errand.unit, errand.tape.append more⟩ call.program =
        Solo.run ⟨store, more⟩ rest

variable {call : ServiceCall} {errand : Errand} {tape : Tape}

/-! ## What comes from the host -/

theorem ShadowOutside.start (call : ServiceCall) : ShadowOutside call .empty call.program := by
  intro tables unit more
  rfl

/-- What a call may ask of the host, a call that is alone is answered from its tape. -/
theorem hosted_alone {request : HostRequest} {result : request.Answer → Errand → Prop}
    (permitted : hostRule request errand result) (answer : request.Answer) (more : Tape) :
    ∃ longer : Tape, (tape.after request answer).append more = tape.append longer ∧
      ∀ (store : MemoryStore) (resume : request.Answer → Script),
        Solo.run ⟨store, longer⟩ (.ask (.host request) resume) =
          Solo.run ⟨store, more⟩ (resume answer) := by
  cases request with
  | freshId => exact ⟨_, Tape.drawn_append tape more answer, fun _ _ => rfl⟩
  | now => exact ⟨_, Tape.told_append tape more answer, fun _ _ => rfl⟩
  | dispatch entry => exact ⟨more, rfl, fun _ _ => rfl⟩
  | _ => exact permitted.elim

theorem ShadowOutside.hosted {request : HostRequest} {resume : request.Answer → Script}
    {result : request.Answer → Errand → Prop}
    (shadow : ShadowOutside call tape (.ask (.host request) resume))
    (permitted : hostRule request errand result) (answer : request.Answer) :
    ShadowOutside call (tape.after request answer) (resume answer) := by
  intro tables unit more
  obtain ⟨longer, same, run⟩ := hosted_alone permitted answer more
  rw [same]
  exact (shadow tables unit longer).trans (run _ _)

theorem Shadow.hosted {request : HostRequest} {resume : request.Answer → Script}
    {result : request.Answer → Errand → Prop}
    (shadow : Shadow call errand (.ask (.host request) resume))
    (permitted : hostRule request errand result) (answer : request.Answer) :
    Shadow call { errand with tape := errand.tape.after request answer } (resume answer) := by
  intro tables fits more
  obtain ⟨longer, sameTape, run⟩ := hosted_alone permitted answer more
  obtain ⟨store, on, same⟩ := shadow tables fits longer
  rw [sameTape]
  exact ⟨store, ⟨on.tables, on.content, on.unused⟩, same.trans (run _ _)⟩

/-! ## Operations of the unit of work -/

theorem ShadowOutside.started {resume} (unit : UnitId)
    (shadow : ShadowOutside call tape (.ask (.unit .start) resume)) :
    Shadow call ⟨.working, unit, tape, [], UnitOfWork.empty⟩ (resume (.ok unit)) := by
  intro tables _ more
  have both := shadow tables unit more
  refine ⟨((tables.fresh unit).run UnitRequest.start.inMemory).2, ⟨rfl, ?_, fun _ => ⟨?_, rfl⟩⟩, both⟩
  · exact congrArg UnitOfWork.content
      (MemoryStore.unit_setUnit_self (tables.fresh unit) unit UnitOfWork.empty)
  · exact MemoryStore.unit_setUnit_self (tables.fresh unit) unit UnitOfWork.empty

theorem Shadow.locked {order timeoutMs resume} {rows : List Account} (unread : errand.reads = [])
    (unused : errand.work = UnitOfWork.empty) (ids : rows.map (·.id) = order.ids)
    (shadow : Shadow call errand (.ask (.unit (.lock errand.unit order timeoutMs)) resume)) :
    Shadow call { errand with reads := rows, work := UnitOfWork.locking order.ids }
      (resume (.ok rows)) := by
  intro tables fits more
  obtain ⟨store, on, same⟩ := shadow tables (by rw [unread]; simp [Tables.Fits]) more
  obtain ⟨empty, unlocked⟩ := on.unused unused
  obtain ⟨after, locked, sameTables, content, none⟩ :=
    lock_alone timeoutMs empty unlocked ids (on.tables ▸ fits)
  refine ⟨after, ⟨sameTables.trans on.tables, content, fun same => none ?_⟩,
    same.trans (Solo.run_unit locked)⟩
  exact congrArg (fun work => work.held.ids) same

/-- The unit of work after a write that nobody else sees. -/
theorem Shadow.written {request : UnitRequest}
    {resume : request.Answer → Script}
    {answer : request.Answer} {work : UnitOfWork} (change : UnitOfWork → UnitOfWork)
    (content : ∀ work, (change work).content = change work.content)
    (written : change errand.work = work) (used : work ≠ UnitOfWork.empty)
    (answered : ∀ store : MemoryStore, (store.unit errand.unit).content = errand.work →
      store.run request.inMemory =
        (answer, store.setUnit errand.unit (change (store.unit errand.unit))))
    (shadow : Shadow call errand (.ask (.unit request) resume)) :
    Shadow call { errand with work } (resume answer) := by
  intro tables fits more
  obtain ⟨store, on, same⟩ := shadow tables fits more
  refine ⟨store.setUnit errand.unit (change (store.unit errand.unit)),
    ⟨on.tables, ?_, fun empty => absurd empty used⟩,
    same.trans (Solo.run_unit (answered store on.content))⟩
  show UnitOfWork.content (MemoryStore.unit _ errand.unit) = work
  rw [MemoryStore.unit_setUnit_self, content, on.content, written]

theorem Shadow.inserted {account resume}
    (shadow : Shadow call errand (.ask (.unit (.insert errand.unit account)) resume)) :
    Shadow call { errand with work := errand.work.insert account } (resume (.ok ())) := by
  refine shadow.written (fun work => work.insert account) (fun _ => rfl) rfl ?_ fun _ _ => rfl
  intro same
  have inserted := congrArg UnitOfWork.inserted same
  simp [UnitOfWork.insert, UnitOfWork.empty] at inserted

theorem Shadow.staged {entry resume}
    (shadow : Shadow call errand (.ask (.unit (.stage errand.unit entry)) resume)) :
    Shadow call { errand with work := errand.work.stage entry } (resume (.ok ())) := by
  refine shadow.written (fun work => work.stage entry) (fun _ => rfl) rfl ?_ fun _ _ => rfl
  intro same
  have entries := congrArg UnitOfWork.entries same
  simp [UnitOfWork.stage, UnitOfWork.empty] at entries

theorem placeWrite_ne_nil (account : Account) (writes : List StagedWrite) :
    UnitOfWork.placeWrite account writes ≠ [] := by
  cases writes with
  | nil => simp [UnitOfWork.placeWrite]
  | cons write rest =>
    unfold UnitOfWork.placeWrite
    split <;> simp

theorem Shadow.saved {account resume} (locked : account.id ∈ errand.work.held.ids)
    (shadow : Shadow call errand (.ask (.unit (.save errand.unit account)) resume)) :
    Shadow call { errand with
      work := { errand.work with
        writes := UnitOfWork.placeWrite account errand.work.writes } } (resume (.ok ())) := by
  refine shadow.written
    (fun work => { work with writes := UnitOfWork.placeWrite account work.writes })
    (fun _ => rfl) rfl ?_ ?_
  · intro same
    exact placeWrite_ne_nil account errand.work.writes (congrArg UnitOfWork.writes same)
  · intro store content
    have held : (store.unit errand.unit).held.contains account.id = true := by
      have same : (store.unit errand.unit).held = errand.work.held := by
        rw [← content]
        rfl
      rw [same]
      exact HeldLocks.contains_iff.mpr locked
    show (((store.unit errand.unit).save account).1,
      store.setUnit errand.unit ((store.unit errand.unit).save account).2) = _
    simp only [UnitOfWork.save, held, if_true]
    rfl

/-! ## The commit -/

/-- Once its unit of work is committed, a call asks for nothing but deliveries. -/
theorem rule_committed {reply : ServiceReply} {request : ServiceRequest} {result}
    (committed : errand.phase = .committed reply) (permitted : rule call request errand result) :
    ∃ entry, request = .host (.dispatch entry) := by
  cases request with
  | table request => exact permitted.elim
  | host request =>
    cases request with
    | dispatch entry => exact ⟨entry, rfl⟩
    | freshId =>
      have draws : errand.Draws := permitted.1
      simp [Draws, committed] at draws
    | now =>
      have draws : errand.Draws := permitted.1
      simp [Draws, committed] at draws
    | _ => exact permitted.elim
  | unit request =>
    cases request with
    | start =>
      have outside : errand.phase = .outside := permitted.1
      simp [committed] at outside
    | abandon own =>
      have present : errand.phase = .working ∨ errand.phase = .failing := permitted.1
      simp [committed] at present
    | _ =>
      have working : errand.phase = .working := permitted.1
      simp [committed] at working

/-- Then a call that is alone replies what it owes. -/
theorem run_committed {reply : ServiceReply} (solo : Solo)
    {rest : Script}
    (committed : errand.phase = .committed reply)
    (ensures : rest.Ensures (rule call) errand Ended) :
    solo.run rest = some (.ok reply, solo) := by
  induction rest generalizing errand with
  | done outcome =>
    have ended : Ended outcome errand := ensures
    simp only [Ended, committed] at ended
    rw [ended]
    rfl
  | ask request resume ih =>
    obtain ⟨entry, rfl⟩ := rule_committed committed ensures
    exact ih () committed ensures

/-- Alone on tables with the rows read, the call commits the same and replies the same. -/
theorem Shadow.committed {resume : Except LedgerError Unit → Program service _} {tables : Tables}
    {reply : ServiceReply}
    (shadow : Shadow call errand (.ask (.unit (.commit errand.unit)) resume))
    (fits : tables.Fits errand.reads) (accepted : errand.work.Accepted tables)
    (ensures : (resume (.ok ())).Ensures (rule call)
      { errand with phase := .committed reply } Ended) :
    call.alone errand.unit errand.tape tables =
      some (.ok reply, errand.work.committedTables tables) := by
  obtain ⟨store, on, same⟩ := shadow tables fits .empty
  have acceptedThere : (store.unit errand.unit).Accepted store.tables := by
    rw [← on.content] at accepted
    rw [on.tables]
    exact ⟨accepted.inserted, accepted.writes⟩
  obtain ⟨after, committed, stored⟩ := commit_alone acceptedThere
  have sameStored : after.tables = errand.work.committedTables tables := by
    rw [stored, on.tables, ← on.content]
    rfl
  have run : Solo.run ⟨tables.fresh errand.unit, errand.tape⟩ call.program =
      some (.ok reply, ⟨after, .empty⟩) := by
    rw [Tape.append_empty] at same
    rw [same]
    exact (Solo.run_unit committed).trans (run_committed _ rfl ensures)
  unfold ServiceCall.alone
  rw [run, ← sameStored]
  rfl

end Errand

end AccountLedger
