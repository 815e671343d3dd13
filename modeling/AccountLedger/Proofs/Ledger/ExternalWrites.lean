import AccountLedger.Proofs.Ledger.Revisions
import AccountLedger.Proofs.Ledger.Schedule
import AccountLedger.Proofs.Lock.Waiting

/-!
Writes past all locks are noticed. A call changes rows that it has read under their locks; whether
somebody has written one of them since without a lock is decided when the call commits, from the
revisions alone: then nothing is stored, and the commit fails with the name of such an account.
-/

namespace AccountLedger

/-- The stored accounts that a call is to change. -/
def ServiceCall.accounts : ServiceCall → List Uuid
  | .openAccount .. => []
  | .closeAccount _ account => [account]
  | .deposit _ account _ => [account]
  | .withdraw _ account _ => [account]
  | .transfer _ source target _ => [source, target]

namespace Change

variable {call : ServiceCall} {tape : Tape} {reads : List Account} {work : UnitOfWork}
  {reply : ServiceReply}

theorem one?_accounts {one : OneChange} (known : call.one? = some one) :
    call.accounts = [one.account] := by
  cases call <;> cases known <;> rfl

/-- The rows that a call has read are those of the accounts that it is to change. -/
theorem mem_accounts (change : Change call tape reads work reply) (account : Uuid) :
    account ∈ call.accounts ↔ ∃ row ∈ reads, row.id = account := by
  cases change with
  | opened => simp [ServiceCall.accounts]
  | changed known same =>
    rw [one?_accounts known]
    simp [same, eq_comm]
  | transferred paired ids =>
    rw [← List.mem_map, ids, (LockOrder.pair_ok paired).2]
    simp [ServiceCall.accounts]

/-- A call that changes accounts opens none. -/
theorem inserted_nil (change : Change call tape reads work reply) (some : call.accounts ≠ []) :
    work.inserted = [] := by
  cases change with
  | opened => exact absurd rfl some
  | _ => rfl

end Change

namespace UnitOfWork

variable {tables : Tables} {error : LedgerError}

theorem checkWrites_error {writes : List StagedWrite}
    (failed : checkWrites tables writes = .error error) : ∃ write ∈ writes,
      (tables.accounts.find? write.account.id).map (·.revision) ≠ some write.expected ∧
      error = .concurrentModification write.account.id write.expected
        ((tables.accounts.find? write.account.id).map (·.revision)) := by
  induction writes with
  | nil => cases failed
  | cons write rest ih =>
    rw [checkWrites] at failed
    by_cases same : (tables.accounts.find? write.account.id).map (·.revision) = some write.expected
    · rw [if_pos same] at failed
      obtain ⟨other, member, differs, named⟩ := ih failed
      exact ⟨other, List.mem_cons_of_mem _ member, differs, named⟩
    · rw [if_neg same] at failed
      cases failed
      exact ⟨write, List.mem_cons_self, same, rfl⟩

/-- A commit that inserts nothing fails only over the revision of a row. -/
theorem apply_error {work : UnitOfWork} (none : work.inserted = [])
    (failed : work.apply tables = .error error) : ∃ write ∈ work.writes,
      (tables.accounts.find? write.account.id).map (·.revision) ≠ some write.expected ∧
      error = .concurrentModification write.account.id write.expected
        ((tables.accounts.find? write.account.id).map (·.revision)) := by
  have inserted : checkInserted tables work.inserted = .ok () := by
    rw [none]
    rfl
  unfold apply at failed
  cases writes : checkWrites tables work.writes with
  | ok _ => simp [inserted, writes, bind, Except.bind, pure, Except.pure] at failed
  | error other =>
    simp only [inserted, writes, bind, Except.bind, Except.error.injEq] at failed
    subst failed
    exact checkWrites_error writes

end UnitOfWork

/-! ## What is read -/

namespace Pool

variable {pool next : Pool} {unit reader : UnitId} {row : Account}

theorem answered_read_stored {request : UnitRequest} {asked : StoreRequest}
    {resume : asked.Answer → Program memory request.Answer}
    {result : asked.Answer → Standing → Prop} (keyed : pool.tables.Keyed)
    (permitted : Standing.storeRule unit asked (pool.standing unit) result)
    (unread : row ∉ pool.reads unit) (read : row ∈ pool.readsAfter asked unit) :
    (pool.answered unit request asked resume).tables.accounts.find? row.id = some row := by
  obtain ⟨work, order, member⟩ := (mem_readsAfter permitted read).resolve_left unread
  obtain ⟨id, _, found⟩ := mem_readRows member
  rcases @answered_cases pool unit request asked resume result permitted with
    ⟨tables, _⟩ | ⟨rfl, _⟩
  · rw [tables, keyed id row found]
    exact found
  · exact absurd read unread

theorem Proceeds.read_stored (sound : pool.Sound) (proceeds : pool.Proceeds unit next)
    (unread : row ∉ pool.reads reader) (read : row ∈ next.reads reader) :
    next.tables.accounts.find? row.id = some row := by
  have same : reader = unit := by
    by_contra differs
    have kept : next.reads reader = pool.reads reader :=
      congrArg Standing.reads (proceeds.others sound differs).2
    exact unread (kept ▸ read)
  subst same
  cases proceeds with
  | stored busy =>
    exact answered_read_stored sound.keyed (permitted_of_busy sound busy) unread read
  | waiting => exact absurd read unread
  | locked => exact absurd read unread

theorem answered_stored {after : Tables}
    (applied : (pool.store.unit unit).apply pool.tables = .ok after) :
    let next := pool.answered unit (.commit unit) (.apply unit) (afterApply unit)
    next.tables = after ∧ next.log = pool.log ++ [.committed unit] ∧
      next.activity unit = .busy (.commit unit) (afterApply unit (.ok ())) := by
  simp only [tables] at applied
  simp [answered, MemoryStore.answer, tables, commits?, applied, Except.toBool]

theorem answered_refused {error : LedgerError}
    (applied : (pool.store.unit unit).apply pool.tables = .error error) :
    let next := pool.answered unit (.commit unit) (.apply unit) (afterApply unit)
    next.tables = pool.tables ∧ next.log = pool.log ∧
      next.activity unit = .busy (.commit unit) (afterApply unit (.error error)) := by
  simp only [tables] at applied
  simp [answered, MemoryStore.answer, tables, commits?, applied, Except.toBool]

/-- A unit of work has the locks of the rows it has read. -/
theorem Sound.has_read (sound : pool.Sound) (present : row ∈ pool.reads unit) :
    pool.store.locks.Has unit.number row.id := by
  have valid := sound.valid unit
  have inside : row.id ∈ (pool.standing unit).work.held.ids := valid.read row present
  rw [valid.ids] at inside
  obtain ⟨guard, member, same⟩ := List.mem_map.mp inside
  obtain ⟨ticket, there, own, held, rfl⟩ := valid.guarded guard member
  exact ⟨ticket, there, own, same, by simp [Ticket.isExclusive, held]⟩

end Pool

namespace Office

variable {office next read : Office} {unit : UnitId} {row : Account}

/-- What a unit of work reads in a step is what is stored then. -/
theorem Sound.read_stored (sound : office.Sound) (step : office.Step next)
    (unread : row ∉ office.pool.reads unit) (read : row ∈ next.pool.reads unit) :
    next.tables.accounts.find? row.id = some row := by
  cases step with
  | proceed proceeds => exact proceeds.read_stored sound.pool unread read
  | @drop id call known unreturned =>
    have kept : (call.cutOff office.pool).reads = office.pool.reads := by
      unfold Call.cutOff
      split
      · rfl
      · split <;> rfl
    have member : row ∈ (call.cutOff office.pool).reads unit := read
    rw [kept] at member
    exact absurd member unread
  | _ => exact absurd read unread

/-- A row was read in the step to an office, and its reader has had it ever since. -/
structure ReadAt (read office : Office) (unit : UnitId) (row : Account) : Prop where
  step : ∃ before : Office, before.Reachable ∧ before.Step read ∧ row ∉ before.pool.reads unit
  present : row ∈ read.pool.reads unit
  kept : Relation.ReflTransGen
    (fun before after => before.Step after ∧ row ∈ after.pool.reads unit) read office

/-- Somebody has written an account past all locks between two offices of a run. -/
def OverwrittenSince (read office : Office) (id : Uuid) : Prop :=
  ∃ account, .overwritten account ∈ office.pool.log.drop read.pool.log.length ∧ account.id = id

theorem Reachable.readAt (reachable : office.Reachable) (present : row ∈ office.pool.reads unit) :
    ∃ read : Office, read.ReadAt office unit row := by
  induction reachable with
  | refl => cases present
  | @tail before after reachable step ih =>
    by_cases earlier : row ∈ before.pool.reads unit
    · obtain ⟨read, readAt⟩ := ih earlier
      exact ⟨read, readAt.step, readAt.present, readAt.kept.tail ⟨step, present⟩⟩
    · exact ⟨after, ⟨before, reachable, step, earlier⟩, present, .refl⟩

/-! ## What becomes of a row that was read -/

/-- A row is still the one stored, or it was written past all locks and is older than that. -/
def Fate (read office : Office) (row : Account) : Prop :=
  ∃ stored, office.tables.accounts.find? row.id = some stored ∧
    (¬ read.OverwrittenSince office row.id ∧ stored = row ∨
      read.OverwrittenSince office row.id ∧ row.revision < stored.revision)

theorem overwrittenSince_append {events : List PoolEvent} {id : Uuid}
    (run : read.pool.log.length ≤ office.pool.log.length)
    (log : next.pool.log = office.pool.log ++ events) :
    read.OverwrittenSince next id ↔ read.OverwrittenSince office id ∨
      ∃ account, .overwritten account ∈ events ∧ account.id = id := by
  unfold OverwrittenSince
  rw [log, List.drop_append_of_le_length run]
  simp only [List.mem_append, or_and_right, exists_or]

/-- Other events than writes of an account past all locks do not count. -/
theorem overwrittenSince_of_unwritten {events : List PoolEvent} {id : Uuid}
    (run : read.pool.log.length ≤ office.pool.log.length)
    (log : next.pool.log = office.pool.log ++ events)
    (unwritten : ∀ account, .overwritten account ∈ events → account.id ≠ id) :
    read.OverwrittenSince next id ↔ read.OverwrittenSince office id := by
  rw [overwrittenSince_append run log, or_iff_left]
  rintro ⟨account, member, same⟩
  exact unwritten account member same

/-- The commit of another unit of work leaves a row alone. -/
theorem Commits.untouched {call : Call} {errand : Errand} {reply : ServiceReply}
    (commits : office.Commits call errand reply) (sound : office.pool.Sound)
    (accepted : errand.work.Accepted office.tables) (differs : unit ≠ errand.unit)
    (present : row ∈ office.pool.reads unit) {stored : Account}
    (found : office.tables.accounts.find? row.id = some stored) :
    (errand.work.committedTables office.tables).accounts.find? row.id = some stored := by
  rw [← commits.committedTables]
  exact Pool.untouched_by_commit sound differs (commits.accepted.mpr accepted) present found

theorem Fate.step (fate : read.Fate office row) (sound : office.Sound) (effect : office.Effect next)
    (run : read.pool.log.length ≤ office.pool.log.length)
    (present : row ∈ office.pool.reads unit) (uncommitted : .committed unit ∉ next.pool.log) :
    read.Fate next row := by
  obtain ⟨stored, found, current⟩ := fate
  cases effect with
  | quiet log alike =>
    have since : read.OverwrittenSince next row.id ↔ read.OverwrittenSince office row.id :=
      overwrittenSince_of_unwritten run (log.trans (List.append_nil _).symm) (by simp)
    refine ⟨stored, alike.accounts ▸ found, ?_⟩
    rw [since]
    exact current
  | @committed _ _ errand _ _ _ _ _ commits _ accepted _ log tables =>
    have differs : unit ≠ errand.unit := by
      rintro rfl
      exact uncommitted (log ▸ List.mem_append_right _ List.mem_cons_self)
    have since : read.OverwrittenSince next row.id ↔ read.OverwrittenSince office row.id :=
      overwrittenSince_of_unwritten run log (by simp)
    refine ⟨stored, ?_, ?_⟩
    · rw [tables]
      exact commits.untouched sound.pool accepted differs present found
    · rw [since]
      exact current
  | overwritten account log tables =>
    have find := office.tables.overwriteAccount_find? account row.id
    rw [← tables] at find
    by_cases same : account.id = row.id
    · rw [if_pos same] at find
      rw [← same] at found
      have raised := Tables.raisedRevision_gt found
      have since := (overwrittenSince_append run log).mpr
        (Or.inr ⟨account, List.mem_cons_self, same⟩)
      refine ⟨_, find, Or.inr ⟨since, ?_⟩⟩
      rcases current with ⟨_, rfl⟩ | ⟨_, older⟩
      · exact raised
      · exact Int.lt_trans older raised
    · rw [if_neg same] at find
      have since : read.OverwrittenSince next row.id ↔ read.OverwrittenSince office row.id :=
        overwrittenSince_of_unwritten run log (by simpa using same)
      refine ⟨stored, find.trans found, ?_⟩
      rw [since]
      exact current

/-- Until its reader commits, a row is the one stored unless it was written past all locks. -/
theorem ReadAt.fate (readAt : read.ReadAt office unit row)
    (uncommitted : .committed unit ∉ office.pool.log) :
    office.Reachable ∧ row ∈ office.pool.reads unit ∧
      read.pool.log.length ≤ office.pool.log.length ∧ read.Fate office row := by
  obtain ⟨⟨before, reachable, reading, unread⟩, present, kept⟩ := readAt
  induction kept with
  | refl =>
    have stored := reachable.sound.read_stored reading unread present
    exact ⟨reachable.tail reading, present, Nat.le_refl _, row, stored,
      Or.inl ⟨by simp [OverwrittenSince], rfl⟩⟩
  | @tail between after run step ih =>
    have steps : Relation.ReflTransGen Step read between :=
      Relation.ReflTransGen.mono (fun _ _ kept => kept.1) _ _ run
    have there : between.Reachable := (reachable.tail reading).trans steps
    obtain ⟨⟨⟨more, log⟩, _⟩, _, effect⟩ := step_sound there.sound step.1
    have earlier : .committed unit ∉ between.pool.log := fun inside =>
      uncommitted (log ▸ List.mem_append_left _ inside)
    obtain ⟨_, member, longer, fate⟩ := ih earlier
    refine ⟨there.tail step.1, step.2, ?_, fate.step there.sound effect longer member uncommitted⟩
    rw [log, List.length_append]
    exact Nat.le_add_right_of_le longer

/-! ## The decision -/

/-- In this step it is decided whether a unit of work commits. -/
structure Decides (office next : Office) (unit : UnitId) : Prop where
  asked : office.pool.activity unit =
    .busy (.commit unit) (UnitRequest.commit unit).inMemory
  proceeds : office.pool.Proceeds unit next.pool

/-- What comes of the commit of a unit of work whose rows were read in the steps to these offices.
Either none of them was written past all locks since: they are all stored as they were read, and are
replaced. Or one of them was: then nothing is stored and the commit, once the row locks are freed,
fails with its name. -/
inductive Decision (office next : Office) (unit : UnitId) (read : Account → Office) : Prop
  | replaced : next.pool.log = office.pool.log ++ [.committed unit] →
    next.pool.activity unit = .busy (.commit unit) (Pool.afterApply unit (.ok ())) →
    (∀ row ∈ office.pool.reads unit, ¬ (read row).OverwrittenSince office row.id ∧
      office.tables.accounts.find? row.id = some row ∧
      ∃ after, next.tables.accounts.find? row.id = some after ∧ row.Altered after ∧
        after.revision = row.revision + 1) →
    (∀ id, (∀ row ∈ office.pool.reads unit, row.id ≠ id) →
      next.tables.accounts.find? id = office.tables.accounts.find? id) →
    Decision office next unit read
  | refused {row found} : row ∈ office.pool.reads unit →
    (read row).OverwrittenSince office row.id →
    office.tables.accounts.find? row.id = some found → row.revision < found.revision →
    next.pool.log = office.pool.log → next.tables = office.tables →
    next.pool.activity unit = .busy (.commit unit) (Pool.afterApply unit
      (.error (.concurrentModification row.id row.revision (some found.revision)))) →
    Decision office next unit read

/-- A call whose commit is about to be decided. -/
theorem Bears.deciding {call : Call} (bears : office.Bears call) (own : call.unit = some unit)
    (asked : office.pool.activity unit =
      .busy (.commit unit) (UnitRequest.commit unit).inMemory) :
    ∃ errand reply, errand.unit = unit ∧ office.Commits call errand reply := by
  cases bears with
  | outside _ none => cases own.symm.trans none
  | @resumed _ done _ _ mine activity =>
    cases own.symm.trans mine
    rw [activity] at asked
    cases done <;> cases asked
  | busy _ _ mine activity _ avoids =>
    cases own.symm.trans mine
    cases activity.symm.trans asked
    exact absurd trivial avoids.1
  | committing _ mine _ uncommitted phase ensures fits =>
    cases own.symm.trans mine
    obtain ⟨reply, commits, _⟩ := Bears.commits uncommitted phase ensures fits
    exact ⟨_, reply, rfl, commits⟩
  | finishing _ mine activity _ avoids =>
    cases own.symm.trans mine
    cases activity.symm.trans asked
    exact absurd trivial avoids.1
  | settled _ mine activity =>
    cases own.symm.trans mine
    cases activity.symm.trans asked
  | dropped _ units =>
    rcases units unit own with gone | ⟨prog, activity, _⟩
    · cases gone.symm.trans asked
    · cases activity.symm.trans asked

theorem Decides.pool (decides : office.Decides next unit) :
    next.pool = office.pool.answered unit (.commit unit) (.apply unit) (Pool.afterApply unit) := by
  obtain ⟨asked, proceeds⟩ := decides
  have activity : office.pool.activity unit =
      .busy (.commit unit) (.ask (.store (.apply unit)) (Pool.afterApply unit)) := asked
  generalize next.pool = pool at proceeds
  cases proceeds with
  | stored busy =>
    cases activity.symm.trans busy
    rfl
  | waiting busy => cases activity.symm.trans busy
  | locked busy => cases activity.symm.trans busy

section Deciding

variable {call : Call} {errand : Errand} {reply : ServiceReply} {since : Account → Office}

/-- A row whose revision is not the stored one was written past all locks. -/
theorem Commits.overwritten (commits : office.Commits call errand reply)
    (since : read.ReadAt office errand.unit row)
    (differs : (office.tables.accounts.find? row.id).map (·.revision) ≠ some row.revision) :
    read.OverwrittenSince office row.id ∧ ∃ found,
      office.tables.accounts.find? row.id = some found ∧ row.revision < found.revision := by
  obtain ⟨_, _, _, found, stored, current⟩ := since.fate commits.uncommitted
  rw [stored] at differs
  rcases current with ⟨_, rfl⟩ | ⟨written, older⟩
  · exact absurd rfl differs
  · exact ⟨written, found, stored, older⟩

/-- A row that is stored as it was read was not written past all locks. -/
theorem Commits.unwritten (commits : office.Commits call errand reply)
    (since : read.ReadAt office errand.unit row)
    (stored : office.tables.accounts.find? row.id = some row) :
    ¬ read.OverwrittenSince office row.id := by
  obtain ⟨_, _, _, found, present, current⟩ := since.fate commits.uncommitted
  cases stored.symm.trans present
  rcases current with ⟨unwritten, _⟩ | ⟨_, older⟩
  · exact unwritten
  · exact absurd older (Int.lt_irrefl _)

theorem Commits.replaced (commits : office.Commits call errand reply)
    (fits : office.tables.Fits errand.reads) (accepted : errand.work.Accepted office.tables)
    (member : row ∈ errand.reads) : ∃ after,
      (errand.work.committedTables office.tables).accounts.find? row.id = some after ∧
        row.Altered after ∧ after.revision = row.revision + 1 := by
  obtain ⟨write, written, sameId, _⟩ := commits.change.read_written row member
  rcases office.tables.accounts.putAll_find? Account.id errand.work.rowsPut row.id with
    ⟨absent, _⟩ | ⟨after, put, same, found⟩
  · refine absurd (List.mem_map.mpr ⟨write.account.stored, ?_, sameId⟩) absent
    exact List.mem_append_right _ (List.mem_map_of_mem written)
  · have stored := fits row member
    rw [← same] at stored
    have altered := commits.altered fits accepted put stored
    exact ⟨after, found, altered, altered.revision⟩

theorem Commits.kept (commits : office.Commits call errand reply)
    (changes : call.asked.accounts ≠ []) {id : Uuid} (other : ∀ row ∈ errand.reads, row.id ≠ id) :
    (errand.work.committedTables office.tables).accounts.find? id =
      office.tables.accounts.find? id := by
  apply UnitOfWork.committedTables_find?
  · rw [commits.change.inserted_nil changes]
    exact List.not_mem_nil
  · intro write member same
    obtain ⟨row, read, sameId, _⟩ := commits.change.expected write member
    exact other row read (sameId.trans same)

theorem Decides.decision (decides : office.Decides next errand.unit) (sound : office.Sound)
    (commits : office.Commits call errand reply) (changes : call.asked.accounts ≠ [])
    (readAt : ∀ row ∈ office.pool.reads errand.unit, (since row).ReadAt office errand.unit row) :
    office.Decision next errand.unit since := by
  have reads : ∀ {row}, row ∈ office.pool.reads errand.unit ↔ row ∈ errand.reads := by
    intro row
    rw [commits.reads]
  have inserted : (office.pool.store.unit errand.unit).inserted = [] := by
    rw [← commits.change.inserted_nil changes, ← commits.content]
    rfl
  have writes : (office.pool.store.unit errand.unit).writes = errand.work.writes := by
    rw [← commits.content]
    rfl
  have tables : next.tables = next.pool.tables := rfl
  cases applied : (office.pool.store.unit errand.unit).apply office.pool.tables with
  | ok after =>
    have accepted := commits.accepted.mp (UnitOfWork.accepted_of_apply applied)
    have fits := commits.fits sound.pool accepted
    obtain ⟨stored, log, activity⟩ := Pool.answered_stored applied
    rw [← decides.pool] at stored log activity
    rw [UnitOfWork.apply_ok applied, commits.committedTables] at stored
    refine .replaced log activity (fun row member => ?_) fun id other => ?_
    · have present := fits row (reads.mp member)
      refine ⟨commits.unwritten (readAt row member) present, present, ?_⟩
      rw [tables, stored]
      exact commits.replaced fits accepted (reads.mp member)
    · rw [tables, stored]
      exact commits.kept changes fun row member => other row (reads.mpr member)
  | error error =>
    obtain ⟨same, log, activity⟩ := Pool.answered_refused applied
    rw [← decides.pool] at same log activity
    obtain ⟨write, member, differs, rfl⟩ := UnitOfWork.apply_error inserted applied
    rw [writes] at member
    obtain ⟨row, read, sameId, revision⟩ := commits.change.expected write member
    rw [← sameId, ← revision] at differs activity
    have present := reads.mpr read
    obtain ⟨written, found, stored, older⟩ := commits.overwritten (readAt row present) differs
    have there : office.pool.tables.accounts.find? row.id = some found := stored
    rw [there] at activity
    exact .refused present written stored older log same activity

end Deciding

/-- Whenever a commit has been asked for, it can be decided. -/
theorem decides_decided
    (asked : office.pool.activity unit =
      .busy (.commit unit) (UnitRequest.commit unit).inMemory) :
    let next := office.withPool
      (office.pool.answered unit (.commit unit) (.apply unit) (Pool.afterApply unit))
    office.Step next ∧ office.Decides next unit :=
  ⟨.proceed (.stored asked), asked, .stored asked⟩

/-- Every commit is one that was decided. -/
theorem Sound.decides (sound : office.Sound) (step : office.Step next)
    (log : next.pool.log = office.pool.log ++ [.committed unit]) : office.Decides next unit := by
  have quiet : next.pool.log ≠ office.pool.log := by
    rw [log]
    exact fun same => List.cons_ne_nil _ _ (List.append_cancel_left
      (same.trans (List.append_nil _).symm))
  cases step with
  | @proceed owner pool proceeds =>
    obtain ⟨request, rest, busy⟩ := proceeds.busy
    have active : office.pool.activity owner ≠ .gone := by simp [busy]
    obtain ⟨id, call, known, own⟩ := sound.call_of_active active
    rcases (sound.bears known).proceeded sound.pool own proceeds with
      ⟨_, same, _⟩ | ⟨errand, _, _, rfl, _, asked, _, ⟨_, _, logged, _⟩ | ⟨_, _, same, _⟩⟩
    · exact absurd same quiet
    · cases List.append_cancel_left (logged.symm.trans log)
      exact ⟨asked, proceeds⟩
    · exact absurd same quiet
  | @drop id call known unreturned =>
    have kept : (call.cutOff office.pool).log = office.pool.log := by
      unfold Call.cutOff
      split
      · rfl
      · split <;> rfl
    exact absurd kept quiet
  | overwrite account => cases List.append_cancel_left log
  | _ => exact absurd rfl quiet

/-- Whatever calls are made and whatever is written past all locks, a stored account is left or
stored in a higher revision, and whoever has read rows has their locks. Whenever the commit of a call
that is to change accounts is decided, the call has read the rows of just these accounts. If none of
them was written past all locks since it was read, they are stored as they were read and are
replaced; otherwise nothing is stored, and the commit fails with the name of one that was. -/
theorem Reachable.overwrites_noticed (reachable : office.Reachable) (step : office.Step next) :
    (∀ later, Relation.ReflTransGen Step office later →
      ∀ id row, office.tables.accounts.find? id = some row →
        ∃ after, later.tables.accounts.find? id = some after ∧
          (after = row ∨ row.revision < after.revision)) ∧
    (∀ account, next.pool.log = office.pool.log ++ [.overwritten account] →
      ∃ after, next.tables.accounts.find? account.id = some after ∧
        ∀ row, office.tables.accounts.find? account.id = some row →
          row.revision < after.revision) ∧
    (∀ unit, ∀ row ∈ office.pool.reads unit, office.pool.store.locks.Has unit.number row.id) ∧
    (∀ unit, next.pool.log = office.pool.log ++ [.committed unit] → office.Decides next unit) ∧
    ∀ unit, office.Decides next unit →
      ∃ id call, office.calls id = some call ∧ call.unit = some unit ∧
        (call.asked.accounts ≠ [] →
          (∀ account, account ∈ call.asked.accounts ↔
            ∃ row ∈ office.pool.reads unit, row.id = account) ∧
          (∀ row ∈ office.pool.reads unit, ∃ read : Office, read.ReadAt office unit row) ∧
          ∀ read : Account → Office,
            (∀ row ∈ office.pool.reads unit, (read row).ReadAt office unit row) →
            office.Decision next unit read) := by
  have sound := reachable.sound
  have effect := (step_sound sound step).2.2
  refine ⟨fun later run id row stored => reachable.precedes run stored,
    fun account log => effect.overwritten_revision log,
    fun unit row member => sound.pool.has_read member, fun unit log => sound.decides step log,
    fun unit decides => ?_⟩
  have active : office.pool.activity unit ≠ .gone := by simp [decides.asked]
  obtain ⟨id, call, known, own⟩ := sound.call_of_active active
  obtain ⟨errand, reply, rfl, commits⟩ := (sound.bears known).deciding own decides.asked
  refine ⟨id, call, known, own, fun changes => ⟨fun account => ?_,
    fun row member => reachable.readAt member,
    fun read readAt => decides.decision sound commits changes readAt⟩⟩
  rw [commits.reads]
  exact commits.change.mem_accounts account

/-- An account that somebody writes past all locks. -/
def repaired : Account := Account.opened Uuid.nil Uuid.nil "USD" Decimal.zero ⟨0, 0⟩

/-- The office when the account has been prepared to be closed. -/
def closing : Office :=
  start.scheduled (.overwrite repaired :: making 0 (.closeAccount policy repaired.id) 8)

theorem closing_committing : ∃ call resume, closing.calls 0 = some call ∧
    call.stage = .running (.ask (.unit (.commit ⟨0⟩)) resume) ∧
    call.asked.accounts = [repaired.id] := by
  have checked : (closing.calls 0).any (fun call =>
      call.commits ⟨0⟩ && call.asked.accounts == [repaired.id]) = true := by
    decide +kernel
  obtain ⟨call, known, right⟩ := (Option.any_eq_true _ _).mp checked
  rw [Bool.and_eq_true, Call.commits_iff, beq_iff_eq] at right
  obtain ⟨⟨resume, running⟩, accounts⟩ := right
  exact ⟨call, resume, known, running, accounts⟩

/-- It is written past its lock then. -/
theorem overtaken_reachable : ∃ office : Office, office.Reachable ∧
    office.pool.activity ⟨0⟩ = .busy (.commit ⟨0⟩) (UnitRequest.commit ⟨0⟩).inMemory ∧
    office.pool.reads ⟨0⟩ = [repaired] ∧
    office.tables.accounts.find? repaired.id = some { repaired with revision := 1 } ∧
    office.owner ⟨0⟩ = some 0 ∧
    ∃ call, office.calls 0 = some call ∧ call.asked.accounts = [repaired.id] := by
  obtain ⟨call, resume, known, running, accounts⟩ := closing_committing
  have prepared : closing.Reachable := Reachable.scheduled .refl _
  have committing : Reachable _ := prepared.tail (.ask known running rfl)
  have overtaken : Reachable _ := committing.tail (.overwrite repaired)
  have read : closing.pool.reads ⟨0⟩ = [repaired] := by decide +kernel
  have rewritten : (closing.pool.overwritten repaired).tables.accounts.find? repaired.id =
      some { repaired with revision := 1 } := by
    decide +kernel
  have owned : closing.owner ⟨0⟩ = some 0 := by decide +kernel
  have busy : (closing.pool.asked ⟨0⟩ (.commit ⟨0⟩)).activity ⟨0⟩ =
      .busy (.commit ⟨0⟩) (UnitRequest.commit ⟨0⟩).inMemory := by
    simp [Pool.asked, Pool.withActivity]
  have asks : (closing.withCall 0 { call with stage := .waiting (.commit ⟨0⟩) resume }).calls 0 =
      some { call with stage := .waiting (.commit ⟨0⟩) resume } := by
    simp [withCall]
  exact ⟨_, overtaken, busy, read, rewritten, owned, _, asks, accounts⟩

/-- It is not closed then. -/
theorem overtaken_refused : ∃ office next : Office, office.Reachable ∧ office.Step next ∧
    office.Decides next ⟨0⟩ ∧ office.pool.reads ⟨0⟩ = [repaired] ∧ next.tables = office.tables ∧
    next.pool.activity ⟨0⟩ = .busy (.commit ⟨0⟩) (Pool.afterApply ⟨0⟩
      (.error (.concurrentModification repaired.id 0 (some 1)))) := by
  obtain ⟨office, reachable, asked, reads, stored, owned, mine, first, accounts⟩ :=
    overtaken_reachable
  obtain ⟨step, decides⟩ := decides_decided asked
  obtain ⟨id, call, known, own, decided⟩ :=
    (reachable.overwrites_noticed step).2.2.2.2 ⟨0⟩ decides
  obtain rfl : id = 0 := by
    have theirs := reachable.sound.settled.registered.owner.mpr
      ((unitOf_of_call known).trans own)
    exact Option.some.inj (theirs.symm.trans owned)
  cases first.symm.trans known
  obtain ⟨_, read, decision⟩ := decided (accounts ▸ List.cons_ne_nil _ _)
  rw [reads] at read decision
  obtain ⟨since, readAt⟩ := read repaired List.mem_cons_self
  refine ⟨office, _, reachable, step, decides, reads, ?_⟩
  cases decision (fun _ => since) (by simpa using readAt) with
  | replaced _ _ kept =>
    have untouched := (kept repaired (reads ▸ List.mem_cons_self)).2.1
    have same := congrArg Account.revision (Option.some.inj (stored.symm.trans untouched))
    exact absurd same (by decide)
  | @refused row found member _ there _ _ tables activity =>
    rw [reads, List.mem_singleton] at member
    subst member
    cases stored.symm.trans there
    exact ⟨tables, activity⟩

end Office

end AccountLedger
