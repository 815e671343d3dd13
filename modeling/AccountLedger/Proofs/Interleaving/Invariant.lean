import AccountLedger.Proofs.Interleaving.Proceeding

/-!
What holds of a pool whatever its units of work do and in whatever order: the lock table is sound,
every unit keeps to its rule, and a row that was read under a lock is the one stored for as long as
its reader has not committed, unless it was written past all locks.
-/

namespace AccountLedger

namespace Pool

/-- Somebody has written past all locks. -/
def Tampered (pool : Pool) : Prop := ∃ account, .overwritten account ∈ pool.log

/-- A row as it was read is the one stored, or an older one that was written past all locks. -/
def Covers (pool : Pool) (row : Account) : Prop :=
  ∃ stored, pool.tables.accounts.find? row.id = some stored ∧
    (stored = row ∨ row.revision < stored.revision ∧ pool.Tampered)

/-- What a unit of work is doing agrees with where it stands. -/
def Follows (pool : Pool) (unit : UnitId) : Prop :=
  match pool.activity unit with
  | .gone => pool.standing unit = .bare
  | .idle => (pool.standing unit).Resting
  | .busy request rest =>
    rest.Ensures (Standing.rule unit) (pool.standing unit) fun _ later => later.Finished request

structure Sound (pool : Pool) : Prop where
  locks : pool.store.locks.Sound
  keyed : pool.tables.Keyed
  fresh : ∀ unit, pool.store.nextUnit ≤ unit.number → pool.activity unit = .gone
  valid : ∀ unit, (pool.standing unit).Valid
  follows : ∀ unit, pool.Follows unit
  covered : ∀ unit, .committed unit ∉ pool.log → ∀ row ∈ pool.reads unit, pool.Covers row

variable {pool next : Pool} {unit other : UnitId}

theorem follows_gone (activity : pool.activity unit = .gone) :
    pool.Follows unit ↔ pool.standing unit = .bare := by
  simp only [Follows, activity]

theorem follows_idle (activity : pool.activity unit = .idle) :
    pool.Follows unit ↔ (pool.standing unit).Resting := by
  simp only [Follows, activity]

theorem follows_busy {request rest} (activity : pool.activity unit = .busy request rest) :
    pool.Follows unit ↔ rest.Ensures (Standing.rule unit) (pool.standing unit)
      fun _ later => later.Finished request := by
  simp only [Follows, activity]

theorem follows_of_same (activity : next.activity unit = pool.activity unit)
    (standing : next.standing unit = pool.standing unit) (follows : pool.Follows unit) :
    next.Follows unit := by
  unfold Follows
  rw [activity, standing]
  exact follows

theorem start_standing (unit : UnitId) : start.standing unit = .bare := by
  simp only [standing, start, Standing.bare, MemoryStore.unit, MemoryStore.empty,
    Table.find?_empty, LockTable.heldBy, LockTable.awaitedBy, LockTable.empty]
  simp

theorem bare_valid : Standing.Valid .bare := by
  refine ⟨rfl, ?_, ?_, ?_, ?_, ?_, ?_⟩ <;> simp [Standing.bare, UnitOfWork.empty]

theorem bare_resting : Standing.Resting .bare :=
  ⟨rfl, by ext; simp [Standing.bare, UnitOfWork.empty]⟩

theorem start_sound : start.Sound := by
  refine ⟨LockTable.empty_sound, Tables.empty_keyed, fun _ _ => rfl, ?_, start_standing, ?_⟩
  · intro unit
    rw [start_standing]
    exact bare_valid
  · intro unit _ row member
    cases member

/-! ## What becomes of the rows -/

/-- The rows put by a commit are not those that another unit of work has read. -/
theorem untouched_by_commit (sound : pool.Sound) (differs : other ≠ unit)
    (accepted : (pool.store.unit unit).Accepted pool.tables) {row stored : Account}
    (member : row ∈ pool.reads other) (found : pool.tables.accounts.find? row.id = some stored) :
    ((pool.store.unit unit).committedTables pool.tables).accounts.find? row.id = some stored := by
  rw [UnitOfWork.committedTables_find?, found]
  · intro inside
    obtain ⟨account, inserted, same⟩ := List.mem_map.mp inside
    have absent := accepted.inserted account inserted
    rw [same, found] at absent
    cases absent
  · intro write written same
    have theirs := sound.valid other
    have mine := sound.valid unit
    have locked := mine.locked write written
    have read := theirs.read row member
    rw [mine.ids] at locked
    rw [theirs.ids] at read
    obtain ⟨first, one, sameFirst⟩ := List.mem_map.mp locked
    obtain ⟨second, two, sameSecond⟩ := List.mem_map.mp read
    have unique := sound.locks.held_unique (mine.guarded first one) (theirs.guarded second two)
      (by rw [sameFirst, sameSecond, same])
    exact number_ne differs unique.1.symm

theorem covers_overwritten {row account : Account} (covers : pool.Covers row) :
    (pool.overwritten account).Covers row := by
  obtain ⟨stored, found, current⟩ := covers
  have tampered : (pool.overwritten account).Tampered :=
    ⟨account, List.mem_append_right _ (List.mem_singleton.mpr rfl)⟩
  have find := pool.tables.overwriteAccount_find? account row.id
  by_cases same : account.id = row.id
  · rw [if_pos same] at find
    rw [← same] at found
    have raised := Tables.raisedRevision_gt found
    refine ⟨_, find, Or.inr ⟨?_, tampered⟩⟩
    rcases current with rfl | ⟨older, _⟩
    · exact raised
    · exact Int.lt_trans older raised
  · rw [if_neg same] at find
    exact ⟨stored, find.trans found, current.imp_right fun older => ⟨older.1, tampered⟩⟩

/-! ## Steps -/

theorem started_standing (sound : pool.Sound) (unit : UnitId) :
    pool.started.standing unit = pool.standing unit := by
  by_cases same : unit = pool.nextUnit
  · subst same
    have gone := sound.fresh pool.nextUnit (Nat.le_refl _)
    have bare := (follows_gone gone).mp (sound.follows _)
    have before : pool.store.unit pool.nextUnit = UnitOfWork.empty := congrArg Standing.work bare
    have after : pool.started.store.unit pool.nextUnit = UnitOfWork.empty :=
      MemoryStore.unit_setUnit_self _ _ _
    exact standing_of_same rfl (after.trans before.symm) rfl
  · exact standing_of_same rfl (MemoryStore.unit_setUnit_of_ne same) rfl

theorem started_sound (sound : pool.Sound) : pool.started.Sound := by
  refine ⟨sound.locks, sound.keyed, ?_, ?_, ?_, sound.covered⟩
  · intro unit above
    have differs : unit ≠ pool.nextUnit := by
      intro equal
      subst equal
      exact Nat.not_succ_le_self _ above
    show Function.update pool.activity pool.nextUnit .idle unit = .gone
    rw [Function.update_of_ne differs]
    exact sound.fresh unit (Nat.le_of_succ_le above)
  · intro unit
    rw [started_standing sound]
    exact sound.valid unit
  · intro unit
    by_cases same : unit = pool.nextUnit
    · subst same
      apply (follows_idle (Function.update_self ..)).mpr
      have gone := sound.fresh pool.nextUnit (Nat.le_refl _)
      rw [started_standing sound, (follows_gone gone).mp (sound.follows _)]
      exact bare_resting
    · have unchanged : pool.started.activity unit = pool.activity unit :=
        Function.update_of_ne same _ _
      exact follows_of_same unchanged (started_standing sound unit) (sound.follows unit)

/-- Only what one unit of work is doing changes. -/
theorem withActivity_sound (sound : pool.Sound) {activity : Activity}
    (present : pool.activity unit ≠ .gone)
    (follows : (pool.withActivity unit activity).Follows unit) :
    (pool.withActivity unit activity).Sound := by
  refine ⟨sound.locks, sound.keyed, ?_, sound.valid, ?_, sound.covered⟩
  · intro other above
    have differs : other ≠ unit := by
      intro equal
      subst equal
      exact present (sound.fresh other above)
    exact (Function.update_of_ne differs _ _).trans (sound.fresh other above)
  · intro other
    by_cases same : other = unit
    · exact same ▸ follows
    · exact follows_of_same (Function.update_of_ne same _ _) rfl (sound.follows other)

theorem asked_sound (sound : pool.Sound) {request : UnitRequest} (idle : pool.activity unit = .idle)
    (own : request.unit? = some unit) : (pool.asked unit request).Sound := by
  apply withActivity_sound sound (by simp [idle])
  apply (follows_busy (Function.update_self ..)).mpr
  exact Standing.ensures_inMemory own (sound.valid unit) (distinct sound.locks unit)
    ((follows_idle idle).mp (sound.follows unit))

theorem concluded_sound (sound : pool.Sound) {request : UnitRequest} {answer : request.Answer}
    (busy : pool.activity unit = .busy request (.done answer)) :
    (pool.concluded unit request).Sound := by
  apply withActivity_sound sound (by simp [busy])
  have finished : (pool.standing unit).Finished request := (follows_busy busy).mp (sound.follows unit)
  unfold Standing.Finished at finished
  by_cases last : request.isLast
  · rw [if_pos last] at finished
    rw [if_pos last]
    exact (follows_gone (Function.update_self ..)).mpr finished
  · rw [if_neg last] at finished
    rw [if_neg last]
    exact (follows_idle (Function.update_self ..)).mpr finished

theorem brokenOff_sound (sound : pool.Sound) {request : UnitRequest} {rest}
    (busy : pool.activity unit = .busy request rest) (more : request.isLast = false)
    (answer : request.Answer) : (pool.brokenOff unit request answer).Sound := by
  apply withActivity_sound sound (by simp [busy])
  apply (follows_busy (Function.update_self ..)).mpr
  apply (Program.ensures_bind (unit.breakOff pool.store) _ _ _).mpr
  apply Standing.ensures_breakOff sound.locks rfl rfl rfl (sound.valid unit)
  apply (Program.ensures_done _ _ _).mpr
  unfold Standing.Finished
  rw [more]
  exact ⟨rfl, rfl⟩

theorem cutOff_sound (sound : pool.Sound) (present : pool.activity unit ≠ .gone) :
    (pool.cutOff unit).Sound := by
  apply withActivity_sound sound present
  apply (follows_busy (Function.update_self ..)).mpr
  exact Standing.ensures_cutOff sound.locks rfl rfl rfl (sound.valid unit) rfl

theorem tabled_sound (sound : pool.Sound) (request : TableRequest) :
    (pool.tabled request).Sound := by
  have accounts : (pool.tabled request).tables.accounts = pool.tables.accounts :=
    Tables.answer_accounts request
  refine ⟨sound.locks, ?_, sound.fresh, sound.valid, sound.follows, ?_⟩
  · unfold Tables.Keyed
    rw [accounts]
    exact sound.keyed
  · intro unit uncommitted row member
    unfold Covers
    rw [accounts]
    exact sound.covered unit uncommitted row member

theorem overwritten_sound (sound : pool.Sound) (account : Account) :
    (pool.overwritten account).Sound := by
  refine ⟨sound.locks, Tables.overwriteAccount_keyed sound.keyed account, sound.fresh, sound.valid,
    sound.follows, ?_⟩
  intro unit uncommitted row member
  have before : .committed unit ∉ pool.log := fun inside =>
    uncommitted (List.mem_append_left _ inside)
  exact covers_overwritten (sound.covered unit before row member)

/-! ## Steps of an operation -/

section Answering

variable {request : UnitRequest} {asked : StoreRequest}
  {resume : asked.Answer → Program memory request.Answer}
  {result : asked.Answer → Standing → Prop}

theorem answered_locks
    (permitted : Standing.storeRule unit asked (pool.standing unit) result) :
    (pool.answered unit request asked resume).store.locks = pool.store.locks := by
  cases asked with
  | table asked => exact permitted.elim
  | apply own =>
    simp only [answered, MemoryStore.answer]
    split <;> rfl
  | _ => rfl

/-- A unit of work changes the tables only by committing. -/
theorem answered_cases
    (permitted : Standing.storeRule unit asked (pool.standing unit) result) :
    ((pool.answered unit request asked resume).tables = pool.tables ∧
      (pool.answered unit request asked resume).log = pool.log ∧
      (asked = .apply unit → ¬ (pool.store.unit unit).Accepted pool.tables)) ∨
    (asked = .apply unit ∧ (pool.store.unit unit).Accepted pool.tables ∧
      (pool.answered unit request asked resume).tables =
        (pool.store.unit unit).committedTables pool.tables ∧
      (pool.answered unit request asked resume).log = pool.log ++ [.committed unit]) := by
  cases asked with
  | startUnit => exact permitted.elim
  | table asked => exact permitted.elim
  | apply own =>
    obtain ⟨rfl, _⟩ := permitted
    cases applied : (pool.store.unit own).apply pool.tables with
    | ok after =>
      refine Or.inr ⟨rfl, UnitOfWork.accepted_of_apply applied, ?_, ?_⟩
      · rw [← UnitOfWork.apply_ok applied]
        simp only [tables] at applied
        simp only [answered, MemoryStore.answer, tables, applied]
      · simp only [answered, commits?, applied, Except.toBool]
        rfl
    | error error =>
      refine Or.inl ⟨?_, ?_, ?_⟩
      · simp only [tables] at applied
        simp only [answered, MemoryStore.answer, tables, applied]
      · simp only [answered, commits?, applied, Except.toBool]
        exact List.append_nil _
      · intro _ accepted
        rw [UnitOfWork.apply_of_accepted accepted] at applied
        cases applied
  | _ =>
    refine Or.inl ⟨rfl, List.append_nil _, ?_⟩
    intro absurdly
    cases absurdly

theorem answered_nextUnit
    (permitted : Standing.storeRule unit asked (pool.standing unit) result) :
    (pool.answered unit request asked resume).store.nextUnit = pool.store.nextUnit := by
  cases asked with
  | startUnit => exact permitted.elim
  | table asked => exact permitted.elim
  | apply own =>
    simp only [answered, MemoryStore.answer]
    split <;> rfl
  | _ => rfl

theorem covers_of_same (tables : next.tables = pool.tables) (log : next.log = pool.log)
    {row : Account} (covers : pool.Covers row) : next.Covers row := by
  unfold Covers Tampered
  rw [tables, log]
  exact covers

/-- A row that has just been read is the one stored. -/
theorem covers_read (keyed : pool.tables.Keyed) {work : UnitOfWork} {order : LockOrder}
    {row : Account} (member : row ∈ work.readRows pool.tables order) : pool.Covers row := by
  obtain ⟨id, _, found⟩ := mem_readRows member
  rw [← keyed id row found] at found
  exact ⟨row, found, Or.inl rfl⟩

/-- The rows that a unit of work has read after a request to the store, if they are its own. -/
theorem mem_readsAfter
    (permitted : Standing.storeRule unit asked (pool.standing unit) result) {row : Account}
    (member : row ∈ pool.readsAfter asked unit) :
    row ∈ pool.reads unit ∨ ∃ work order, row ∈ UnitOfWork.readRows work pool.tables order := by
  cases asked with
  | rows own order =>
    obtain ⟨rfl, _⟩ := permitted
    rw [readsAfter, Function.update_self] at member
    exact (List.mem_append.mp member).imp_right fun read => ⟨_, _, read⟩
  | endUnit own =>
    obtain ⟨rfl, _⟩ := permitted
    rw [readsAfter, Function.update_self] at member
    cases member
  | _ => exact Or.inl member

theorem answered_covered (sound : pool.Sound)
    (permitted : Standing.storeRule unit asked (pool.standing unit) result) (other : UnitId)
    (uncommitted : .committed other ∉ (pool.answered unit request asked resume).log) (row : Account)
    (member : row ∈ (pool.answered unit request asked resume).reads other) :
    (pool.answered unit request asked resume).Covers row := by
  have before : .committed other ∉ pool.log := fun inside =>
    uncommitted (List.mem_append_left _ inside)
  have present : other = unit ∨ row ∈ pool.reads other := by
    by_cases same : other = unit
    · exact Or.inl same
    · have unchanged : (pool.answered unit request asked resume).standing other =
          pool.standing other := standing_answered_of_ne same permitted
      have unread : (pool.answered unit request asked resume).reads other = pool.reads other :=
        congrArg Standing.reads unchanged
      rw [unread] at member
      exact Or.inr member
  rcases answered_cases permitted with ⟨tables, log, _⟩ | ⟨isApply, accepted, tables, log⟩
  · apply covers_of_same tables log
    rcases present with rfl | present
    · rcases mem_readsAfter permitted member with read | ⟨work, order, read⟩
      · exact sound.covered other before row read
      · exact covers_read sound.keyed read
    · exact sound.covered other before row present
  · have differs : other ≠ unit := by
      intro equal
      subst equal
      apply uncommitted
      rw [log]
      exact List.mem_append_right _ (List.mem_singleton.mpr rfl)
    obtain ⟨stored, found, current⟩ :=
      sound.covered other before row (present.resolve_left differs)
    have kept := untouched_by_commit sound differs accepted (present.resolve_left differs) found
    rw [← tables] at kept
    refine ⟨stored, kept, current.imp_right fun older => ⟨older.1, ?_⟩⟩
    obtain ⟨account, overwritten⟩ := older.2
    exact ⟨account, List.mem_append_left _ overwritten⟩

/-- A unit of work that asks for something of the store asks as its rule allows. -/
theorem permitted_of_busy (sound : pool.Sound) {asked resume}
    (busy : pool.activity unit = .busy request (.ask asked resume)) :
    Standing.rule unit asked (pool.standing unit) fun answer later =>
      (resume answer).Ensures (Standing.rule unit) later fun _ last => last.Finished request :=
  (follows_busy busy).mp (sound.follows unit)

theorem ne_of_fresh (sound : pool.Sound) (present : pool.activity unit ≠ .gone)
    (above : pool.store.nextUnit ≤ other.number) : other ≠ unit := by
  intro equal
  subst equal
  exact present (sound.fresh other above)

theorem answered_sound (sound : pool.Sound)
    (busy : pool.activity unit = .busy request (.ask (.store asked) resume)) :
    (pool.answered unit request asked resume).Sound := by
  have permitted : Standing.storeRule unit asked (pool.standing unit) fun answer later =>
      (resume answer).Ensures (Standing.rule unit) later fun _ last => last.Finished request :=
    permitted_of_busy sound busy
  have others : ∀ other, other ≠ unit →
      (pool.answered unit request asked resume).standing other = pool.standing other :=
    fun other differs => standing_answered_of_ne differs permitted
  have present : pool.activity unit ≠ .gone := by simp [busy]
  refine ⟨?_, ?_, ?_, ?_, ?_, answered_covered sound permitted⟩
  · exact (answered_locks permitted).symm ▸ sound.locks
  · rcases answered_cases permitted with ⟨tables, _⟩ | ⟨_, _, tables, _⟩
    · rw [tables]
      exact sound.keyed
    · rw [tables]
      exact UnitOfWork.committedTables_keyed sound.keyed
  · intro other above
    rw [answered_nextUnit permitted] at above
    have differs := ne_of_fresh sound present above
    exact (Function.update_of_ne differs _ _).trans (sound.fresh other above)
  · intro other
    by_cases same : other = unit
    · subst same
      exact answered_valid sound.keyed (sound.valid other) permitted
    · rw [others other same]
      exact sound.valid other
  · intro other
    by_cases same : other = unit
    · subst same
      exact (follows_busy (Function.update_self ..)).mpr
        (answered_follows sound.keyed permitted)
    · exact follows_of_same (Function.update_of_ne same _ _) (others other same)
        (sound.follows other)

theorem locked_sound (sound : pool.Sound) {asked resume answer locks}
    (busy : pool.activity unit = .busy request (.ask (.lock asked) resume))
    (step : LockStep asked pool.store.locks answer locks) {rest : Program memory request.Answer}
    (goesOn : answer = none ∧ rest = .ask (.lock asked) resume ∨
      ∃ given, answer = some given ∧ rest = resume given) :
    ((pool.withLocks locks).withActivity unit (.busy request rest)).Sound := by
  have permitted := permitted_of_busy sound busy
  obtain ⟨relocked, waiting, given⟩ :=
    lockStep_relocked sound.locks (sound.valid unit) step permitted
  have present : pool.activity unit ≠ .gone := by simp [busy]
  refine ⟨relocked.sound, sound.keyed, ?_, ?_, ?_, sound.covered⟩
  · intro other above
    have differs := ne_of_fresh sound present above
    exact (Function.update_of_ne differs _ _).trans (sound.fresh other above)
  · intro other
    by_cases same : other = unit
    · exact same ▸ relocked.valid
    · have unchanged := relocked.others other same
      exact (show (pool.relocked other locks).Valid from unchanged ▸ sound.valid other)
  · intro other
    by_cases same : other = unit
    · subst same
      apply (follows_busy (Function.update_self ..)).mpr
      rcases goesOn with ⟨nothing, rfl⟩ | ⟨answered, known, rfl⟩
      · have unchanged := waiting nothing
        show Program.Ensures _ _ (pool.relocked other locks) _
        rw [unchanged]
        exact permitted
      · exact given answered known
    · have unchanged : ((pool.withLocks locks).withActivity unit (.busy request rest)).activity other =
          pool.activity other := Function.update_of_ne same _ _
      exact follows_of_same unchanged (relocked.others other same) (sound.follows other)

theorem proceeds_sound (sound : pool.Sound) (proceeds : pool.Proceeds unit next) : next.Sound := by
  cases proceeds with
  | stored busy => exact answered_sound sound busy
  | waiting busy step =>
    have unchanged := locked_sound sound busy step (Or.inl ⟨rfl, rfl⟩)
    have same : Function.update pool.activity unit _ = pool.activity :=
      Function.update_eq_self_iff.mpr busy.symm
    simp only [withActivity, withLocks, same] at unchanged
    exact unchanged
  | locked busy step => exact locked_sound sound busy step (Or.inr ⟨_, rfl, rfl⟩)

end Answering

/-! ## Runs -/

theorem Reachable.started (reachable : pool.Reachable) : pool.started.Reachable :=
  reachable.tail .start

theorem Reachable.asked (reachable : pool.Reachable) (unit : UnitId) (request : UnitRequest)
    (idle : pool.activity unit = .idle) (own : request.unit? = some unit) :
    (pool.asked unit request).Reachable :=
  reachable.tail (.ask idle own)

theorem Reachable.answered (reachable : pool.Reachable) (unit : UnitId)
    {request : UnitRequest} {asked : StoreRequest}
    {resume : asked.Answer → Program memory request.Answer}
    (busy : pool.activity unit = .busy request (.ask (.store asked) resume)) :
    (pool.answered unit request asked resume).Reachable :=
  reachable.tail (.proceed (.stored busy))

theorem Reachable.waiting (reachable : pool.Reachable) (unit : UnitId)
    {request : UnitRequest} {asked resume locks}
    (busy : pool.activity unit = .busy request (.ask (.lock asked) resume))
    (step : LockStep asked pool.store.locks none locks) : (pool.withLocks locks).Reachable :=
  reachable.tail (.proceed (.waiting busy step))

theorem Reachable.locked (reachable : pool.Reachable) (unit : UnitId)
    {request : UnitRequest} {asked resume answer locks}
    (busy : pool.activity unit = .busy request (.ask (.lock asked) resume))
    (step : LockStep asked pool.store.locks (some answer) locks) :
    ((pool.withLocks locks).withActivity unit (.busy request (resume answer))).Reachable :=
  reachable.tail (.proceed (.locked busy step))

theorem step_sound (sound : pool.Sound) (step : pool.Step next) : next.Sound := by
  cases step with
  | start => exact started_sound sound
  | ask idle own => exact asked_sound sound idle own
  | proceed proceeds => exact proceeds_sound sound proceeds
  | conclude busy => exact concluded_sound sound busy
  | breakOff answer busy more => exact brokenOff_sound sound busy more answer
  | cutOff present => exact cutOff_sound sound present
  | table request => exact tabled_sound sound request
  | overwrite account => exact overwritten_sound sound account

theorem Reachable.sound (reachable : pool.Reachable) : pool.Sound := by
  induction reachable with
  | refl => exact start_sound
  | tail _ step ih => exact step_sound ih step

end Pool

end AccountLedger
