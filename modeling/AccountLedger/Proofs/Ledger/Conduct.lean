import AccountLedger.Proofs.Ledger.Bearing

/-!
Each step of a call leaves it where it knows how to go on.
-/

namespace AccountLedger

open MemoryRequest (Commits)

namespace Office

variable {office next : Office} {call : Call}

/-! ## What comes from the host -/

theorem Bears.hosted {request : HostRequest} {resume : request.Answer → Script}
    (bears : office.Bears call) (running : call.stage = .running (.ask (.host request) resume))
    (answer : request.Answer) :
    office.Bears { call with stage := .running (resume answer)
                             tape := call.tape.after request answer } := by
  cases bears with
  | @outside errand _ now none phase tape reads work ensures shadow =>
    cases running.symm.trans now
    have permitted : Errand.hostRule request errand fun answer later =>
      (resume answer).Ensures (Errand.rule call.asked) later Errand.Ended := ensures
    exact @Bears.outside office _ { errand with tape := errand.tape.after request answer } _ rfl none
      phase (congrArg (Tape.after · request answer) tape) reads work
      (Errand.hostRule_answer permitted answer) (shadow.hosted permitted answer)
  | resumed now unit activity uncommitted resumes =>
    cases running.symm.trans now
    obtain ⟨errand, same, isOpen, ensures, fits⟩ := resumes
    have permitted : Errand.hostRule request errand fun answer later =>
      (resume answer).Ensures (Errand.rule call.asked) later Errand.Ended := ensures
    refine .resumed rfl unit activity uncommitted
      ⟨{ errand with tape := errand.tape.after request answer }, same, isOpen,
        Errand.hostRule_answer permitted answer, ?_⟩
    intro working
    obtain ⟨tape, content, reads, shadow⟩ := fits working
    exact ⟨congrArg (Tape.after · request answer) tape, content, reads,
      shadow.hosted permitted answer⟩
  | @settled unit _ reply errand now mine activity committed phase ensures served =>
    cases running.symm.trans now
    have permitted : Errand.hostRule request errand fun answer later =>
      (resume answer).Ensures (Errand.rule call.asked) later Errand.Ended := ensures
    exact @Bears.settled office _ unit _ reply { errand with tape := errand.tape.after request answer }
      rfl mine activity committed phase (Errand.hostRule_answer permitted answer) served
  | busy waiting => cases running.symm.trans waiting
  | committing waiting => cases running.symm.trans waiting
  | finishing waiting => cases running.symm.trans waiting
  | dropped dropped => cases running.symm.trans dropped

/-- A call that draws has not committed. -/
theorem Bears.uncommitted {request resume} (bears : office.Bears call)
    (running : call.stage = .running (.ask request resume))
    (other : ∀ entry, request ≠ .host (.dispatch entry)) (unit : UnitId)
    (own : call.unit = some unit) : .committed unit ∉ office.pool.log := by
  cases bears with
  | outside now none => cases own.symm.trans none
  | resumed now mine activity uncommitted resumes =>
    cases own.symm.trans mine
    exact uncommitted
  | settled now mine activity committed phase ensures served =>
    cases running.symm.trans now
    obtain ⟨entry, same⟩ := Errand.rule_committed phase ensures
    exact absurd same (other entry)
  | busy waiting => cases running.symm.trans waiting
  | committing waiting => cases running.symm.trans waiting
  | finishing waiting => cases running.symm.trans waiting
  | dropped dropped => cases running.symm.trans dropped

/-! ## Operations of the unit of work -/

theorem Bears.started {resume} (bears : office.Bears call) (sound : office.pool.Sound)
    (running : call.stage = .running (.ask (.unit .start) resume))
    (new : .committed office.pool.nextUnit ∉ office.pool.log)
    (pool : next.pool = office.pool.started) :
    call.unit = none ∧
      next.Bears { call with stage := .running (resume (.ok office.pool.nextUnit))
                             unit := some office.pool.nextUnit } := by
  cases bears with
  | @outside errand rest now none phase tape reads work ensures shadow =>
    cases running.symm.trans now
    refine ⟨none, ?_⟩
    have gone := sound.fresh office.pool.nextUnit (Nat.le_refl _)
    have bare : next.pool.standing office.pool.nextUnit = .bare := by
      rw [pool, Pool.started_standing sound]
      exact (Pool.follows_gone gone).mp (sound.follows _)
    have idle : next.pool.activity office.pool.nextUnit = .idle := by
      rw [pool]
      exact Function.update_self ..
    have uncommitted : .committed office.pool.nextUnit ∉ next.pool.log := by
      rw [pool]
      exact new
    refine @Bears.resumed next _ office.pool.nextUnit false _ rfl rfl idle uncommitted
      ⟨⟨.working, office.pool.nextUnit, errand.tape, [], UnitOfWork.empty⟩, rfl, rfl,
        ensures.2 office.pool.nextUnit, fun _ => ⟨tape, ?_, ?_, ?_⟩⟩
    · rw [bare]
      rfl
    · rw [bare]
      rfl
    · rw [tape]
      exact shadow.started office.pool.nextUnit
  | resumed now mine activity uncommitted resumes =>
    cases running.symm.trans now
    obtain ⟨errand, same, isOpen, ensures, fits⟩ := resumes
    have outside : errand.phase = .outside := ensures.1
    simp [Errand.Open, outside] at isOpen
  | settled now unit activity committed phase ensures served =>
    cases running.symm.trans now
    obtain ⟨entry, absurdly⟩ := Errand.rule_committed phase ensures
    cases absurdly
  | busy waiting => cases running.symm.trans waiting
  | committing waiting => cases running.symm.trans waiting
  | finishing waiting => cases running.symm.trans waiting
  | dropped dropped => cases running.symm.trans dropped

/-- What a call may ask of its unit of work, it asks while the unit is its own and waits for it. -/
theorem unitRule_own {errand : Errand} {request : UnitRequest} {unit : UnitId}
    {asked : ServiceCall} {result : request.Answer → Errand → Prop}
    (own : request.unit? = some unit) (permitted : Errand.unitRule asked request errand result) :
    unit = errand.unit ∧ (errand.phase = .working ∨ errand.phase = .failing) := by
  cases request with
  | start => cases own
  | abandon mine =>
    cases own
    exact ⟨permitted.2.1, permitted.1⟩
  | _ =>
    cases own
    exact ⟨permitted.2.1, Or.inl permitted.1⟩

/-- Where a call is that asks for something of its unit of work. -/
theorem Bears.asking {unit : UnitId} {request : UnitRequest} {resume : request.Answer → Script}
    (bears : office.Bears call) (running : call.stage = .running (.ask (.unit request) resume))
    (own : request.unit? = some unit) :
    call.unit = some unit ∧ office.pool.activity unit = .idle ∧
      .committed unit ∉ office.pool.log ∧
      ∃ errand : Errand, errand.unit = unit ∧
        Errand.unitRule call.asked request errand (fun answer later =>
          (resume answer).Ensures (Errand.rule call.asked) later Errand.Ended) ∧
        errand.Fits call (office.pool.standing unit) (.ask (.unit request) resume) := by
  cases bears with
  | @outside errand _ now none phase tape reads work ensures shadow =>
    cases running.symm.trans now
    have present := (unitRule_own own ensures).2
    simp [phase] at present
  | @resumed mine done _ now hasUnit activity uncommitted resumes =>
    cases running.symm.trans now
    obtain ⟨errand, same, isOpen, ensures, fits⟩ := resumes
    obtain ⟨isOwn, present⟩ := unitRule_own own ensures
    have sameUnit : unit = mine := isOwn.trans same
    subst sameUnit
    have notDone : done = false := by
      rcases present with phase | phase <;> simpa [Errand.Open, phase] using isOpen
    rw [notDone] at activity
    exact ⟨hasUnit, activity, uncommitted, errand, same, ensures, fits⟩
  | settled now unit activity committed phase ensures served =>
    cases running.symm.trans now
    obtain ⟨entry, absurdly⟩ := Errand.rule_committed phase ensures
    cases absurdly
  | busy waiting => cases running.symm.trans waiting
  | committing waiting => cases running.symm.trans waiting
  | finishing waiting => cases running.symm.trans waiting
  | dropped dropped => cases running.symm.trans dropped

theorem Bears.asked {unit : UnitId} {request : UnitRequest} {resume : request.Answer → Script}
    (bears : office.Bears call) (sound : office.pool.Sound)
    (running : call.stage = .running (.ask (.unit request) resume))
    (own : request.unit? = some unit) (pool : next.pool = office.pool.asked unit request) :
    next.Bears { call with stage := .waiting request resume } := by
  obtain ⟨hasUnit, idle, uncommitted, errand, rfl, permitted, fits⟩ := bears.asking running own
  have activity : next.pool.activity errand.unit = .busy request request.inMemory := by
    rw [pool]
    exact Function.update_self ..
  have standing : next.pool.standing errand.unit = office.pool.standing errand.unit := by
    rw [pool]
    rfl
  have log : next.pool.log = office.pool.log := by
    rw [pool]
    rfl
  rw [← log] at uncommitted
  by_cases isCommit : ∃ unit, request = .commit unit
  · obtain ⟨unit, rfl⟩ := isCommit
    cases own
    exact .committing rfl hasUnit activity uncommitted permitted.1 permitted (by
      rw [standing]
      exact fits)
  · have resting := (Pool.follows_idle idle).mp (sound.follows errand.unit)
    refine .busy rfl own hasUnit activity uncommitted ?_ ?_
    · exact UnitRequest.inMemory_avoids fun unit same => isCommit ⟨unit, same⟩
    · rw [standing]
      exact Errand.inMemory_resumes own (fun unit same => isCommit ⟨unit, same⟩)
        (sound.valid errand.unit) (Pool.distinct sound.locks errand.unit) resting permitted fits

/-- A call waits for nothing but its own unit of work. -/
theorem Bears.waits {unit : UnitId} {request : UnitRequest} {resume : request.Answer → Script}
    (bears : office.Bears call) (waiting : call.stage = .waiting request resume)
    (own : request.unit? = some unit) : call.unit = some unit := by
  cases bears with
  | busy now mine hasUnit =>
    cases waiting.symm.trans now
    cases own.symm.trans mine
    exact hasUnit
  | committing now hasUnit =>
    cases waiting.symm.trans now
    cases own
    exact hasUnit
  | finishing now hasUnit =>
    cases waiting.symm.trans now
    cases own
    exact hasUnit
  | outside running => cases waiting.symm.trans running
  | resumed running => cases waiting.symm.trans running
  | settled running => cases waiting.symm.trans running
  | dropped dropped => cases waiting.symm.trans dropped

/-- An operation is over. -/
theorem Bears.answered {unit : UnitId} {request : UnitRequest} {resume : request.Answer → Script}
    {answer : request.Answer} (bears : office.Bears call)
    (waiting : call.stage = .waiting request resume) (own : request.unit? = some unit)
    (busy : office.pool.activity unit = .busy request (.done answer))
    (pool : next.pool = office.pool.concluded unit request)
    (breached : office.Breached → next.Breached)
    (served : ∀ unit reply, office.Served unit reply → next.Served unit reply) :
    next.Bears { call with stage := .running (resume answer) } := by
  have activity : next.pool.activity unit = (if request.isLast then .gone else .idle) := by
    rw [pool]
    exact Function.update_self ..
  have standing : next.pool.standing unit = office.pool.standing unit := by
    rw [pool]
    rfl
  have log : next.pool.log = office.pool.log := by
    rw [pool]
    rfl
  cases bears with
  | busy now mine hasUnit nowBusy uncommitted avoids ensures =>
    cases waiting.symm.trans now
    cases own.symm.trans mine
    cases busy.symm.trans nowBusy
    refine .resumed rfl hasUnit activity (log ▸ uncommitted) ?_
    rw [standing]
    exact Resumes.imp breached ensures
  | committing now hasUnit nowBusy =>
    cases waiting.symm.trans now
    cases own
    cases busy.symm.trans nowBusy
  | finishing now hasUnit nowBusy committed avoids ensures phase rest isServed =>
    cases waiting.symm.trans now
    cases own
    cases busy.symm.trans nowBusy
    have same : answer = Except.ok () := ensures
    subst same
    exact .settled rfl hasUnit activity (log ▸ committed) phase rest (served _ _ isServed)
  | outside running => cases waiting.symm.trans running
  | resumed running => cases waiting.symm.trans running
  | settled running => cases waiting.symm.trans running
  | dropped dropped => cases waiting.symm.trans dropped

/-! ## Steps of an operation -/

/-- A call is about to commit a change. -/
structure Commits (office : Office) (call : Call) (errand : Errand) (reply : ServiceReply) :
    Prop where
  tape : errand.tape = call.tape
  content : (office.pool.store.unit errand.unit).content = errand.work
  reads : office.pool.reads errand.unit = errand.reads
  uncommitted : .committed errand.unit ∉ office.pool.log
  change : Change call.asked errand.tape errand.reads errand.work reply
  alone : ∀ tables : Tables, tables.Fits errand.reads → errand.work.Accepted tables →
    call.asked.alone errand.unit call.tape tables =
      some (.ok reply, errand.work.committedTables tables)

theorem Commits.accepted {errand : Errand} {reply : ServiceReply} {tables : Tables}
    (commits : office.Commits call errand reply) :
    (office.pool.store.unit errand.unit).Accepted tables ↔ errand.work.Accepted tables := by
  rw [← commits.content]
  exact ⟨fun accepted => ⟨accepted.inserted, accepted.writes⟩,
    fun accepted => ⟨accepted.inserted, accepted.writes⟩⟩

theorem Commits.committedTables {errand : Errand} {reply : ServiceReply} {tables : Tables}
    (commits : office.Commits call errand reply) :
    (office.pool.store.unit errand.unit).committedTables tables =
      errand.work.committedTables tables := by
  rw [← commits.content]
  rfl

/-- What a call knows that has asked for its commit. -/
theorem Bears.commits {errand : Errand} {resume : Except LedgerError Unit → Script}
    (uncommitted : .committed errand.unit ∉ office.pool.log) (phase : errand.phase = .working)
    (ensures : Program.Ensures (Errand.rule call.asked)
      (.ask (.unit (.commit errand.unit)) resume : Script) errand Errand.Ended)
    (fits : errand.Fits call (office.pool.standing errand.unit)
      (.ask (.unit (.commit errand.unit)) resume)) :
    ∃ reply, office.Commits call errand reply ∧
      (resume (.ok ())).Ensures (Errand.rule call.asked)
        { errand with phase := .committed reply } Errand.Ended ∧
      ∀ error, (resume (.error error)).Ensures (Errand.rule call.asked)
        { errand with phase := .rejected error } Errand.Ended := by
  obtain ⟨_, _, reply, change, stored, refused⟩ := ensures
  obtain ⟨tape, content, reads, shadow⟩ := fits phase
  refine ⟨reply, ⟨tape, content, reads, uncommitted, change, fun tables fits accepted => ?_⟩,
    stored, refused⟩
  rw [← tape]
  exact shadow.committed fits accepted stored

/-- The first step of a commit decides it. -/
theorem Commits.proceeded {errand : Errand} {reply : ServiceReply} {pool : Pool}
    {resume : Except LedgerError Unit → Script} (commits : office.Commits call errand reply)
    (sound : office.pool.Sound) (proceeds : office.pool.Proceeds errand.unit pool)
    (waiting : call.stage = .waiting (.commit errand.unit) resume)
    (mine : call.unit = some errand.unit)
    (activity : office.pool.activity errand.unit =
      .busy (.commit errand.unit) (UnitRequest.commit errand.unit).inMemory)
    (stored : (resume (.ok ())).Ensures (Errand.rule call.asked)
      { errand with phase := .committed reply } Errand.Ended)
    (refused : ∀ error, (resume (.error error)).Ensures (Errand.rule call.asked)
      { errand with phase := .rejected error } Errand.Ended) :
    (errand.work.Accepted office.pool.tables ∧
        pool.tables = errand.work.committedTables office.pool.tables ∧
        pool.log = office.pool.log ++ [.committed errand.unit] ∧
        ∀ next : Office, next.pool = pool → next.Served errand.unit reply → next.Bears call) ∨
      (¬ errand.work.Accepted office.pool.tables ∧ pool.tables = office.pool.tables ∧
        pool.log = office.pool.log ∧
        ∀ next : Office, next.pool = pool → next.Breached → next.Bears call) := by
  obtain ⟨outcome, rest, after, avoids, ensures, result⟩ := proceeds.commits sound activity
  rcases result with ⟨rfl, accepted, tables, log⟩ | ⟨⟨error, rfl⟩, notAccepted, tables, log⟩
  · refine Or.inl ⟨commits.accepted.mp accepted, tables.trans commits.committedTables, log, ?_⟩
    intro next same served
    subst same
    have committed : .committed errand.unit ∈ next.pool.log := by
      rw [log]
      exact List.mem_append_right _ (List.mem_singleton.mpr rfl)
    exact .finishing waiting mine after committed avoids ensures rfl stored served
  · refine Or.inr ⟨mt commits.accepted.mpr notAccepted, tables, log, ?_⟩
    intro next same breached
    subst same
    refine .busy waiting rfl mine after (log ▸ commits.uncommitted) avoids
      (ensures.imp (Standing.rule_monotone errand.unit) ?_)
    intro _ later equal
    subst equal
    exact ⟨{ errand with phase := .rejected error }, rfl, ⟨rfl, breached⟩, refused error,
      Phase.noConfusion⟩

/-- A step of the unit of work of a call is quiet, or it is the commit, stored or refused. -/
theorem Bears.proceeded {unit : UnitId} {pool : Pool} (bears : office.Bears call)
    (sound : office.pool.Sound) (hasUnit : call.unit = some unit)
    (proceeds : office.pool.Proceeds unit pool) :
    (pool.tables = office.pool.tables ∧ pool.log = office.pool.log ∧
      ∀ next : Office, next.pool = pool → (office.Breached → next.Breached) →
        (∀ unit reply, office.Served unit reply → next.Served unit reply) → next.Bears call) ∨
    ∃ errand reply resume, errand.unit = unit ∧ call.stage = .waiting (.commit unit) resume ∧
      office.pool.activity unit = .busy (.commit unit) (UnitRequest.commit unit).inMemory ∧
      office.Commits call errand reply ∧
      ((errand.work.Accepted office.pool.tables ∧
          pool.tables = errand.work.committedTables office.pool.tables ∧
          pool.log = office.pool.log ++ [.committed unit] ∧
          ∀ next : Office, next.pool = pool → next.Served unit reply → next.Bears call) ∨
        (¬ errand.work.Accepted office.pool.tables ∧ pool.tables = office.pool.tables ∧
          pool.log = office.pool.log ∧
          ∀ next : Office, next.pool = pool → next.Breached → next.Bears call)) := by
  have busy := proceeds.busy
  cases bears with
  | outside now none => cases hasUnit.symm.trans none
  | @resumed _ done _ now mine activity =>
    cases hasUnit.symm.trans mine
    obtain ⟨request, rest, busy⟩ := busy
    rw [activity] at busy
    cases done <;> cases busy
  | settled now mine activity =>
    cases hasUnit.symm.trans mine
    obtain ⟨request, rest, busy⟩ := busy
    cases activity.symm.trans busy
  | @busy _ request resume prog waiting own mine activity uncommitted avoids ensures =>
    cases hasUnit.symm.trans mine
    obtain ⟨tables, log, later, activity', avoids', ensures'⟩ :=
      proceeds.quiet sound activity avoids ensures
    refine Or.inl ⟨tables, log, ?_⟩
    rintro next rfl breached served
    exact .busy waiting own mine activity' (log ▸ uncommitted) avoids'
      (ensures'.imp (Standing.rule_monotone unit) fun _ _ => Resumes.imp breached)
  | @finishing _ prog reply resume errand waiting mine activity committed avoids ensures phase rest
      isServed =>
    cases hasUnit.symm.trans mine
    obtain ⟨tables, log, later, activity', avoids', ensures'⟩ :=
      proceeds.quiet sound activity avoids ensures
    refine Or.inl ⟨tables, log, ?_⟩
    rintro next rfl breached served
    exact .finishing waiting mine activity' (log ▸ committed) avoids' ensures' phase rest
      (served _ _ isServed)
  | dropped dropped units =>
    rcases units unit hasUnit with gone | ⟨prog, activity, avoids⟩
    · obtain ⟨request, rest, busy⟩ := busy
      cases gone.symm.trans busy
    · obtain ⟨tables, log, later, activity', avoids', ensures'⟩ :=
        proceeds.quiet sound activity avoids ((Pool.follows_busy activity).mp (sound.follows unit))
      refine Or.inl ⟨tables, log, ?_⟩
      rintro next rfl breached served
      refine .dropped dropped fun other own => ?_
      cases hasUnit.symm.trans own
      exact Or.inr ⟨_, activity', avoids'⟩
  | @committing errand resume waiting mine activity uncommitted phase ensures fits =>
    cases hasUnit.symm.trans mine
    obtain ⟨reply, commits, stored, refused⟩ := Bears.commits uncommitted phase ensures fits
    exact Or.inr ⟨errand, reply, resume, rfl, waiting, activity, commits,
      commits.proceeded sound proceeds waiting mine activity stored refused⟩

/-! ## The end of a call -/

theorem cutOff_none {pool : Pool} (none : call.unit = none) : call.cutOff pool = pool := by
  simp only [Call.cutOff, none]

theorem cutOff_some {pool : Pool} {unit : UnitId} (own : call.unit = some unit) :
    (pool.activity unit = .gone ∧ call.cutOff pool = pool) ∨
      (pool.activity unit ≠ .gone ∧ call.cutOff pool = pool.cutOff unit) := by
  cases activity : pool.activity unit with
  | gone => exact Or.inl ⟨rfl, by simp only [Call.cutOff, own, activity]⟩
  | _ => exact Or.inr ⟨Activity.noConfusion, by simp only [Call.cutOff, own, activity]⟩

theorem Bears.cutOff {pool : Pool} (result : next.pool = call.cutOff pool) :
    next.Bears { call with stage := .dropped } := by
  refine .dropped rfl fun unit own => ?_
  have mine : call.unit = some unit := own
  rw [result]
  rcases @cutOff_some call pool unit mine with ⟨gone, same⟩ | ⟨_, same⟩
  · rw [same]
    exact Or.inl gone
  · rw [same]
    exact Or.inr ⟨_, Function.update_self .., unit.cutOff_avoids pool.store⟩

end Office

end AccountLedger
