import AccountLedger.Proofs.Interleaving.Progress
import AccountLedger.Proofs.Ledger.Calls
import AccountLedger.Proofs.Ledger.Office
import AccountLedger.Proofs.Ledger.Shadow

/-!
How what a call knows of itself agrees with the pool, wherever the call stands and whatever the
others do.
-/

namespace AccountLedger

open MemoryRequest (Commits)

namespace Errand

/-- As long as a call may commit, its unit of work stands as it knows, and the call alone would have
come as far. -/
def Fits (errand : Errand) (call : Call) (standing : Standing)
    (rest : Script) : Prop :=
  errand.phase = .working → errand.tape = call.tape ∧ standing.work.content = errand.work ∧
    standing.reads = errand.reads ∧ Shadow call.asked errand rest

/-- Where a call can be that has not committed its unit of work: done with it, or not yet. -/
def Open (errand : Errand) (done : Bool) (breached : Prop) : Prop :=
  match errand.phase with
  | .working | .failing => done = false
  | .abandoned => done = true
  | .rejected _ => done = true ∧ breached
  | .outside | .committed _ => False

theorem Open.imp {errand : Errand} {done : Bool} {before after : Prop} (more : before → after)
    (isOpen : errand.Open done before) : errand.Open done after := by
  unfold Open at *
  split at isOpen <;> simp_all

/-- Where an operation of its unit of work leaves a call. -/
def Resumes (call : Call) (unit : UnitId) (done : Bool) (breached : Prop)
    (rest : Script) (standing : Standing) : Prop :=
  ∃ errand : Errand, errand.unit = unit ∧ errand.Open done breached ∧
    rest.Ensures (rule call.asked) errand Ended ∧ errand.Fits call standing rest

variable {call : Call} {errand : Errand} {standing : Standing} {breached : Prop}

theorem work_empty (valid : standing.Valid) (content : standing.work.content = UnitOfWork.empty) :
    standing.work = UnitOfWork.empty := by
  have held : standing.work.held.ids = [] := congrArg (fun work => work.held.ids) content
  rw [valid.ids, List.map_eq_nil_iff] at held
  rw [← content]
  simp only [UnitOfWork.content, ← held]

theorem resumes_working {rest : Script} (working : errand.phase = .working)
    (after : rest.Ensures (rule call.asked) errand Ended)
    (agrees : errand.tape = call.tape ∧ standing.work.content = errand.work ∧
      standing.reads = errand.reads ∧ Shadow call.asked errand rest) :
    Resumes call errand.unit false breached rest standing := by
  refine ⟨errand, rfl, ?_, after, fun _ => agrees⟩
  simp only [Open, working]

/-- Locking the rows of an order leaves a call with the rows as they are stored, or with an error. -/
theorem lock_resumes {order : LockOrder} {timeoutMs : Nat}
    {resume : Except LedgerError (List Account) → Script}
    (valid : standing.Valid) (resting : standing.Resting)
    (permitted : unitRule call.asked (.lock errand.unit order timeoutMs) errand fun answer later =>
      (resume answer).Ensures (rule call.asked) later Ended)
    (fits : errand.Fits call standing (.ask (.unit (.lock errand.unit order timeoutMs)) resume)) :
    (UnitRequest.lock errand.unit order timeoutMs).inMemory.Ensures (Standing.rule errand.unit)
      standing fun answer later =>
        Resumes call errand.unit false breached (resume answer) later := by
  obtain ⟨working, _, unread, unused, failed, locked⟩ := permitted
  obtain ⟨tape, content, reads, shadow⟩ := fits working
  have empty := work_empty valid (content.trans unused)
  have fails : ∀ (error : LedgerError) (later : Standing), error.isBreach = false →
      Resumes call errand.unit false breached (resume (.error error)) later :=
    fun error later benign => ⟨{ errand with phase := .failing }, rfl, rfl, failed error benign,
      Phase.noConfusion⟩
  refine Standing.ensures_lockRows order timeoutMs valid resting ?_ (fun _ _ => fails _ _ rfl) ?_
  · intro error refused
    obtain ⟨permitted, granted, _⟩ := permit_empty order
    rw [empty, granted] at refused
    cases refused
  · intro more tables keyed accounts _
    have all : UnitOfWork.empty.held.fresh order = order.ids :=
      List.filter_eq_self.mpr fun id _ => rfl
    rw [empty, all] at accounts
    have unwritten : (standing.work.hold more).Unwritten := by
      rw [empty]
      exact ⟨rfl, rfl⟩
    cases read : (standing.work.hold more).rows tables order with
    | error error =>
      obtain ⟨id, _, rfl, _⟩ := UnitOfWork.rows_error read
      exact fails _ _ rfl
    | ok rows =>
      obtain ⟨ids, listed⟩ := unwritten.rows_ok keyed read
      have taken : (standing.work.hold more).content = UnitOfWork.locking order.ids := by
        rw [empty]
        exact hold_empty accounts
      have known : standing.reads ++ (standing.work.hold more).readRows tables order = rows := by
        rw [reads, unread, List.nil_append]
        exact listed
      exact @resumes_working call
        { errand with reads := rows, work := UnitOfWork.locking order.ids } _ _ _ working
        (locked rows ids) ⟨tape, taken, known, shadow.locked unread unused ids⟩

/-- An operation that a call may ask for leaves it where it knows how to go on. -/
theorem inMemory_resumes {request : UnitRequest}
    {resume : request.Answer → Script}
    (own : request.unit? = some errand.unit) (uncommitted : ∀ unit, request ≠ .commit unit)
    (valid : standing.Valid) (distinct : standing.Distinct) (resting : standing.Resting)
    (permitted : unitRule call.asked request errand fun answer later =>
      (resume answer).Ensures (rule call.asked) later Ended)
    (fits : errand.Fits call standing (.ask (.unit request) resume)) :
    request.inMemory.Ensures (Standing.rule errand.unit) standing fun answer later =>
      Resumes call errand.unit request.isLast breached (resume answer) later := by
  cases request with
  | start => cases own
  | commit unit => exact absurd rfl (uncommitted unit)
  | abandon unit =>
    cases own
    obtain ⟨_, _, after⟩ := permitted
    exact Standing.ensures_finish valid distinct resting
      ⟨{ errand with phase := .abandoned }, rfl, rfl, after, Phase.noConfusion⟩
  | insert unit account =>
    cases own
    obtain ⟨working, _, after⟩ := permitted
    obtain ⟨tape, content, reads, shadow⟩ := fits working
    exact ⟨rfl, @resumes_working call { errand with work := errand.work.insert account } _ _ _
      working after ⟨tape, content ▸ rfl, reads, shadow.inserted⟩⟩
  | save unit account =>
    cases own
    obtain ⟨working, _, locked, after⟩ := permitted
    obtain ⟨tape, content, reads, shadow⟩ := fits working
    have held : standing.work.held.contains account.id = true := by
      rw [← content] at locked
      exact HeldLocks.contains_iff.mpr locked
    have saved : standing.work.save account =
        (.ok (), { standing.work with
          writes := UnitOfWork.placeWrite account standing.work.writes }) := by
      simp only [UnitOfWork.save, held, if_true]
    refine ⟨rfl, ?_⟩
    rw [saved]
    exact @resumes_working call { errand with work := { errand.work with
      writes := UnitOfWork.placeWrite account errand.work.writes } } _ _ _ working after
      ⟨tape, content ▸ rfl, reads, shadow.saved locked⟩
  | stage unit entry =>
    cases own
    obtain ⟨working, _, after⟩ := permitted
    obtain ⟨tape, content, reads, shadow⟩ := fits working
    exact ⟨rfl, @resumes_working call { errand with work := errand.work.stage entry } _ _ _
      working after ⟨tape, content ▸ rfl, reads, shadow.staged⟩⟩
  | lock unit order timeoutMs =>
    cases own
    exact lock_resumes valid resting permitted fits

end Errand

namespace Office

/-- Locks were passed by, or an id was drawn twice. -/
def Breached (office : Office) : Prop := office.pool.Tampered ∨ ¬ office.drawn.Nodup

/-- A unit of work has committed, and the same call made in its turn replies this. -/
def Served (office : Office) (unit : UnitId) (reply : ServiceReply) : Prop :=
  ∃ serial, office.serial = some serial ∧ (unit, .ok reply) ∈ serial.outcomes

/-- A call somewhere between its start and its end. -/
inductive Bears (office : Office) (call : Call) : Prop
  | outside {errand : Errand} {rest} : call.stage = .running rest → call.unit = none →
    errand.phase = .outside → errand.tape = call.tape → errand.reads = [] →
    errand.work = UnitOfWork.empty → rest.Ensures (Errand.rule call.asked) errand Errand.Ended →
    Errand.ShadowOutside call.asked call.tape rest → Bears office call
  | resumed {unit done rest} : call.stage = .running rest → call.unit = some unit →
    office.pool.activity unit = (if done then .gone else .idle) →
    .committed unit ∉ office.pool.log →
    Errand.Resumes call unit done office.Breached rest (office.pool.standing unit) →
    Bears office call
  | busy {unit request resume prog} : call.stage = .waiting request resume →
    request.unit? = some unit → call.unit = some unit →
    office.pool.activity unit = .busy request prog → .committed unit ∉ office.pool.log →
    prog.Avoids Commits →
    prog.Ensures (Standing.rule unit) (office.pool.standing unit) (fun answer later =>
      Errand.Resumes call unit request.isLast office.Breached (resume answer) later) →
    Bears office call
  | committing {errand : Errand} {resume : Except LedgerError Unit → Script} :
    call.stage = .waiting (.commit errand.unit) resume → call.unit = some errand.unit →
    office.pool.activity errand.unit =
      .busy (.commit errand.unit) (UnitRequest.commit errand.unit).inMemory →
    .committed errand.unit ∉ office.pool.log → errand.phase = .working →
    Program.Ensures (Errand.rule call.asked)
      (.ask (.unit (.commit errand.unit)) resume : Script) errand Errand.Ended →
    errand.Fits call (office.pool.standing errand.unit)
      (.ask (.unit (.commit errand.unit)) resume) →
    Bears office call
  | finishing {unit prog reply} {resume : Except LedgerError Unit → Script} {errand : Errand} :
    call.stage = .waiting (.commit unit) resume → call.unit = some unit →
    office.pool.activity unit = .busy (.commit unit) prog → .committed unit ∈ office.pool.log →
    prog.Avoids Commits →
    prog.Ensures (Standing.rule unit) (office.pool.standing unit)
      (fun answer _ => answer = Except.ok ()) →
    errand.phase = .committed reply →
    (resume (Except.ok ())).Ensures (Errand.rule call.asked) errand Errand.Ended →
    office.Served unit reply → Bears office call
  | settled {unit rest reply} {errand : Errand} : call.stage = .running rest →
    call.unit = some unit → office.pool.activity unit = .gone →
    .committed unit ∈ office.pool.log → errand.phase = .committed reply →
    rest.Ensures (Errand.rule call.asked) errand Errand.Ended → office.Served unit reply →
    Bears office call
  | dropped : call.stage = .dropped →
    (∀ unit, call.unit = some unit → office.pool.activity unit = .gone ∨
      ∃ prog, office.pool.activity unit = .busy (.abandon unit) prog ∧ prog.Avoids Commits) →
    Bears office call

variable {office next : Office} {call : Call}

/-- A step that leaves a call and its unit of work where they are. -/
structure Undisturbed (office next : Office) (call : Call) : Prop where
  activity : ∀ unit, call.unit = some unit → next.pool.activity unit = office.pool.activity unit
  standing : ∀ unit, call.unit = some unit → next.pool.standing unit = office.pool.standing unit
  log : ∀ unit, call.unit = some unit →
    (.committed unit ∈ next.pool.log ↔ .committed unit ∈ office.pool.log)
  breached : office.Breached → next.Breached
  served : ∀ unit reply, office.Served unit reply → next.Served unit reply

theorem Resumes.imp {unit : UnitId} {done : Bool} {before after : Prop}
    {rest : Script} {standing : Standing}
    (more : before → after) (resumes : Errand.Resumes call unit done before rest standing) :
    Errand.Resumes call unit done after rest standing := by
  obtain ⟨errand, same, isOpen, ensures, fits⟩ := resumes
  exact ⟨errand, same, isOpen.imp more, ensures, fits⟩

theorem Bears.frame (bears : office.Bears call) (undisturbed : Undisturbed office next call) :
    next.Bears call := by
  cases bears with
  | outside running none phase tape reads work ensures shadow =>
    exact .outside running none phase tape reads work ensures shadow
  | resumed running unit activity uncommitted resumes =>
    refine .resumed running unit ((undisturbed.activity _ unit).trans activity)
      (mt (undisturbed.log _ unit).mp uncommitted) ?_
    rw [undisturbed.standing _ unit]
    exact Resumes.imp undisturbed.breached resumes
  | busy waiting own unit activity uncommitted avoids ensures =>
    refine .busy waiting own unit ((undisturbed.activity _ unit).trans activity)
      (mt (undisturbed.log _ unit).mp uncommitted) avoids ?_
    rw [undisturbed.standing _ unit]
    exact Program.Ensures.imp (Standing.rule_monotone _)
      (fun _ _ => Resumes.imp undisturbed.breached) ensures
  | committing waiting unit activity uncommitted phase ensures fits =>
    refine .committing waiting unit ((undisturbed.activity _ unit).trans activity)
      (mt (undisturbed.log _ unit).mp uncommitted) phase ensures ?_
    rw [undisturbed.standing _ unit]
    exact fits
  | finishing waiting unit activity committed avoids ensures phase rest served =>
    refine .finishing waiting unit ((undisturbed.activity _ unit).trans activity)
      ((undisturbed.log _ unit).mpr committed) avoids ?_ phase rest
      (undisturbed.served _ _ served)
    rw [undisturbed.standing _ unit]
    exact ensures
  | settled running unit activity committed phase ensures served =>
    exact .settled running unit ((undisturbed.activity _ unit).trans activity)
      ((undisturbed.log _ unit).mpr committed) phase ensures (undisturbed.served _ _ served)
  | dropped dropped units =>
    refine .dropped dropped fun unit own => ?_
    rw [undisturbed.activity unit own]
    exact units unit own

end Office

end AccountLedger
