import AccountLedger.Proofs.Transaction.Attempts
import AccountLedger.Proofs.Transaction.Filing

/-!
How patient an execution is with the ledger: it calls again only while every call before has ended
in a contended lock, whatever the store and the host answer.
-/

namespace AccountLedger

/-- A call of the ledger has ended in a contended lock. -/
def Contended (outcome : Outcome DownstreamError Unit) : Prop :=
  ∃ error, outcome = .error (.error error) ∧ error.isTransient = true

namespace Patience

/-- What has come of the calls of the ledger so far. -/
abbrev Heard : Type := List (Outcome DownstreamError Unit)

/-- Only contended locks come before a call of the ledger. -/
def rule : RequestRule orchestration Heard
  | .service _, heard, result => ∀ answer, result answer heard
  | .ledger _, heard, result =>
    (∀ outcome ∈ heard, Contended outcome) ∧
      ∀ outcome : Outcome DownstreamError Unit, result outcome (heard ++ [outcome])

theorem rule_monotone : rule.Monotone := by
  rintro (asked | call) heard weak strong weaker
  · exact fun after answer => weaker _ _ (after answer)
  · exact And.imp_right fun after outcome => weaker _ _ (after outcome)

/-- A program keeps to the rule. -/
abbrev Keeps (program : Program orchestration α) (heard : Heard) : Prop :=
  program.Ensures rule heard fun _ _ => True

variable {heard : Heard}

/-! ## The parts of an execution -/

open Program Orchestration

/-- A part of an execution that does not call the ledger. -/
abbrev Quiet (program : Orchestration α) (heard : Heard) : Prop :=
  Settles rule program heard (fun _ later => later = heard) fun _ _ => True

theorem Quiet.bind {program : Orchestration α} {next : α → Orchestration β}
    (quiet : Quiet program heard) (kept : ∀ value, Keeps (next value).run heard) :
    Keeps (program >>= next).run heard := by
  show Program.Ensures _ (Program.bind _ _) _ _
  rw [ensures_bind]
  refine Ensures.imp rule_monotone ?_ quiet
  rintro (failure | value) later known
  · trivial
  · obtain rfl := known
    exact kept value

theorem Quiet.then {program : Orchestration α} {next : α → Orchestration β}
    (quiet : Quiet program heard) (also : ∀ value, Quiet (next value) heard) :
    Quiet (program >>= next) heard := by
  refine Settles.bind (Settles.imp rule_monotone quiet ?_ fun _ _ => id)
  rintro value later rfl
  exact also value

theorem quiet_pure (value : α) : Quiet (pure value) heard := rfl

theorem quiet_failWith (error : TransactionStoreError) :
    Quiet (failWith error : Orchestration α) heard := trivial

theorem quiet_service (request : ServiceRequest) :
    Quiet (ExceptT.lift (.ask (.service request) .done)) heard :=
  (settles_lift _ _ _).mpr fun _ => rfl

theorem quiet_findByKey (key : String) : Quiet (findByKey key) heard := by
  rintro (error | found)
  · trivial
  · rfl

theorem quiet_updateRecord (record : TransactionRecord) : Quiet (updateRecord record) heard := by
  rintro (error | value)
  · trivial
  · rfl

theorem quiet_findReplay (request : TransactionRequest) : Quiet (findReplay request) heard := by
  unfold findReplay
  split
  · exact quiet_findByKey _
  · exact quiet_pure none

theorem quiet_insertPending (attempts : Nat) (record : TransactionRecord) :
    Quiet (insertPending attempts record) heard := by
  induction attempts generalizing record with
  | zero => exact quiet_failWith _
  | succ attempts ih =>
    refine (quiet_service (.table (.insertRecord record))).then fun inserted => ?_
    split
    · exact quiet_pure _
    · exact (quiet_service (.host .drawSuffix)).then fun suffix => ih _
    · refine (quiet_findByKey _).then fun found => ?_
      split
      · exact quiet_pure _
      · exact quiet_failWith _
    · exact quiet_failWith _

theorem quiet_recordPending (request : TransactionRequest) :
    Quiet (recordPending request) heard :=
  (quiet_service (.host .freshId)).then fun _ => (quiet_service (.host .now)).then fun _ =>
    (quiet_service (.host .drawSuffix)).then fun _ => quiet_insertPending _ _

theorem callWithRetry_keeps (delayMs : Nat) (call : LedgerCall) (attempt retries : Nat)
    (contended : ∀ outcome ∈ heard, Contended outcome) :
    Keeps (callWithRetry delayMs call attempt retries) heard := by
  induction retries generalizing attempt heard with
  | zero => exact ⟨contended, fun _ => trivial⟩
  | succ retries ih =>
    refine ⟨contended, fun outcome => ?_⟩
    rcases outcome with (error | overflow) | _
    case ok => trivial
    case error.overflow => trivial
    case error.error =>
      show Program.Ensures _ (ite _ _ _) _ _
      split
      · next transient =>
        intro _
        refine ih (attempt + 1) fun outcome member => ?_
        rcases List.mem_append.mp member with earlier | last
        · exact contended outcome earlier
        · exact ⟨error, List.mem_singleton.mp last, transient⟩
      · trivial

/-- A record is marked without another call of the ledger. -/
theorem carryOut_keeps (policy : RetryPolicy) (call : LedgerCall) (record : TransactionRecord) :
    Keeps (carryOut policy call record).run [] := by
  show Program.Ensures _ (Program.bind (Program.bind _ _) _) _ _
  rw [ensures_bind, ensures_bind]
  refine Ensures.imp rule_monotone ?_ (callWithRetry_keeps policy.delayMs call 1 policy.retries
    fun outcome absurdly => absurd absurdly List.not_mem_nil)
  rintro ⟨attempts, (error | overflow) | _⟩ heard _
  · exact (quiet_service (.host .now)).bind fun time =>
      (quiet_updateRecord (record.failed attempts error.summary time)).bind fun _ => trivial
  · trivial
  · exact (quiet_service (.host .now)).bind fun time =>
      (quiet_updateRecord (record.succeeded attempts time)).bind fun _ => trivial

/-- Whatever it is answered, an execution calls the ledger again only after contended locks. -/
theorem execute_keeps (policy : RetryPolicy) (request : TransactionRequest) :
    Keeps (execute policy request).run [] := by
  unfold execute
  split
  · trivial
  · refine (quiet_findReplay request).bind fun found => ?_
    split
    · trivial
    · refine (quiet_recordPending request).bind fun recorded => ?_
      split
      · exact carryOut_keeps _ _ _
      · trivial

end Patience

/-! ## Executions at their desk -/

/-- What an execution has still to do keeps to the rule, and all its calls but the last have ended in
contended locks. -/
structure Execution.Patient (execution : Execution) : Prop where
  rest : Patience.Keeps execution.rest execution.outcomes
  before : ∀ outcome ∈ execution.outcomes.dropLast, Contended outcome

namespace Execution

variable {execution : Execution} {call : LedgerCall}
  {resume : Outcome DownstreamError Unit → Procedure}

theorem begun_patient (policy : RetryPolicy) (request : TransactionRequest) :
    (begun policy request).Patient :=
  ⟨Patience.execute_keeps policy request, fun _ absurdly => absurd absurdly List.not_mem_nil⟩

/-- The store or the host may answer anything. -/
theorem Patient.serviced (patient : execution.Patient) {request : ServiceRequest}
    {resume : request.Answer → Procedure}
    (running : execution.stage = .running (.ask (.service request) resume))
    (answer : request.Answer) : Patience.Keeps (resume answer) execution.outcomes := by
  have kept := patient.rest
  rw [Execution.rest, running] at kept
  exact kept answer

theorem Patient.calling (patient : execution.Patient)
    (asks : execution.rest = .ask (.ledger call) resume) :
    (∀ outcome ∈ execution.outcomes, Contended outcome) ∧
      ∀ outcome, Patience.Keeps (resume outcome) (execution.outcomes ++ [outcome]) := by
  have kept := patient.rest
  rw [asks] at kept
  exact kept

end Execution

namespace Desk

variable {desk next : Desk} {id : Nat} {execution new : Execution} {call : LedgerCall}
  {resume : Outcome DownstreamError Unit → Procedure}

/-- All executions are patient. -/
def Patient (desk : Desk) : Prop :=
  ∀ id execution, desk.executions id = some execution → execution.Patient

theorem start_patient : start.Patient := fun _ _ absurdly => nomatch absurdly

theorem Patient.changed (patient : desk.Patient) (also : new.Patient)
    (changes : next.executions = (desk.withExecution id new).executions) : next.Patient := by
  intro other theirs known
  rw [changes] at known
  rcases withExecution_executions known with ⟨_, rfl⟩ | ⟨_, before⟩
  · exact also
  · exact patient other theirs before

theorem Patient.proceeded (patient : desk.Patient) (proceeds : desk.Proceeds next) :
    next.Patient := by
  cases proceeds with
  | begin policy request _ => exact patient.changed (Execution.begun_patient policy request) rfl
  | @host id execution request resume answer known running _ =>
    have mine := patient id execution known
    refine patient.changed ?_ rfl
    exact ⟨mine.serviced running answer, mine.before⟩
  | @table id execution request resume known running =>
    have mine := patient id execution known
    refine patient.changed ?_ rfl
    exact ⟨mine.serviced running _, mine.before⟩
  | elsewhere _ _ => exact patient

theorem Patient.called (patient : desk.Patient) (known : desk.executions id = some execution)
    (running : execution.stage = .running (.ask (.ledger call) resume)) :
    (desk.called id execution call resume).Patient := by
  have mine := patient id execution known
  have kept := mine.rest
  rw [Execution.rest, running] at kept
  refine patient.changed ?_ rfl
  exact ⟨kept, mine.before⟩

theorem Patient.answered (patient : desk.Patient) (outcome : Outcome DownstreamError Unit)
    (known : desk.executions id = some execution)
    (calling : execution.stage = .calling call resume) :
    (desk.answered id execution resume outcome).Patient := by
  have asks : execution.rest = .ask (.ledger call) resume := by rw [Execution.rest, calling]
  obtain ⟨contended, kept⟩ := (patient id execution known).calling asks
  refine patient.changed ?_ rfl
  refine ⟨kept outcome, ?_⟩
  show ∀ earlier ∈ (execution.outcomes ++ [outcome]).dropLast, Contended earlier
  rwa [List.dropLast_concat]

end Desk

end AccountLedger
