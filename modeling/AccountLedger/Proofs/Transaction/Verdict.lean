import AccountLedger.Proofs.Transaction.Attempts
import AccountLedger.Proofs.Transaction.Idempotent

/-!
The status of a record tells what its execution has done to the ledger: a record that succeeded was
carried out by one commit, one that failed by none, however often the ledger was called.
-/

namespace AccountLedger

/-- The request that a record is of. -/
def TransactionRecord.request (record : TransactionRecord) : TransactionRequest :=
  ⟨record.account, record.target, record.amount, record.kind, record.idempotencyKey⟩

theorem TransactionRequest.Matches.request_eq {request : TransactionRequest}
    {record : TransactionRecord} (fits : request.Matches record) : record.request = request := by
  unfold TransactionRecord.request
  rw [fits.account, fits.target, fits.amount, fits.kind, fits.idempotencyKey]

namespace Branch

/-- The commits of the ledger that were made for an execution. -/
def commits (branch : Branch) (id : Nat) : List UnitId :=
  branch.office.pool.committed.filter fun unit =>
    (branch.office.owner unit).any fun attempt => attempt ∈ branch.attempts id

variable {branch next : Branch} {id : Nat} {execution : Execution} {attempt : Nat} {unit : UnitId}
  {request : TransactionRequest} {outcome : Outcome DownstreamError Unit} {office : Office}

theorem mem_commits : unit ∈ branch.commits id ↔ unit ∈ branch.office.pool.committed ∧
    ∃ attempt ∈ branch.attempts id, branch.office.owner unit = some attempt := by
  simp only [commits, List.mem_filter, Option.any_eq_true, decide_eq_true_eq]
  exact and_congr_right fun _ => exists_congr fun _ => and_comm

/-! ## What an attempt has done -/

theorem Heard.returned (sound : office.Sound) (heard : Heard office request attempt outcome) :
    ∃ call made, Asked office request attempt call made ∧
      ((∃ unit, outcome = .ok () ∧ made.unit = some unit ∧ unit ∈ office.pool.committed) ∨
        outcome ≠ .ok () ∧ ∀ unit, made.unit = some unit → unit ∉ office.pool.committed) := by
  obtain ⟨call, made, theirs, asked, returned, same⟩ := heard
  refine ⟨call, made, asked, ?_⟩
  rcases (sound.bears asked.known).returned returned with
    ⟨unit, reply, own, committed, rfl, _⟩ | ⟨uncommitted, failure, rfl, _⟩
  · exact Or.inl ⟨unit, same.trans (LedgerCall.answer_eq_ok.mpr ⟨reply, rfl⟩), own,
      Pool.mem_committed.mpr committed⟩
  · refine Or.inr ⟨fun ok => ?_, fun unit own => mt Pool.mem_committed.mp (uncommitted unit own)⟩
    obtain ⟨reply, absurdly⟩ := LedgerCall.answer_eq_ok.mp (same.symm.trans ok)
    cases absurdly

theorem owner_iff (sound : office.Sound) {made : Call} (known : office.calls attempt = some made) :
    office.owner unit = some attempt ↔ made.unit = some unit := by
  rw [sound.settled.registered.owner, Office.unitOf_of_call known]

section

variable (sound : branch.Sound) (known : branch.desk.executions id = some execution)
  (all : List.Forall₂ (Heard branch.office execution.request) (branch.attempts id)
    execution.outcomes)

include sound all

end

/-- The execution of a record with a final status has heard of all its attempts. -/
theorem Sound.decided (sound : branch.Sound) {fresh : Uuid} {record : TransactionRecord}
    (found : branch.desk.tables.records.find? fresh = some record)
    (final : record.status ≠ .pending) (known : branch.desk.executions id = some execution)
    (drawn : execution.drawn = [fresh]) :
    List.Forall₂ (Heard branch.office execution.request) (branch.attempts id)
      execution.outcomes := by
  cases sound.tied known with
  | heard _ all => exact all
  | waiting calling => exact absurd calling (sound.desk.not_calling found final known drawn _ _)

theorem Step.writes (sound : branch.Sound) (step : branch.Step next) :
    branch.desk.Writes next.desk := by
  cases step with
  | desk proceeds => exact (Desk.proceeds_sound sound.desk proceeds).2
  | office _ => exact .nothing rfl rfl rfl
  | call policy known running new => exact .nothing rfl rfl rfl
  | answer known calling last present returned => exact .nothing rfl rfl rfl

theorem Sound.run_kept (sound : branch.Sound) (run : Relation.ReflTransGen Step branch next)
    {fresh : Uuid} {record : TransactionRecord}
    (found : branch.desk.tables.records.find? fresh = some record) :
    ∃ later, next.desk.tables.records.find? fresh = some later ∧
      (record.status ≠ .pending → later = record) := by
  suffices next.Sound ∧ ∃ later, next.desk.tables.records.find? fresh = some later ∧
      (record.status ≠ .pending → later = record) from this.2
  induction run with
  | refl => exact ⟨sound, record, found, fun _ => rfl⟩
  | tail _ step ih =>
    obtain ⟨between, later, here, final⟩ := ih
    obtain ⟨last, stillHere, _, kept⟩ := (step.writes between).kept here
    refine ⟨step_sound between step, last, stillHere, fun decided => ?_⟩
    have same := final decided
    exact (kept (same ▸ decided)).trans same

/-- An account that a deposit can go to. -/
def payee : Account := Account.opened Uuid.nil Uuid.nil "USD" Decimal.zero ⟨0, 0⟩

/-- The office once the recorded deposit has been made into its account. -/
def paid : Office := (Office.start.withPool (Pool.start.overwritten payee)).scheduled
  (Office.making 0 (.deposit Office.policy Uuid.nil Desk.keyedDeposit.amount) 10)

end Branch

end AccountLedger
