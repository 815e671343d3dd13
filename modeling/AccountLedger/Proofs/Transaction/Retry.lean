import AccountLedger.Memory.Tables
import AccountLedger.Proofs.Ensures
import AccountLedger.Transaction.Orchestration
import Mathlib.Data.ENat.Lattice

/-!
How often an execution calls the ledger. Against any sequence of outcomes a new request is tried
until an outcome is no transient error or the calls that the policy permits are used up, and its
record tells the number of calls and how the last of them ended.
-/

namespace AccountLedger

/-- An orchestrator with a store to itself: how often it has asked its host, and its calls of the
ledger. -/
structure Bench where
  tables : Tables
  questions : Nat
  calls : List LedgerCall

/-- A store where nobody has asked or called for anything yet. -/
def Bench.opened (tables : Tables) : Bench := ⟨tables, 0, []⟩

/-- A host, by the number of the question, and what comes of the ledger's calls in their order. -/
structure Surroundings where
  host : Nat → (request : HostRequest) → request.Answer
  outcomes : Nat → Except DownstreamError Unit

namespace Surroundings

variable (around : Surroundings)

/-- The answer to an orchestrator; none where a unit of work is asked for. -/
def answer : (request : OrchestrationRequest) → StateT Bench Option request.Answer
  | .service (.host request) => fun bench =>
    some (around.host bench.questions request, { bench with questions := bench.questions + 1 })
  | .service (.table request) => fun bench =>
    some ((bench.tables.answer request).1,
      { bench with tables := (bench.tables.answer request).2 })
  | .service (.unit _) => fun _ => none
  | .ledger call => fun bench =>
    some (Outcome.ofExcept (around.outcomes bench.calls.length),
      { bench with calls := bench.calls ++ [call] })

def run (bench : Bench) (program : Program orchestration α) : Option (α × Bench) :=
  program.interpret around.answer bench

/-- The outcome of this call, counted from zero, is a transient error. -/
def Transient (index : Nat) : Prop :=
  ∃ error, around.outcomes index = .error error ∧ error.isTransient = true

/-- The number of the first call, counted from one, that does not end in a transient error. -/
noncomputable def settledAt : ℕ∞ := ⨅ (index : ℕ) (_ : ¬ around.Transient index), (index + 1 : ℕ)

/-! ## Composition -/

variable {around} {bench later : Bench} {α β : Type}

theorem run_bind {program : Program orchestration α} {value : α}
    (first : around.run bench program = some (value, later))
    (next : α → Program orchestration β) :
    around.run bench (program.bind next) = around.run later (next value) :=
  Program.interpret_bind_of_some first next

theorem run_ok {program : Orchestration α} {value : α}
    (first : around.run bench program.run = some (.ok value, later))
    (next : α → Orchestration β) :
    around.run bench (program >>= next).run = around.run later (next value).run :=
  run_bind first _

theorem run_lift {program : Program orchestration α} {value : α}
    (first : around.run bench program = some (value, later)) :
    around.run bench (ExceptT.lift program : Orchestration α).run = some (.ok value, later) :=
  run_bind first _

theorem run_table {request : TableRequest} {given : request.Answer} {tables : Tables}
    (answered : bench.tables.answer request = (given, tables)) :
    around.run bench (.ask (.service (.table request)) .done) =
      some (given, { bench with tables }) := by
  show some ((bench.tables.answer request).1,
    { bench with tables := (bench.tables.answer request).2 }) = _
  rw [answered]

/-! ## The calls -/

open Orchestration

theorem callWithRetry_transient {error : DownstreamError}
    (outcome : around.outcomes bench.calls.length = .error error)
    (transient : error.isTransient = true) (delayMs : Nat) (call : LedgerCall)
    (attempt retries : Nat) :
    around.run bench (callWithRetry delayMs call attempt (retries + 1)) =
      around.run { bench with questions := bench.questions + 1, calls := bench.calls ++ [call] }
        (callWithRetry delayMs call (attempt + 1) retries) := by
  have called : around.run bench (callLedger call) =
      some (.error (.error error), { bench with calls := bench.calls ++ [call] }) := by
    show some (Outcome.ofExcept (around.outcomes bench.calls.length), _) = _
    rw [outcome]
    rfl
  refine (run_bind called _).trans ?_
  show around.run _ (ite _ _ _) = _
  rw [if_pos transient]
  rfl

theorem callWithRetry_settled (settled : ¬ around.Transient bench.calls.length) (delayMs : Nat)
    (call : LedgerCall) (attempt retries : Nat) :
    around.run bench (callWithRetry delayMs call attempt retries) = some
      ((attempt, .ofExcept (around.outcomes bench.calls.length)),
        { bench with calls := bench.calls ++ [call] }) := by
  cases retries with
  | zero => rfl
  | succ retries =>
    have called : around.run bench (callLedger call) =
        some (.ofExcept (around.outcomes bench.calls.length),
          { bench with calls := bench.calls ++ [call] }) := rfl
    refine (run_bind called _).trans ?_
    cases outcome : around.outcomes bench.calls.length with
    | ok value => rfl
    | error error =>
      have lasting : ¬ error.isTransient = true :=
        fun transient => settled ⟨error, outcome, transient⟩
      show around.run _ (ite _ _ _) = _
      rw [if_neg lasting]
      rfl

/-- The ledger is called until an outcome is not transient, or as often as permitted. -/
theorem callWithRetry_run (delayMs : Nat) (call : LedgerCall) (attempt retries : Nat) :
    ∃ repeated ≤ retries, (∀ index < repeated, around.Transient (bench.calls.length + index)) ∧
      (repeated = retries ∨ ¬ around.Transient (bench.calls.length + repeated)) ∧
      around.run bench (callWithRetry delayMs call attempt retries) = some
        ((attempt + repeated, .ofExcept (around.outcomes (bench.calls.length + repeated))),
          { bench with
            questions := bench.questions + repeated
            calls := bench.calls ++ List.replicate (repeated + 1) call }) := by
  -- a transient error leaves the rest of the history with one call less
  induction retries generalizing bench attempt with
  | zero => exact ⟨0, Nat.le_refl _, by simp, Or.inl rfl, rfl⟩
  | succ retries ih =>
    by_cases transient : around.Transient bench.calls.length
    · obtain ⟨error, outcome, again⟩ := transient
      rw [callWithRetry_transient outcome again]
      obtain ⟨repeated, within, before, last, ran⟩ := @ih
        { bench with questions := bench.questions + 1, calls := bench.calls ++ [call] }
        (attempt + 1)
      have next : ∀ index, (bench.calls ++ [call]).length + index =
          bench.calls.length + (index + 1) := fun index => by
        rw [List.length_append, List.length_singleton]
        omega
      refine ⟨repeated + 1, Nat.succ_le_succ within, ?_, ?_, ?_⟩
      · rintro (_ | index) less
        · exact ⟨error, outcome, again⟩
        · rw [← next]
          exact before index (Nat.lt_of_succ_lt_succ less)
      · rw [← next]
        exact last.imp_left (congrArg Nat.succ)
      · rw [ran, next, Nat.add_right_comm attempt 1, Nat.add_right_comm bench.questions 1,
          List.append_assoc, List.singleton_append]
        rfl
    · exact ⟨0, Nat.zero_le _, by simp, Or.inr transient,
        callWithRetry_settled transient delayMs call attempt (retries + 1)⟩

/-! ## The record -/

/-- The reference that is tried for a record after so many others, if the first question to come
has this number. -/
def reference (around : Surroundings) (record : TransactionRecord) (questions : Nat) : Nat → String
  | 0 => record.reference
  | drawn + 1 =>
    referenceNumber record.createdAt (around.host (questions + drawn) .drawSuffix)

/-- The references to come, once one was taken and another was drawn. -/
theorem reference_withSuffix (around : Surroundings) (record : TransactionRecord)
    (questions drawn : Nat) :
    around.reference (record.withSuffix (around.host questions .drawSuffix)) (questions + 1) drawn =
      around.reference record questions (drawn + 1) := by
  cases drawn with
  | zero => rfl
  | succ drawn =>
    rw [reference, reference, Nat.add_assoc, Nat.add_comm 1]
    rfl

/-- The references of a new record are drawn one after the other. -/
theorem reference_pending (around : Surroundings) (request : TransactionRequest) (drawn : Nat) :
    around.reference (TransactionRecord.pending (around.host 0 .freshId) request
        (around.host 2 .drawSuffix) (around.host 1 .now)) 3 drawn =
      referenceNumber (around.host 1 .now) (around.host (2 + drawn) .drawSuffix) := by
  cases drawn with
  | zero => rfl
  | succ drawn =>
    rw [reference, Nat.add_comm drawn 1, ← Nat.add_assoc]
    rfl

theorem insertRecord_run {record : TransactionRecord}
    (newKey : bench.tables.keyInUse record.idempotencyKey = none)
    (newReference : bench.tables.references.find? record.reference = none) :
    ∃ tables, around.run bench (insertRecord record) = some (.ok (), { bench with tables }) ∧
      tables.records.find? record.id = some record := by
  have inserted : ∃ tables, bench.tables.insertRecord record = (.ok (), tables) ∧
      tables.records.find? record.id = some record := by
    unfold Tables.insertRecord
    rw [newReference, newKey]
    refine ⟨_, rfl, ?_⟩
    rw [Table.find?_put, if_pos rfl]
  obtain ⟨tables, answered, found⟩ := inserted
  exact ⟨tables, run_table answered, found⟩

theorem insertRecord_duplicate {record : TransactionRecord} {id : Uuid}
    (used : bench.tables.references.find? record.reference = some id) :
    around.run bench (insertRecord record) =
      some (.error (.duplicateReference record.reference), bench) := by
  have refused : bench.tables.insertRecord record =
      (.error (.duplicateReference record.reference), bench.tables) := by
    unfold Tables.insertRecord
    rw [used]
    rfl
  exact run_table refused

/-- A record with a new key is inserted under the first new reference that is drawn for it. -/
theorem insertPending_run {record : TransactionRecord} {tries : Nat}
    (newKey : bench.tables.keyInUse record.idempotencyKey = none)
    (newReference : ∃ drawn < tries, bench.tables.references.find?
      (around.reference record bench.questions drawn) = none) :
    ∃ inserted after, inserted.id = record.id ∧
      around.run bench (insertPending tries record).run = some (.ok (.new inserted), after) ∧
      after.tables.records.find? inserted.id = some inserted ∧ after.calls = bench.calls := by
  induction tries generalizing bench record with
  | zero =>
    obtain ⟨drawn, none, _⟩ := newReference
    exact absurd none (Nat.not_lt_zero drawn)
  | succ tries ih =>
    cases used : bench.tables.references.find? record.reference with
    | none =>
      obtain ⟨tables, ran, found⟩ := insertRecord_run newKey used
      exact ⟨record, { bench with tables }, rfl, run_ok (run_lift ran) _, found, rfl⟩
    | some id =>
      obtain ⟨drawn, within, new⟩ := newReference
      cases drawn with
      | zero => cases used.symm.trans new
      | succ drawn =>
        obtain ⟨inserted, after, same, ran, found, calls⟩ := @ih
          { bench with questions := bench.questions + 1 }
          (record.withSuffix (around.host bench.questions .drawSuffix)) newKey
          ⟨drawn, Nat.lt_of_succ_lt_succ within, by
            rw [reference_withSuffix]
            exact new⟩
        refine ⟨inserted, after, same, ?_, found, calls⟩
        exact (run_ok (run_lift (insertRecord_duplicate used)) _).trans ran

/-- What an execution returns for the outcome of its last call. -/
def reply (record : TransactionRecord) :
    Except DownstreamError Unit → Outcome OrchestrationError TransactionRecord
  | .ok () => .ok record
  | .error error => .error (.error (.failed record error))

/-- The record tells how many calls there were, and whether the last of them succeeded. -/
structure Tells (record : TransactionRecord) (calls : Nat) (last : Except DownstreamError Unit) :
    Prop where
  attempts : record.attempts = calls
  status : record.status = .success ↔ last = .ok ()

theorem updateRecord_run {stored record : TransactionRecord}
    (found : bench.tables.records.find? record.id = some stored)
    (same : { stored with
      status := record.status, failureReason := record.failureReason
      attempts := record.attempts, updatedAt := record.updatedAt } = record) :
    ∃ tables, around.run bench (updateRecord record).run =
        some (.ok (), { bench with tables }) ∧ tables.records.find? record.id = some record := by
  have answered : ∃ tables, bench.tables.updateRecord record = (.ok (), tables) ∧
      tables.records.find? record.id = some record := by
    unfold Tables.updateRecord
    rw [found]
    dsimp only
    rw [same]
    refine ⟨_, rfl, ?_⟩
    rw [Table.find?_put, if_pos rfl]
  obtain ⟨tables, answered, found⟩ := answered
  exact ⟨tables, run_bind (@run_table _ bench (.updateRecord record) _ _ answered) _, found⟩

/-- A record is marked at the time that the clock shows, and then the reply is given. -/
theorem marked_run {record : TransactionRecord} (mark : Timestamp → TransactionRecord)
    (found : bench.tables.records.find? record.id = some record)
    (id : ∀ time, (mark time).id = record.id)
    (same : ∀ time, { record with
      status := (mark time).status, failureReason := (mark time).failureReason
      attempts := (mark time).attempts, updatedAt := (mark time).updatedAt } = mark time)
    (next : TransactionRecord → Orchestration α)
    (answer : TransactionRecord → Outcome OrchestrationError α)
    (answered : ∀ bench record, around.run bench (next record).run =
      some (answer record, bench)) :
    ∃ after, around.run bench (do
        let record := mark (← Orchestration.now)
        updateRecord record
        next record : Orchestration α).run =
          some (answer (mark (around.host bench.questions .now)), after) ∧
      after.calls = bench.calls ∧ after.tables.records.find? record.id =
        some (mark (around.host bench.questions .now)) := by
  let time : Timestamp := around.host bench.questions .now
  have clock : around.run bench Orchestration.now.run =
      some (.ok time, { bench with questions := bench.questions + 1 }) := rfl
  obtain ⟨tables, updated, known⟩ := @updateRecord_run around
    { bench with questions := bench.questions + 1 } record (mark time)
    (by rw [id]; exact found) (same time)
  refine ⟨{ bench with tables, questions := bench.questions + 1 }, ?_, rfl, id time ▸ known⟩
  exact (run_ok clock _).trans ((run_ok updated _).trans (answered _ _))

/-- A recorded transaction is carried out, and its record tells how. -/
theorem carryOut_run (policy : RetryPolicy) (call : LedgerCall) {record : TransactionRecord}
    (found : bench.tables.records.find? record.id = some record) (first : bench.calls = []) :
    ∃ repeated ≤ policy.retries, (∀ index < repeated, around.Transient index) ∧
      (repeated = policy.retries ∨ ¬ around.Transient repeated) ∧
      ∃ final after, Tells final (repeated + 1) (around.outcomes repeated) ∧
        around.run bench (carryOut policy call record).run =
          some (reply final (around.outcomes repeated), after) ∧
        after.calls = List.replicate (repeated + 1) call ∧
        after.tables.records.find? record.id = some final := by
  obtain ⟨repeated, within, before, last, ran⟩ :=
    @callWithRetry_run around bench policy.delayMs call 1 policy.retries
  simp only [first, List.length_nil, Nat.zero_add, List.nil_append] at before last ran
  rw [Nat.add_comm 1] at ran
  refine ⟨repeated, within, before, last, ?_⟩
  let called : Bench :=
    ⟨bench.tables, bench.questions + repeated, List.replicate (repeated + 1) call⟩
  have kept : called.tables.records.find? record.id = some record := found
  cases outcome : around.outcomes repeated with
  | ok value =>
    rw [outcome] at ran
    obtain ⟨after, marked, calls, known⟩ :=
      marked_run (record.succeeded ((repeated + 1 : Nat) : Int)) kept (fun _ => rfl) (fun _ => rfl)
        pure .ok (fun _ _ => rfl)
    refine ⟨_, after, ⟨rfl, iff_of_true rfl rfl⟩, ?_, calls, known⟩
    exact (run_ok (run_lift ran) _).trans marked
  | error error =>
    rw [outcome] at ran
    obtain ⟨after, marked, calls, known⟩ :=
      marked_run (record.failed ((repeated + 1 : Nat) : Int) error.summary) kept (fun _ => rfl)
        (fun _ => rfl) (fun record => throw (.error (.failed record error)))
        (reply · (.error error)) (fun _ _ => rfl)
    refine ⟨_, after, ⟨rfl, iff_of_false TransactionStatus.noConfusion nofun⟩, ?_, calls, known⟩
    exact (run_ok (run_lift ran) _).trans marked

/-! ## The execution -/

theorem recordPending_run {tables : Tables} {request : TransactionRequest}
    (newKey : tables.keyInUse request.idempotencyKey = none)
    (newReference : ∃ drawn < maxReferenceAttempts, tables.references.find?
      (referenceNumber (around.host 1 .now) (around.host (2 + drawn) .drawSuffix)) = none) :
    ∃ record after, record.id = around.host 0 .freshId ∧
      around.run (.opened tables) (recordPending request).run = some (.ok (.new record), after) ∧
      after.tables.records.find? record.id = some record ∧ after.calls = [] := by
  obtain ⟨drawn, within, new⟩ := newReference
  obtain ⟨record, after, same, ran, found, calls⟩ := @insertPending_run around ⟨tables, 3, []⟩
    (TransactionRecord.pending (around.host 0 .freshId) request (around.host 2 .drawSuffix)
      (around.host 1 .now)) maxReferenceAttempts newKey ⟨drawn, within, by
      rw [reference_pending]
      exact new⟩
  exact ⟨record, after, same, ran, found, calls⟩

theorem findReplay_run {tables : Tables} {request : TransactionRequest}
    (newKey : tables.keyInUse request.idempotencyKey = none) :
    around.run (.opened tables) (findReplay request).run = some (.ok none, .opened tables) := by
  unfold findReplay
  cases given : request.idempotencyKey with
  | none => rfl
  | some key =>
    rw [given] at newKey
    have unused : tables.keys.find? key = none := by
      simpa [Tables.keyInUse] using newKey
    have answered : (Bench.opened tables).tables.answer (.findByKey key) = (.ok none, tables) := by
      show (Except.ok (tables.findByKey key), tables) = _
      rw [Tables.findByKey, unused]
      rfl
    exact run_bind (run_table answered) _

end Surroundings

namespace RetryPolicy

/-- How often the ledger may be called: as often as configured, but once where the number is not
below the thirty-first power of two. -/
def permitted (policy : RetryPolicy) : Nat :=
  if policy.maxAttempts < 2 ^ 31 then max policy.maxAttempts 1 else 1

theorem retries_succ (policy : RetryPolicy) : policy.retries + 1 = policy.permitted := by
  unfold retries permitted
  have limit : 2 ^ 31 = 0x80000000 := rfl
  rw [limit]
  split <;> omega

end RetryPolicy

namespace Surroundings

variable {around : Surroundings}

/-- The number of calls is the first at which an outcome settles it or no further one is
permitted. -/
theorem min_settledAt {repeated limit : Nat} (within : repeated < limit)
    (before : ∀ index < repeated, around.Transient index)
    (last : repeated + 1 = limit ∨ ¬ around.Transient repeated) :
    ((repeated + 1 : Nat) : ℕ∞) = min (limit : ℕ∞) around.settledAt := by
  apply le_antisymm
  · refine le_min (by exact_mod_cast within) (le_iInf₂ fun index settled => ?_)
    have later : repeated ≤ index := by
      by_contra earlier
      exact settled (before index (Nat.not_le.mp earlier))
    exact_mod_cast Nat.succ_le_succ later
  · rcases last with same | settled
    · rw [same]
      exact min_le_left _ _
    · exact (min_le_right _ _).trans (iInf₂_le repeated settled)

/-- A new request is tried until an outcome is no transient error, at most as often as permitted.
The outcome of the last call is returned, and recorded with the number of calls. -/
theorem execute_calls {policy : RetryPolicy} {request : TransactionRequest} {call : LedgerCall}
    {tables : Tables} (valid : request.call = .ok call)
    (newKey : tables.keyInUse request.idempotencyKey = none)
    (newReference : ∃ drawn < Orchestration.maxReferenceAttempts, tables.references.find?
      (referenceNumber (around.host 1 .now) (around.host (2 + drawn) .drawSuffix)) = none) :
    ∃ (attempts : Nat) (record : TransactionRecord) (after : Bench),
      (attempts : ℕ∞) = min (policy.permitted : ℕ∞) around.settledAt ∧
      after.calls = List.replicate attempts call ∧
      around.run (.opened tables) (Orchestration.execute policy request).run =
        some (reply record (around.outcomes (attempts - 1)), after) ∧
      after.tables.records.find? (around.host 0 .freshId) = some record ∧
      record.attempts = attempts ∧
      (record.status = .success ↔ around.outcomes (attempts - 1) = .ok ()) := by
  obtain ⟨record, recorded, id, pending, found, uncalled⟩ :=
    recordPending_run newKey newReference
  obtain ⟨repeated, within, before, last, final, after, tells, carried, calls, known⟩ :=
    carryOut_run policy call found uncalled
  refine ⟨repeated + 1, final, after, ?_, calls, ?_, ?_, tells.attempts, tells.status⟩
  · rw [← policy.retries_succ]
    exact min_settledAt (Nat.lt_succ_of_le within) before (last.imp_left (congrArg Nat.succ))
  · unfold Orchestration.execute
    rw [valid]
    refine (run_ok (findReplay_run newKey) _).trans ((run_ok pending _).trans ?_)
    exact carried
  · rw [← id]
    exact known

/-! ## A contended lock, then a deposit -/

/-- A host whose clock stands still, and a ledger whose rows are locked for the first so many
calls. -/
def contended (calls : Nat) : Surroundings where
  host _
    | .freshId => .nil
    | .now => ⟨0, 0⟩
    | .drawSuffix => .ofNat 0
    | .pause _ => ()
    | .send .. => .ok ()
    | .dispatch _ => ()
  outcomes index :=
    if index < calls then
      .error ⟨.unavailable, "ledger-service", "POST /deposit", some 503, some "lock_timeout", ""⟩
    else .ok ()

def oneDeposit : TransactionRequest where
  account := .ofNat 16
  target := none
  amount := ⟨⟨25, 0, by decide, Decimal.zero.scale_le⟩, by decide⟩
  kind := .deposit
  idempotencyKey := none

theorem execute_calls_contended : ∃ (attempts : Nat) (record : TransactionRecord) (after : Bench),
    (attempts : ℕ∞) = min (RetryPolicy.default.permitted : ℕ∞) (contended 1).settledAt ∧
      after.calls = List.replicate attempts (.deposit (.ofNat 16) oneDeposit.amount) ∧
      after.tables.records.find? .nil = some record ∧ record.attempts = attempts := by
  obtain ⟨attempts, record, after, number, calls, _, found, same, _⟩ :=
    @execute_calls (contended 1) .default oneDeposit _ .empty rfl rfl ⟨0, by decide, rfl⟩
  exact ⟨attempts, record, after, number, calls, found, same⟩

/-- With the thirty-first power of two attempts configured, a deposit that the second of them would
have made is given up after the first. -/
theorem execute_gives_up : ∃ record error after,
    (contended 1).run (.opened .empty) (Orchestration.execute ⟨2 ^ 31, 1⟩ oneDeposit).run =
        some (.error (.error (.failed record error)), after) ∧
      error.isTransient = true ∧ record.attempts = 1 ∧ after.calls.length = 1 ∧
      min ((max (2 ^ 31) 1 : Nat) : ℕ∞) (contended 1).settledAt = 2 := by
  refine ⟨_, _, _, rfl, rfl, rfl, rfl, ?_⟩
  have first : ∀ index < 1, (contended 1).Transient index := fun index less =>
    ⟨_, if_pos less, rfl⟩
  have second : ¬ (contended 1).Transient 1 := fun transient => nomatch transient
  exact (min_settledAt (by decide) first (Or.inr second)).symm

end Surroundings

end AccountLedger
