import AccountLedger.Ledger.Query
import AccountLedger.Proofs.Json.Record
import AccountLedger.Proofs.Json.Text
import AccountLedger.Proofs.Transaction.Retry

/-!
What callers make of the ledger's errors. Whatever an error says in its texts, its answer is read
back with its own code, so that those who read it classify it as the ledger does, and call again
where locks were contended and nowhere else.
-/

namespace AccountLedger

/-- The members of the body of an error answer. -/
def ServiceError.members (error : ServiceError) : List (String × Json) :=
  [("error", .string error.message), ("error_code", .string error.reply.code)] ++
    match error.reply.details with
    | some details => [("details", .string details)]
    | none => []

/-- The code of an error is read from the text of its body. -/
theorem DownstreamError.codeOf_body (error : ServiceError) :
    codeOf error.body.text = some error.reply.code := by
  have strings : ∀ member ∈ error.members, ∃ text, member.2 = .string text := by
    unfold ServiceError.members
    cases error.reply.details <;> simp
  have back : error.body.ReadsBack := by
    refine Json.readsBack_record (List.cons_ne_nil _ _) fun member inside => ?_
    obtain ⟨text, string⟩ := strings member inside
    exact string ▸ Json.readsBack_string text
  have reads : RecordDecoder.Reads codeDecoder [("error_code", .string error.reply.code)]
      (some error.reply.code) := RecordDecoder.reads_nullable rfl
  have decoded : codeDecoder.decode error.body = .ok (some error.reply.code) := by
    refine @RecordDecoder.Reads.decode_among _ _ error.members _ _ reads ?_ ?_ ?_
    · unfold ServiceError.members
      cases error.reply.details <;> simp
    · unfold ServiceError.members
      cases error.reply.details <;> simp
    · intro member inside
      obtain ⟨text, string⟩ := strings member inside
      exact Or.inr (string ▸ rfl)
  rw [codeOf, back.run_text decoded]

theorem DownstreamError.isTransient_of_code {error : DownstreamError} {code : String}
    (known : error.code = some code) : error.isTransient = transientCodes.contains code := by
  unfold isTransient
  rw [known]

namespace LedgerError

/-- The row was locked by others for too long, or was changed by others. -/
inductive Contended : LedgerError → Prop
  | timeout (account : Uuid) (waitedMs : Nat) : Contended (.lockTimeout account waitedMs)
  | overtaken (account : Uuid) (expected : Int) (found : Option Int) :
    Contended (.concurrentModification account expected found)

theorem isTransient_iff {error : LedgerError} : error.isTransient = true ↔ error.Contended := by
  constructor
  · intro transient
    cases error with
    | lockTimeout account waitedMs => exact .timeout account waitedMs
    | concurrentModification account expected found => exact .overtaken account expected found
    | refused refusal => cases refusal <;> cases transient
    | _ => cases transient
  · rintro (⟨account, waitedMs⟩ | ⟨account, expected, found⟩)
    · rfl
    · rfl

variable (error : LedgerError)

/-- The error as it is read from its answer. -/
def read (service endpoint : String) : DownstreamError :=
  DownstreamError.ofResponse service endpoint (ServiceError.ledger error).reply.status
    (ServiceError.ledger error).body.text

theorem read_code (service endpoint : String) :
    (error.read service endpoint).code = some (ServiceError.ledger error).reply.code := by
  rw [read, DownstreamError.ofResponse, DownstreamError.codeOf_body]

theorem read_isTransient (service endpoint : String) :
    (error.read service endpoint).isTransient = error.isTransient := by
  rw [DownstreamError.isTransient_of_code (error.read_code service endpoint)]
  cases error with
  | refused refusal => cases refusal <;> rfl
  | _ => rfl

/-- What the ledger's classification of its errors is called by those who read their answers. -/
def downstreamKind : LedgerErrorKind → DownstreamKind
  | .validation => .badRequest
  | .businessRule => .badRequest
  | .notFound => .notFound
  | .transient => .unavailable
  | .internal => .generic

theorem read_kind (service endpoint : String) :
    (error.read service endpoint).kind = downstreamKind error.kind := by
  cases error with
  | refused refusal => cases refusal <;> rfl
  | _ => rfl

end LedgerError

/-- With a retry left, the ledger is called again exactly after a transient error. -/
theorem Surroundings.callWithRetry_again {around : Surroundings} {bench : Bench}
    {error : DownstreamError} (outcome : around.outcomes bench.calls.length = .error error)
    (delayMs : Nat) (call : LedgerCall) (attempt retries : Nat) : ∃ repeated last after,
      around.run bench (Orchestration.callWithRetry delayMs call attempt (retries + 1)) =
        some ((attempt + repeated, last), after) ∧
      after.calls = bench.calls ++ List.replicate (repeated + 1) call ∧
      (0 < repeated ↔ error.isTransient = true) := by
  obtain ⟨repeated, _, before, settled, ran⟩ :=
    @callWithRetry_run around bench delayMs call attempt (retries + 1)
  refine ⟨repeated, _, _, ran, rfl, fun again => ?_, fun transient => ?_⟩
  · obtain ⟨same, found, transient⟩ := before 0 again
    cases outcome.symm.trans found
    exact transient
  · by_contra none
    obtain rfl : repeated = 0 := by omega
    rcases settled with last | lasting
    · cases last
    · exact lasting ⟨error, outcome, transient⟩

namespace LedgerError

/-- Reading the answer to an error of the ledger gives the error's code and class, whatever its
texts are, and whether the ledger is in the same process or not. An orchestrator with a retry left
calls again exactly where locks were contended. -/
theorem read_classified (error : LedgerError) (service endpoint : String) :
    (error.read service endpoint).code = some (ServiceError.ledger error).reply.code ∧
    (error.read service endpoint).isTransient = error.isTransient ∧
    ((error.read service endpoint).kind = .badRequest ↔
      error.kind = .validation ∨ error.kind = .businessRule) ∧
    ((error.read service endpoint).kind = .notFound ↔ error.kind = .notFound) ∧
    ((error.read service endpoint).kind = .unavailable ↔ error.kind = .transient) ∧
    ((error.read service endpoint).kind = .generic ↔ error.kind = .internal) ∧
    (∀ query : LedgerQuery,
      query.downstreamError error = error.read LedgerQuery.ledgerServiceName query.endpoint) ∧
    ∀ (around : Surroundings) (bench : Bench) (delayMs : Nat) (call : LedgerCall)
      (attempt retries : Nat),
      around.outcomes bench.calls.length = .error (error.read service endpoint) →
      ∃ repeated last after,
        around.run bench (Orchestration.callWithRetry delayMs call attempt (retries + 1)) =
          some ((attempt + repeated, last), after) ∧
        after.calls = bench.calls ++ List.replicate (repeated + 1) call ∧
        (0 < repeated ↔ error.Contended) := by
  refine ⟨error.read_code service endpoint, error.read_isTransient service endpoint,
    ?_, ?_, ?_, ?_, fun query => rfl, fun around bench delayMs call attempt retries outcome => ?_⟩
  case refine_5 =>
    obtain ⟨repeated, last, after, ran, calls, again⟩ :=
      Surroundings.callWithRetry_again outcome delayMs call attempt retries
    rw [read_isTransient, isTransient_iff] at again
    exact ⟨repeated, last, after, ran, calls, again⟩
  all_goals
    rw [read_kind]
    cases error.kind <;> simp [downstreamKind]

/-- A reason that would name the code of a contended lock if it were not escaped is not tried
again. -/
theorem read_classified_quoted :
    let error := LedgerError.serialization "\",\"error_code\":\"lock_timeout"
    let around : Surroundings := { Surroundings.contended 0 with
      outcomes := fun _ => .error (error.read "ledger-service" "POST /deposit") }
    let call := LedgerCall.deposit .nil Surroundings.oneDeposit.amount
    (error.read "ledger-service" "POST /deposit").code = some "internal_error" ∧
      ∃ last after,
        around.run (.opened .empty) (Orchestration.callWithRetry 1000 call 1 2) =
          some ((1, last), after) ∧ after.calls = [call] := by
  intro error around call
  obtain ⟨code, _, _, _, _, _, _, calls⟩ :=
    error.read_classified "ledger-service" "POST /deposit"
  obtain ⟨repeated, last, after, ran, made, again⟩ :=
    calls around (.opened .empty) 1000 call 1 1 rfl
  have calm : ¬ error.Contended := by
    rw [← isTransient_iff]
    decide
  obtain rfl : repeated = 0 := Nat.eq_zero_of_not_pos fun more => calm (again.mp more)
  exact ⟨code, last, after, ran, made⟩

end LedgerError

end AccountLedger
