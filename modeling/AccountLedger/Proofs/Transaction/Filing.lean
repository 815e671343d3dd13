import AccountLedger.Proofs.Ensures
import AccountLedger.Proofs.Transaction.Desk
import AccountLedger.Proofs.Transaction.Records

/-!
How an execution goes about its record: it draws one id, stores one pending record under it unless
its key leads to another, calls the ledger only for a record it has stored itself, again only after
errors, and marks the record once, with what the calls have come to.
-/

namespace AccountLedger

/-- The record is one of the request. -/
structure TransactionRequest.Matches (request : TransactionRequest) (record : TransactionRecord) :
    Prop where
  account : record.account = request.account
  target : record.target = request.target
  amount : record.amount = request.amount
  kind : record.kind = request.kind
  idempotencyKey : record.idempotencyKey = request.idempotencyKey

theorem TransactionRequest.Matches.terms {request : TransactionRequest}
    {record other : TransactionRecord} (fits : request.Matches record)
    (same : record.SameTerms other) : request.Matches other :=
  ⟨same.account.trans fits.account, same.target.trans fits.target, same.amount.trans fits.amount,
    same.kind.trans fits.kind, same.idempotencyKey.trans fits.idempotencyKey⟩

/-- What an execution knows of its record: nothing yet, its id, the record as it is stored with what
has come of all calls of the ledger, or a record that was stored before. -/
inductive Filing where
  | fresh
  | drafted (id : Uuid)
  | filed (record : TransactionRecord) (outcomes : List (Outcome DownstreamError Unit))
  | replayed (record : TransactionRecord)

namespace Filing

/-- The ledger has answered with an error. -/
def Failed (outcome : Outcome DownstreamError Unit) : Prop := ∃ error, outcome = .error (.error error)

/-- A final status tells what has come of the calls of the ledger. -/
def Verdict (outcomes : List (Outcome DownstreamError Unit)) : TransactionStatus → Prop
  | .pending => True
  | .success => ∃ failures, outcomes = failures ++ [.ok ()] ∧ ∀ outcome ∈ failures, Failed outcome
  | .failed => ∀ outcome ∈ outcomes, Failed outcome

/-- The record that an execution may return. -/
inductive Shows (record : TransactionRecord) : Filing → Prop
  | filed (outcomes) : Shows record (.filed record outcomes)
  | replayed : Shows record (.replayed record)

/-- Where an execution may end, and with what. -/
def Ended (outcome : Outcome OrchestrationError TransactionRecord) (filing : Filing) : Prop :=
  ∀ record, Execution.recordOf? outcome = some record → filing.Shows record

/-- Nothing is stored for the request yet. -/
def Unfiled : Filing → Prop
  | .fresh | .drafted _ => True
  | .filed .. | .replayed _ => False

def hostRule : (request : HostRequest) → Filing → (request.Answer → Filing → Prop) → Prop
  | .freshId, filing, result => filing = .fresh ∧ ∀ id, result id (.drafted id)
  | .now, filing, result => ∀ time, result time filing
  | .drawSuffix, filing, result => ∀ suffix, result suffix filing
  | .pause _, filing, result => result () filing
  | _, _, _ => False

def tableRule (request : TransactionRequest) :
    (asked : TableRequest) → Filing → (asked.Answer → Filing → Prop) → Prop
  | .findByKey key, filing, result =>
    request.idempotencyKey = some key ∧ filing.Unfiled ∧ result (.ok none) filing ∧
      ∀ record, record.idempotencyKey = some key → result (.ok (some record)) (.replayed record)
  | .insertRecord record, filing, result =>
    filing = .drafted record.id ∧ record.status = .pending ∧ request.Matches record ∧
      result (.ok ()) (.filed record []) ∧
      result (.error (.duplicateReference record.reference)) filing ∧
      ∀ key, record.idempotencyKey = some key →
        result (.error (.duplicateIdempotencyKey key)) filing
  | .updateRecord record, filing, result =>
    ∃ stored outcomes, filing = .filed stored outcomes ∧ stored.status = .pending ∧
      stored.SameTerms record ∧ record.status ≠ .pending ∧ Verdict outcomes record.status ∧
      result (.ok ()) (.filed record outcomes)
  | _, _, _ => False

/-- What an execution may ask for, and what it knows after the answer. -/
def rule (request : TransactionRequest) : RequestRule orchestration Filing
  | .service (.unit _), _, _ => False
  | .service (.table asked), filing, result => tableRule request asked filing result
  | .service (.host asked), filing, result => hostRule asked filing result
  | .ledger call, filing, result =>
    request.call = .ok call ∧ ∃ record outcomes, filing = .filed record outcomes ∧
      record.status = .pending ∧ (∀ outcome ∈ outcomes, Failed outcome) ∧
      ∀ outcome : Outcome DownstreamError Unit,
        result outcome (.filed record (outcomes ++ [outcome]))

variable {request : TransactionRequest} {filing : Filing} {record : TransactionRecord}
  {outcomes : List (Outcome DownstreamError Unit)}

theorem rule_monotone (request : TransactionRequest) : (rule request).Monotone := by
  rintro ((asked | asked | asked) | call) filing weak strong weaker
  · exact id
  · cases asked with
    | findByKey key =>
      rintro ⟨own, unfiled, absent, found⟩
      exact ⟨own, unfiled, weaker _ _ absent, fun record keyed => weaker _ _ (found record keyed)⟩
    | insertRecord record =>
      rintro ⟨drafted, pending, fits, stored, reference, key⟩
      exact ⟨drafted, pending, fits, weaker _ _ stored, weaker _ _ reference,
        fun other keyed => weaker _ _ (key other keyed)⟩
    | updateRecord record =>
      rintro ⟨stored, outcomes, filed, pending, same, final, verdict, after⟩
      exact ⟨stored, outcomes, filed, pending, same, final, verdict, weaker _ _ after⟩
    | _ => exact id
  · cases asked with
    | freshId => exact And.imp_right fun after id => weaker _ _ (after id)
    | now => exact fun after time => weaker _ _ (after time)
    | drawSuffix => exact fun after suffix => weaker _ _ (after suffix)
    | pause ms => exact weaker _ _
    | _ => exact id
  · rintro ⟨own, record, outcomes, filed, pending, failed, after⟩
    exact ⟨own, record, outcomes, filed, pending, failed, fun outcome => weaker _ _ (after outcome)⟩

theorem hostRule_answer {asked : HostRequest} {result : asked.Answer → Filing → Prop}
    (permitted : hostRule asked filing result) (answer : asked.Answer) :
    (∃ fresh, asked.drawn answer = [fresh] ∧ filing = .fresh ∧ result answer (.drafted fresh)) ∨
      asked.drawn answer = [] ∧ result answer filing := by
  cases asked with
  | freshId => exact Or.inl ⟨answer, rfl, permitted.1, permitted.2 answer⟩
  | now => exact Or.inr ⟨rfl, permitted answer⟩
  | drawSuffix => exact Or.inr ⟨rfl, permitted answer⟩
  | pause ms => exact Or.inr ⟨rfl, permitted⟩
  | _ => exact permitted.elim

/-! ## The parts of an execution -/

open Program Orchestration

/-- A part of an execution that ends with a value for the next part, or ends the execution. -/
abbrev Keeps (request : TransactionRequest) (program : Orchestration α) (filing : Filing)
    (ok : α → Filing → Prop) : Prop :=
  Settles (rule request) program filing ok fun failure later => Ended (.error failure) later

theorem ended_of_none {outcome : Outcome OrchestrationError TransactionRecord}
    (none : Execution.recordOf? outcome = none) : Ended outcome filing := by
  intro record shown
  cases none.symm.trans shown

theorem keeps_stored {program : Program orchestration (Except TransactionStoreError α)}
    {ok : α → Filing → Prop}
    (kept : program.Ensures (rule request) filing fun answer later =>
      ∀ value, answer = .ok value → ok value later) :
    Keeps request (stored program) filing ok := by
  show Program.Ensures _ (Program.bind _ _) _ _
  rw [ensures_bind]
  refine Ensures.imp (rule_monotone request) ?_ kept
  rintro (error | value) later known
  · exact ended_of_none rfl
  · exact known value rfl

theorem findByKey_keeps {key : String} (own : request.idempotencyKey = some key)
    (unfiled : filing.Unfiled) :
    Keeps request (Orchestration.findByKey key) filing fun found later =>
      match found with
      | some record => later = .replayed record
      | none => later = filing := by
  apply keeps_stored
  refine ⟨own, unfiled, ?_, fun record keyed => ?_⟩
  · intro value same
    cases same
    rfl
  · intro value same
    cases same
    rfl

theorem drawSuffix_keeps {ok : ReferenceSuffix → Filing → Prop}
    (next : ∀ suffix, ok suffix filing) : Keeps request drawSuffix filing ok :=
  (settles_lift _ _ _).mpr next

theorem now_keeps {ok : Timestamp → Filing → Prop} (next : ∀ time, ok time filing) :
    Keeps request Orchestration.now filing ok :=
  (settles_lift _ _ _).mpr next

/-- What comes of recording a request. -/
def Obtained (request : TransactionRequest) : Recorded → Filing → Prop
  | .new record, filing =>
    filing = .filed record [] ∧ record.status = .pending ∧ request.Matches record
  | .replay record, filing => filing = .replayed record

theorem insertPending_keeps (attempts : Nat) (pending : record.status = .pending)
    (fits : request.Matches record) :
    Keeps request (insertPending attempts record) (.drafted record.id) (Obtained request) := by
  induction attempts generalizing record with
  | zero => exact ended_of_none rfl
  | succ attempts ih =>
    refine Settles.bind ((settles_lift _ _ _).mpr ?_)
    refine ⟨rfl, pending, fits, ⟨rfl, pending, fits⟩, ?_, fun key keyed => ?_⟩
    · refine Settles.bind (drawSuffix_keeps fun suffix => ?_)
      exact @ih (record.withSuffix suffix) pending
        ⟨fits.account, fits.target, fits.amount, fits.kind, fits.idempotencyKey⟩
    · refine Settles.bind ?_
      refine Settles.imp (rule_monotone request)
        (findByKey_keeps (fits.idempotencyKey.symm.trans keyed) trivial) ?_ fun _ _ => id
      rintro (_ | existing) later known
      · exact ended_of_none rfl
      · exact known

theorem recordPending_keeps (request : TransactionRequest) :
    Keeps request (recordPending request) .fresh (Obtained request) := by
  refine Settles.bind ((settles_lift _ _ _).mpr ⟨rfl, fun id => ?_⟩)
  refine Settles.bind (now_keeps fun now => ?_)
  refine Settles.bind (drawSuffix_keeps fun suffix => ?_)
  exact @insertPending_keeps request (.pending id request suffix now) _ rfl
    ⟨rfl, rfl, rfl, rfl, rfl⟩

theorem findReplay_keeps (request : TransactionRequest) :
    Keeps request (findReplay request) .fresh fun found later =>
      match found with
      | some record => later = .replayed record
      | none => later = .fresh := by
  unfold findReplay
  split
  · next key own => exact findByKey_keeps own trivial
  · rfl

/-- The ledger is called until it does not fail, or fails for good. -/
theorem callWithRetry_keeps (delayMs : Nat) {call : LedgerCall} (attempt retries : Nat)
    (own : request.call = .ok call) (pending : record.status = .pending)
    (failed : ∀ outcome ∈ outcomes, Failed outcome) :
    (callWithRetry delayMs call attempt retries).Ensures (rule request) (.filed record outcomes)
      fun result later => ∃ failures, (∀ outcome ∈ failures, Failed outcome) ∧
        later = .filed record (failures ++ [result.2]) := by
  induction retries generalizing attempt outcomes with
  | zero =>
    exact ⟨own, record, outcomes, rfl, pending, failed, fun outcome => ⟨outcomes, failed, rfl⟩⟩
  | succ retries ih =>
    refine ⟨own, record, outcomes, rfl, pending, failed, fun outcome => ?_⟩
    rcases outcome with (error | overflow) | _
    · show Program.Ensures _ (ite _ _ _) _ _
      split
      · refine ih (attempt + 1) fun outcome member => ?_
        rcases List.mem_append.mp member with earlier | last
        · exact failed outcome earlier
        · exact ⟨error, List.mem_singleton.mp last⟩
      · exact ⟨outcomes, failed, rfl⟩
    · exact ⟨outcomes, failed, rfl⟩
    · exact ⟨outcomes, failed, rfl⟩

theorem updateRecord_keeps {marked : TransactionRecord} {ok : Unit → Filing → Prop}
    (pending : record.status = .pending) (same : record.SameTerms marked)
    (final : marked.status ≠ .pending) (verdict : Verdict outcomes marked.status)
    (next : ok () (.filed marked outcomes)) :
    Keeps request (Orchestration.updateRecord marked) (.filed record outcomes) ok := by
  apply keeps_stored
  refine ⟨record, outcomes, rfl, pending, same, final, verdict, ?_⟩
  intro value equal
  cases equal
  exact next

theorem carryOut_keeps (policy : RetryPolicy) {call : LedgerCall} (own : request.call = .ok call)
    (pending : record.status = .pending) :
    Keeps request (carryOut policy call record) (.filed record []) fun result later =>
      Ended (.ok result) later := by
  refine Settles.bind ((settles_lift _ _ _).mpr ?_)
  refine Ensures.imp (rule_monotone request) ?_
    (callWithRetry_keeps policy.delayMs 1 policy.retries own pending
      fun outcome absurdly => absurd absurdly List.not_mem_nil)
  rintro ⟨attempts, outcome⟩ later ⟨failures, failed, rfl⟩
  rcases outcome with (error | overflow) | _
  · refine Settles.bind (now_keeps fun time => ?_)
    refine Settles.bind (updateRecord_keeps pending (record.failed_terms _ _ _)
      TransactionStatus.noConfusion ?_ ?_)
    · intro outcome member
      rcases List.mem_append.mp member with earlier | last
      · exact failed outcome earlier
      · exact ⟨error, List.mem_singleton.mp last⟩
    · intro returned same
      cases same
      exact .filed _
  · exact ended_of_none rfl
  · refine Settles.bind (now_keeps fun time => ?_)
    refine Settles.bind (updateRecord_keeps pending (record.succeeded_terms _ _)
      TransactionStatus.noConfusion ⟨failures, rfl, failed⟩ ?_)
    intro returned same
    cases same
    exact .filed _

/-- Whatever an execution is answered, it keeps to this to its end. -/
theorem execute_ensures (policy : RetryPolicy) (request : TransactionRequest) :
    Program.Ensures (rule request) (execute policy request).run .fresh Ended := by
  have kept : Keeps request (execute policy request) .fresh
      fun result later => Ended (.ok result) later := by
    unfold execute
    split
    · exact ended_of_none rfl
    · next call own =>
      refine Settles.bind ?_
      refine Settles.imp (rule_monotone request) (findReplay_keeps request) ?_ fun _ _ => id
      rintro (_ | existing) later known
      · subst known
        refine Settles.bind ?_
        refine Settles.imp (rule_monotone request) (recordPending_keeps request) ?_ fun _ _ => id
        rintro (record | existing) later obtained
        · obtain ⟨rfl, pending, _⟩ := obtained
          exact carryOut_keeps policy own pending
        · obtain rfl := obtained
          intro returned same
          cases same
          exact .replayed
      · subst known
        intro returned same
        cases same
        exact .replayed
  refine Ensures.imp (rule_monotone request) ?_ kept
  rintro (failure | record) later ended
  · exact ended
  · exact ended

end Filing

end AccountLedger
