import AccountLedger.Proofs.Table
import AccountLedger.Proofs.Transaction.Idempotent
import AccountLedger.Proofs.Transaction.Retry

/-!
Recording a pending transaction. The record is inserted under the first reference number that no
stored record has, the stored record with its key is given instead, or all numbers that were tried
are in use. The error then names the number that was drawn to be tried next.
-/

namespace AccountLedger

namespace Tables

variable {tables : Tables} {key reference : String}

/-- A record that fits is stored. -/
def Stores (tables : Tables) (fits : TransactionRecord → Prop) : Prop :=
  ∃ id record, tables.records.find? id = some record ∧ fits record

/-- Every reference number that is in use is that of a stored record. -/
def Referenced (tables : Tables) : Prop :=
  ∀ reference id, tables.references.find? reference = some id →
    ∃ record, tables.records.find? id = some record ∧ record.reference = reference

theorem Referenced.stores (referenced : tables.Referenced) {id : Uuid}
    (used : tables.references.find? reference = some id) :
    tables.Stores (·.reference = reference) := by
  obtain ⟨record, found, named⟩ := referenced _ _ used
  exact ⟨id, record, found, named⟩

theorem Indexed.unreferenced (indexed : tables.Indexed)
    (free : tables.references.find? reference = none) :
    ¬ tables.Stores (·.reference = reference) := by
  rintro ⟨id, record, found, rfl⟩
  cases free.symm.trans (indexed.references found)

theorem Indexed.unkeyed (indexed : tables.Indexed) (free : tables.keys.find? key = none) :
    ¬ tables.Stores (·.idempotencyKey = some key) := by
  rintro ⟨id, record, found, keyed⟩
  cases free.symm.trans (indexed.keys found keyed)

end Tables

/-! ## Reference numbers of stored records -/

namespace Desk

variable {desk next : Desk}

theorem Writes.referenced (writes : desk.Writes next) (referenced : desk.tables.Referenced) :
    next.tables.Referenced := by
  intro reference id used
  have keeps := @writes.kept
  cases writes with
  | nothing records references =>
    rw [references] at used
    rw [records]
    exact referenced _ _ used
  | @stored record new _ _ _ tables =>
    rw [tables] at used ⊢
    rw [Tables.withRecord_find?]
    have led : (desk.tables.references.put record.reference record.id).find? reference = some id :=
      used
    rw [Table.find?_put] at led
    split at led
    · next named =>
      cases led
      exact ⟨record, if_pos rfl, named⟩
    · obtain ⟨found, present, named⟩ := referenced _ _ led
      refine ⟨found, ?_, named⟩
      rw [if_neg, present]
      intro same
      cases new.symm.trans (same ▸ present)
  | marked found _ _ _ tables =>
    have kept : desk.tables.references.find? reference = some id := by
      rw [tables] at used
      exact used
    obtain ⟨stored, present, named⟩ := referenced _ _ kept
    obtain ⟨later, here, terms, _⟩ := keeps _ _ present
    exact ⟨later, here, terms.reference.trans named⟩

theorem Reachable.referenced (reachable : desk.Reachable) : desk.tables.Referenced := by
  induction reachable with
  | refl =>
    intro reference id absurdly
    cases absurdly
  | tail before step ih =>
    exact (step_sound (Reachable.sound before) step).2.referenced ih

end Desk

/-! ## The loop -/

open Orchestration

/-- What recording a draft comes to if its reference numbers are these and so many are tried, and
what the tables are afterwards. -/
inductive Recording (tables : Tables) (draft : TransactionRecord) (reference : Nat → String)
    (tries : Nat) : Outcome OrchestrationError Recorded → Tables → Prop
  | inserted {drawn : Nat} {record : TransactionRecord} : drawn < tries →
    (∀ earlier < drawn, tables.Stores (·.reference = reference earlier)) →
    ¬ tables.Stores (·.reference = reference drawn) →
    (∀ key, draft.idempotencyKey = some key → ¬ tables.Stores (·.idempotencyKey = some key)) →
    record = { draft with reference := reference drawn } →
    Recording tables draft reference tries (.ok (.new record)) (tables.withRecord record)
  | replayed {drawn : Nat} {key : String} {existing : TransactionRecord} : drawn < tries →
    (∀ earlier < drawn, tables.Stores (·.reference = reference earlier)) →
    ¬ tables.Stores (·.reference = reference drawn) →
    draft.idempotencyKey = some key → existing.idempotencyKey = some key →
    tables.records.find? existing.id = some existing →
    Recording tables draft reference tries (.ok (.replay existing)) tables
  | exhausted : (∀ drawn < tries, tables.Stores (·.reference = reference drawn)) →
    Recording tables draft reference tries
      (.error (.error (.store (.duplicateReference (reference tries))))) tables

namespace Recording

variable {tables after : Tables} {draft : TransactionRecord} {reference : Nat → String}
  {tries : Nat} {outcome : Outcome OrchestrationError Recorded}

/-- A number that is in use comes before the others. -/
theorem again {suffix : ReferenceSuffix}
    (rest : Recording tables (draft.withSuffix suffix) (fun drawn => reference (drawn + 1)) tries
      outcome after)
    (used : tables.Stores (·.reference = reference 0)) :
    Recording tables draft reference (tries + 1) outcome after := by
  have before {drawn : Nat}
      (more : ∀ earlier < drawn, tables.Stores (·.reference = reference (earlier + 1))) :
      ∀ earlier < drawn + 1, tables.Stores (·.reference = reference earlier)
    | 0, _ => used
    | earlier + 1, less => more earlier (Nat.lt_of_succ_lt_succ less)
  cases rest with
  | inserted within more free unkeyed same =>
    exact .inserted (Nat.succ_lt_succ within) (before more) free unkeyed same
  | replayed within more free keyed alsoKeyed found =>
    exact .replayed (Nat.succ_lt_succ within) (before more) free keyed alsoKeyed found
  | exhausted more => exact .exhausted (before more)

/-- Exactly one row is added for a new record, and otherwise none. -/
theorem rows (recording : Recording tables draft reference tries outcome after)
    (fresh : tables.records.find? draft.id = none) :
    (∃ record, outcome = .ok (.new record) ∧ after.records.rows = tables.records.rows ++ [record]) ∨
      (∀ record, outcome ≠ .ok (.new record)) ∧ after = tables := by
  cases recording with
  | inserted _ _ _ _ same =>
    refine Or.inl ⟨_, rfl, Table.put_rows_of_absent ?_⟩
    rw [same]
    exact fresh
  | replayed => exact Or.inr ⟨by simp, rfl⟩
  | exhausted => exact Or.inr ⟨by simp, rfl⟩

end Recording

namespace Surroundings

variable {around : Surroundings} {bench : Bench} {draft : TransactionRecord}

/-- A draft whose reference is not in use is inserted, unless a record with its key is stored. -/
theorem insertPending_free (indexed : bench.tables.Indexed) (tries : Nat)
    (free : bench.tables.references.find? draft.reference = none) :
    ∃ outcome after,
      around.run bench (insertPending (tries + 1) draft).run = some (outcome, after) ∧
      after.calls = bench.calls ∧ Recording bench.tables draft
        (around.reference draft bench.questions) (tries + 1) outcome after.tables := by
  have inserts := bench.tables.insertRecord_inserts draft
  generalize result : bench.tables.insertRecord draft = answer at inserts
  cases inserts with
  | stored _ unused =>
    have ran := run_lift (@run_table around bench (.insertRecord draft) _ _ result)
    refine ⟨_, _, run_ok ran _, rfl, ?_⟩
    exact .inserted (Nat.succ_pos tries) (by simp) (indexed.unreferenced free)
      (fun key keyed => indexed.unkeyed (unused key keyed)) rfl
  | takenReference used => cases free.symm.trans used
  | @takenKey key id keyed taken =>
    obtain ⟨existing, present, theirs⟩ := indexed.keyed taken
    have refused := run_lift (@run_table around bench (.insertRecord draft) _ _ result)
    have found : bench.tables.answer (.findByKey key) = (.ok (some existing), bench.tables) := by
      show (Except.ok (bench.tables.findByKey key), bench.tables) = _
      rw [Tables.findByKey, taken, Option.bind_some, present]
      rfl
    have sought : around.run bench (findByKey key).run = some (.ok (some existing), bench) :=
      run_bind (run_table found) _
    refine ⟨_, _, (run_ok refused _).trans (run_ok sought _), rfl, ?_⟩
    refine .replayed (Nat.succ_pos tries) (by simp) (indexed.unreferenced free) keyed theirs ?_
    rw [indexed.ids present]
    exact present

/-- Every attempt at a number that is in use leaves the draft with the number drawn next. -/
theorem insertPending_recording (indexed : bench.tables.Indexed)
    (referenced : bench.tables.Referenced) (tries : Nat) :
    ∃ outcome after, around.run bench (insertPending tries draft).run = some (outcome, after) ∧
      after.calls = bench.calls ∧ Recording bench.tables draft
        (around.reference draft bench.questions) tries outcome after.tables := by
  induction tries generalizing bench draft with
  | zero =>
    refine ⟨_, bench, rfl, rfl, .exhausted ?_⟩
    exact fun drawn none => absurd none (Nat.not_lt_zero drawn)
  | succ tries ih =>
    cases used : bench.tables.references.find? draft.reference with
    | none => exact insertPending_free indexed tries used
    | some id =>
      obtain ⟨outcome, after, ran, calls, recording⟩ := @ih
        { bench with questions := bench.questions + 1 }
        (draft.withSuffix (around.host bench.questions .drawSuffix)) indexed referenced
      refine ⟨outcome, after, ?_, calls, ?_⟩
      · exact (run_ok (run_lift (insertRecord_duplicate used)) _).trans ran
      · rw [funext (reference_withSuffix around draft bench.questions)] at recording
        exact recording.again (referenced.stores used)

end Surroundings

namespace Desk

variable {desk : Desk}

/-- Recording a request by itself, in any store that executions have come to and with an id that is
not in use, ends in exactly one of three ways. A pending record of the request is inserted under the
first of three reference numbers that no stored record has; a stored record with the request's key
is given back and nothing is inserted; or, if all three numbers are in use, nothing is inserted and
the error names the number drawn after them. -/
theorem Reachable.recordPending_outcome (reachable : desk.Reachable) (around : Surroundings)
    (request : TransactionRequest)
    (fresh : desk.tables.records.find? (around.host 0 .freshId) = none) :
    ∃ outcome after,
      around.run (.opened desk.tables) (recordPending request).run = some (outcome, after) ∧
      after.calls = [] ∧
      Recording desk.tables
        (.pending (around.host 0 .freshId) request (around.host 2 .drawSuffix) (around.host 1 .now))
        (fun drawn => referenceNumber (around.host 1 .now) (around.host (2 + drawn) .drawSuffix)) 3
        outcome after.tables ∧
      ((∃ record, outcome = .ok (.new record) ∧
          after.tables.records.rows = desk.tables.records.rows ++ [record]) ∨
        (∀ record, outcome ≠ .ok (.new record)) ∧ after.tables = desk.tables) := by
  obtain ⟨outcome, after, ran, calls, recording⟩ := @Surroundings.insertPending_recording around
    ⟨desk.tables, 3, []⟩
    (.pending (around.host 0 .freshId) request (around.host 2 .drawSuffix) (around.host 1 .now))
    reachable.sound.indexed reachable.referenced maxReferenceAttempts
  refine ⟨outcome, after, ran, calls, ?_, recording.rows fresh⟩
  rw [funext (Surroundings.reference_pending around request)] at recording
  exact recording

theorem recorded_tables : recorded.tables =
    Tables.empty.withRecord (.pending (Uuid.ofNat 1) keyedDeposit ⟨"00000000"⟩ ⟨0, 0⟩) := by
  decide +kernel

/-- A host that draws, on the same day, the number in use three times and then another. -/
def unlucky : Surroundings where
  host question
    | .freshId => Uuid.ofNat 2
    | .now => ⟨0, 0⟩
    | .drawSuffix => if question < 5 then ⟨"00000000"⟩ else ⟨"00000001"⟩
    | .pause _ => ()
    | .send .. => .ok ()
    | .dispatch _ => ()
  outcomes _ := .ok ()

theorem unlucky_fresh : recorded.tables.records.find? (unlucky.host 0 .freshId) = none := by
  rw [recorded_tables]
  rfl

theorem unlucky_run : unlucky.run (.opened recorded.tables) (recordPending keyedDeposit).run =
    some (.error (.error (.store (.duplicateReference (referenceNumber ⟨0, 0⟩ ⟨"00000001"⟩)))),
      ⟨recorded.tables, 6, []⟩) := by
  rw [recorded_tables]
  rfl

/-- The deposit is asked for again, and all three numbers are those of the record: the error names
the fourth, and nothing is inserted. -/
theorem recordPending_outcome_unlucky : ∃ (desk : Desk) (after : Bench), desk.Reachable ∧
    desk.tables.records.find? (unlucky.host 0 .freshId) = none ∧
    unlucky.run (.opened desk.tables) (recordPending keyedDeposit).run =
      some (.error (.error (.store (.duplicateReference
        (referenceNumber ⟨0, 0⟩ ⟨"00000001"⟩)))), after) ∧
    desk.tables.Stores (·.reference = referenceNumber ⟨0, 0⟩ ⟨"00000000"⟩) ∧
    after.tables = desk.tables := by
  obtain ⟨outcome, after, ran, _, recording, _⟩ :=
    recorded_reachable.recordPending_outcome unlucky keyedDeposit unlucky_fresh
  obtain ⟨rfl, ended⟩ : outcome = _ ∧ after = _ := by simpa using ran.symm.trans unlucky_run
  generalize after.tables = last at recording
  cases recording with
  | exhausted used =>
    exact ⟨recorded, _, recorded_reachable, unlucky_fresh, unlucky_run, used 0 (by decide), rfl⟩

/-- The number that the error names need not be in use. -/
theorem recordPending_names_unused : ∃ (desk : Desk) (around : Surroundings)
    (request : TransactionRequest) (call : LedgerCall) (reference : String) (after : Bench),
    desk.Reachable ∧ request.call = .ok call ∧
      desk.tables.records.find? (around.host 0 .freshId) = none ∧
      around.run (.opened desk.tables) (recordPending request).run =
        some (.error (.error (.store (.duplicateReference reference))), after) ∧
      ¬ desk.tables.Stores (·.reference = reference) := by
  refine ⟨recorded, unlucky, keyedDeposit, _, referenceNumber ⟨0, 0⟩ ⟨"00000001"⟩,
    ⟨recorded.tables, 6, []⟩, recorded_reachable, rfl, unlucky_fresh, unlucky_run,
    recorded_reachable.sound.indexed.unreferenced ?_⟩
  rw [recorded_tables]
  rfl

end Desk

end AccountLedger
