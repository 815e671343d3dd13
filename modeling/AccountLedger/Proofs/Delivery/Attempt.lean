import AccountLedger.Memory.Tables

/-!
Delivery attempts that were recorded, and what they make of an outbox entry.
-/

namespace AccountLedger

/-- What one attempt makes of an entry that was not sent before. -/
def DeliveryStatus.ofAccepted (accepted : Bool) : DeliveryStatus :=
  if accepted then .sent else .failed

/-- A delivery attempt that was recorded: whether the broker accepted the entry in time, and when
that was noted. -/
structure Attempt where
  entry : Uuid
  accepted : Bool
  time : Timestamp
  deriving DecidableEq, Repr

/-- The status of an entry with these attempts. -/
def DeliveryStatus.ofAttempts (attempts : List Attempt) : DeliveryStatus :=
  if attempts.isEmpty then .pending
  else if attempts.any Attempt.accepted then .sent
  else .failed

namespace OutboxEntry

/-- The entry after one more attempt. Once it was sent it stays so. -/
def after (entry : OutboxEntry) (attempt : Attempt) : OutboxEntry :=
  entry.attempted (if entry.status = .sent then .sent else .ofAccepted attempt.accepted)
    attempt.time

/-- What stays of an entry as long as it is stored. -/
structure SameMessage (entry other : OutboxEntry) : Prop where
  id : other.id = entry.id
  aggregate : other.aggregate = entry.aggregate
  eventKind : other.eventKind = entry.eventKind
  topic : other.topic = entry.topic
  payload : other.payload = entry.payload
  createdAt : other.createdAt = entry.createdAt

variable {entry other third : OutboxEntry} {attempt : Attempt} {attempts : List Attempt}

theorem SameMessage.refl (entry : OutboxEntry) : entry.SameMessage entry :=
  ⟨rfl, rfl, rfl, rfl, rfl, rfl⟩

theorem SameMessage.trans (one : entry.SameMessage other) (two : other.SameMessage third) :
    entry.SameMessage third :=
  ⟨two.id.trans one.id, two.aggregate.trans one.aggregate, two.eventKind.trans one.eventKind,
    two.topic.trans one.topic, two.payload.trans one.payload, two.createdAt.trans one.createdAt⟩

theorem after_message (entry : OutboxEntry) (attempt : Attempt) :
    entry.SameMessage (entry.after attempt) := ⟨rfl, rfl, rfl, rfl, rfl, rfl⟩

/-- After an attempt an entry is pending no longer. -/
theorem after_status (entry : OutboxEntry) (attempt : Attempt) :
    (entry.after attempt).status ≠ .pending := by
  show (if entry.status = .sent then DeliveryStatus.sent else .ofAccepted attempt.accepted) ≠ _
  unfold DeliveryStatus.ofAccepted
  split
  · simp
  · split <;> simp

/-- These are all attempts to deliver the entry. -/
structure Tried (entry : OutboxEntry) (attempts : List Attempt) : Prop where
  count : entry.attempts = attempts.length
  status : entry.status = .ofAttempts attempts
  lastAttemptAt : entry.lastAttemptAt = attempts.getLast?.map Attempt.time

theorem ofEvent_tried (id : Uuid) (event : LedgerEvent) (now : Timestamp) :
    (ofEvent id event now).Tried [] := ⟨rfl, rfl, rfl⟩

theorem Tried.after (tried : entry.Tried attempts) (attempt : Attempt) :
    (entry.after attempt).Tried (attempts ++ [attempt]) := by
  refine ⟨?_, ?_, ?_⟩
  · show entry.attempts + 1 = _
    rw [tried.count, List.length_append]
    rfl
  · show (if entry.status = .sent then _ else _) = _
    rw [tried.status]
    cases attempts with
    | nil =>
      cases accepted : attempt.accepted <;>
        simp [DeliveryStatus.ofAttempts, DeliveryStatus.ofAccepted, accepted]
    | cons first rest =>
      cases before : (first :: rest).any Attempt.accepted <;>
        cases accepted : attempt.accepted <;>
          simp_all [DeliveryStatus.ofAttempts, DeliveryStatus.ofAccepted]
  · show some attempt.time = _
    rw [List.getLast?_concat]
    rfl

section

variable (tried : entry.Tried attempts)

include tried

theorem Tried.pending_iff : entry.status = .pending ↔ entry.attempts = 0 := by
  rw [tried.status, tried.count]
  cases attempts with
  | nil => simp [DeliveryStatus.ofAttempts]
  | cons first rest =>
    cases before : (first :: rest).any Attempt.accepted <;>
      simp [DeliveryStatus.ofAttempts, before] <;> omega

theorem Tried.unattempted_iff : entry.attempts = 0 ↔ entry.lastAttemptAt = none := by
  rw [tried.count, tried.lastAttemptAt, Option.map_eq_none_iff, List.getLast?_eq_none_iff]
  cases attempts with
  | nil => simp
  | cons first rest => simp; omega

theorem Tried.sent_iff : entry.status = .sent ↔ ∃ attempt ∈ attempts, attempt.accepted = true := by
  rw [tried.status, ← List.any_eq_true]
  cases attempts with
  | nil => simp [DeliveryStatus.ofAttempts]
  | cons first rest =>
    cases before : (first :: rest).any Attempt.accepted <;>
      simp [DeliveryStatus.ofAttempts, before]

theorem Tried.failed_iff : entry.status = .failed ↔
    attempts ≠ [] ∧ ¬ ∃ attempt ∈ attempts, attempt.accepted = true := by
  rw [tried.status, ← List.any_eq_true]
  cases attempts with
  | nil => simp [DeliveryStatus.ofAttempts]
  | cons first rest =>
    cases before : (first :: rest).any Attempt.accepted <;>
      simp [DeliveryStatus.ofAttempts, before]

end

end OutboxEntry

/-- Recording the outcome of an attempt stores the entry after it. -/
theorem Tables.recordAttempt_of_find? {tables : Tables} {entry : OutboxEntry}
    (attempt : Attempt) {status : DeliveryStatus}
    (noted : status = .ofAccepted attempt.accepted)
    (found : tables.outbox.find? attempt.entry = some entry) :
    tables.recordAttempt attempt.entry status attempt.time =
      (.ok (entry.after attempt),
        { tables with outbox := tables.outbox.put attempt.entry (entry.after attempt) }) := by
  simp only [Tables.recordAttempt, found, noted, OutboxEntry.after]

end AccountLedger
