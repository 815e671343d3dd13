import AccountLedger.Proofs.Delivery.History
import AccountLedger.Proofs.Ledger.Schedule

/-!
The life of an outbox entry: what is written on it stays, its status and its counter tell of the
attempts to deliver it, and until the broker has accepted it a sweep can find it.
-/

namespace AccountLedger

namespace Tables

variable {tables : Tables} {entry : OutboxEntry} {limit : Int}

/-- A limit above the number of entries cuts nothing off. -/
theorem takeFirst_all {entries : List OutboxEntry} (enough : entries.length ≤ limit) :
    takeFirst limit entries = entries := List.take_of_length_le (by omega)

theorem mem_listByStatus (stored : entry ∈ tables.outbox.rows)
    (enough : tables.outbox.rows.length ≤ limit) :
    entry ∈ tables.listByStatus entry.status limit := by
  rw [listByStatus, takeFirst_all]
  · exact List.mem_mergeSort.mpr (List.mem_filter.mpr ⟨stored, beq_self_eq_true _⟩)
  · rw [List.length_mergeSort]
    exact Int.le_trans (Int.ofNat_le.mpr (List.length_filter_le _ _)) enough

theorem mem_listStale {createdBefore : Timestamp} (stored : entry ∈ tables.outbox.rows)
    (enough : tables.outbox.rows.length ≤ limit) (stale : isStale createdBefore entry = true) :
    entry ∈ tables.listStale createdBefore limit := by
  rw [listStale, takeFirst_all]
  · exact List.mem_mergeSort.mpr (List.mem_filter.mpr ⟨stored, stale⟩)
  · rw [List.length_mergeSort]
    exact Int.le_trans (Int.ofNat_le.mpr (List.length_filter_le _ _)) enough

end Tables

namespace Postroom

variable {postroom next : Postroom} {id : Uuid} {entry : OutboxEntry}

/-- The entry is stored with what was written on it, and still sent if it was. -/
def Keeps (postroom : Postroom) (id : Uuid) (entry : OutboxEntry) : Prop :=
  ∃ later, postroom.tables.outbox.find? id = some later ∧ entry.SameMessage later ∧
    (entry.status = .sent → later.status = .sent)

theorem keeps_of_find? (found : postroom.tables.outbox.find? id = some entry) :
    postroom.Keeps id entry := ⟨entry, found, .refl entry, fun sent => sent⟩

theorem Posts.kept (posts : postroom.Posts next)
    (found : postroom.tables.outbox.find? id = some entry) : next.Keeps id entry := by
  rcases posts.stands found with still | ⟨attempt, _, _, after⟩
  · exact keeps_of_find? still
  · exact ⟨entry.after attempt, after, entry.after_message attempt, fun sent => if_pos sent⟩

theorem Reachable.entry_kept (reachable : postroom.Reachable) (run : postroom.Run next)
    (fresh : next.office.drawn.Nodup) (found : postroom.tables.outbox.find? id = some entry) :
    next.Keeps id entry := by
  refine reachable.along (Keeps · id entry) run fresh (keeps_of_find? found) ?_
  rintro before after _ _ _ posts _ ⟨between, there, message, sent⟩
  obtain ⟨later, here, same, still⟩ := posts.kept there
  exact ⟨later, here, message.trans same, fun wasSent => still (sent wasSent)⟩

/-- Nothing that is to be delivered is out of reach of the sweeps. -/
theorem Consistent.listed (consistent : postroom.Consistent)
    (found : postroom.tables.outbox.find? id = some entry) (unsent : entry.status ≠ .sent)
    {limit : Int} (enough : postroom.tables.outbox.rows.length ≤ limit) :
    entry ∈ postroom.tables.listByStatus .failed limit ∨
      ∀ createdBefore, entry.createdAt.lt createdBefore = true →
        Tables.isStale createdBefore entry = true ∧
          entry ∈ postroom.tables.listStale createdBefore limit := by
  have stored := Table.mem_rows_of_find? found
  cases status : entry.status with
  | sent => exact absurd status unsent
  | failed => exact Or.inl (status ▸ Tables.mem_listByStatus stored enough)
  | pending =>
    refine Or.inr fun createdBefore older => ?_
    have untried := (consistent.tried found).pending_iff.mp status
    have stale : Tables.isStale createdBefore entry = true := by
      simp [Tables.isStale, status, untried, older]
    exact ⟨stale, Tables.mem_listStale stored enough stale⟩

/-- Whatever is committed, delivered and swept at once and whatever the broker answers, an outbox
entry keeps its id, its account, its event, its topic, its payload and its time, and once it was
sent it stays so. Its counter is the number of the attempts recorded for it; it is pending just
before the first of them, sent as soon as the broker has accepted one in time, and failed otherwise.
Unless it was sent it is listed among the failed or the stale entries. -/
theorem Reachable.lifecycle (reachable : postroom.Reachable) (run : postroom.Run next)
    (fresh : next.office.drawn.Nodup) :
    (∀ id entry, postroom.tables.outbox.find? id = some entry →
      ∃ later, next.tables.outbox.find? id = some later ∧ later.id = entry.id ∧
        later.aggregate = entry.aggregate ∧ later.eventKind = entry.eventKind ∧
        later.topic = entry.topic ∧ later.payload = entry.payload ∧
        later.createdAt = entry.createdAt ∧ (entry.status = .sent → later.status = .sent)) ∧
    ∀ id entry, next.tables.outbox.find? id = some entry →
      entry.attempts = (next.attemptsOf id).length ∧
      (entry.status = .pending ↔ entry.attempts = 0) ∧
      (entry.attempts = 0 ↔ entry.lastAttemptAt = none) ∧
      (entry.status = .sent ↔ ∃ attempt ∈ next.attemptsOf id, attempt.accepted = true) ∧
      (entry.status = .failed ↔ next.attemptsOf id ≠ [] ∧
        ¬ ∃ attempt ∈ next.attemptsOf id, attempt.accepted = true) ∧
      (entry.status ≠ .sent → ∀ limit : Int, next.tables.outbox.rows.length ≤ limit →
        entry ∈ next.tables.listByStatus .failed limit ∨
          ∀ createdBefore, entry.createdAt.lt createdBefore = true →
            Tables.isStale createdBefore entry = true ∧
              entry ∈ next.tables.listStale createdBefore limit) := by
  refine ⟨fun id entry found => ?_, fun id entry found => ?_⟩
  · obtain ⟨later, there, message, sent⟩ := reachable.entry_kept run fresh found
    exact ⟨later, there, message.id, message.aggregate, message.eventKind, message.topic,
      message.payload, message.createdAt, sent⟩
  · have consistent := ((Run.reachable run reachable).sound fresh).outbox
    have tried := consistent.tried found
    exact ⟨tried.count, tried.pending_iff, tried.unattempted_iff, tried.sent_iff, tried.failed_iff,
      fun unsent limit => consistent.listed found unsent⟩

/-- As long as there were not more attempts to deliver an entry than 32 bits can count, these are
enough for its counter. -/
theorem Reachable.attempts_fit (reachable : postroom.Reachable)
    (fresh : postroom.office.drawn.Nodup) (found : postroom.tables.outbox.find? id = some entry)
    (few : (postroom.attemptsOf id).length < 2 ^ 31) :
    (Int32.ofInt entry.attempts).toInt = entry.attempts := by
  have counted := ((reachable.sound fresh).outbox.tried found).count
  exact Int32.toInt_ofInt_of_le (by omega) (by omega)

/-! ## A delivery that the broker refuses -/

theorem run_office {office : Office}
    (goes : Relation.ReflTransGen Office.Goes postroom.office office) :
    postroom.Run { postroom with office } :=
  goes.lift (fun office => { postroom with office }) fun _ _ goes => .ledger goes.step goes.outbox

/-- A stored entry is delivered without a break. -/
theorem run_delivered {id : Nat} (free : postroom.couriers id = none) {stored : OutboxEntry}
    (found : postroom.tables.outbox.find? entry.id = some stored) (sendTimeoutMs : Nat)
    (heard : Except BrokerError Unit) (time : Timestamp) :
    ∃ next, postroom.Run next ∧ next.office.drawn = postroom.office.drawn ∧
      (∀ other, other ≠ id → next.couriers other = postroom.couriers other) ∧
      next.tables.outbox = postroom.tables.outbox.put entry.id
        (stored.after ⟨entry.id, heard.toBool, time⟩) := by
  have called : postroom.Run _ := .single (@Step.send _ id (.delivery entry) sendTimeoutMs free)
  have sent := called.tail
    (@Step.host _ id _ (.send entry sendTimeoutMs) _ heard (Function.update_self ..) rfl)
  have timed := sent.tail (@Step.host _ id _ .now _ time (Function.update_self ..) rfl)
  have recorded := timed.tail (@Step.table _ id _ _ _ _ (Function.update_self ..) rfl (.asStored _))
  refine ⟨_, recorded, rfl, fun other apart => ?_, ?_⟩
  · simp [tabled, hosted, withCourier, apart]
  · have updated := fun status noted =>
      @Tables.recordAttempt_of_find? _ stored ⟨entry.id, heard.toBool, time⟩ status noted found
    cases heard with
    | ok answer => exact congrArg (fun after => after.2.outbox) (updated .sent rfl)
    | error error => exact congrArg (fun after => after.2.outbox) (updated .failed rfl)

/-- An account is opened, and the broker refuses the entry that tells of it. -/
theorem refused_reachable : ∃ posted refused : Postroom, ∃ entry later : OutboxEntry,
    posted.Reachable ∧ posted.Run refused ∧ refused.office.drawn.Nodup ∧
    posted.tables.outbox.find? entry.id = some entry ∧ entry.status = .pending ∧
    refused.tables.outbox = ⟨[(entry.id, later)]⟩ ∧ later.id = entry.id ∧
    later.status = .failed ∧ later.lastAttemptAt = some ⟨0, 0⟩ ∧
    refused.couriers 0 = none := by
  let entry := Office.announcement
  let posted : Postroom := { start with office := Office.opened }
  have reachable : posted.Reachable := run_office (Office.start.scheduled_run Office.opening)
  have outbox : posted.tables.outbox = ⟨[(entry.id, entry)]⟩ := Office.opened_outbox
  have found : posted.tables.outbox.find? entry.id = some entry := by
    simp [outbox, Table.find?, Table.findIn]
  obtain ⟨refused, run, drawn, others, after⟩ :=
    @run_delivered posted entry 1 rfl _ found 0 (.error (.timeout 0)) ⟨0, 0⟩
  have put : refused.tables.outbox =
      ⟨[(entry.id, entry.after ⟨entry.id, false, ⟨0, 0⟩⟩)]⟩ := by
    simp [after, outbox, Table.put, Table.putIn, Except.toBool]
  exact ⟨posted, refused, entry, _, reachable, run, drawn ▸ Office.opened_fresh, found, rfl, put,
    rfl, rfl, rfl, others 0 (by decide)⟩

/-- The entry that was refused is still the one that was posted, and its one attempt failed. -/
theorem refused_failed : ∃ posted refused : Postroom, posted.Reachable ∧ posted.Run refused ∧
    refused.office.drawn.Nodup ∧ ∃ entry later : OutboxEntry,
      posted.tables.outbox.find? entry.id = some entry ∧
      refused.tables.outbox.find? entry.id = some later ∧ later.payload = entry.payload ∧
      refused.attemptsOf entry.id ≠ [] ∧
      ¬ ∃ attempt ∈ refused.attemptsOf entry.id, attempt.accepted = true := by
  obtain ⟨posted, refused, entry, later, reachable, run, fresh, found, _, outbox, same, failed, _⟩ :=
    refused_reachable
  have stored : refused.tables.outbox.find? entry.id = some later := by
    rw [outbox]
    exact if_pos rfl
  obtain ⟨kept, told⟩ := reachable.lifecycle run fresh
  obtain ⟨_, there, _, _, _, _, payload, _⟩ := kept _ _ found
  cases stored.symm.trans there
  obtain ⟨_, _, _, _, untold, _⟩ := told _ _ stored
  obtain ⟨some, none⟩ := untold.mp failed
  exact ⟨posted, refused, reachable, run, fresh, entry, later, found, stored, payload, some, none⟩

end Postroom

end AccountLedger
