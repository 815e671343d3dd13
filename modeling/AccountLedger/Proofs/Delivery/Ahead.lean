import AccountLedger.Proofs.Delivery.History
import AccountLedger.Proofs.Delivery.Order

/-!
The failed entries that sweeps take no later than a given one. As long as attempts are recorded with
later times, none is added to them and every attempt takes its entry out.
-/

namespace AccountLedger

namespace OutboxEntry

/-- The other entry has failed, and sweeps take it no later. -/
def isAhead (entry other : OutboxEntry) : Bool :=
  other.status == .failed && Tables.lessAttemptedFirst other entry

/-- The attempt is recorded with a time after that of the last attempt of the entry. -/
def Precedes (entry : OutboxEntry) (attempt : Attempt) : Prop :=
  ∃ last, entry.lastAttemptAt = some last ∧ last.lt attempt.time = true

theorem isAhead_iff {entry other : OutboxEntry} : entry.isAhead other = true ↔
    other.status = .failed ∧ Tables.lessAttemptedFirst other entry = true := by
  simp [isAhead]

end OutboxEntry

namespace Postroom

variable {postroom next : Postroom} {id : Uuid} {entry other : OutboxEntry}

def ahead (postroom : Postroom) (entry : OutboxEntry) : List Uuid :=
  (postroom.tables.outbox.rows.filter entry.isAhead).map (·.id)

/-- All attempts that are recorded between two states come after the last one of the entry. -/
def Outlasts (postroom next : Postroom) (entry : OutboxEntry) : Prop :=
  ∀ attempt ∈ postroom.attemptsUntil next, entry.Precedes attempt

theorem Outlasts.within {first last : Postroom} (outlasts : first.Outlasts last entry)
    (before : first.Run postroom) (run : postroom.Run next) (after : next.Run last) :
    postroom.Outlasts next entry := by
  intro attempt inside
  apply outlasts
  rw [Run.attemptsUntil before (run.trans after), Run.attemptsUntil run after]
  exact List.mem_append_right _ (List.mem_append_left _ inside)

theorem mem_ahead (consistent : postroom.Consistent) : id ∈ postroom.ahead entry ↔
    ∃ other, postroom.tables.outbox.find? id = some other ∧ entry.isAhead other = true := by
  rw [ahead, List.mem_map]
  constructor
  · rintro ⟨other, listed, rfl⟩
    obtain ⟨stored, isAhead⟩ := List.mem_filter.mp listed
    obtain ⟨key, found⟩ := (Table.mem_rows_iff consistent.distinct).mp stored
    exact ⟨other, consistent.own found ▸ found, isAhead⟩
  · rintro ⟨other, found, isAhead⟩
    exact ⟨other, List.mem_filter.mpr ⟨Table.mem_rows_of_find? found, isAhead⟩, consistent.own found⟩

theorem ahead_nodup (consistent : postroom.Consistent) : (postroom.ahead entry).Nodup := by
  have ids := Table.rows_nodup consistent.distinct fun {_ _} found => consistent.own found
  exact ids.sublist (List.filter_sublist.map _)

/-- Who is ahead after a step was so before, and nobody has tried to deliver it. -/
theorem Posts.ahead (posts : postroom.Posts next) (outlasts : postroom.Outlasts next entry)
    (found : next.tables.outbox.find? id = some other) (isAhead : entry.isAhead other = true) :
    postroom.tables.outbox.find? id = some other ∧ ¬ postroom.Attempted next id := by
  obtain ⟨failed, first⟩ := OutboxEntry.isAhead_iff.mp isAhead
  have idle : next.attempts = postroom.attempts → ¬ postroom.Attempted next id := by
    rintro same ⟨attempt, inside, _⟩
    rw [attemptsUntil_of_append (same.trans (List.append_nil _).symm)] at inside
    cases inside
  cases posts with
  | still outbox attempts => exact ⟨outbox ▸ found, idle attempts⟩
  | posted untried unused outbox attempts =>
    rw [outbox, Table.find?_put] at found
    split at found
    · cases found
      cases failed.symm.trans untried.status
    · exact ⟨found, idle attempts⟩
  | attempted attempt present outbox attempts =>
    have recorded := attemptsUntil_of_append attempts
    rw [outbox, Table.find?_put] at found
    split at found
    · cases found
      obtain ⟨last, tried, later⟩ := outlasts attempt (recorded ▸ List.mem_cons_self)
      cases first.symm.trans (Tables.lessAttemptedFirst_of_lt tried rfl later)
    · next differs =>
      refine ⟨found, ?_⟩
      rintro ⟨other, inside, same⟩
      rw [recorded] at inside
      cases List.mem_singleton.mp inside
      exact differs same

theorem Reachable.ahead (reachable : postroom.Reachable) (run : postroom.Run next)
    (fresh : next.office.drawn.Nodup) (outlasts : postroom.Outlasts next entry) :
    ∀ id ∈ next.ahead entry, id ∈ postroom.ahead entry ∧ ¬ postroom.Attempted next id := by
  have stays : ∀ id other, next.tables.outbox.find? id = some other → entry.isAhead other = true →
      postroom.tables.outbox.find? id = some other ∧ ¬ postroom.Attempted next id := by
    refine reachable.along (fun state => ∀ id other, state.tables.outbox.find? id = some other →
      entry.isAhead other = true →
        postroom.tables.outbox.find? id = some other ∧ ¬ postroom.Attempted state id) run fresh ?_ ?_
    · refine fun id other found _ => ⟨found, ?_⟩
      rintro ⟨attempt, inside, _⟩
      rw [attemptsUntil_of_append (List.append_nil _).symm] at inside
      cases inside
    · intro before after first _ step posts rest ih id other found isAhead
      obtain ⟨present, unattempted⟩ := posts.ahead
        (outlasts.within first (.single step) rest) found isAhead
      refine ⟨(ih id other present isAhead).1, ?_⟩
      rintro ⟨attempt, inside, same⟩
      rw [Run.attemptsUntil first (.single step)] at inside
      rcases List.mem_append.mp inside with earlier | now
      · exact (ih id other present isAhead).2 ⟨attempt, earlier, same⟩
      · exact unattempted ⟨attempt, now, same⟩
  have before := (reachable.sound (run.fresh reachable fresh)).outbox
  have after := ((Run.reachable run reachable).sound fresh).outbox
  intro id inside
  obtain ⟨other, found, isAhead⟩ := (mem_ahead after).mp inside
  obtain ⟨present, unattempted⟩ := stays id other found isAhead
  exact ⟨(mem_ahead before).mpr ⟨other, present, isAhead⟩, unattempted⟩

/-! ## A batch -/

/-- Stored entries of one kind, none of them twice and no more than asked for. -/
structure Batch (postroom : Postroom) (limit : Int) (kind : OutboxEntry → Bool)
    (batch : List OutboxEntry) : Prop where
  size : batch.length ≤ limit.toNat
  distinct : (batch.map (·.id)).Nodup
  stored : ∀ other ∈ batch, postroom.tables.outbox.find? other.id = some other
  kind : ∀ other ∈ batch, kind other = true

/-- Whatever order it is taken in, what is listed is a batch. -/
theorem Consistent.batch (consistent : postroom.Consistent) {order : List OutboxEntry}
    (all : order.Perm postroom.tables.outbox.rows) (limit : Int) (kind : OutboxEntry → Bool)
    (first : OutboxEntry → OutboxEntry → Bool) :
    postroom.Batch limit kind (Tables.takeFirst limit ((order.filter kind).mergeSort first)) := by
  have inside : ∀ other ∈ Tables.takeFirst limit ((order.filter kind).mergeSort first),
      other ∈ order ∧ kind other = true := fun other taken =>
    List.mem_filter.mp (List.mem_mergeSort.mp (List.mem_of_mem_take taken))
  refine ⟨List.length_take_le _ _, ?_, fun other taken => ?_, fun other taken =>
    (inside other taken).2⟩
  · have ids := Table.rows_nodup consistent.distinct fun {_ _} found => consistent.own found
    have ordered : (order.map (·.id)).Nodup := (all.map _).nodup_iff.mpr ids
    have sorted := (List.mergeSort_perm (order.filter kind) first).map (·.id)
    exact (sorted.nodup_iff.mpr (ordered.sublist (List.filter_sublist.map _))).sublist
      ((List.take_sublist _ _).map _)
  · obtain ⟨key, found⟩ :=
      (Table.mem_rows_iff consistent.distinct).mp (all.mem_iff.mp (inside other taken).1)
    exact consistent.own found ▸ found

/-- As many different entries as a batch may have, all of them ahead. -/
structure Full (postroom : Postroom) (entry : OutboxEntry) (size : Nat)
    (batch : List OutboxEntry) : Prop where
  size : batch.length = size
  distinct : (batch.map (·.id)).Nodup
  ahead : ∀ other ∈ batch, other.id ∈ postroom.ahead entry

/-- A failed entry is taken, or the batch is full without it. -/
theorem Consistent.taken (consistent : postroom.Consistent)
    (found : postroom.tables.outbox.find? entry.id = some entry) (failed : entry.status = .failed)
    {order : List OutboxEntry} (all : order.Perm postroom.tables.outbox.rows) (limit : Int) :
    let batch := Tables.takeFirst limit
      ((order.filter fun entry => entry.status == .failed).mergeSort Tables.lessAttemptedFirst)
    entry ∈ batch ∨ postroom.Full entry limit.toNat batch := by
  intro batch
  have listed : entry ∈ order.filter fun entry => entry.status == .failed :=
    List.mem_filter.mpr ⟨all.mem_iff.mpr (Table.mem_rows_of_find? found), beq_iff_eq.mpr failed⟩
  by_cases taken : entry ∈ batch
  · exact Or.inl taken
  obtain ⟨size, before⟩ := Tables.before_of_left_out listed taken
  have isBatch := consistent.batch all limit (fun entry => entry.status == .failed)
    Tables.lessAttemptedFirst
  refine Or.inr ⟨size, isBatch.distinct, fun other inside => ?_⟩
  have isFailed := beq_iff_eq.mp (isBatch.kind other inside)
  exact (mem_ahead consistent).mpr ⟨other, isBatch.stored other inside,
    OutboxEntry.isAhead_iff.mpr ⟨isFailed, before other inside⟩⟩

theorem Consistent.listed_taken (consistent : postroom.Consistent)
    (found : postroom.tables.outbox.find? entry.id = some entry) (failed : entry.status = .failed)
    {limit : Int} {batch : List OutboxEntry}
    (answers : postroom.tables.Answers (.listByStatus .failed limit) (.ok batch)) :
    entry ∈ batch ∨ postroom.Full entry limit.toNat batch := by
  cases answers with
  | listByStatus _ _ all => exact consistent.taken found failed all limit
  | asStored => exact consistent.taken found failed (.refl _) limit

/-- A full batch whose entries are all attempted leaves fewer ahead, by as many as it has. -/
theorem Full.passed {size : Nat} {batch : List OutboxEntry}
    (full : postroom.Full entry size batch) (reachable : postroom.Reachable)
    (run : postroom.Run next) (fresh : next.office.drawn.Nodup)
    (outlasts : postroom.Outlasts next entry)
    (attempted : ∀ other ∈ batch, postroom.Attempted next other.id) :
    (next.ahead entry).length + size ≤ (postroom.ahead entry).length := by
  have shrinks := reachable.ahead run fresh outlasts
  have consistent := ((Run.reachable run reachable).sound fresh).outbox
  have apart : (next.ahead entry ++ batch.map (·.id)).Nodup := by
    refine List.nodup_append.mpr ⟨ahead_nodup consistent, full.distinct, ?_⟩
    rintro id inside _ given rfl
    obtain ⟨other, inBatch, rfl⟩ := List.mem_map.mp given
    exact (shrinks _ inside).2 (attempted other inBatch)
  have inside : next.ahead entry ++ batch.map (·.id) ⊆ postroom.ahead entry := by
    intro id listed
    rcases List.mem_append.mp listed with still | given
    · exact (shrinks id still).1
    · obtain ⟨other, inBatch, rfl⟩ := List.mem_map.mp given
      exact full.ahead other inBatch
  calc (next.ahead entry).length + size
      = (next.ahead entry ++ batch.map (·.id)).length := by
        rw [List.length_append, List.length_map, full.size]
    _ ≤ (postroom.ahead entry).length := apart.length_le_of_subset inside

end Postroom

end AccountLedger
