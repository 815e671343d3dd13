import AccountLedger.Proofs.Delivery.Ahead
import AccountLedger.Proofs.Delivery.Lifecycle
import Mathlib.Algebra.Order.Floor.Div
import Mathlib.GroupTheory.GroupAction.Ring

/-!
Sweeps rotate: every failed entry is attempted after as many sweeps as it takes to come to it, even
if all those ahead of it keep failing.
-/

namespace AccountLedger

namespace Postroom

variable {begun postroom next : Postroom} {id : Nat} {entry : OutboxEntry} {size : Nat}
  {policy : SweepPolicy} {sendTimeoutMs : Nat}

/-! ## One sweep -/

/-- What a step means to a courier. -/
inductive Advances (postroom next : Postroom) (id : Nat) (courier : Courier) : Prop
  | still : next.couriers id = some courier → Advances postroom next id courier
  | hosted {request resume answer} : courier.rest = .ask (.host request) resume →
    next = postroom.hosted id courier request resume answer → Advances postroom next id courier
  | tabled {request resume answer} : courier.rest = .ask (.table request) resume →
    postroom.tables.Answers request answer →
    next = postroom.tabled id courier request resume answer → Advances postroom next id courier

theorem Step.advances {courier : Courier} (step : postroom.Step next)
    (known : postroom.couriers id = some courier) : postroom.Advances next id courier := by
  have other : ∀ {there theirs}, there ≠ id →
      (postroom.withCourier there theirs).couriers id = some courier := by
    intro there theirs differs
    exact (Function.update_of_ne differs.symm _ _).trans known
  cases step with
  | ledger step changed => exact .still known
  | @send there job sendTimeoutMs new =>
    refine .still (other ?_)
    rintro rfl
    cases known.symm.trans new
  | @host there theirs request resume answer present asks =>
    by_cases same : there = id
    · subst same
      cases known.symm.trans present
      exact .hosted asks rfl
    · exact .still (other same)
  | @table there theirs request resume answer present asks answers =>
    by_cases same : there = id
    · subst same
      cases known.symm.trans present
      exact .tabled asks answers rfl
    · exact .still (other same)

/-- Whatever a sweep has recorded was attempted since it was begun, and the failed entries that it
was given have this one among them, or are a full batch of others that were ahead of it. -/
structure Toured (begun postroom : Postroom) (entry : OutboxEntry) (size : Nat) (tour : Tour) :
    Prop where
  recorded : ∀ id ∈ tour.recorded, ∀ other, begun.tables.outbox.find? id = some other →
    begun.Attempted postroom id
  failed : ∀ batch, tour.failed = some batch →
    begun.Attempted postroom entry.id ∨ entry ∈ batch ∨ begun.Full entry size batch

theorem Toured.kept {tour later : Tour} (toured : begun.Toured postroom entry size tour)
    (run : begun.Run postroom) (step : postroom.Step next) (recorded : later.recorded = tour.recorded)
    (failed : later.failed = tour.failed) : begun.Toured next entry size later := by
  refine ⟨fun id inside other found => ?_, fun batch given => ?_⟩
  · exact (toured.recorded id (recorded ▸ inside) other found).earlier run (.single step)
  · exact (toured.failed batch (failed ▸ given)).imp_left (Attempted.earlier run (.single step))

/-- What is recorded of an entry that was stored all the time is an attempt. -/
theorem Toured.recording {courier : Courier} {recorded : Uuid} {status : DeliveryStatus}
    {time : Timestamp} {answer : (TableRequest.recordAttempt recorded status time).Answer}
    {resume : (TableRequest.recordAttempt recorded status time).Answer → Program service Round}
    (toured : begun.Toured postroom entry size courier.tour) (reachable : begun.Reachable)
    (run : begun.Run postroom) (fresh : postroom.office.drawn.Nodup)
    (step : postroom.Step (postroom.tabled id courier (.recordAttempt recorded status time) resume
      answer)) :
    begun.Toured (postroom.tabled id courier (.recordAttempt recorded status time) resume answer)
      entry size (courier.tour.after (.table (.recordAttempt recorded status time)) answer) := by
  have kept := toured.kept run step rfl rfl
  refine ⟨fun id inside other stored => ?_, kept.failed⟩
  rcases List.mem_append.mp inside with before | now
  · exact kept.recorded id before other stored
  · cases List.mem_singleton.mp now
    obtain ⟨later, there, _⟩ := reachable.entry_kept run fresh stored
    apply Attempted.later run (.single step)
    refine ⟨⟨recorded, courier.tour.accepted recorded, time⟩, ?_, rfl⟩
    rw [attemptsUntil_of_append rfl]
    show _ ∈ ((postroom.tables.outbox.find? recorded).map _).toList
    rw [there]
    exact List.mem_cons_self

/-- A sweep is under way. -/
def Sweeping (begun postroom : Postroom) (id : Nat) (policy : SweepPolicy) (entry : OutboxEntry) :
    Prop :=
  ∃ courier, postroom.couriers id = some courier ∧ courier.job = .sweep policy ∧
    begun.Toured postroom entry policy.batchSize.toNat courier.tour

section

variable (reachable : begun.Reachable)
  (found : begun.tables.outbox.find? entry.id = some entry) (failed : entry.status = .failed)

include reachable found failed

/-- What a sweep is given is a batch of what has failed by then. -/
theorem listed_toured (run : begun.Run postroom) (fresh : postroom.office.drawn.Nodup)
    (outlasts : begun.Outlasts postroom entry) {limit : Int} {batch : List OutboxEntry}
    (answers : postroom.tables.Answers (.listByStatus .failed limit) (.ok batch)) :
    begun.Attempted postroom entry.id ∨ entry ∈ batch ∨ begun.Full entry limit.toNat batch := by
  rcases reachable.untouched run fresh found with attempted | still
  · exact Or.inl attempted
  · have consistent := ((Run.reachable run reachable).sound fresh).outbox
    refine Or.inr ((consistent.listed_taken still failed answers).imp_right fun full => ?_)
    exact ⟨full.size, full.distinct, fun other inside =>
      (reachable.ahead run fresh outlasts other.id (full.ahead other inside)).1⟩

theorem Sweeping.step (run : begun.Run postroom) (sound : postroom.Sound)
    (fresh : next.office.drawn.Nodup) (outlasts : begun.Outlasts postroom entry)
    (step : postroom.Step next) (sweeping : begun.Sweeping postroom id policy entry) :
    begun.Sweeping next id policy entry := by
  have freshBefore := step.fresh (Run.reachable run reachable) fresh
  obtain ⟨courier, known, job, toured⟩ := sweeping
  cases step.advances known with
  | still same => exact ⟨courier, same, job, toured.kept run step rfl rfl⟩
  | @hosted request resume answer asks same =>
    subst same
    refine ⟨_, Function.update_self .., job, ?_⟩
    cases request <;> exact toured.kept run step rfl rfl
  | @tabled request resume answer asks answers same =>
    subst same
    refine ⟨_, Function.update_self .., job, ?_⟩
    have allowed := ((sound.couriers known).asking asks).1
    rw [job] at allowed
    cases request with
    | listByStatus status limit =>
      obtain ⟨_, sameJob, rfl, rfl⟩ := allowed
      cases sameJob
      cases answer with
      | error error => exact (answers.listed).elim
      | ok batch =>
        have kept := toured.kept run step rfl rfl
        refine ⟨kept.recorded, fun given sameBatch => ?_⟩
        cases sameBatch
        exact (listed_toured reachable found failed run freshBefore outlasts answers).imp_left
          (Attempted.earlier run (.single step))
    | listStale createdBefore limit =>
      cases answer with
      | error error => exact (answers.listed).elim
      | ok batch => exact toured.kept run step rfl rfl
    | recordAttempt recorded status time =>
      exact toured.recording reachable run freshBefore step
    | _ => exact allowed.elim

theorem sweeping (begins : begun.couriers id = some (.sent (.sweep policy) sendTimeoutMs))
    (run : begun.Run postroom) (fresh : postroom.office.drawn.Nodup)
    (outlasts : begun.Outlasts postroom entry) : begun.Sweeping postroom id policy entry := by
  have first : begun.Sweeping begun id policy entry := by
    refine ⟨_, begins, rfl, fun id absurdly => ?_, fun batch absurdly => ?_⟩
    · cases absurdly
    · cases absurdly
  refine reachable.along (begun.Sweeping · id policy entry) run fresh first ?_
  intro before after run sound step _ rest sweeping
  have there := Run.reachable (run.tail step) reachable
  exact sweeping.step reachable found failed run sound (Run.fresh rest there fresh)
    (outlasts.within .refl run (rest.head step)) step

/-- A sweep that comes to its end attempts the entry, or a full batch of others ahead of it. -/
theorem sweep_advances (begins : begun.couriers id = some (.sent (.sweep policy) sendTimeoutMs))
    (run : begun.Run postroom) (fresh : postroom.office.drawn.Nodup)
    (outlasts : begun.Outlasts postroom entry) {courier : Courier}
    {outcome : Except SweepError SweepReport}
    (known : postroom.couriers id = some courier) (back : courier.rest = .done (.inr outcome))
    (inTime : outcome ≠ .error .timeOutOfRange) :
    begun.Attempted postroom entry.id ∨
      (postroom.ahead entry).length + policy.batchSize.toNat ≤ (begun.ahead entry).length := by
  obtain ⟨_, present, _, toured⟩ := sweeping reachable found failed begins run fresh outlasts
  cases known.symm.trans present
  have ended := (((Run.reachable run reachable).sound fresh).couriers known).back back
  cases outcome with
  | error error => exact absurd (congrArg Except.error ended) inTime
  | ok report =>
    obtain ⟨listed, recorded⟩ := ended
    obtain ⟨batch, given⟩ := Option.isSome_iff_exists.mp listed
    have attempted : ∀ other ∈ batch, ∀ stored,
        begun.tables.outbox.find? other.id = some stored → begun.Attempted postroom other.id := by
      intro other inside
      apply toured.recorded
      apply recorded
      rw [Job.given, given]
      exact List.mem_append_left _ inside
    rcases toured.failed batch given with already | inside | full
    · exact Or.inl already
    · exact Or.inl (attempted entry inside entry found)
    · refine Or.inr (full.passed reachable run fresh outlasts fun other inside => ?_)
      have consistent := (reachable.sound (run.fresh reachable fresh)).outbox
      obtain ⟨stored, present, _⟩ := (mem_ahead consistent).mp (full.ahead other inside)
      exact attempted other inside stored present

end

/-! ## One sweep after another -/

/-- One sweep after another, as many as given. Each is over before the next begins, and counts only
if it returned, that is, if it did not run out of the calendar; anything else may go on before,
between and meanwhile. -/
inductive Sweeps (size : Nat) : Nat → Postroom → Postroom → Prop
  | none {first last : Postroom} : first.Run last → Sweeps size 0 first last
  | next {count id : Nat} {first begun last : Postroom} {policy : SweepPolicy} {courier : Courier}
    {outcome : Except SweepError SweepReport} (sendTimeoutMs : Nat) :
    Sweeps size count first begun → begun.couriers id = none → policy.batchSize = size →
    (begun.withCourier id (.sent (.sweep policy) sendTimeoutMs)).Run last →
    last.couriers id = some courier → courier.rest = .done (.inr outcome) →
    outcome ≠ .error .timeOutOfRange → Sweeps size (count + 1) first last

theorem Sweeps.run {count : Nat} (sweeps : Sweeps size count postroom next) :
    postroom.Run next := by
  induction sweeps with
  | none run => exact run
  | next sendTimeoutMs _ new _ run _ _ _ ih => exact (ih.tail (.send _ sendTimeoutMs new)).trans run

/-- With every sweep that does not attempt the entry there are fewer ahead of it. -/
theorem Sweeps.advance {count : Nat} (sweeps : Sweeps size count postroom next)
    (reachable : postroom.Reachable) (fresh : next.office.drawn.Nodup)
    (found : postroom.tables.outbox.find? entry.id = some entry) (failed : entry.status = .failed)
    (outlasts : postroom.Outlasts next entry) :
    postroom.Attempted next entry.id ∨
      (next.ahead entry).length + count * size ≤ (postroom.ahead entry).length := by
  induction sweeps with
  | @none postroom next run =>
    right
    have consistent := ((Run.reachable run reachable).sound fresh).outbox
    have inside : next.ahead entry ⊆ postroom.ahead entry :=
      fun id listed => (reachable.ahead run fresh outlasts id listed).1
    simpa using (ahead_nodup consistent).length_le_of_subset inside
  | @next count id postroom begun next policy courier outcome sendTimeoutMs sweeps new sized run
      known back inTime ih =>
    have sent := Step.send (.sweep policy) sendTimeoutMs new
    have whole := Relation.ReflTransGen.head sent run
    have there := Run.reachable sweeps.run reachable
    have freshBefore := Run.fresh whole there fresh
    rcases ih reachable freshBefore found (outlasts.within .refl sweeps.run whole) with
      attempted | fewer
    · exact Or.inl (attempted.earlier sweeps.run whole)
    rcases reachable.untouched sweeps.run freshBefore found with attempted | still
    · exact Or.inl (attempted.earlier sweeps.run whole)
    rcases sweep_advances (there.tail sent) still failed (Function.update_self ..) run fresh
      (outlasts.within (sweeps.run.tail sent) run .refl) known back inTime with attempted | passed
    · exact Or.inl (attempted.later (sweeps.run.tail sent) run)
    · right
      have ahead : (next.ahead entry).length + size ≤ (begun.ahead entry).length := by
        rw [sized] at passed
        exact passed
      calc (next.ahead entry).length + (count + 1) * size
          = (next.ahead entry).length + size + count * size := by ring
        _ ≤ (begun.ahead entry).length + count * size := Nat.add_le_add_right ahead _
        _ ≤ (postroom.ahead entry).length := fewer

/-- The other failed entries that sweeps take no later than this one. -/
def rivals (postroom : Postroom) (entry : OutboxEntry) : List Uuid :=
  (postroom.ahead entry).filter (· ≠ entry.id)

theorem ahead_length (consistent : postroom.Consistent)
    (found : postroom.tables.outbox.find? entry.id = some entry) (failed : entry.status = .failed) :
    (postroom.ahead entry).length = (postroom.rivals entry).length + 1 := by
  have self : entry.id ∈ postroom.ahead entry := (mem_ahead consistent).mpr
    ⟨entry, found, OutboxEntry.isAhead_iff.mpr ⟨failed, Tables.lessAttemptedFirst_refl entry⟩⟩
  have others : postroom.rivals entry = (postroom.ahead entry).erase entry.id := by
    rw [(ahead_nodup consistent).erase_eq_filter]
    refine List.filter_congr fun id _ => ?_
    by_cases same : id = entry.id <;> simp [same]
  have some := List.length_pos_of_mem self
  rw [others, List.length_erase_of_mem self]
  omega

/-- Whatever the broker answers and whatever is committed or delivered meanwhile, a failed entry is
attempted again after so many sweeps that their batches have room for it and for all other failed
entries that are taken no later, as long as attempts are recorded with times after that of its last
one. A sweep whose age the calendar does not reach back to ends before it has sent anything, and is
not one of them. -/
theorem Reachable.rotation {count : Nat} (reachable : postroom.Reachable) (positive : 1 ≤ size)
    (found : postroom.tables.outbox.find? entry.id = some entry) (failed : entry.status = .failed)
    (sweeps : Sweeps size count postroom next)
    (enough : ((postroom.rivals entry).length + 1) ⌈/⌉ size ≤ count)
    (fresh : next.office.drawn.Nodup)
    (later : ∀ attempt ∈ postroom.attemptsUntil next, ∀ last, entry.lastAttemptAt = some last →
      last.lt attempt.time = true) :
    ∃ after, next.tables.outbox.find? entry.id = some after ∧ entry.attempts < after.attempts := by
  have consistent := (reachable.sound (Run.fresh sweeps.run reachable fresh)).outbox
  have afterwards := ((Run.reachable sweeps.run reachable).sound fresh).outbox
  obtain ⟨after, there, _⟩ := reachable.entry_kept sweeps.run fresh found
  have outlasts : postroom.Outlasts next entry := by
    intro attempt inside
    cases tried : entry.lastAttemptAt with
    | none =>
      have all := consistent.tried found
      cases failed.symm.trans (all.pending_iff.mpr (all.unattempted_iff.mpr tried))
    | some last => exact ⟨last, tried, later attempt inside last tried⟩
  have attempted : postroom.Attempted next entry.id := by
    by_contra unattempted
    have fewer := (sweeps.advance reachable fresh found failed outlasts).resolve_left unattempted
    have still := (reachable.untouched sweeps.run fresh found).resolve_left unattempted
    have before := ahead_length consistent found failed
    have now := ahead_length afterwards still failed
    have room : (postroom.rivals entry).length + 1 ≤ size * count :=
      (ceilDiv_le_iff_le_mul positive).mp enough
    rw [Nat.mul_comm] at room
    omega
  exact ⟨after, there, attempted.counted sweeps.run consistent afterwards found there⟩

/-- The one entry there is has failed, so it is listed among the failed ones. -/
theorem lists_refused (outbox : postroom.tables.outbox = ⟨[(entry.id, entry)]⟩)
    (failed : entry.status = .failed) {limit : Int} (room : 0 < limit) :
    postroom.tables.Answers (.listByStatus .failed limit) (.ok [entry]) := by
  have enough : [entry].length ≤ limit := by
    rw [List.length_singleton]
    omega
  have batch : postroom.tables.listByStatus .failed limit = [entry] := by
    simp [Tables.listByStatus, Table.rows, outbox, failed, Tables.takeFirst_all enough]
  rw [← batch]
  exact .asStored _

theorem lists_no_stale (outbox : postroom.tables.outbox = ⟨[(entry.id, entry)]⟩)
    (failed : entry.status = .failed) (createdBefore : Timestamp) :
    postroom.tables.Answers (.listStale createdBefore 1) (.ok []) := by
  have none : postroom.tables.listStale createdBefore 1 = [] := by
    simp [Tables.listStale, Table.rows, outbox, failed, Tables.isStale, Tables.takeFirst]
  rw [← none]
  exact .asStored _

/-- A sweep of the one entry there is, which the broker accepts. -/
theorem swept_once (outbox : postroom.tables.outbox = ⟨[(entry.id, entry)]⟩)
    (failed : entry.status = .failed) (free : postroom.couriers 0 = none) :
    ∃ next : Postroom, Sweeps 1 1 postroom next ∧
      next.attempts = postroom.attempts ++ [⟨entry.id, true, ⟨1, 0⟩⟩] ∧
      next.office.drawn = postroom.office.drawn := by
  have begun : Run (postroom.withCourier 0 (.sent (.sweep ⟨30000, 1, 60000, 10⟩) 0)) _ := .refl
  have listed := begun.tail
    (@Step.table _ 0 _ _ _ _ rfl rfl (lists_refused outbox failed Int.one_pos))
  have timed := listed.tail (@Step.host _ 0 _ .now _ ⟨1, 0⟩ rfl rfl)
  have noneListed := timed.tail
    (@Step.table _ 0 _ _ _ _ rfl rfl (lists_no_stale outbox failed _))
  have answered := noneListed.tail (@Step.host _ 0 _ (.send entry 0) _ (.ok ()) rfl rfl)
  have dated := answered.tail (@Step.host _ 0 _ .now _ ⟨1, 0⟩ rfl rfl)
  have recorded := dated.tail (@Step.table _ 0 _ _ _ _ rfl rfl (.asStored _))
  have timedAgain := recorded.tail (@Step.host _ 0 _ .now _ ⟨1, 0⟩ rfl rfl)
  refine ⟨_, .next 0 (.none .refl) free rfl timedAgain rfl rfl (by rintro ⟨⟩),
    ?_, rfl⟩
  show postroom.attempts ++ [] ++ [] ++ ((postroom.tables.outbox.find? entry.id).map fun _ =>
    Attempt.mk entry.id (entry.id == entry.id && true) ⟨1, 0⟩).toList = _
  rw [outbox]
  simp [Table.find?, Table.findIn]

/-- The entry that was refused is attempted again by the next sweep, of one entry. -/
theorem refused_retried : ∃ postroom next : Postroom, ∃ entry after : OutboxEntry,
    postroom.Reachable ∧ postroom.tables.outbox.find? entry.id = some entry ∧
    entry.status = .failed ∧ Sweeps 1 1 postroom next ∧
    ((postroom.rivals entry).length + 1) ⌈/⌉ 1 ≤ 1 ∧ next.office.drawn.Nodup ∧
    (∀ attempt ∈ postroom.attemptsUntil next, ∀ last, entry.lastAttemptAt = some last →
      last.lt attempt.time = true) ∧
    next.tables.outbox.find? entry.id = some after ∧ entry.attempts < after.attempts := by
  obtain ⟨posted, refused, _, entry, before, run, fresh, _, _, outbox, same, failed, tried, free⟩ :=
    refused_reachable
  rw [← same] at outbox
  obtain ⟨next, sweeps, attempts, drawn⟩ := swept_once outbox failed free
  have reachable := Run.reachable run before
  have found : refused.tables.outbox.find? entry.id = some entry := by
    rw [outbox]
    exact if_pos rfl
  have alone : refused.rivals entry = [] := by
    apply List.filter_eq_nil_iff.mpr
    intro id inside
    obtain ⟨other, listed, rfl⟩ := List.mem_map.mp inside
    have stored := (List.mem_filter.mp listed).1
    rw [outbox] at stored
    cases List.mem_singleton.mp stored
    simp
  have enough : ((refused.rivals entry).length + 1) ⌈/⌉ 1 ≤ 1 := by
    rw [alone, ceilDiv_one]
    exact Nat.le_refl 1
  have later : ∀ attempt ∈ refused.attemptsUntil next, ∀ last, entry.lastAttemptAt = some last →
      last.lt attempt.time = true := by
    intro attempt inside last known
    rw [attemptsUntil_of_append attempts] at inside
    cases List.mem_singleton.mp inside
    cases tried.symm.trans known
    exact (rfl : Timestamp.lt ⟨0, 0⟩ ⟨1, 0⟩ = true)
  have fresh : next.office.drawn.Nodup := drawn ▸ fresh
  obtain ⟨after, there, more⟩ :=
    reachable.rotation (Nat.le_refl 1) found failed sweeps enough fresh later
  exact ⟨refused, next, entry, after, reachable, found, failed, sweeps, enough, fresh, later, there,
    more⟩

end Postroom

end AccountLedger
