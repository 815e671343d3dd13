import AccountLedger.Memory.Tables
import AccountLedger.Outbox.Delivery
import AccountLedger.Proofs.Sorting
import AccountLedger.Proofs.Timestamp.Instant

/-!
Which pending entries a sweep takes for stuck. As long as the calendar reaches back to the
configured age, these are entries that nobody has tried to deliver and that are older than that, and
a greater age leads to fewer of them. Ages beyond the calendar end the sweep, and ages of 64 bits
and more are replaced by a minute.
-/

namespace AccountLedger

/-! ## Stale entries -/

namespace Tables

variable {tables : Tables} {entry : OutboxEntry} {limit : Int}

theorem isStale_iff {createdBefore : Timestamp} : isStale createdBefore entry = true ↔
    (entry.status = .pending ∧ entry.attempts = 0) ∧ entry.createdAt.lt createdBefore = true := by
  simp [isStale]

theorem olderFirst_trans (a b c : OutboxEntry) (first : olderFirst a b = true)
    (second : olderFirst b c = true) : olderFirst a c = true := by
  unfold olderFirst at *
  rw [Timestamp.le_iff] at *
  omega

theorem olderFirst_total (a b : OutboxEntry) : (olderFirst a b || olderFirst b a) = true := by
  unfold olderFirst
  rw [Bool.or_eq_true, Timestamp.le_iff, Timestamp.le_iff]
  omega

/-- What is listed as created before a time is also listed with a later one: those that are then
listed besides come after it, so the limit does not push it out. -/
theorem listStale_subset {early late : Timestamp} (sooner : early.le late = true) :
    tables.listStale early limit ⊆ tables.listStale late limit := by
  let keep : OutboxEntry → Bool := fun entry => entry.createdAt.lt early
  rw [Timestamp.le_iff] at sooner
  have fewer : tables.outbox.rows.filter (isStale early) =
      (tables.outbox.rows.filter (isStale late)).filter keep := by
    rw [List.filter_filter]
    refine List.filter_congr fun entry _ => ?_
    have soonerStale : entry.createdAt.lt early = true → entry.createdAt.lt late = true := by
      rw [Timestamp.lt_iff, Timestamp.lt_iff]
      omega
    rw [Bool.eq_iff_iff, Bool.and_eq_true, isStale_iff, isStale_iff]
    constructor
    · rintro ⟨untried, old⟩
      exact ⟨old, untried, soonerStale old⟩
    · rintro ⟨old, untried, _⟩
      exact ⟨untried, old⟩
  have closed : ∀ a b, olderFirst a b = true → keep b = true → keep a = true := by
    intro a b older early
    unfold olderFirst at older
    dsimp only [keep] at *
    rw [Timestamp.le_iff] at older
    rw [Timestamp.lt_iff] at *
    omega
  have sorted := List.pairwise_mergeSort olderFirst_trans olderFirst_total
    (tables.outbox.rows.filter (isStale late))
  obtain ⟨besides, whole⟩ := filter_isPrefix sorted closed
  rw [filter_mergeSort olderFirst_trans olderFirst_total, ← fewer] at whole
  intro entry listed
  rw [listStale, takeFirst, ← whole, List.take_append]
  exact List.mem_append_left _ listed

theorem of_mem_listStale {createdBefore : Timestamp}
    (listed : entry ∈ tables.listStale createdBefore limit) :
    entry ∈ tables.outbox.rows ∧ isStale createdBefore entry = true :=
  List.mem_filter.mp (List.mem_mergeSort.mp (List.mem_of_mem_take listed))

end Tables

/-! ## Cutoffs -/

namespace SweepPolicy

variable {policy : SweepPolicy} {now : Timestamp}

theorem staleBefore?_of_reaches (clock : now.Civil) (reaches : now.Reaches policy.staleMs) :
    policy.staleBefore? now = some (now.back policy.staleMs) := by
  have short := clock.lt_of_reaches reaches
  have within : policy.staleMs ≤ maxAgeMs := by
    unfold maxAgeMs
    omega
  unfold staleBefore?
  rw [if_pos within]
  exact if_pos reaches

theorem staleBefore?_of_not_reaches (within : policy.staleMs ≤ maxAgeMs)
    (beyond : ¬ now.Reaches policy.staleMs) : policy.staleBefore? now = none := by
  unfold staleBefore?
  rw [if_pos within]
  exact if_neg beyond

/-- The policy with another age of stuck entries. -/
def withAge (policy : SweepPolicy) (staleMs : Nat) : SweepPolicy := { policy with staleMs }

theorem staleBefore?_of_long (long : maxAgeMs < policy.staleMs) :
    policy.staleBefore? now = (policy.withAge 60000).staleBefore? now := by
  unfold staleBefore?
  rw [if_neg (Nat.not_le.mpr long)]
  rfl

end SweepPolicy

/-- Every number of seconds that 64 bits can count is accepted as the age. -/
theorem accepted_age {text : String} {seconds : Nat}
    (read : Settings.word64? (Text.trim text.toList) = some seconds) : ∃ settings,
      Settings.ofEnvironment [("OUTBOX_STALE_PENDING_SECS", text)] = .ok settings ∧
        settings.sweepPolicy = SweepPolicy.default.withAge (seconds * 1000) := by
  have accepted : Settings.parsedOr [("OUTBOX_STALE_PENDING_SECS", text)]
      "OUTBOX_STALE_PENDING_SECS" Settings.word64? 60 = .ok seconds := by
    simp [Settings.parsedOr, List.lookup_cons_self, read]
  unfold Settings.ofEnvironment
  rw [accepted]
  exact ⟨_, rfl, rfl⟩

/-! ## Sweeps -/

/-- What a sweep meets with, by the number of its question: what its host answers, and the tables
as others have left them by then. -/
structure Circumstances where
  host : Nat → (request : HostRequest) → request.Answer
  tables : Nat → Tables

/-- How far a sweep has come: its questions so far, and the entries it has sent. -/
structure Progress where
  questions : Nat
  sent : List OutboxEntry

namespace Progress

def start : Progress := ⟨0, []⟩

/-- The progress after one more question to the host. -/
def after (progress : Progress) : HostRequest → Progress
  | .send entry _ => ⟨progress.questions + 1, progress.sent ++ [entry]⟩
  | _ => { progress with questions := progress.questions + 1 }

end Progress

namespace Circumstances

variable (around : Circumstances)

/-- The answer to a sweep; none where a unit of work is asked for. -/
def answer : (request : ServiceRequest) → StateT Progress Option request.Answer
  | .host request => fun progress =>
    some (around.host progress.questions request, progress.after request)
  | .table request => fun progress =>
    some (((around.tables progress.questions).answer request).1,
      { progress with questions := progress.questions + 1 })
  | .unit _ => fun _ => none

def run (progress : Progress) (program : Program service α) : Option (α × Progress) :=
  program.interpret around.answer progress

/-- The time that the clock shows to a sweep. -/
def now : Timestamp := around.host 1 .now

/-- The failed entries that a sweep is given. -/
def failed (policy : SweepPolicy) : List OutboxEntry :=
  (around.tables 0).listByStatus .failed policy.batchSize

/-- The pending entries that are older than the policy's age when the sweep asks for them, as many
as it takes. -/
def stale (policy : SweepPolicy) : List OutboxEntry :=
  (around.tables 2).listStale (around.now.back policy.staleMs) policy.batchSize

/-- A sweep comes to its end with a report, and has sent these entries. -/
def Sends (policy : SweepPolicy) (sendTimeoutMs : Nat) (entries : List OutboxEntry) : Prop :=
  ∃ report questions, around.run .start (sweep policy sendTimeoutMs).run =
    some (.ok report, ⟨questions, entries⟩)

variable {around} {policy : SweepPolicy} {sendTimeoutMs : Nat} {progress later : Progress}

theorem run_ok {α β : Type} {program : ExceptT SweepError (Program service) α} {value : α}
    (first : around.run progress program.run = some (.ok value, later))
    (next : α → ExceptT SweepError (Program service) β) :
    around.run progress (program >>= next).run = around.run later (next value).run :=
  Program.interpret_bind_of_some first _

theorem run_lift {α : Type} {program : Program service α} {value : α}
    (first : around.run progress program = some (value, later)) :
    around.run progress (ExceptT.lift program : ExceptT SweepError (Program service) α).run =
      some (.ok value, later) :=
  Program.interpret_bind_of_some first _

theorem deliver_run (entry : OutboxEntry) : ∃ outcome,
    around.run progress (entry.deliver sendTimeoutMs) =
      some (outcome, ⟨progress.questions + 3, progress.sent ++ [entry]⟩) :=
  ⟨_, rfl⟩

/-- Every entry is sent, in their order. -/
theorem deliverAll_run (report : SweepReport) (entries : List OutboxEntry) : ∃ final questions,
    around.run progress (deliverAll sendTimeoutMs report entries) =
      some (final, ⟨questions, progress.sent ++ entries⟩) := by
  induction entries generalizing report progress with
  | nil => exact ⟨report, progress.questions, by rw [List.append_nil]; rfl⟩
  | cons entry rest ih =>
    obtain ⟨outcome, delivered⟩ := @deliver_run around sendTimeoutMs progress entry
    obtain ⟨final, questions, ran⟩ := @ih
      ⟨progress.questions + 3, progress.sent ++ [entry]⟩ (report.add entry outcome)
    refine ⟨final, questions, (Program.interpret_bind_of_some delivered _).trans ?_⟩
    rw [List.append_assoc] at ran
    exact ran

/-- With a cutoff all failed and stuck entries are sent, without one nothing is. -/
theorem sweep_run (policy : SweepPolicy) (sendTimeoutMs : Nat) :
    match policy.staleBefore? around.now with
    | some before => around.Sends policy sendTimeoutMs
        (around.failed policy ++ (around.tables 2).listStale before policy.batchSize)
    | none => around.run .start (sweep policy sendTimeoutMs).run =
        some (.error .timeOutOfRange, ⟨2, []⟩) := by
  have listed : around.run .start (TableRequest.listByStatus .failed policy.batchSize).perform =
      some (.ok (around.failed policy), ⟨1, []⟩) := rfl
  have clock : around.run ⟨1, []⟩ HostRequest.now.perform = some (around.now, ⟨2, []⟩) := rfl
  have begins : around.run .start (sweep policy sendTimeoutMs).run = around.run ⟨2, []⟩ _ :=
    (run_ok (run_lift listed) _).trans (run_ok (run_lift clock) _)
  cases cutoff : policy.staleBefore? around.now with
  | none =>
    rw [cutoff] at begins
    exact begins
  | some before =>
    have stuck : around.run ⟨2, []⟩ (TableRequest.listStale before policy.batchSize).perform =
        some (.ok ((around.tables 2).listStale before policy.batchSize), ⟨3, []⟩) := rfl
    obtain ⟨report, questions, delivered⟩ := @deliverAll_run around sendTimeoutMs ⟨3, []⟩ .empty
      (around.failed policy ++ (around.tables 2).listStale before policy.batchSize)
    have ends : ∀ entries, around.run ⟨questions, entries⟩ HostRequest.now.perform =
        some (around.host questions .now, ⟨questions + 1, entries⟩) := fun _ => rfl
    rw [cutoff] at begins
    exact ⟨_, _, begins.trans ((run_ok (run_lift stuck) _).trans
      ((run_ok (run_lift delivered) _).trans (run_ok (run_lift (ends _)) _)))⟩

/-! ## The threshold -/

section

variable (clock : around.now.Civil)
include clock

theorem sends_of_reaches (reaches : around.now.Reaches policy.staleMs) (sendTimeoutMs : Nat) :
    around.Sends policy sendTimeoutMs (around.failed policy ++ around.stale policy) := by
  have ran := @sweep_run around policy sendTimeoutMs
  rw [SweepPolicy.staleBefore?_of_reaches clock reaches] at ran
  exact ran

theorem of_mem_stale {entry : OutboxEntry} (listed : entry ∈ around.stale policy) :
    entry ∈ (around.tables 2).outbox.rows ∧ entry.status = .pending ∧ entry.attempts = 0 ∧
      entry.createdAt.instant + (policy.staleMs * 1000000 : Nat) < around.now.instant := by
  obtain ⟨stored, old⟩ := Tables.of_mem_listStale listed
  obtain ⟨⟨pending, untried⟩, earlier⟩ := Tables.isStale_iff.mp old
  have before := Timestamp.instant_lt (Timestamp.addNanos_nanos _ _) earlier
  rw [← Timestamp.back, clock.back_instant] at before
  exact ⟨stored, pending, untried, lt_sub_iff_add_lt.mp before⟩

theorem stale_subset {shorter : Nat} (less : shorter ≤ policy.staleMs) :
    around.stale policy ⊆ around.stale (policy.withAge shorter) :=
  Tables.listStale_subset (clock.back_le less)

end

theorem of_mem_failed {entry : OutboxEntry} (listed : entry ∈ around.failed policy) :
    entry.status = .failed := by
  have kept := List.mem_mergeSort.mp (List.mem_of_mem_take listed)
  exact eq_of_beq (List.mem_filter.mp kept).2

/-- Which entries a sweep sends. If the calendar reaches back to the configured age, these are the
failed entries and pending ones that nobody has tried to deliver and that are older than that, and
with a smaller age they are sent as well. If it does not reach that far the sweep ends with nothing
sent, but an age of 64 bits or more counts as a minute. -/
theorem stale_threshold (policy : SweepPolicy) (sendTimeoutMs : Nat) (clock : around.now.Civil) :
    (around.now.Reaches policy.staleMs →
      around.Sends policy sendTimeoutMs (around.failed policy ++ around.stale policy) ∧
      (∀ entry ∈ around.failed policy, entry.status = .failed) ∧
      (∀ entry ∈ around.stale policy, entry.status = .pending ∧ entry.attempts = 0 ∧
        entry.createdAt.instant + (policy.staleMs * 1000000 : Nat) < around.now.instant) ∧
      ∀ shorter ≤ policy.staleMs,
        around.Sends (policy.withAge shorter) sendTimeoutMs
          (around.failed policy ++ around.stale (policy.withAge shorter)) ∧
        around.stale policy ⊆ around.stale (policy.withAge shorter)) ∧
    (policy.staleMs ≤ SweepPolicy.maxAgeMs → ¬ around.now.Reaches policy.staleMs →
      around.run .start (sweep policy sendTimeoutMs).run =
        some (.error .timeOutOfRange, ⟨2, []⟩)) ∧
    (SweepPolicy.maxAgeMs < policy.staleMs →
      sweep policy sendTimeoutMs = sweep (policy.withAge 60000) sendTimeoutMs) := by
  refine ⟨fun reaches => ⟨sends_of_reaches clock reaches sendTimeoutMs, fun _ => of_mem_failed,
    fun entry listed => (of_mem_stale clock listed).2, fun shorter less => ⟨?_, ?_⟩⟩,
    fun within beyond => ?_, fun long => ?_⟩
  · have nearer : around.now.Reaches (policy.withAge shorter).staleMs :=
      clock.reaches_of_le less reaches
    exact sends_of_reaches clock nearer sendTimeoutMs
  · exact stale_subset clock less
  · have ran := @sweep_run around policy sendTimeoutMs
    rw [SweepPolicy.staleBefore?_of_not_reaches within beyond] at ran
    exact ran
  · unfold sweep
    simp only [SweepPolicy.staleBefore?_of_long long]
    rfl

/-! ## An entry that waits -/

/-- An entry that is there from the start of 1970 on. -/
def waiting : OutboxEntry where
  id := .nil
  aggregate := .nil
  eventKind := "FundsDeposited"
  topic := "transaction-events"
  payload := "{}"
  status := .pending
  attempts := 0
  createdAt := ⟨0, 0⟩
  lastAttemptAt := none

/-- So many seconds later, with a broker that accepts everything. -/
def afterwards (seconds : Int) : Circumstances where
  host _
    | .freshId => .nil
    | .now => ⟨seconds, 0⟩
    | .drawSuffix => .ofNat 0
    | .pause _ => ()
    | .send .. => .ok ()
    | .dispatch _ => ()
  tables _ := { Tables.empty with outbox := ⟨[(waiting.id, waiting)]⟩ }

theorem afterwards_stale (seconds : Int) {limit : Int} (some : 0 < limit) (before : Timestamp) :
    ((afterwards seconds).tables 2).listStale before limit =
      if waiting.createdAt.lt before then [waiting] else [] := by
  have rows : ((afterwards seconds).tables 2).outbox.rows = [waiting] := rfl
  have untried : Tables.isStale before waiting = waiting.createdAt.lt before := rfl
  have room : limit.toNat = limit.toNat - 1 + 1 := by omega
  unfold Tables.listStale Tables.takeFirst
  rw [rows, List.filter_cons, untried, List.filter_nil, room]
  split <;> simp

theorem afterwards_sends {seconds : Int} {policy : SweepPolicy} {before : Timestamp}
    (cutoff : policy.staleBefore? (afterwards seconds).now = some before)
    (some : 0 < policy.batchSize) (sendTimeoutMs : Nat) :
    (afterwards seconds).Sends policy sendTimeoutMs
      (if waiting.createdAt.lt before then [waiting] else []) := by
  have none : (afterwards seconds).failed policy = [] := by
    simp [failed, Tables.listByStatus, Tables.takeFirst, afterwards, Table.rows, waiting]
  have ran := @sweep_run (afterwards seconds) policy sendTimeoutMs
  rw [cutoff] at ran
  rw [← afterwards_stale seconds some, ← List.nil_append (Tables.listStale _ _ _), ← none]
  exact ran

/-- After 61 seconds an age of a minute is reached, and so is one of half a minute. -/
theorem stale_threshold_minute :
    (afterwards 61).now.Civil ∧ (afterwards 61).now.Reaches SweepPolicy.default.staleMs ∧
      waiting ∈ (afterwards 61).stale .default ∧
      waiting.createdAt.instant + 60000 * 1000000 < (afterwards 61).now.instant ∧
      waiting ∈ (afterwards 61).stale (SweepPolicy.default.withAge 30000) := by
  have clock : (afterwards 61).now.Civil := ⟨by decide, by decide⟩
  have reaches : (afterwards 61).now.Reaches SweepPolicy.default.staleMs := by
    unfold Timestamp.Reaches
    decide
  obtain ⟨_, _, old, younger⟩ := (stale_threshold .default 5000 clock).1 reaches
  have listed : waiting ∈ (afterwards 61).stale .default := by
    have stale : (afterwards 61).stale .default = [waiting] := afterwards_stale 61 (by decide) _
    rw [stale]
    exact List.mem_cons_self
  exact ⟨clock, reaches, listed, (old waiting listed).2.2, (younger 30000 (by decide)).2 listed⟩

/-- Two ages that the settings accept. With ten trillion seconds every sweep ends without having
sent anything. With the most seconds that 64 bits can count an entry of 61 seconds is sent again,
which a sweep with an age of 62 seconds leaves alone. -/
theorem accepted_age_missed :
    (∃ settings, Settings.ofEnvironment [("OUTBOX_STALE_PENDING_SECS", "10000000000000")] =
        .ok settings ∧
      (afterwards 61).run .start (sweep settings.sweepPolicy settings.sendTimeoutMs).run =
        some (.error .timeOutOfRange, ⟨2, []⟩)) ∧
    ∃ settings, Settings.ofEnvironment [("OUTBOX_STALE_PENDING_SECS", "18446744073709551615")] =
        .ok settings ∧
      (afterwards 61).Sends settings.sweepPolicy settings.sendTimeoutMs [waiting] ∧
      (afterwards 61).now.instant ≤
        waiting.createdAt.instant + (settings.sweepPolicy.staleMs * 1000000 : Nat) ∧
      (afterwards 61).Sends (settings.sweepPolicy.withAge 62000) settings.sendTimeoutMs [] := by
  constructor
  · obtain ⟨settings, accepted, policy⟩ :=
      @accepted_age "10000000000000" 10000000000000 (by decide)
    have ran := @sweep_run (afterwards 61) settings.sweepPolicy settings.sendTimeoutMs
    have none : settings.sweepPolicy.staleBefore? (afterwards 61).now = none := by
      rw [policy]
      decide
    rw [none] at ran
    exact ⟨settings, accepted, ran⟩
  · obtain ⟨settings, accepted, policy⟩ :=
      @accepted_age "18446744073709551615" 18446744073709551615 (by decide)
    refine ⟨settings, accepted, ?_⟩
    rw [policy]
    have minute : (SweepPolicy.default.withAge (18446744073709551615 * 1000)).staleBefore?
        (afterwards 61).now = some ⟨1, 0⟩ := by decide +kernel
    have longer : (SweepPolicy.default.withAge 62000).staleBefore? (afterwards 61).now =
        some ⟨-1, 0⟩ := by decide +kernel
    have some : 0 < SweepPolicy.default.batchSize := by decide
    exact ⟨afterwards_sends minute some _, by decide +kernel, afterwards_sends longer some _⟩

end Circumstances

end AccountLedger
