import AccountLedger.Memory.Tables
import AccountLedger.Outbox.Delivery
import AccountLedger.Proofs.Ensures

/-!
What a sweep has to tell when it comes back. If the entries that it is given are stored and none is
given twice, it sends each of them to the broker once, in their order, and reports of each whether
it was sent by the time that its attempt was recorded.
-/

namespace AccountLedger

namespace SweepReport

/-- The report after deliveries that have left these statuses. -/
def addAll (report : SweepReport) (done : List (OutboxEntry × DeliveryStatus)) : SweepReport :=
  done.foldl (fun report one => report.add one.1 (.ok one.2)) report

/-- Every delivery is counted, as sent if the entry is sent after it. -/
theorem addAll_eq (report : SweepReport) (done : List (OutboxEntry × DeliveryStatus)) :
    report.addAll done = { report with
      attempted := report.attempted + done.length
      sent := report.sent + done.countP (·.2 = .sent)
      failed := report.failed + done.countP (·.2 ≠ .sent) } := by
  induction done generalizing report with
  | nil => rfl
  | cons one rest ih =>
    obtain ⟨entry, status⟩ := one
    show (report.add entry (.ok status)).addAll rest = _
    rw [ih]
    cases status <;> simp [SweepReport.add] <;> omega

end SweepReport

/-- A question, the answer to it, and the tables right after it. -/
structure Moment where
  request : ServiceRequest
  answer : request.Answer
  tables : Tables

namespace Moment

/-- The failed entries that were listed. -/
def failed : Moment → List OutboxEntry
  | ⟨.table (.listByStatus ..), .ok entries, _⟩ => entries
  | _ => []

/-- The stale entries that were listed. -/
def stale : Moment → List OutboxEntry
  | ⟨.table (.listStale ..), .ok entries, _⟩ => entries
  | _ => []

/-- What was asked for when entries were listed. -/
def listing? : Moment → Option TableRequest
  | ⟨.table (.listByStatus status limit), _, _⟩ => some (.listByStatus status limit)
  | ⟨.table (.listStale createdBefore limit), _, _⟩ => some (.listStale createdBefore limit)
  | _ => none

/-- The entry that was sent to the broker. -/
def sent? : Moment → Option OutboxEntry
  | ⟨.host (.send entry _), _, _⟩ => some entry
  | _ => none

/-- The entry whose attempt was recorded, and its status then. -/
def noted? : Moment → Option (Uuid × DeliveryStatus)
  | ⟨.table (.recordAttempt id _ _), _, tables⟩ =>
    (tables.outbox.find? id).map fun entry => (id, entry.status)
  | _ => none

/-- The time that the clock has shown. -/
def clock? : Moment → Option Timestamp
  | ⟨.host .now, time, _⟩ => some time
  | _ => none

end Moment

/-- All that was exchanged with a courier, in its order. -/
abbrev Diary : Type := List Moment

namespace Diary

/-- All entries that were listed to be delivered again. -/
def given (diary : Diary) : List OutboxEntry :=
  diary.flatMap Moment.failed ++ diary.flatMap Moment.stale

/-- What may be answered after what was exchanged before. Lists are no longer than asked for and
without repetition, no entry that had failed is pending later, and entries that were listed are
still stored. -/
def Honest (diary : Diary) : Moment → Prop
  | ⟨.table (.listByStatus status limit), answer, _⟩ =>
    ∃ batch : List OutboxEntry, answer = .ok batch ∧ batch.length ≤ limit.toNat ∧
      (batch.map (·.id)).Nodup ∧ ∀ entry ∈ batch, entry.status = status
  | ⟨.table (.listStale createdBefore limit), answer, _⟩ =>
    ∃ batch : List OutboxEntry, answer = .ok batch ∧ batch.length ≤ limit.toNat ∧
      (batch.map (·.id)).Nodup ∧ ∀ entry ∈ batch, Tables.isStale createdBefore entry = true ∧
        entry.id ∉ (diary.flatMap Moment.failed).map (·.id)
  | ⟨.table (.recordAttempt id _ _), answer, tables⟩ =>
    id ∈ diary.given.map (·.id) → ∃ updated : OutboxEntry, answer = .ok updated ∧
      tables.outbox.find? id = some updated
  | _ => True

/-- What a sweep with batches of this size asks for. -/
def Asks (batchSize : Int) : ServiceRequest → Prop
  | .table (.listByStatus status limit) => status = .failed ∧ limit = batchSize
  | .table (.listStale _ limit) => limit = batchSize
  | .table (.recordAttempt ..) => True
  | .host (.send ..) => True
  | .host .now => True
  | _ => False

/-- How often a sweep asks at most: three times for what it has to deliver, three times for each
entry of its two batches, and once for the time at the end. -/
def limit (batchSize : Int) : Nat := 4 + 6 * batchSize.toNat

/-- What a sweep may ask for, and how the answer is added to its diary. -/
def rule (batchSize : Int) : RequestRule service Diary := fun request diary result =>
  (diary.length < limit batchSize ∧ Asks batchSize request) ∧
    ∀ answer tables, diary.Honest ⟨request, answer, tables⟩ →
      result answer (diary ++ [⟨request, answer, tables⟩])

theorem rule_monotone (batchSize : Int) : (rule batchSize).Monotone :=
  fun _ _ _ _ weaker => And.imp_right fun after answer tables honest =>
    weaker _ _ (after answer tables honest)

/-! ## Deliveries -/

/-- These entries were delivered, and had these statuses when their attempts were recorded. -/
structure Delivers (more : Diary) (done : List (OutboxEntry × DeliveryStatus)) : Prop where
  length : more.length = 3 * done.length
  failed : more.flatMap Moment.failed = []
  stale : more.flatMap Moment.stale = []
  listings : more.filterMap Moment.listing? = []
  sent : more.filterMap Moment.sent? = done.map (·.1)
  noted : more.filterMap Moment.noted? = done.map fun one => (one.1.id, one.2)

variable {more others diary : Diary} {done theirs : List (OutboxEntry × DeliveryStatus)}
  {batchSize : Int} {entry : OutboxEntry} {sendTimeoutMs : Nat}

theorem delivers_nil : Delivers [] [] := ⟨rfl, rfl, rfl, rfl, rfl, rfl⟩

theorem Delivers.append (first : Delivers more done) (second : Delivers others theirs) :
    Delivers (more ++ others) (done ++ theirs) := by
  refine ⟨?_, ?_, ?_, ?_, ?_, ?_⟩
  · rw [List.length_append, List.length_append, first.length, second.length]
    omega
  · rw [List.flatMap_append, first.failed, second.failed, List.append_nil]
  · rw [List.flatMap_append, first.stale, second.stale, List.append_nil]
  · rw [List.filterMap_append, first.listings, second.listings, List.append_nil]
  · rw [List.filterMap_append, List.map_append, first.sent, second.sent]
  · rw [List.filterMap_append, List.map_append, first.noted, second.noted]

theorem Delivers.given (delivers : Delivers more done) : given (diary ++ more) = diary.given := by
  rw [Diary.given, Diary.given, List.flatMap_append, List.flatMap_append, delivers.failed,
    delivers.stale, List.append_nil, List.append_nil]

/-- An entry that was given is sent, and its attempt is recorded. -/
theorem deliver_ensures (room : diary.length + 3 ≤ limit batchSize)
    (listed : entry.id ∈ diary.given.map (·.id)) :
    (entry.deliver sendTimeoutMs).Ensures (rule batchSize) diary fun outcome later =>
      ∃ status more, outcome = .ok status ∧ later = diary ++ more ∧
        Delivers more [(entry, status)] := by
  refine ⟨⟨by omega, trivial⟩, fun sent before _ => ⟨⟨?_, trivial⟩, fun now between _ =>
    ⟨⟨?_, trivial⟩, fun updated after honest => ?_⟩⟩⟩
  · rw [List.length_append, List.length_singleton]
    omega
  · rw [List.length_append, List.length_append, List.length_singleton, List.length_singleton]
    omega
  · have known : entry.id ∈ (Diary.given (diary ++
        [⟨.host (.send entry sendTimeoutMs), sent, before⟩] ++
        [⟨.host .now, now, between⟩])).map (·.id) := by
      simpa [Diary.given, Moment.failed, Moment.stale] using listed
    obtain ⟨stored, rfl, found⟩ := honest known
    refine ⟨stored.status, _, rfl, (List.append_assoc _ _ _).trans (List.append_assoc _ _ _), rfl,
      rfl, rfl, rfl, rfl, ?_⟩
    simp [List.filterMap_cons, Moment.noted?, found]

/-- All of the entries are sent, one after another. -/
theorem deliverAll_ensures (report : SweepReport) {entries : List OutboxEntry}
    (room : diary.length + 3 * entries.length ≤ limit batchSize)
    (listed : ∀ entry ∈ entries, entry.id ∈ diary.given.map (·.id)) :
    (deliverAll sendTimeoutMs report entries).Ensures (rule batchSize) diary fun final later =>
      ∃ done more, done.map (·.1) = entries ∧ final = report.addAll done ∧ later = diary ++ more ∧
        Delivers more done := by
  induction entries generalizing report diary with
  | nil => exact ⟨[], [], rfl, rfl, (List.append_nil _).symm, delivers_nil⟩
  | cons entry rest ih =>
    rw [List.length_cons] at room
    apply (Program.ensures_bind _ _ _ _).mpr
    refine Program.Ensures.imp (rule_monotone batchSize) ?_
      (deliver_ensures (by omega) (listed entry List.mem_cons_self))
    rintro outcome later ⟨status, more, rfl, rfl, delivers⟩
    have length := delivers.length
    refine Program.Ensures.imp (rule_monotone batchSize) ?_
      (ih (report.add entry (.ok status)) ?_ ?_)
    · rintro final last ⟨done, others, rfl, rfl, rfl, delivered⟩
      exact ⟨(entry, status) :: done, more ++ others, rfl, rfl, List.append_assoc _ _ _,
        delivers.append delivered⟩
    · rw [List.length_append, length, List.length_singleton]
      omega
    · intro other inside
      rw [delivers.given]
      exact listed other (List.mem_cons_of_mem _ inside)

/-! ## The sweep -/

/-- What a sweep that comes back with this report has done: it has listed failed and stale entries
once, and sent all that it was given. -/
structure Accounts (policy : SweepPolicy) (diary : Diary) (report : SweepReport) : Prop where
  attempted : report.attempted = diary.given.length
  counted : report.sent + report.failed = report.attempted
  errors : report.errors = []
  failedBatch : (diary.flatMap Moment.failed).length ≤ policy.batchSize.toNat
  staleBatch : (diary.flatMap Moment.stale).length ≤ policy.batchSize.toNat
  failed : ∀ entry ∈ diary.flatMap Moment.failed, entry.status = .failed
  stale : ∃ now before, (diary.filterMap Moment.clock?).head? = some now ∧
    policy.staleBefore? now = some before ∧
    diary.filterMap Moment.listing? =
      [.listByStatus .failed policy.batchSize, .listStale before policy.batchSize] ∧
    ∀ entry ∈ diary.flatMap Moment.stale, Tables.isStale before entry = true
  once : (diary.given.map (·.id)).Nodup
  completed : (diary.filterMap Moment.clock?).getLast? = some report.completedAt
  sends : diary.filterMap Moment.sent? = diary.given
  notes : (diary.filterMap Moment.noted?).map (·.1) = diary.given.map (·.id)
  sent : report.sent = (diary.filterMap Moment.noted?).countP (·.2 = .sent)

/-- How a sweep may come back: with such a report, or before it has sent anything, if the calendar
does not reach back to the configured age. -/
def Ended (policy : SweepPolicy) (diary : Diary) : Except SweepError SweepReport → Prop
  | .ok report => Accounts policy diary report
  | .error error => error = .timeOutOfRange ∧ diary.filterMap Moment.sent? = [] ∧
    ∃ now, (diary.filterMap Moment.clock?).head? = some now ∧ policy.staleBefore? now = none

/-- What is exchanged with a sweep before it delivers anything. -/
def listing (batchSize : Int) (failed stale : List OutboxEntry) (before now : Timestamp)
    (first second third : Tables) : Diary :=
  [⟨.table (.listByStatus .failed batchSize), .ok failed, first⟩, ⟨.host .now, now, second⟩,
    ⟨.table (.listStale before batchSize), .ok stale, third⟩]

theorem listing_given (batchSize : Int) (failed stale : List OutboxEntry) (before now : Timestamp)
    (first second third : Tables) :
    (listing batchSize failed stale before now first second third).given = failed ++ stale := by
  simp [listing, given, Moment.failed, Moment.stale]

/-- What a sweep may count on when it begins to deliver. -/
structure Lists (policy : SweepPolicy) (listing : Diary) : Prop where
  length : listing.length = 3
  failedBatch : (listing.flatMap Moment.failed).length ≤ policy.batchSize.toNat
  staleBatch : (listing.flatMap Moment.stale).length ≤ policy.batchSize.toNat
  failed : ∀ entry ∈ listing.flatMap Moment.failed, entry.status = .failed
  stale : ∃ now before, listing.filterMap Moment.clock? = [now] ∧
    policy.staleBefore? now = some before ∧
    listing.filterMap Moment.listing? =
      [.listByStatus .failed policy.batchSize, .listStale before policy.batchSize] ∧
    ∀ entry ∈ listing.flatMap Moment.stale, Tables.isStale before entry = true
  once : (listing.given.map (·.id)).Nodup
  unsent : listing.filterMap Moment.sent? = []
  unnoted : listing.filterMap Moment.noted? = []

/-- The two lists have no entry in common. -/
theorem lists_of_honest {policy : SweepPolicy} {failed stale : List OutboxEntry}
    {now before : Timestamp} {first second third : Tables}
    (cutoff : policy.staleBefore? now = some before)
    (failedBatch : failed.length ≤ policy.batchSize.toNat)
    (failedOnce : (failed.map (·.id)).Nodup) (failedEach : ∀ entry ∈ failed, entry.status = .failed)
    (staleBatch : stale.length ≤ policy.batchSize.toNat)
    (staleOnce : (stale.map (·.id)).Nodup)
    (staleEach : ∀ entry ∈ stale, Tables.isStale before entry = true ∧
      entry.id ∉ failed.map (·.id)) :
    Lists policy (listing policy.batchSize failed stale before now first second third) := by
  refine ⟨rfl, ?_, ?_, ?_, ⟨now, before, rfl, cutoff, rfl, ?_⟩, ?_, rfl, rfl⟩
  · simpa [listing, Moment.failed] using failedBatch
  · simpa [listing, Moment.stale] using staleBatch
  · simpa [listing, Moment.failed] using failedEach
  · simpa [listing, Moment.stale] using fun entry inside => (staleEach entry inside).1
  · have apart : (failed.map (·.id) ++ stale.map (·.id)).Nodup := by
      refine List.nodup_append.mpr ⟨failedOnce, staleOnce, ?_⟩
      rintro _ given id listed rfl
      obtain ⟨entry, inside, same⟩ := List.mem_map.mp listed
      exact (staleEach entry inside).2 (same ▸ given)
    rw [listing_given, List.map_append]
    exact apart

/-- Deliveries of all that was listed, and a look at the clock, give an account of each entry. -/
theorem Lists.accounts {policy : SweepPolicy} {listing : Diary} (lists : Lists policy listing)
    (delivers : Delivers more done) (all : done.map (·.1) = listing.given) (completedAt : Timestamp)
    (tables : Tables) :
    Accounts policy (listing ++ more ++ [⟨.host .now, completedAt, tables⟩])
      { SweepReport.empty.addAll done with completedAt } := by
  generalize last : Moment.mk (.host .now) completedAt tables = ending
  rw [List.append_assoc]
  obtain ⟨now, before, clock, cutoff, asked, old⟩ := lists.stale
  have failed : (listing ++ (more ++ [ending])).flatMap Moment.failed =
      listing.flatMap Moment.failed := by
    simp [← last, delivers.failed, Moment.failed]
  have stale : (listing ++ (more ++ [ending])).flatMap Moment.stale =
      listing.flatMap Moment.stale := by
    simp [← last, delivers.stale, Moment.stale]
  have given : Diary.given (listing ++ (more ++ [ending])) = listing.given := by
    rw [Diary.given, failed, stale, Diary.given]
  have noted : (listing ++ (more ++ [ending])).filterMap Moment.noted? =
      done.map fun one => (one.1.id, one.2) := by
    simp [← last, lists.unnoted, delivers.noted, Moment.noted?]
  rw [SweepReport.addAll_eq]
  refine ⟨?_, ?_, rfl, failed ▸ lists.failedBatch, stale ▸ lists.staleBatch, failed ▸ lists.failed,
    ⟨now, before, ?_, cutoff, ?_, stale ▸ old⟩, given ▸ lists.once, ?_, ?_, ?_, ?_⟩
  · simp [given, ← congrArg List.length all, SweepReport.empty]
  · have counted := @List.length_eq_countP_add_countP _
      (fun one : OutboxEntry × DeliveryStatus => one.2 = .sent) done
    simp only [decide_eq_true_eq] at counted
    simp only [SweepReport.empty, ne_eq]
    omega
  · simp [clock]
  · simp [← last, asked, delivers.listings, Moment.listing?]
  · simp [← last, Moment.clock?]
  · rw [given, ← all, ← delivers.sent]
    simp [← last, lists.unsent, Moment.sent?]
  · rw [noted, given, ← all]
    simp
  · rw [noted]
    simp [SweepReport.empty, List.countP_map, Function.comp_def]

open Program in
/-- A sweep that is told the truth ends with an account of all that was listed. -/
theorem sweep_ensures (policy : SweepPolicy) (sendTimeoutMs : Nat) :
    Program.Ensures (rule policy.batchSize) (sweep policy sendTimeoutMs).run []
      fun outcome later => Ended policy later outcome := by
  have settled : Settles (rule policy.batchSize) (sweep policy sendTimeoutMs) []
      (fun report later => Ended policy later (.ok report))
      fun error later => Ended policy later (.error error) := by
    have room : ∀ {diary : Diary}, diary.length < 3 → diary.length < limit policy.batchSize :=
      fun short => Nat.lt_of_lt_of_le (Nat.lt_succ_of_lt short) (Nat.le_add_right 4 _)
    unfold AccountLedger.sweep
    refine Settles.bind ((settles_lift _ _ _).mpr ⟨⟨room (by simp), rfl, rfl⟩, ?_⟩)
    rintro _ first ⟨failed, rfl, failedBatch, failedOnce, failedEach⟩
    refine Settles.bind ?_
    refine Settles.bind ((settles_lift _ _ _).mpr
      ⟨⟨room (by simp), trivial⟩, fun now second _ => ?_⟩)
    show Settles _ _ _ _ _
    split
    · next before cutoff =>
      refine Settles.bind ((settles_lift _ _ _).mpr ⟨⟨room (by simp), rfl⟩, ?_⟩)
      rintro _ third ⟨stale, rfl, staleBatch, staleOnce, staleEach⟩
      refine Settles.bind ?_
      refine Settles.bind ((settles_lift _ _ _).mpr ?_)
      have lists := @lists_of_honest _ _ _ _ _ first second third cutoff failedBatch failedOnce
        failedEach staleBatch staleOnce (by simpa [Moment.failed] using staleEach)
      have given := listing_given policy.batchSize failed stale before now first second third
      show Program.Ensures _ _
        (listing policy.batchSize failed stale before now first second third) _
      have entries : (failed ++ stale).length ≤ 2 * policy.batchSize.toNat := by
        rw [List.length_append]
        omega
      refine Ensures.imp (rule_monotone _) ?_ (deliverAll_ensures _ ?_ ?_)
      · rintro report later ⟨done, more, all, rfl, rfl, delivers⟩
        refine Settles.bind ((settles_lift _ _ _).mpr ⟨⟨?_, trivial⟩, fun completedAt tables _ => ?_⟩)
        · have count := congrArg List.length all
          rw [List.length_map] at count
          rw [List.length_append, lists.length, delivers.length, limit]
          omega
        · exact lists.accounts delivers (all.trans given.symm) completedAt tables
      · rw [lists.length, limit]
        omega
      · intro entry inside
        rw [given]
        exact List.mem_map_of_mem inside
    · next beyond => exact ⟨rfl, rfl, now, rfl, Option.eq_none_iff_forall_ne_some.mpr beyond⟩
  refine Program.Ensures.imp (rule_monotone _) ?_ settled
  rintro (error | report) later ended
  · exact ended
  · exact ended

end Diary

end AccountLedger
