import AccountLedger.Proofs.Delivery.Postroom
import AccountLedger.Proofs.Ensures

/-!
How a courier goes about its job: it records an attempt with what the broker has answered, and a
sweep that does not run out of the calendar has recorded an attempt of every entry it was given.
-/

namespace AccountLedger

/-- Entries are listed without failure. -/
def ServiceRequest.Listed : (request : ServiceRequest) → request.Answer → Prop
  | .table (.listByStatus ..), .error _ => False
  | .table (.listStale ..), .error _ => False
  | _, _ => True

namespace Job

/-- What a courier may ask for. -/
def Allows (job : Job) (tour : Tour) : ServiceRequest → Prop
  | .table (.listByStatus status limit) =>
    ∃ policy, job = .sweep policy ∧ status = .failed ∧ limit = policy.batchSize
  | .table (.listStale _ limit) => ∃ policy, job = .sweep policy ∧ limit = policy.batchSize
  | .table (.recordAttempt id status _) =>
    ∃ answer, tour.heard = some (id, answer) ∧ status = .ofAccepted answer.toBool
  | .host (.send ..) => True
  | .host .now => True
  | _ => False

/-- What a courier may ask for, and what it has met with after the answer. -/
def rule (job : Job) : RequestRule service Tour := fun request tour result =>
  job.Allows tour request ∧
    ∀ answer, request.Listed answer → result answer (tour.after request answer)

/-- All that a courier was given to deliver again. -/
def given (tour : Tour) : List OutboxEntry := tour.failed.getD [] ++ tour.stale.getD []

/-- How a courier may come back. -/
def Ended : Round → Tour → Prop
  | .inr (.ok _), tour =>
    tour.failed.isSome ∧ ∀ entry ∈ given tour, entry.id ∈ tour.recorded
  | .inr (.error error), _ => error = .timeOutOfRange
  | .inl _, _ => True

variable {job : Job} {tour : Tour}

theorem rule_monotone (job : Job) : job.rule.Monotone :=
  fun _ _ _ _ weaker => And.imp_right fun after answer listed => weaker _ _ (after answer listed)

open Program

theorem ensures_map {α β : Type} (f : α → β) (program : Program service α)
    {result : β → Tour → Prop} :
    Program.Ensures job.rule (f <$> program) tour result =
      program.Ensures job.rule tour fun value later => result (f value) later :=
  ensures_bind program _ tour result

theorem deliver_ensures (entry : OutboxEntry) (sendTimeoutMs : Nat) :
    (entry.deliver sendTimeoutMs).Ensures job.rule tour fun _ later =>
      later = { tour with heard := none, recorded := tour.recorded ++ [entry.id] } := by
  refine ⟨trivial, fun answer _ => ⟨trivial, fun now _ => ⟨⟨answer, rfl, ?_⟩, fun updated _ => rfl⟩⟩⟩
  cases answer <;> rfl

/-- An attempt of each of the entries is recorded, in their order. -/
theorem deliverAll_ensures (sendTimeoutMs : Nat) (report : SweepReport)
    (entries : List OutboxEntry) :
    (deliverAll sendTimeoutMs report entries).Ensures job.rule tour fun _ later =>
      later.failed = tour.failed ∧ later.stale = tour.stale ∧
        later.recorded = tour.recorded ++ entries.map (·.id) := by
  induction entries generalizing report tour with
  | nil => exact ⟨rfl, rfl, (List.append_nil _).symm⟩
  | cons entry rest ih =>
    apply (ensures_bind _ _ _ _).mpr
    refine Ensures.imp (rule_monotone job) ?_ (deliver_ensures entry sendTimeoutMs)
    rintro outcome later rfl
    refine Ensures.imp (rule_monotone job) ?_ (ih _)
    rintro report last ⟨failed, stale, recorded⟩
    refine ⟨failed, stale, ?_⟩
    rw [recorded, List.append_assoc]
    rfl

theorem liftExcept_ok {α : Type} {value : α} {ok : α → Tour → Prop}
    {failed : SweepError → Tour → Prop} (next : ok value tour) :
    Settles job.rule (sweep.liftExcept (.ok value)) tour ok failed := next

theorem sweep_ensures (policy : SweepPolicy) (sendTimeoutMs : Nat) :
    Program.Ensures (rule (.sweep policy)) (AccountLedger.sweep policy sendTimeoutMs).run .start
      fun result later => Ended (.inr result) later := by
  have settled : Settles (rule (.sweep policy)) (AccountLedger.sweep policy sendTimeoutMs) .start
      (fun report later => Ended (.inr (.ok report)) later)
      fun error later => Ended (.inr (.error error)) later := by
    unfold AccountLedger.sweep
    refine Settles.bind ((settles_lift _ _ _).mpr ?_)
    refine ⟨⟨policy, rfl, rfl, rfl⟩, ?_⟩
    rintro (error | failed) listed
    · exact listed.elim
    refine Settles.bind (liftExcept_ok ?_)
    refine Settles.bind ((settles_lift _ _ _).mpr ?_)
    refine ⟨trivial, fun now _ => ?_⟩
    show Settles _ _ _ _ _
    split
    · refine Settles.bind ((settles_lift _ _ _).mpr ?_)
      refine ⟨⟨policy, rfl, rfl⟩, ?_⟩
      rintro (error | stale) listed
      · exact listed.elim
      refine Settles.bind (liftExcept_ok ?_)
      refine Settles.bind ((settles_lift _ _ _).mpr ?_)
      refine Ensures.imp (rule_monotone _) ?_ (deliverAll_ensures sendTimeoutMs _ (failed ++ stale))
      rintro report later ⟨given, alsoGiven, recorded⟩
      refine Settles.bind ((settles_lift _ _ _).mpr ⟨trivial, fun completedAt _ => ?_⟩)
      show Ended (.inr (.ok { report with completedAt })) later
      have failedGiven : later.failed = some failed := given
      have staleGiven : later.stale = some stale := alsoGiven
      refine ⟨by rw [failedGiven]; rfl, fun entry inside => ?_⟩
      rw [Job.given, failedGiven, staleGiven] at inside
      rw [recorded]
      exact List.mem_append_right _ (List.mem_map_of_mem inside)
    · exact (rfl : SweepError.timeOutOfRange = .timeOutOfRange)
  refine Ensures.imp (rule_monotone _) ?_ settled
  rintro (error | report) later ended
  · exact ended
  · exact ended

/-- Whatever a courier is answered, it keeps to this until it comes back. -/
theorem program_ensures (job : Job) (sendTimeoutMs : Nat) :
    (job.program sendTimeoutMs).Ensures job.rule .start Ended := by
  cases job with
  | delivery entry =>
    apply (ensures_map _ _).mpr
    exact Ensures.imp (rule_monotone _) (fun _ _ _ => trivial) (deliver_ensures entry sendTimeoutMs)
  | sweep policy => exact (ensures_map _ _).mpr (sweep_ensures policy sendTimeoutMs)

end Job

namespace Courier

/-- What is left of its program brings the courier back as its job asks. -/
def OnDuty (courier : Courier) : Prop :=
  courier.rest.Ensures courier.job.rule courier.tour Job.Ended

theorem sent_onDuty (job : Job) (sendTimeoutMs : Nat) : (sent job sendTimeoutMs).OnDuty :=
  job.program_ensures sendTimeoutMs

theorem OnDuty.asking {courier : Courier} {request : ServiceRequest}
    {resume : request.Answer → Program service Round} (duty : courier.OnDuty)
    (asks : courier.rest = .ask request resume) :
    courier.job.Allows courier.tour request ∧ ∀ answer, request.Listed answer →
      OnDuty { courier with rest := resume answer, tour := courier.tour.after request answer } := by
  rw [OnDuty, asks] at duty
  exact duty

theorem OnDuty.back {courier : Courier} {round : Round} (duty : courier.OnDuty)
    (back : courier.rest = .done round) : Job.Ended round courier.tour := by
  rw [OnDuty, back] at duty
  exact duty

end Courier

end AccountLedger
