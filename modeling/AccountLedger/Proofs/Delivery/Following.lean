import AccountLedger.Proofs.Delivery.Diary
import AccountLedger.Proofs.Delivery.Rotation
import AccountLedger.Proofs.Delivery.Threshold

/-!
A sweep among all else that goes on. Whatever is committed, delivered and swept between its steps,
it is told no entry twice, since no entry that had failed is pending again, and nothing that it was
told of is gone when it has sent it. So it comes back with an account of each entry.
-/

namespace AccountLedger

namespace Postroom

variable {begun postroom next : Postroom} {id : Nat} {diary : Diary} {policy : SweepPolicy}
  {sendTimeoutMs : Nat}

/-! ## A diary of one courier -/

/-- What the courier has exchanged on the way from one state to another, while everybody else went
on as well. -/
inductive Follows (begun : Postroom) (id : Nat) : Diary → Postroom → Prop
  | begun : Follows begun id [] begun
  | beside {diary before after} : Follows begun id diary before → before.Step after →
    after.couriers id = before.couriers id → Follows begun id diary after
  | hosted {diary before courier request resume} (answer) : Follows begun id diary before →
    before.couriers id = some courier → courier.rest = .ask (.host request) resume →
    Follows begun id
      (diary ++ [⟨.host request, answer, (before.hosted id courier request resume answer).tables⟩])
      (before.hosted id courier request resume answer)
  | tabled {diary before courier request resume answer} : Follows begun id diary before →
    before.couriers id = some courier → courier.rest = .ask (.table request) resume →
    before.tables.Answers request answer →
    Follows begun id
      (diary ++ [⟨.table request, answer, (before.tabled id courier request resume answer).tables⟩])
      (before.tabled id courier request resume answer)

theorem Follows.run (follows : begun.Follows id diary postroom) : begun.Run postroom := by
  induction follows with
  | begun => exact .refl
  | beside _ step _ ih => exact ih.tail step
  | hosted answer _ known asks ih => exact ih.tail (.host answer known asks)
  | tabled _ known asks answers ih => exact ih.tail (.table known asks answers)

/-- A diary can be kept of every courier on every run. -/
theorem Run.followed (run : begun.Run postroom) {courier : Courier}
    (known : begun.couriers id = some courier) : ∃ diary, begun.Follows id diary postroom := by
  suffices kept : ∃ diary now, begun.Follows id diary postroom ∧ postroom.couriers id = some now by
    obtain ⟨diary, _, follows, _⟩ := kept
    exact ⟨diary, follows⟩
  induction run with
  | refl => exact ⟨[], courier, .begun, known⟩
  | tail _ step ih =>
    obtain ⟨diary, now, follows, there⟩ := ih
    cases step.advances there with
    | still same => exact ⟨diary, now, follows.beside step (same.trans there.symm), same⟩
    | hosted asks same =>
      subst same
      exact ⟨_, _, follows.hosted _ there asks, Function.update_self ..⟩
    | tabled asks answers same =>
      subst same
      exact ⟨_, _, follows.tabled there asks answers, Function.update_self ..⟩

/-! ## What a sweep is told -/

theorem Consistent.byStatus (consistent : postroom.Consistent) {status : DeliveryStatus}
    {limit : Int} {answer : (TableRequest.listByStatus status limit).Answer}
    (answers : postroom.tables.Answers (.listByStatus status limit) answer) :
    ∃ batch, answer = .ok batch ∧
      postroom.Batch limit (fun entry => entry.status == status) batch := by
  cases answers with
  | listByStatus _ _ all => exact ⟨_, rfl, consistent.batch all _ _ _⟩
  | asStored => exact ⟨_, rfl, consistent.batch (.refl _) _ _ _⟩

theorem Consistent.stale (consistent : postroom.Consistent) {createdBefore : Timestamp}
    {limit : Int} {answer : (TableRequest.listStale createdBefore limit).Answer}
    (answers : postroom.tables.Answers (.listStale createdBefore limit) answer) :
    ∃ batch, answer = .ok batch ∧ postroom.Batch limit (Tables.isStale createdBefore) batch := by
  cases answers with
  | listStale _ _ all => exact ⟨_, rfl, consistent.batch all _ _ _⟩
  | asStored => exact ⟨_, rfl, consistent.batch (.refl _) _ _ _⟩

/-- Entries that were listed are stored, and none that had failed is pending. -/
structure Held (postroom : Postroom) (diary : Diary) : Prop where
  failed : ∀ entry ∈ diary.flatMap Moment.failed, ∃ later,
    postroom.tables.outbox.find? entry.id = some later ∧ later.status ≠ .pending
  stale : ∀ entry ∈ diary.flatMap Moment.stale, ∃ later,
    postroom.tables.outbox.find? entry.id = some later

theorem Held.given (held : postroom.Held diary) {id : Uuid}
    (given : id ∈ diary.given.map (·.id)) :
    ∃ later, postroom.tables.outbox.find? id = some later := by
  obtain ⟨entry, inside, rfl⟩ := List.mem_map.mp given
  rcases List.mem_append.mp inside with failed | stale
  · obtain ⟨later, found, _⟩ := held.failed entry failed
    exact ⟨later, found⟩
  · exact held.stale entry stale

/-- Nothing that is done to the outbox takes an entry away or makes it pending again. -/
theorem Held.posts (held : postroom.Held diary) (posts : postroom.Posts next) :
    next.Held diary := by
  refine ⟨fun entry inside => ?_, fun entry inside => ?_⟩
  · obtain ⟨later, found, tried⟩ := held.failed entry inside
    rcases posts.stands found with still | ⟨attempt, _, _, after⟩
    · exact ⟨later, still, tried⟩
    · exact ⟨later.after attempt, after, later.after_status attempt⟩
  · obtain ⟨later, found⟩ := held.stale entry inside
    rcases posts.stands found with still | ⟨attempt, _, _, after⟩
    · exact ⟨later, still⟩
    · exact ⟨later.after attempt, after⟩

theorem Held.unlisted (failed : diary.flatMap Moment.failed = [])
    (stale : diary.flatMap Moment.stale = []) : postroom.Held diary := by
  refine ⟨fun entry inside => ?_, fun entry inside => ?_⟩
  · rw [failed] at inside
    cases inside
  · rw [stale] at inside
    cases inside

theorem Held.append {moment : Moment} (held : postroom.Held diary)
    (now : postroom.Held [moment]) : postroom.Held (diary ++ [moment]) := by
  refine ⟨fun entry inside => ?_, fun entry inside => ?_⟩
  · rw [List.flatMap_append] at inside
    exact (List.mem_append.mp inside).elim (held.failed entry) (now.failed entry)
  · rw [List.flatMap_append] at inside
    exact (List.mem_append.mp inside).elim (held.stale entry) (now.stale entry)

/-- What the store answers is what a sweep counts on. -/
theorem Held.honest (held : postroom.Held diary) (consistent : postroom.Consistent)
    {request : TableRequest} {answer : request.Answer}
    (answers : postroom.tables.Answers request answer) :
    diary.Honest ⟨.table request, answer, (postroom.tables.answer request).2⟩ := by
  cases request with
  | listByStatus status limit =>
    obtain ⟨batch, rfl, isBatch⟩ := consistent.byStatus answers
    exact ⟨batch, rfl, isBatch.size, isBatch.distinct, fun entry inside =>
      beq_iff_eq.mp (isBatch.kind entry inside)⟩
  | listStale createdBefore limit =>
    obtain ⟨batch, rfl, isBatch⟩ := consistent.stale answers
    refine ⟨batch, rfl, isBatch.size, isBatch.distinct, fun entry inside =>
      ⟨isBatch.kind entry inside, fun listed => ?_⟩⟩
    obtain ⟨other, failed, same⟩ := List.mem_map.mp listed
    obtain ⟨later, found, tried⟩ := held.failed other failed
    have stored := isBatch.stored entry inside
    rw [← same, found] at stored
    cases stored
    have pending := isBatch.kind entry inside
    simp only [Tables.isStale, Bool.and_eq_true, beq_iff_eq] at pending
    exact tried pending.1.1
  | recordAttempt id status time =>
    intro given
    obtain ⟨stored, found⟩ := held.given given
    cases answers
    simp only [Tables.answer, Tables.recordAttempt, found]
    exact ⟨_, rfl, (Table.find?_put ..).trans (if_pos rfl)⟩
  | _ => trivial

/-- What a sweep asks for leaves all that it has listed stored. -/
theorem Consistent.told (consistent : postroom.Consistent) {request : TableRequest}
    {answer : request.Answer} {tables : Tables} {batchSize : Int}
    (asks : Diary.Asks batchSize (.table request))
    (answers : postroom.tables.Answers request answer) :
    postroom.Held [⟨.table request, answer, tables⟩] := by
  cases request with
  | listByStatus status limit =>
    obtain ⟨rfl, rfl⟩ := asks
    obtain ⟨batch, rfl, isBatch⟩ := consistent.byStatus answers
    refine ⟨fun entry inside => ?_, fun entry inside => ?_⟩
    · have listed : entry ∈ batch := by simpa [Moment.failed] using inside
      refine ⟨entry, isBatch.stored entry listed, fun pending => ?_⟩
      cases (beq_iff_eq.mp (isBatch.kind entry listed)).symm.trans pending
    · cases inside
  | listStale createdBefore limit =>
    obtain ⟨batch, rfl, isBatch⟩ := consistent.stale answers
    refine ⟨fun entry inside => ?_, fun entry inside => ?_⟩
    · cases inside
    · have listed : entry ∈ batch := by simpa [Moment.stale] using inside
      exact ⟨entry, isBatch.stored entry listed⟩
  | _ => exact .unlisted rfl rfl

/-! ## A sweep and its report -/

/-- What is left of a sweep brings it to an account of all that was listed. -/
structure Minded (postroom : Postroom) (id : Nat) (policy : SweepPolicy) (diary : Diary)
    (courier : Courier) : Prop where
  known : postroom.couriers id = some courier
  rest : courier.rest.Ensures (Diary.rule policy.batchSize) diary fun round later =>
    ∃ outcome, round = .inr outcome ∧ later.Ended policy outcome
  held : postroom.Held diary

theorem begun_minded (begins : begun.couriers id = some (.sent (.sweep policy) sendTimeoutMs)) :
    begun.Minded id policy [] (.sent (.sweep policy) sendTimeoutMs) := by
  refine ⟨begins, ?_, .unlisted rfl rfl⟩
  apply (Program.ensures_bind _ _ _ _).mpr
  refine Program.Ensures.imp (Diary.rule_monotone _) ?_ (Diary.sweep_ensures policy sendTimeoutMs)
  exact fun outcome later ended => ⟨outcome, rfl, ended⟩

theorem Minded.hosted {courier : Courier} {request : HostRequest}
    {resume : request.Answer → Program service Round}
    (minded : postroom.Minded id policy diary courier)
    (asks : courier.rest = .ask (.host request) resume) (answer : request.Answer) :
    ∃ later, (postroom.hosted id courier request resume answer).Minded id policy
      (diary ++ [⟨.host request, answer,
        (postroom.hosted id courier request resume answer).tables⟩]) later := by
  have ensured := minded.rest
  rw [asks] at ensured
  have posts : postroom.Posts (postroom.hosted id courier request resume answer) := .still rfl rfl
  refine ⟨_, Function.update_self .., ensured.2 answer _ trivial, ?_⟩
  exact (minded.held.posts posts).append (.unlisted rfl rfl)

theorem Minded.tabled {courier : Courier} {request : TableRequest} {answer : request.Answer}
    {resume : request.Answer → Program service Round}
    (minded : postroom.Minded id policy diary courier) (consistent : postroom.Consistent)
    (asks : courier.rest = .ask (.table request) resume)
    (answers : postroom.tables.Answers request answer)
    (posts : postroom.Posts (postroom.tabled id courier request resume answer)) :
    ∃ later, (postroom.tabled id courier request resume answer).Minded id policy
      (diary ++ [⟨.table request, answer,
        (postroom.tabled id courier request resume answer).tables⟩]) later := by
  have ensured := minded.rest
  rw [asks] at ensured
  obtain ⟨⟨_, asked⟩, later⟩ := ensured
  refine ⟨_, Function.update_self .., later answer _ (minded.held.honest consistent answers), ?_⟩
  exact (minded.held.append (consistent.told asked answers)).posts posts

theorem Follows.sound (before : begun.Follows id diary postroom) (reachable : begun.Reachable)
    (step : postroom.Step next) (fresh : next.office.drawn.Nodup) :
    postroom.office.drawn.Nodup ∧ postroom.Sound := by
  have there := Run.reachable before.run reachable
  have freshBefore := step.fresh there fresh
  exact ⟨freshBefore, there.sound freshBefore⟩

/-- Whatever else goes on, a sweep is on its way to an account of all that was listed. -/
theorem Follows.minded (follows : begun.Follows id diary postroom) (reachable : begun.Reachable)
    (begins : begun.couriers id = some (.sent (.sweep policy) sendTimeoutMs))
    (fresh : postroom.office.drawn.Nodup) :
    ∃ courier, postroom.Minded id policy diary courier := by
  induction follows with
  | begun => exact ⟨_, begun_minded begins⟩
  | beside before step same ih =>
    obtain ⟨freshBefore, sound⟩ := before.sound reachable step fresh
    obtain ⟨courier, minded⟩ := ih freshBefore
    have posts := (step_sound sound freshBefore step).1
    exact ⟨courier, same.trans minded.known, minded.rest, minded.held.posts posts⟩
  | hosted answer before known asks ih =>
    obtain ⟨freshBefore, _⟩ := before.sound reachable (.host answer known asks) fresh
    obtain ⟨courier, minded⟩ := ih freshBefore
    cases known.symm.trans minded.known
    exact minded.hosted asks answer
  | tabled before known asks answers ih =>
    have step := Step.table known asks answers
    obtain ⟨freshBefore, sound⟩ := before.sound reachable step fresh
    obtain ⟨courier, minded⟩ := ih freshBefore
    cases known.symm.trans minded.known
    exact minded.tabled sound.outbox asks answers (step_sound sound freshBefore step).1

/-- Whatever a sweep asks for next can be answered. -/
theorem Minded.goes_on {courier : Courier} {request : ServiceRequest}
    {resume : request.Answer → Program service Round}
    (minded : postroom.Minded id policy diary courier) (asks : courier.rest = .ask request resume)
    (follows : begun.Follows id diary postroom) :
    diary.length < Diary.limit policy.batchSize ∧ ∃ answer later, postroom.Step later ∧
      begun.Follows id (diary ++ [⟨request, answer, later.tables⟩]) later := by
  have ensured := minded.rest
  rw [asks] at ensured
  obtain ⟨⟨room, asked⟩, _⟩ := ensured
  refine ⟨room, ?_⟩
  cases request with
  | table request =>
    have answers : postroom.tables.Answers request _ := .asStored request
    exact ⟨_, _, .table minded.known asks answers, follows.tabled minded.known asks answers⟩
  | host request =>
    have answered : request.Answer := by
      cases request with
      | now => exact ⟨0, 0⟩
      | send entry sendTimeoutMs => exact .ok ()
      | _ => exact asked.elim
    exact ⟨_, _, .host answered minded.known asks, follows.hosted answered minded.known asks⟩
  | _ => exact asked.elim

/-- Whatever is committed, delivered and swept while a sweep is under way and whatever the broker
answers, the sweep asks for no more than its two batches take, can be answered each time, and comes
back with an account of all that was listed: none twice and no more than a batch each, every entry
sent once, and as many counted as sent as are sent when their attempts have been recorded. It gives
up, before it has sent anything, just if the calendar does not reach back to the configured age. -/
theorem Reachable.sweep_accounts (reachable : begun.Reachable)
    (begins : begun.couriers id = some (.sent (.sweep policy) sendTimeoutMs))
    (run : begun.Run postroom) (fresh : postroom.office.drawn.Nodup) :
    (∃ diary, begun.Follows id diary postroom) ∧
    ∀ diary, begun.Follows id diary postroom → ∃ courier, postroom.couriers id = some courier ∧
      (∀ request resume, courier.rest = .ask request resume →
        diary.length < Diary.limit policy.batchSize ∧ ∃ answer later, postroom.Step later ∧
          begun.Follows id (diary ++ [⟨request, answer, later.tables⟩]) later) ∧
      ∀ round, courier.rest = .done round →
        ∃ outcome, round = .inr outcome ∧ diary.Ended policy outcome := by
  refine ⟨run.followed begins, fun diary follows => ?_⟩
  obtain ⟨courier, minded⟩ := follows.minded reachable begins fresh
  refine ⟨courier, minded.known, fun request resume asks => minded.goes_on asks follows,
    fun round back => ?_⟩
  have ended := minded.rest
  rw [back] at ended
  exact ended

/-- The entry that was refused is sent by the next sweep, which tells of one attempt. -/
theorem refused_swept : ∃ (begun postroom : Postroom) (diary : Diary) (report : SweepReport),
    begun.Reachable ∧
    begun.couriers 0 = some (.sent (.sweep ⟨30000, 1, 60000, 10⟩) 0) ∧ begun.Run postroom ∧
    postroom.office.drawn.Nodup ∧ begun.Follows 0 diary postroom ∧
    diary.Accounts ⟨30000, 1, 60000, 10⟩ report ∧ report.attempted = 1 := by
  obtain ⟨_, refused, _, entry, before, run, fresh, _, _, outbox, same, failed, _, free⟩ :=
    refused_reachable
  rw [← same] at outbox
  have reachable : Reachable _ :=
    (Run.reachable run before).tail (.send (.sweep ⟨30000, 1, 60000, 10⟩) 0 free)
  have first : Follows
      (refused.withCourier 0 (.sent (.sweep ⟨30000, 1, 60000, 10⟩) 0)) 0 [] _ := .begun
  have listed :=
    @Follows.tabled _ _ _ _ _ _ _ _ first rfl rfl (lists_refused outbox failed Int.one_pos)
  have timed := @Follows.hosted _ _ _ _ _ .now _ ⟨1, 0⟩ listed rfl rfl
  have noneListed := @Follows.tabled _ _ _ _ _ _ _ _ timed rfl rfl (lists_no_stale outbox failed _)
  have answered := @Follows.hosted _ _ _ _ _ (.send entry 0) _ (.ok ()) noneListed rfl rfl
  have dated := @Follows.hosted _ _ _ _ _ .now _ ⟨1, 0⟩ answered rfl rfl
  have recorded := @Follows.tabled _ _ _ _ _ _ _ _ dated rfl rfl (.asStored _)
  have ended := @Follows.hosted _ _ _ _ _ .now _ ⟨2, 0⟩ recorded rfl rfl
  obtain ⟨_, known, _, back⟩ := (reachable.sweep_accounts rfl ended.run fresh).2 _ ended
  cases known
  obtain ⟨_, told, accounts⟩ := back _ rfl
  cases told
  exact ⟨_, _, _, _, reachable, rfl, ended.run, fresh, ended, accounts, accounts.attempted⟩

/-- The settings accept an age of ten trillion seconds. With it the next sweep is given the entry
that was refused, and comes back without a report and without having sent it. -/
theorem swept_without_report : ∃ settings : Settings,
    Settings.ofEnvironment [("OUTBOX_STALE_PENDING_SECS", "10000000000000")] = .ok settings ∧
    ∃ (begun postroom : Postroom) (diary : Diary) (courier : Courier), begun.Reachable ∧
      begun.couriers 0 = some (.sent (.sweep settings.sweepPolicy) settings.sendTimeoutMs) ∧
      begun.Run postroom ∧ postroom.office.drawn.Nodup ∧ begun.Follows 0 diary postroom ∧
      diary.given.length = 1 ∧ diary.filterMap Moment.sent? = [] ∧
      postroom.couriers 0 = some courier ∧
      courier.rest = .done (.inr (.error .timeOutOfRange)) := by
  obtain ⟨settings, accepted, policy⟩ :=
    @accepted_age "10000000000000" 10000000000000 (by decide)
  obtain ⟨_, refused, _, entry, before, run, fresh, _, _, outbox, same, failed, _, free⟩ :=
    refused_reachable
  rw [← same] at outbox
  refine ⟨settings, accepted, ?_⟩
  rw [policy]
  let courier : Courier :=
    .sent (.sweep (SweepPolicy.default.withAge 10000000000000000)) settings.sendTimeoutMs
  have reachable : (refused.withCourier 0 courier).Reachable :=
    (Run.reachable run before).tail (.send _ settings.sendTimeoutMs free)
  have first : (refused.withCourier 0 courier).Follows 0 [] _ := .begun
  have room : 0 < SweepPolicy.default.batchSize := by decide
  have listed := @Follows.tabled _ _ _ _ _ _ _ _ first rfl rfl (lists_refused outbox failed room)
  have timed := @Follows.hosted _ _ _ _ _ .now _ ⟨1, 0⟩ listed rfl rfl
  exact ⟨_, _, _, _, reachable, rfl, timed.run, fresh, timed, rfl, rfl, rfl, rfl⟩

end Postroom

end AccountLedger
