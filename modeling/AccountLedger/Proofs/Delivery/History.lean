import AccountLedger.Proofs.Delivery.Round
import AccountLedger.Proofs.Ledger.Invariant
import AccountLedger.Proofs.Ledger.Movement
import AccountLedger.Proofs.Table

/-!
What a step does to the outbox: it posts a new entry, records an attempt, or leaves it. So every
entry stands as the attempts recorded for it have left it.
-/

namespace AccountLedger

namespace Tables

variable {tables : Tables} {request : TableRequest} {answer : request.Answer}

theorem Answers.listed (answers : tables.Answers request answer) :
    ServiceRequest.Listed (.table request) answer := by
  cases answers with
  | listByStatus => trivial
  | listStale => trivial
  | asStored => cases request <;> trivial

end Tables

namespace Postroom

variable {postroom next : Postroom} {id : Nat} {courier : Courier}

/-! ## One step -/

/-- What a step may do to the outbox and the recorded attempts. -/
inductive Posts (postroom next : Postroom) : Prop
  | still : next.tables.outbox = postroom.tables.outbox → next.attempts = postroom.attempts →
    Posts postroom next
  | posted {entry : OutboxEntry} : entry.Tried [] →
    postroom.tables.outbox.find? entry.id = none →
    next.tables.outbox = postroom.tables.outbox.put entry.id entry →
    next.attempts = postroom.attempts → Posts postroom next
  | attempted {entry : OutboxEntry} (attempt : Attempt) :
    postroom.tables.outbox.find? attempt.entry = some entry →
    next.tables.outbox = postroom.tables.outbox.put attempt.entry (entry.after attempt) →
    next.attempts = postroom.attempts ++ [attempt] → Posts postroom next

/-- A stored entry stays as it is, or an attempt to deliver it is recorded. -/
theorem Posts.stands (posts : postroom.Posts next) {id : Uuid} {entry : OutboxEntry}
    (found : postroom.tables.outbox.find? id = some entry) :
    next.tables.outbox.find? id = some entry ∨
      ∃ attempt : Attempt, attempt.entry = id ∧ next.attempts = postroom.attempts ++ [attempt] ∧
        next.tables.outbox.find? id = some (entry.after attempt) := by
  cases posts with
  | still outbox => exact Or.inl (outbox ▸ found)
  | @posted new untried unused outbox =>
    left
    rw [outbox, Table.find?_put, if_neg]
    · exact found
    · rintro rfl
      cases found.symm.trans unused
  | attempted attempt present outbox attempts =>
    rw [outbox, Table.find?_put]
    by_cases same : attempt.entry = id
    · subst same
      cases found.symm.trans present
      exact Or.inr ⟨attempt, rfl, attempts, if_pos rfl⟩
    · exact Or.inl ((if_neg same).trans found)

/-- The office posts the entry of what it commits, under an id that nobody has drawn before. -/
theorem ledger_posts {office : Office} (sound : postroom.office.Sound)
    (step : postroom.office.Step office)
    (changed : office.tables.outbox = postroom.tables.outbox ∨
      office.pool.log ≠ postroom.office.pool.log) (fresh : postroom.office.drawn.Nodup) :
    postroom.Posts { postroom with office } := by
  rcases (Office.step_sound sound step).2.2 with
    ⟨log, _⟩ | ⟨_, _, _, commits, fits, accepted, unused, _, tables, _⟩ | ⟨account, _, tables⟩
  · exact .still (changed.resolve_right (not_not.mpr log)) rfl
  · obtain ⟨entry, event, staged, _, entries, _⟩ := commits.change.movement fits accepted
    refine .posted (OutboxEntry.ofEvent_tried entry event staged) ?_ ?_ rfl
    · exact unused fresh _ (entries ▸ List.mem_cons_self)
    · show office.tables.outbox = _
      rw [tables]
      show postroom.tables.outbox.putAll OutboxEntry.id _ = _
      rw [entries]
      rfl
  · have outbox : office.tables.outbox = postroom.tables.outbox := by
      rw [tables]
      rfl
    exact .still outbox rfl

/-- What a courier asks of the store lists entries, or records what it has heard from the broker. -/
theorem tabled_posts {request : TableRequest}
    {resume : request.Answer → Program service Round} (answer : request.Answer)
    (allowed : courier.job.Allows courier.tour (.table request)) :
    postroom.Posts (postroom.tabled id courier request resume answer) := by
  cases request with
  | listByStatus status limit => exact .still rfl (List.append_nil _)
  | listStale createdBefore limit => exact .still rfl (List.append_nil _)
  | recordAttempt entry status time =>
    obtain ⟨heard, hears, rfl⟩ := allowed
    have noted : courier.tour.accepted entry = heard.toBool := by
      simp [Tour.accepted, hears]
    cases found : postroom.tables.outbox.find? entry with
    | none =>
      refine .still ?_ ?_
      · show (postroom.tables.recordAttempt entry _ time).2.outbox = _
        rw [Tables.recordAttempt, found]
      · show postroom.attempts ++ ((postroom.tables.outbox.find? entry).map _).toList = _
        rw [found]
        exact List.append_nil _
    | some stored =>
      refine .attempted ⟨entry, courier.tour.accepted entry, time⟩ found ?_ ?_
      · show (postroom.tables.recordAttempt entry _ time).2.outbox = _
        rw [Tables.recordAttempt_of_find? ⟨entry, courier.tour.accepted entry, time⟩
          (congrArg DeliveryStatus.ofAccepted noted.symm) found]
      · show postroom.attempts ++ ((postroom.tables.outbox.find? entry).map _).toList = _
        rw [found]
        rfl
  | _ => exact allowed.elim

/-! ## The invariant -/

/-- All attempts recorded so far to deliver an entry. -/
def attemptsOf (postroom : Postroom) (entry : Uuid) : List Attempt :=
  postroom.attempts.filter fun attempt => attempt.entry = entry

/-- Every entry is under its own id and as its attempts have left it, and nothing that is not
stored was attempted. -/
structure Consistent (postroom : Postroom) : Prop where
  distinct : postroom.tables.outbox.Distinct
  own : ∀ {id entry}, postroom.tables.outbox.find? id = some entry → entry.id = id
  tried : ∀ {id entry}, postroom.tables.outbox.find? id = some entry →
    entry.Tried (postroom.attemptsOf id)
  stored : ∀ attempt ∈ postroom.attempts,
    ∃ entry, postroom.tables.outbox.find? attempt.entry = some entry

section

variable {entry : OutboxEntry} {attempt : Attempt}

theorem attemptsOf_of_same (same : next.attempts = postroom.attempts) (entry : Uuid) :
    next.attemptsOf entry = postroom.attemptsOf entry := by
  rw [attemptsOf, attemptsOf, same]

theorem attemptsOf_of_append (attempts : next.attempts = postroom.attempts ++ [attempt])
    (entry : Uuid) : next.attemptsOf entry =
      postroom.attemptsOf entry ++ if attempt.entry = entry then [attempt] else [] := by
  rw [attemptsOf, attemptsOf, attempts, List.filter_append]
  congr 1
  by_cases same : attempt.entry = entry <;> simp [same]

/-- Nothing was attempted under an id that is not stored. -/
theorem Consistent.unattempted (consistent : postroom.Consistent) {id : Uuid}
    (unused : postroom.tables.outbox.find? id = none) : postroom.attemptsOf id = [] := by
  apply List.filter_eq_nil_iff.mpr
  intro attempt inside same
  obtain ⟨stored, found⟩ := consistent.stored attempt inside
  rw [of_decide_eq_true same, unused] at found
  cases found

theorem Consistent.posted (consistent : postroom.Consistent) (untried : entry.Tried [])
    (unused : postroom.tables.outbox.find? entry.id = none)
    (outbox : next.tables.outbox = postroom.tables.outbox.put entry.id entry)
    (attempts : next.attempts = postroom.attempts) : next.Consistent := by
  refine ⟨outbox ▸ consistent.distinct.put _ _, ?_, ?_, ?_⟩
  · intro id later found
    rw [outbox, Table.find?_put] at found
    split at found
    · next same =>
      cases found
      exact same
    · exact consistent.own found
  · intro id later found
    rw [attemptsOf_of_same attempts]
    rw [outbox, Table.find?_put] at found
    split at found
    · next same =>
      cases found
      subst same
      rw [consistent.unattempted unused]
      exact untried
    · exact consistent.tried found
  · intro attempt inside
    obtain ⟨before, found⟩ := consistent.stored attempt (attempts ▸ inside)
    rw [outbox, Table.find?_put]
    split
    · exact ⟨entry, rfl⟩
    · exact ⟨before, found⟩

theorem Consistent.attempted (consistent : postroom.Consistent)
    (found : postroom.tables.outbox.find? attempt.entry = some entry)
    (outbox : next.tables.outbox =
      postroom.tables.outbox.put attempt.entry (entry.after attempt))
    (attempts : next.attempts = postroom.attempts ++ [attempt]) : next.Consistent := by
  refine ⟨outbox ▸ consistent.distinct.put _ _, ?_, ?_, ?_⟩
  · intro id later present
    rw [outbox, Table.find?_put] at present
    split at present
    · next same =>
      cases present
      exact (consistent.own found).trans same
    · exact consistent.own present
  · intro id later present
    rw [attemptsOf_of_append attempts]
    rw [outbox, Table.find?_put] at present
    split at present
    · next same =>
      cases present
      subst same
      rw [if_pos rfl]
      exact (consistent.tried found).after attempt
    · next differs =>
      rw [if_neg differs, List.append_nil]
      exact consistent.tried present
  · intro other inside
    rw [outbox, Table.find?_put]
    split
    · exact ⟨_, rfl⟩
    · next differs =>
      rw [attempts] at inside
      rcases List.mem_append.mp inside with before | last
      · exact consistent.stored other before
      · exact absurd (congrArg Attempt.entry (List.mem_singleton.mp last).symm) differs

end

theorem Posts.consistent (posts : postroom.Posts next) (consistent : postroom.Consistent) :
    next.Consistent := by
  cases posts with
  | still outbox attempts =>
    refine ⟨outbox ▸ consistent.distinct, outbox ▸ consistent.own, ?_, ?_⟩
    · intro id entry found
      rw [attemptsOf_of_same attempts]
      exact consistent.tried (outbox ▸ found)
    · rw [outbox, attempts]
      exact consistent.stored
  | posted untried unused outbox attempts =>
    exact consistent.posted untried unused outbox attempts
  | attempted attempt found outbox attempts => exact consistent.attempted found outbox attempts

structure Sound (postroom : Postroom) : Prop where
  office : postroom.office.Sound
  outbox : postroom.Consistent
  couriers : ∀ {id courier}, postroom.couriers id = some courier → courier.OnDuty

theorem start_sound : start.Sound := by
  refine ⟨Office.start_sound, ⟨List.nodup_nil, ?_, ?_, ?_⟩, ?_⟩
  · intro id entry absurdly
    cases absurdly
  · intro id entry absurdly
    cases absurdly
  · exact fun attempt absurdly => absurd absurdly List.not_mem_nil
  · intro id courier absurdly
    cases absurdly

theorem withCourier_couriers {other : Nat} {theirs : Courier}
    (known : (postroom.withCourier id courier).couriers other = some theirs) :
    other = id ∧ theirs = courier ∨ other ≠ id ∧ postroom.couriers other = some theirs := by
  by_cases same : other = id
  · subst same
    exact Or.inl ⟨rfl, Option.some.inj (known.symm.trans (Function.update_self ..))⟩
  · exact Or.inr ⟨same, (Function.update_of_ne same _ _).symm.trans known⟩

/-- With a courier that is on duty the others still are. -/
theorem Sound.with_courier (sound : postroom.Sound) (duty : courier.OnDuty) {other : Nat}
    {theirs : Courier} (known : (postroom.withCourier id courier).couriers other = some theirs) :
    theirs.OnDuty := by
  rcases withCourier_couriers known with ⟨_, rfl⟩ | ⟨_, before⟩
  · exact duty
  · exact sound.couriers before

theorem step_sound (sound : postroom.Sound) (fresh : postroom.office.drawn.Nodup)
    (step : postroom.Step next) : postroom.Posts next ∧ next.Sound := by
  cases step with
  | ledger step changed =>
    have posts := ledger_posts sound.office step changed fresh
    exact ⟨posts, (Office.step_sound sound.office step).2.1, posts.consistent sound.outbox,
      sound.couriers⟩
  | @send id job sendTimeoutMs new =>
    have posts : postroom.Posts (postroom.withCourier id (.sent job sendTimeoutMs)) := .still rfl rfl
    exact ⟨posts, sound.office, posts.consistent sound.outbox,
      sound.with_courier (Courier.sent_onDuty job sendTimeoutMs)⟩
  | @host id courier request resume answer known asks =>
    obtain ⟨_, later⟩ := (sound.couriers known).asking asks
    have posts : postroom.Posts (postroom.hosted id courier request resume answer) := .still rfl rfl
    exact ⟨posts, sound.office, posts.consistent sound.outbox,
      sound.with_courier (later answer trivial)⟩
  | @table id courier request resume answer known asks answers =>
    obtain ⟨allowed, later⟩ := (sound.couriers known).asking asks
    have posts := @tabled_posts postroom id courier request resume answer allowed
    refine ⟨posts, ?_, posts.consistent sound.outbox,
      sound.with_courier (later answer answers.listed)⟩
    exact (Office.step_sound sound.office (.table request)).2.1

/-! ## Runs -/

/-- What a postroom can come to. -/
abbrev Run : Postroom → Postroom → Prop := Relation.ReflTransGen Step

theorem Step.office (step : postroom.Step next) :
    next.office = postroom.office ∨ postroom.office.Step next.office := by
  cases step with
  | ledger step changed => exact Or.inr step
  | send job sendTimeoutMs new => exact Or.inl rfl
  | host answer known asks => exact Or.inl rfl
  | table known asks answers => exact Or.inr (.table _)

theorem Reachable.office (reachable : postroom.Reachable) : postroom.office.Reachable := by
  induction reachable with
  | refl => exact .refl
  | tail _ step ih =>
    rcases step.office with same | step
    · exact same ▸ ih
    · exact ih.tail step

theorem Step.fresh (step : postroom.Step next) (reachable : postroom.Reachable)
    (fresh : next.office.drawn.Nodup) : postroom.office.drawn.Nodup := by
  rcases step.office with same | step
  · exact same ▸ fresh
  · obtain ⟨more, drawn⟩ := (Office.step_sound reachable.office.sound step).1.drawn
    rw [drawn] at fresh
    exact (List.nodup_append.mp fresh).1

theorem Reachable.sound (reachable : postroom.Reachable) (fresh : postroom.office.drawn.Nodup) :
    postroom.Sound := by
  induction reachable with
  | refl => exact start_sound
  | tail before step ih =>
    have freshBefore := step.fresh before fresh
    exact (step_sound (ih freshBefore) freshBefore step).2

/-- The run of no step. -/
theorem Reachable.stay (_ : postroom.Reachable) : postroom.Run postroom := .refl

theorem Run.reachable (run : postroom.Run next) (reachable : postroom.Reachable) : next.Reachable :=
  Relation.ReflTransGen.trans reachable run

theorem Run.fresh (run : postroom.Run next) (reachable : postroom.Reachable)
    (fresh : next.office.drawn.Nodup) : postroom.office.drawn.Nodup := by
  induction run with
  | refl => exact fresh
  | tail before step ih => exact ih (step.fresh (Run.reachable before reachable) fresh)

/-- What every step of a run leaves true is true at its end. -/
theorem Reachable.along (good : Postroom → Prop) (reachable : postroom.Reachable)
    (run : postroom.Run next) (fresh : next.office.drawn.Nodup) (first : good postroom)
    (each : ∀ {before after}, postroom.Run before → before.Sound → before.Step after →
      before.Posts after → after.Run next → good before → good after) : good next := by
  have all : ∀ {middle}, postroom.Run middle → middle.Run next → good middle := by
    intro middle run
    induction run with
    | refl => exact fun _ => first
    | @tail middle after before step ih =>
      intro rest
      have there := Run.reachable before reachable
      have freshBefore := Run.fresh (rest.head step) there fresh
      have sound := there.sound freshBefore
      exact each before sound step (step_sound sound freshBefore step).1 rest
        (ih (rest.head step))
  exact all run .refl

/-! ## Attempts along a run -/

/-- The attempts that are recorded until the postroom has come to another state. -/
def attemptsUntil (postroom next : Postroom) : List Attempt :=
  next.attempts.drop postroom.attempts.length

/-- An attempt to deliver the entry is recorded between two states. -/
def Attempted (postroom next : Postroom) (entry : Uuid) : Prop :=
  ∃ attempt ∈ postroom.attemptsUntil next, attempt.entry = entry

theorem attemptsUntil_of_append {more : List Attempt}
    (attempts : next.attempts = postroom.attempts ++ more) : postroom.attemptsUntil next = more := by
  rw [attemptsUntil, attempts, List.drop_left]

theorem Step.attempts (step : postroom.Step next) :
    ∃ more, next.attempts = postroom.attempts ++ more := by
  cases step with
  | ledger step changed => exact ⟨[], (List.append_nil _).symm⟩
  | send job sendTimeoutMs new => exact ⟨[], (List.append_nil _).symm⟩
  | host answer known asks => exact ⟨[], (List.append_nil _).symm⟩
  | table known asks answers => exact ⟨_, rfl⟩

theorem Run.attempts (run : postroom.Run next) :
    next.attempts = postroom.attempts ++ postroom.attemptsUntil next := by
  have appended : ∃ more, next.attempts = postroom.attempts ++ more := by
    induction run with
    | refl => exact ⟨[], (List.append_nil _).symm⟩
    | tail _ step ih =>
      obtain ⟨earlier, before⟩ := ih
      obtain ⟨more, after⟩ := step.attempts
      exact ⟨earlier ++ more, by rw [after, before, List.append_assoc]⟩
  obtain ⟨more, attempts⟩ := appended
  rw [attemptsUntil_of_append attempts, attempts]

section

variable {middle : Postroom} {entry : Uuid} (first : postroom.Run middle) (second : middle.Run next)

include first second

theorem Run.attemptsUntil :
    postroom.attemptsUntil next = postroom.attemptsUntil middle ++ middle.attemptsUntil next := by
  apply attemptsUntil_of_append
  rw [← List.append_assoc, ← first.attempts, ← second.attempts]

theorem Attempted.earlier (attempted : postroom.Attempted middle entry) :
    postroom.Attempted next entry := by
  obtain ⟨attempt, inside, same⟩ := attempted
  refine ⟨attempt, ?_, same⟩
  rw [Run.attemptsUntil first second]
  exact List.mem_append_left _ inside

theorem Attempted.later (attempted : middle.Attempted next entry) :
    postroom.Attempted next entry := by
  obtain ⟨attempt, inside, same⟩ := attempted
  refine ⟨attempt, ?_, same⟩
  rw [Run.attemptsUntil first second]
  exact List.mem_append_right _ inside

end

section

variable {entry : Uuid} {stored later : OutboxEntry}

/-- An entry that nobody tries to deliver stays as it is. -/
theorem Reachable.untouched (reachable : postroom.Reachable) (run : postroom.Run next)
    (fresh : next.office.drawn.Nodup) (found : postroom.tables.outbox.find? entry = some stored) :
    postroom.Attempted next entry ∨ next.tables.outbox.find? entry = some stored := by
  refine reachable.along
    (fun state => postroom.Attempted state entry ∨ state.tables.outbox.find? entry = some stored)
    run fresh (Or.inr found) ?_
  rintro before after run _ step posts _ (attempted | same)
  · exact Or.inl (attempted.earlier run (.single step))
  · rcases posts.stands same with still | ⟨attempt, this, attempts, _⟩
    · exact Or.inr still
    · left
      apply Attempted.later run (.single step)
      refine ⟨attempt, ?_, this⟩
      rw [attemptsUntil_of_append attempts]
      exact List.mem_cons_self

/-- The counter of an entry rises with every attempt to deliver it. -/
theorem Attempted.counted (attempted : postroom.Attempted next entry) (run : postroom.Run next)
    (before : postroom.Consistent) (after : next.Consistent)
    (found : postroom.tables.outbox.find? entry = some stored)
    (there : next.tables.outbox.find? entry = some later) : stored.attempts < later.attempts := by
  obtain ⟨attempt, inside, same⟩ := attempted
  have more : 0 < ((postroom.attemptsUntil next).filter fun attempt => attempt.entry = entry).length :=
    List.length_pos_of_mem (List.mem_filter.mpr ⟨inside, decide_eq_true same⟩)
  rw [(before.tried found).count, (after.tried there).count, attemptsOf, attemptsOf, run.attempts,
    List.filter_append, List.length_append]
  omega

end

end Postroom

end AccountLedger
