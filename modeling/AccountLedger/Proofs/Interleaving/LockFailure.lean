import AccountLedger.Proofs.Interleaving.Progress
import AccountLedger.Proofs.Lock.Waiting
import AccountLedger.Proofs.Memory.Reading

/-!
Requests for row locks that fail. A unit of work that asked out of order, or waited for a row in vain,
stands where it stood, and the rows that were taken on the way are free. That a row is missing shows
only when all rows are locked, and then they stay locked.
-/

namespace AccountLedger

namespace HeldLocks

theorem permit_error {held : HeldLocks} {order : LockOrder} {error : LedgerError}
    (refused : held.permit order = .error error) :
    ∃ requested highest, error = .lockOrderViolation requested highest := by
  unfold permit at refused
  split at refused
  · split at refused
    · cases refused
      exact ⟨_, _, rfl⟩
    · cases refused
  · cases refused

end HeldLocks

namespace Standing

/-- Where a unit of work may stand after a request for row locks has failed, and why it did. -/
inductive LockFails (standing : Standing) (order : LockOrder) : LedgerError → Standing → Prop
  | outOfOrder {requested highest : Uuid} :
    standing.work.held.permit order = .error (.lockOrderViolation requested highest) →
    LockFails standing order (.lockOrderViolation requested highest) standing
  | late {account : Uuid} {waitedMs : Nat} :
    LockFails standing order (.lockTimeout account waitedMs) standing
  | missing {id : Uuid} {more : List RowGuard} {reads : List Account} : id ∈ order.ids →
    standing.work.staged? id = none → more.map (·.account) = standing.work.held.fresh order →
    LockFails standing order (.notFound id)
      ⟨plus standing.held more, ∅, standing.work.hold more, reads⟩

variable {unit : UnitId} {standing : Standing}

theorem lockRows_fails (order : LockOrder) (timeoutMs : Nat) (valid : standing.Valid)
    (resting : standing.Resting) :
    (unit.lockRows order timeoutMs).Ensures (rule unit) standing fun answer later =>
      ∀ error, answer = .error error → standing.LockFails order error later := by
  refine ensures_lockRows order timeoutMs valid resting ?refused ?late ?locked
  case refused =>
    rintro _ refused error ⟨⟩
    obtain ⟨requested, highest, rfl⟩ := HeldLocks.permit_error refused
    exact .outOfOrder refused
  case late =>
    rintro account waitedMs error ⟨⟩
    exact .late
  case locked =>
    intro more tables _ accounts _ error failed
    obtain ⟨id, inside, rfl, absent⟩ := UnitOfWork.rows_error failed
    exact .missing inside (Option.or_eq_none_iff.mp absent).1 accounts

end Standing

namespace Pool

variable {pool next before after : Pool} {unit : UnitId}

/-- What a pool comes to while a unit of work goes on with what it was asked for and the others do
what they like. -/
inductive Meanwhile (unit : UnitId) (pool : Pool) : Pool → Prop
  | begun : Meanwhile unit pool pool
  | own {between next} : Meanwhile unit pool between → between.Proceeds unit next →
    Meanwhile unit pool next
  | others {between next} : Meanwhile unit pool between → between.Step next →
    next.activity unit = between.activity unit → Meanwhile unit pool next

/-- Unless it is one of its own, a step leaves a unit of work where it is. -/
theorem Step.beside (sound : pool.Sound) (step : pool.Step next)
    (same : next.activity unit = pool.activity unit) :
    pool.Proceeds unit next ∨ next.standing unit = pool.standing unit := by
  cases step with
  | start => exact Or.inr (started_standing sound unit)
  | @proceed other _ proceeds =>
    by_cases own : unit = other
    · exact Or.inl (own ▸ proceeds)
    · exact Or.inr (proceeds.others sound own).2
  | _ => exact Or.inr rfl

theorem Meanwhile.ensures (meanwhile : Meanwhile unit pool next) (sound : pool.Sound)
    {request : UnitRequest} {rest : Program memory request.Answer}
    {result : request.Answer → Standing → Prop} (busy : pool.activity unit = .busy request rest)
    (avoids : rest.Avoids MemoryRequest.Commits)
    (ensures : rest.Ensures (Standing.rule unit) (pool.standing unit) result) :
    next.Sound ∧ ∃ later, next.activity unit = .busy request later ∧
      later.Avoids MemoryRequest.Commits ∧
      later.Ensures (Standing.rule unit) (next.standing unit) result := by
  induction meanwhile with
  | begun => exact ⟨sound, rest, busy, avoids, ensures⟩
  | own _ proceeds ih =>
    obtain ⟨sound, later, busy, avoids, ensures⟩ := ih
    obtain ⟨_, _, more⟩ := proceeds.quiet sound busy avoids ensures
    exact ⟨proceeds_sound sound proceeds, more⟩
  | others _ step same ih =>
    obtain ⟨sound, later, busy, avoids, ensures⟩ := ih
    refine ⟨step_sound sound step, ?_⟩
    rcases step.beside sound same with proceeds | unmoved
    · exact (proceeds.quiet sound busy avoids ensures).2.2
    · exact ⟨later, same.trans busy, avoids, unmoved ▸ ensures⟩

/-- A request for row locks fails because it is out of order, because a row cannot be had in time or
because a row does not exist. In the first two cases the unit of work stands where it stood: it has
the locks and the content that decide what it may lock and save, and no ticket for any of the rows
that it asked for anew. In the last case it holds all of these besides. -/
theorem Reachable.failed_lock {order : LockOrder} {timeoutMs : Nat} {error : LedgerError}
    (reachable : before.Reachable) (idle : before.activity unit = .idle)
    (meanwhile : Meanwhile unit (before.asked unit (.lock unit order timeoutMs)) after)
    (failed : after.activity unit = .busy (.lock unit order timeoutMs) (.done (.error error))) :
    (before.standing unit).LockFails order error (after.standing unit) ∧
    ((∀ id, error ≠ .notFound id) → after.standing unit = before.standing unit ∧
      ∀ ticket ∈ after.store.locks.tickets, ticket.owner = unit.number →
        ticket.account ∉ (before.store.unit unit).held.fresh order) := by
  have sound := reachable.sound
  have valid := sound.valid unit
  have resting := (follows_idle idle).mp (sound.follows unit)
  have begun := (reachable.asked unit (.lock unit order timeoutMs) idle rfl).sound
  obtain ⟨_, rest, busy, _, ensured⟩ := meanwhile.ensures begun (Function.update_self ..)
    (unit.lockRows_avoids order timeoutMs) (Standing.lockRows_fails order timeoutMs valid resting)
  rw [failed] at busy
  cases busy
  have fails : (before.standing unit).LockFails order error (after.standing unit) :=
    ensured error rfl
  refine ⟨fails, fun present => ?_⟩
  have same : after.standing unit = before.standing unit := by
    generalize after.standing unit = later at fails
    cases fails with
    | outOfOrder => rfl
    | late => rfl
    | missing => exact absurd rfl (present _)
  refine ⟨same, fun ticket member own fresh => ?_⟩
  have unlocked := (HeldLocks.mem_fresh.mp fresh).2
  by_cases held : ticket.phase = .held
  · have inside : ticket.guard ∈ (after.standing unit).held := ⟨ticket, member, own, held, rfl⟩
    rw [same, resting.held] at inside
    have listed : ticket.account ∈ (before.standing unit).work.held.ids :=
      valid.ids ▸ List.mem_map_of_mem inside
    exact unlocked listed
  · have inside : ticket.guard ∈ (after.standing unit).awaited := ⟨ticket, member, own, held, rfl⟩
    rw [same, resting.awaited] at inside
    exact inside

section Runs

variable {between : Pool} {request : UnitRequest}

theorem Meanwhile.answered (meanwhile : Meanwhile unit pool between) {asked : StoreRequest}
    {resume : asked.Answer → Program memory request.Answer}
    (busy : between.activity unit = .busy request (.ask (.store asked) resume)) :
    Meanwhile unit pool (between.answered unit request asked resume) :=
  meanwhile.own (.stored busy)

theorem Meanwhile.waiting (meanwhile : Meanwhile unit pool between) {asked resume locks}
    (busy : between.activity unit = .busy request (.ask (.lock asked) resume))
    (step : LockStep asked between.store.locks none locks) :
    Meanwhile unit pool (between.withLocks locks) :=
  meanwhile.own (.waiting busy step)

theorem Meanwhile.locked (meanwhile : Meanwhile unit pool between) {asked resume answer locks}
    (busy : between.activity unit = .busy request (.ask (.lock asked) resume))
    (step : LockStep asked between.store.locks (some answer) locks) :
    Meanwhile unit pool
      ((between.withLocks locks).withActivity unit (.busy request (resume answer))) :=
  meanwhile.own (.locked busy step)

end Runs

/-- A unit of work waits in vain for a row that another one has. -/
theorem failed_lock_contended : ∃ before after : Pool, before.Reachable ∧
    before.activity ⟨1⟩ = .idle ∧ before.store.locks.Has 0 Uuid.nil ∧
    Meanwhile ⟨1⟩ (before.asked ⟨1⟩ (.lock ⟨1⟩ (LockOrder.single Uuid.nil) 10)) after ∧
    after.activity ⟨1⟩ = .busy (.lock ⟨1⟩ (LockOrder.single Uuid.nil) 10)
      (.done (.error (.lockTimeout Uuid.nil 10))) ∧
    after.standing ⟨1⟩ = before.standing ⟨1⟩ := by
  have idle : start.started.started.Reachable := Reachable.started (Reachable.started .refl)
  have first := idle.asked ⟨0⟩ (.lock ⟨0⟩ (LockOrder.single Uuid.nil) 10) rfl rfl
  have firstEntered := (first.answered ⟨0⟩ rfl).locked ⟨0⟩ rfl (.enter ..)
  have firstHas := firstEntered.waiting ⟨0⟩ rfl (.join rfl rfl)
  have asks : ∀ {before : Pool}, before.Reachable →
      Meanwhile ⟨1⟩ (before.asked ⟨1⟩ (.lock ⟨1⟩ (LockOrder.single Uuid.nil) 10)) _ :=
    fun _ => .begun
  have entered := ((asks firstHas).answered rfl).locked rfl (.enter ..)
  have queued := entered.waiting rfl (.join rfl rfl)
  have late := (queued.locked rfl (.expire rfl (Or.inl rfl))).locked rfl (.prune ..)
  exact ⟨_, _, firstHas, rfl, ⟨_, List.mem_cons_self, rfl, rfl, rfl⟩, late, rfl,
    ((firstHas.failed_lock rfl late rfl).2 (fun _ => nofun)).1⟩

/-- A row that does not exist is asked for: the unit of work holds it nevertheless, and may no longer
lock a row below it. -/
theorem missing_row_stays_locked : ∃ before after : Pool, before.Reachable ∧
    before.activity ⟨0⟩ = .idle ∧
    Meanwhile ⟨0⟩ (before.asked ⟨0⟩ (.lock ⟨0⟩ (LockOrder.single (Uuid.ofNat 1)) 10)) after ∧
    after.activity ⟨0⟩ = .busy (.lock ⟨0⟩ (LockOrder.single (Uuid.ofNat 1)) 10)
      (.done (.error (.notFound (Uuid.ofNat 1)))) ∧
    ¬ before.store.locks.Has 0 (Uuid.ofNat 1) ∧ after.store.locks.Has 0 (Uuid.ofNat 1) ∧
    (before.store.answer (.permit ⟨0⟩ (LockOrder.single Uuid.nil))).1 =
      .ok (LockOrder.single Uuid.nil) ∧
    (after.store.answer (.permit ⟨0⟩ (LockOrder.single Uuid.nil))).1 =
      .error (.lockOrderViolation Uuid.nil (Uuid.ofNat 1)) := by
  have idle : start.started.Reachable := Reachable.started .refl
  have asked : Meanwhile ⟨0⟩
    (start.started.asked ⟨0⟩ (.lock ⟨0⟩ (LockOrder.single (Uuid.ofNat 1)) 10)) _ := .begun
  have entered := (asked.answered rfl).locked rfl (.enter ..)
  have taken := (entered.waiting rfl (.join rfl rfl)).locked rfl (.serve rfl)
  have missing := (taken.answered rfl).answered rfl
  refine ⟨_, _, idle, rfl, missing, rfl, ?_, ⟨_, List.mem_cons_self, rfl, rfl, rfl⟩, rfl, rfl⟩
  rintro ⟨_, ⟨⟩, _⟩

end Pool

end AccountLedger
