import AccountLedger.Proofs.Interleaving.Invariant

/-!
How a unit of work comes on with an operation: by its own steps only, and only by one of them, the
commit itself, does it change the tables.
-/

namespace AccountLedger

/-- Whether a request to the store is the commit of a unit of work. -/
def MemoryRequest.Commits : MemoryRequest → Prop
  | .store (.apply _) => True
  | _ => False

open MemoryRequest (Commits)

namespace UnitId

variable {α : Type}

theorem locking_avoids (program : Program lockInterface α) :
    (locking program).Avoids Commits := by
  have each : ∀ request : LockRequest,
      (Program.ask (.lock request) .done : Program memory request.Answer).Avoids Commits :=
    fun request => ⟨id, fun _ => trivial⟩
  exact Program.avoids_translate each program

theorem finish_avoids (unit : UnitId) : unit.finish.Avoids Commits :=
  ⟨id, fun _ => locking_avoids _⟩

theorem cutOff_avoids (unit : UnitId) (store : MemoryStore) : (unit.cutOff store).Avoids Commits :=
  Program.avoids_bind
    (Program.avoids_bind (locking_avoids _) fun _ => locking_avoids _) fun _ => finish_avoids unit

theorem lockRows_avoids (unit : UnitId) (order : LockOrder) (timeoutMs : Nat) :
    (unit.lockRows order timeoutMs).Avoids Commits := by
  refine ⟨id, fun permitted : Except LedgerError LockOrder => ?_⟩
  cases permitted with
  | error error => trivial
  | ok fresh =>
    show Program.Avoids Commits (Program.bind (locking _) _)
    apply Program.avoids_bind (locking_avoids _)
    intro locked
    cases locked with
    | error error => trivial
    | ok guards => exact ⟨id, fun _ => ⟨id, fun _ => trivial⟩⟩

end UnitId

theorem UnitRequest.inMemory_avoids {request : UnitRequest}
    (uncommitted : ∀ unit, request ≠ .commit unit) : request.inMemory.Avoids Commits := by
  cases request with
  | commit unit => exact absurd rfl (uncommitted unit)
  | lock unit order timeoutMs => exact unit.lockRows_avoids order timeoutMs
  | abandon unit => exact unit.finish_avoids
  | _ => exact ⟨id, fun _ => trivial⟩

namespace Pool

variable {pool next : Pool} {unit other : UnitId}

theorem Proceeds.busy (proceeds : pool.Proceeds unit next) :
    ∃ request rest, pool.activity unit = .busy request rest := by
  cases proceeds with
  | stored busy => exact ⟨_, _, busy⟩
  | waiting busy => exact ⟨_, _, busy⟩
  | locked busy => exact ⟨_, _, busy⟩

/-- A step of one unit of work leaves the others where they are. -/
theorem Proceeds.others (sound : pool.Sound) (proceeds : pool.Proceeds unit next)
    (differs : other ≠ unit) :
    next.activity other = pool.activity other ∧ next.standing other = pool.standing other := by
  cases proceeds with
  | stored busy =>
    exact ⟨Function.update_of_ne differs _ _,
      standing_answered_of_ne differs (permitted_of_busy sound busy)⟩
  | waiting busy step =>
    have relocked := lockStep_relocked sound.locks (sound.valid unit) step
      (permitted_of_busy sound busy)
    exact ⟨rfl, relocked.1.others other differs⟩
  | locked busy step =>
    have relocked := lockStep_relocked sound.locks (sound.valid unit) step
      (permitted_of_busy sound busy)
    exact ⟨Function.update_of_ne differs _ _, relocked.1.others other differs⟩

/-- Outside its commit a unit of work comes on with its operation and changes no table. -/
theorem Proceeds.quiet (sound : pool.Sound) (proceeds : pool.Proceeds unit next)
    {request : UnitRequest} {rest : Program memory request.Answer}
    {result : request.Answer → Standing → Prop} (busy : pool.activity unit = .busy request rest)
    (avoids : rest.Avoids Commits)
    (ensures : rest.Ensures (Standing.rule unit) (pool.standing unit) result) :
    next.tables = pool.tables ∧ next.log = pool.log ∧
      ∃ later, next.activity unit = .busy request later ∧ later.Avoids Commits ∧
        later.Ensures (Standing.rule unit) (next.standing unit) result := by
  cases proceeds with
  | @stored _ asked resume now =>
    rw [busy] at now
    cases now
    have permitted : Standing.storeRule unit asked (pool.standing unit) fun answer later =>
        (resume answer).Ensures (Standing.rule unit) later result := ensures
    obtain ⟨tables, log, _⟩ := (answered_cases permitted).resolve_right (by
      rintro ⟨rfl, _⟩
      exact avoids.1 trivial)
    exact ⟨tables, log, _, Function.update_self .., avoids.2 _,
      answered_follows sound.keyed permitted⟩
  | @waiting _ asked resume locks now step =>
    rw [busy] at now
    cases now
    obtain ⟨_, same, _⟩ := lockStep_relocked sound.locks (sound.valid unit) step ensures
    refine ⟨rfl, rfl, _, busy, avoids, ?_⟩
    have unchanged : (pool.withLocks locks).standing unit = pool.standing unit := same rfl
    rw [unchanged]
    exact ensures
  | @locked _ asked resume answer locks now step =>
    rw [busy] at now
    cases now
    obtain ⟨_, _, given⟩ := lockStep_relocked sound.locks (sound.valid unit) step ensures
    exact ⟨rfl, rfl, _, Function.update_self .., avoids.2 _, given answer rfl⟩

/-- What is left of a commit once the writes are stored or refused. -/
def afterApply (unit : UnitId) (outcome : Except LedgerError Unit) :
    Program memory (Except LedgerError Unit) :=
  unit.finish.bind fun _ => .done outcome

/-- The commit itself either stores everything and is logged, or changes nothing. -/
theorem Proceeds.commits (sound : pool.Sound) (proceeds : pool.Proceeds unit next)
    (busy : pool.activity unit = .busy (.commit unit) (UnitRequest.commit unit).inMemory) :
    ∃ (outcome : Except LedgerError Unit) (rest : Program memory (Except LedgerError Unit)),
      next.activity unit = .busy (.commit unit) rest ∧ rest.Avoids Commits ∧
      rest.Ensures (Standing.rule unit) (next.standing unit) (fun answer _ => answer = outcome) ∧
      ((outcome = .ok () ∧ (pool.store.unit unit).Accepted pool.tables ∧
          next.tables = (pool.store.unit unit).committedTables pool.tables ∧
          next.log = pool.log ++ [.committed unit]) ∨
        ((∃ error, outcome = .error error) ∧ ¬ (pool.store.unit unit).Accepted pool.tables ∧
          next.tables = pool.tables ∧ next.log = pool.log)) := by
  have apply : pool.activity unit =
      .busy (.commit unit) (.ask (.store (.apply unit)) (afterApply unit)) := busy
  have permitted : Standing.storeRule unit (.apply unit) (pool.standing unit) fun answer later =>
      (afterApply unit answer).Ensures (Standing.rule unit) later fun _ last =>
        last.Finished (.commit unit) := permitted_of_busy sound apply
  have ensures : ∀ outcome, (afterApply unit outcome).Ensures (Standing.rule unit)
      (pool.standing unit) fun answer _ => answer = outcome := by
    intro outcome
    have finish := (Program.ensures_bind unit.finish _ _ _).mp (permitted.2 outcome)
    exact (Program.ensures_bind unit.finish _ _ _).mpr
      (finish.imp (Standing.rule_monotone unit) fun _ _ _ => rfl)
  cases proceeds with
  | @stored _ asked resume now =>
    rw [apply] at now
    cases now
    have standing : (pool.answered unit (.commit unit) (.apply unit) (afterApply unit)).standing
        unit = pool.standing unit := standing_answered_apply
    refine ⟨(pool.store.answer (.apply unit)).1, afterApply unit _, Function.update_self ..,
      Program.avoids_bind unit.finish_avoids fun _ => trivial, ?_, ?_⟩
    · rw [standing]
      exact ensures _
    · rcases answered_cases permitted with ⟨tables, log, refused⟩ | ⟨_, accepted, tables, log⟩
      · refine Or.inr ⟨?_, refused rfl, tables, log⟩
        cases applied : (pool.store.unit unit).apply pool.tables with
        | ok after => exact absurd (UnitOfWork.accepted_of_apply applied) (refused rfl)
        | error error =>
          simp only [Pool.tables] at applied
          simp only [MemoryStore.answer, applied]
          exact ⟨error, rfl⟩
      · refine Or.inl ⟨?_, accepted, tables, log⟩
        have applied := UnitOfWork.apply_of_accepted accepted
        simp only [Pool.tables] at applied
        simp only [MemoryStore.answer, applied]
  | waiting now => cases apply.symm.trans now
  | locked now => cases apply.symm.trans now

end Pool

end AccountLedger
