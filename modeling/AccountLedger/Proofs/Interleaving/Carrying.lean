import AccountLedger.Proofs.Interleaving.Pool

/-!
An operation of a unit of work that is carried on without a break. Each of its requests is answered
as soon as it is made, up to its end or to a row lock that somebody else has. All states that it
goes through are listed, so that what holds along the way can be looked up.
-/

namespace AccountLedger

/-! ## The states along a way -/

/-- These states are come to one after another; some of them may be the same as the one before. -/
inductive Visits {σ : Type} (step : σ → σ → Prop) : σ → List σ → σ → Prop
  | nothing (state) : Visits step state [] state
  | next {before between after rest} : Relation.ReflGen step before between →
    Visits step between rest after → Visits step before (between :: rest) after

namespace Visits

variable {σ τ : Type} {step : σ → σ → Prop} {before between after : σ} {states more : List σ}

theorem append (first : Visits step before states between)
    (second : Visits step between more after) : Visits step before (states ++ more) after := by
  induction first with
  | nothing => exact second
  | next come _ ih => exact .next come (ih second)

theorem one (come : step before after) : Visits step before [after] after :=
  .next (.single come) (.nothing after)

theorem map {other : τ → τ → Prop} (f : σ → τ)
    (steps : ∀ before after, step before after → other (f before) (f after))
    (visits : Visits step before states after) :
    Visits other (f before) (states.map f) (f after) := by
  induction visits with
  | nothing => exact .nothing _
  | next come _ ih =>
    rw [List.map_cons]
    cases come with
    | refl => exact .next .refl ih
    | single come => exact .next (.single (steps _ _ come)) ih

/-- The last state is the last one listed. -/
theorem last (visits : Visits step before states after) : states.getLastD before = after := by
  induction visits with
  | nothing => rfl
  | next _ _ ih => rw [List.getLastD_cons, ih]

/-- What every step keeps holds all along. -/
theorem kept {good : σ → Prop} (visits : Visits step before states after) (first : good before)
    (keeps : ∀ before after, step before after → good before → good after) :
    ∀ state ∈ states, good state := by
  induction visits with
  | nothing => simp
  | @next before between _ _ come _ ih =>
    have here : good between := by
      cases come with
      | refl => exact first
      | single come => exact keeps _ _ come first
    intro state inside
    rcases List.mem_cons.mp inside with rfl | later
    · exact here
    · exact ih here state later

theorem run {good : σ → Prop} (visits : Visits step before states after)
    (all : ∀ state ∈ states, good state) :
    Relation.ReflTransGen (fun before after => step before after ∧ good after) before after := by
  induction visits with
  | nothing => exact .refl
  | next come _ ih =>
    have rest := ih fun state inside => all state (List.mem_cons_of_mem _ inside)
    cases come with
    | refl => exact rest
    | single come => exact rest.head ⟨come, all _ List.mem_cons_self⟩

end Visits

/-! ## Row locks -/

namespace LockTable

variable {table after : LockTable} {request : LockRequest}

/-- The table once somebody who asks for something waits where that has to be waited for. -/
def waited (table : LockTable) : LockRequest → LockTable
  | .await number _ =>
    match table.ticket? number with
    | none => table
    | some ticket => if ticket.phase = .entered then table.join number else table
  | _ => table

/-- The answer that is ready, and the table after it. -/
def served? (table : LockTable) : (request : LockRequest) → Option (request.Answer × LockTable)
  | .enter owner account => some (table.enter owner account)
  | .await number _ => if (table.notice number).1 then some (true, (table.notice number).2) else none
  | .leave number => some ((), (table.leave number).2)
  | .prune account => some ((), table.prune account)

theorem waited_step (table : LockTable) (request : LockRequest) :
    table.waited request = table ∨ LockStep request table none (table.waited request) := by
  cases request with
  | await number timeoutMs =>
    cases known : table.ticket? number with
    | none =>
      left
      simp [waited, known]
    | some ticket =>
      by_cases entered : ticket.phase = .entered
      · right
        simp only [waited, known, if_pos entered]
        exact .join known entered
      · left
        simp [waited, known, entered]
  | _ => exact Or.inl rfl

theorem served?_step {answer : request.Answer}
    (served : table.served? request = some (answer, after)) :
    LockStep request table (some answer) after := by
  cases request with
  | enter owner account =>
    cases served
    exact .enter owner account table
  | await number timeoutMs =>
    by_cases granted : (table.notice number).1 = true
    · cases (if_pos granted).symm.trans served
      exact .serve granted
    · cases (if_neg granted).symm.trans served
  | leave number =>
    cases served
    exact .leave number table
  | prune account =>
    cases served
    exact .prune account table

end LockTable

/-! ## Operations -/

namespace Pool

variable {pool next : Pool} {unit : UnitId} {request : UnitRequest}

/-- A step of a unit of work that changes the outbox only by its commit. -/
structure Carries (unit : UnitId) (pool next : Pool) : Prop where
  proceeds : pool.Proceeds unit next
  outbox : next.tables.outbox = pool.tables.outbox ∨ next.log ≠ pool.log

/-- The pools on the way through the rest of an operation, and its answer unless it has to wait. No
unit of work asks for the tables. -/
def carried (unit : UnitId) (request : UnitRequest) :
    Program memory request.Answer → Pool → List Pool × Option request.Answer
  | .done answer, _ => ([], some answer)
  | .ask (.store (.table _)) _, _ => ([], none)
  | .ask (.store asked) resume, pool =>
    let next := pool.answered unit request asked resume
    let rest := carried unit request (resume (pool.store.answer asked).1) next
    (next :: rest.1, rest.2)
  | .ask (.lock asked) resume, pool =>
    let waiting := pool.withLocks (pool.store.locks.waited asked)
    match waiting.store.locks.served? asked with
    | none => ([waiting], none)
    | some (answer, locks) =>
      let next := (waiting.withLocks locks).withActivity unit (.busy request (resume answer))
      let rest := carried unit request (resume answer) next
      (waiting :: next :: rest.1, rest.2)

/-- Only the commit of a unit of work changes the outbox. -/
theorem answered_outbox {asked : StoreRequest}
    (resume : asked.Answer → Program memory request.Answer)
    (untabled : ∀ request, asked ≠ .table request) :
    (pool.answered unit request asked resume).tables.outbox = pool.tables.outbox ∨
      (pool.answered unit request asked resume).log ≠ pool.log := by
  cases asked with
  | table request => exact absurd rfl (untabled request)
  | apply other =>
    cases applied : (pool.store.unit other).apply pool.tables with
    | ok after =>
      right
      simp [answered, commits?, applied, Except.toBool]
    | error error =>
      left
      simp only [tables] at applied
      simp [answered, MemoryStore.answer, tables, applied]
  | _ => exact Or.inl rfl

theorem carries_stored {asked : StoreRequest} {resume : asked.Answer → Program memory request.Answer}
    (busy : pool.activity unit = .busy request (.ask (.store asked) resume))
    (untabled : ∀ request, asked ≠ .table request) :
    Carries unit pool (pool.answered unit request asked resume) :=
  ⟨.stored busy, answered_outbox resume untabled⟩

theorem carries_waited {asked : LockRequest} {resume : asked.Answer → Program memory request.Answer}
    (busy : pool.activity unit = .busy request (.ask (.lock asked) resume)) :
    Relation.ReflGen (Carries unit) pool (pool.withLocks (pool.store.locks.waited asked)) := by
  rcases LockTable.waited_step pool.store.locks asked with same | step
  · rw [same]
    exact .refl
  · exact .single ⟨.waiting busy step, Or.inl rfl⟩

theorem carried_store {asked : StoreRequest} (resume : asked.Answer → Program memory request.Answer)
    (untabled : ∀ request, asked ≠ .table request) :
    carried unit request (.ask (.store asked) resume) pool =
      let next := pool.answered unit request asked resume
      let rest := carried unit request (resume (pool.store.answer asked).1) next
      (next :: rest.1, rest.2) := by
  cases asked with
  | table request => exact absurd rfl (untabled request)
  | _ => rfl

/-- Every state on the way is come to by a step of the unit of work, and at the end it has its
answer. -/
theorem carried_visits (rest : Program memory request.Answer)
    (busy : pool.activity unit = .busy request rest) :
    ∃ last, Visits (Carries unit) pool (carried unit request rest pool).1 last ∧
      ∀ answer, (carried unit request rest pool).2 = some answer →
        last.activity unit = .busy request (.done answer) := by
  induction rest generalizing pool with
  | done answer =>
    refine ⟨pool, .nothing pool, fun other same => ?_⟩
    cases same
    exact busy
  | ask asked resume ih =>
    cases asked with
    | store asked =>
      by_cases tabled : ∃ request, asked = .table request
      · obtain ⟨_, rfl⟩ := tabled
        refine ⟨pool, .nothing pool, fun answer absurdly => ?_⟩
        cases absurdly
      · have untabled : ∀ request, asked ≠ .table request :=
          fun request same => tabled ⟨request, same⟩
        obtain ⟨last, visits, ends⟩ := @ih (pool.store.answer asked).1
          (pool.answered unit request asked resume) (Function.update_self ..)
        rw [carried_store resume untabled]
        exact ⟨last, .next (.single (carries_stored busy untabled)) visits, ends⟩
    | lock asked =>
      let waiting := pool.withLocks (pool.store.locks.waited asked)
      have joins : Relation.ReflGen (Carries unit) pool waiting := carries_waited busy
      rw [carried]
      cases served : waiting.store.locks.served? asked with
      | none =>
        refine ⟨waiting, .next joins (.nothing waiting), fun answer absurdly => ?_⟩
        cases absurdly
      | some taken =>
        obtain ⟨answer, locks⟩ := taken
        have still : waiting.activity unit = .busy request (.ask (.lock asked) resume) := busy
        have step := Proceeds.locked still (LockTable.served?_step served)
        obtain ⟨last, visits, ends⟩ := @ih answer
          ((waiting.withLocks locks).withActivity unit (.busy request (resume answer)))
          (Function.update_self ..)
        exact ⟨last, .next joins (.next (.single ⟨step, Or.inl rfl⟩) visits), ends⟩

end Pool

end AccountLedger
