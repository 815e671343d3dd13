import AccountLedger.Proofs.Ledger.Schedule
import AccountLedger.Proofs.Transaction.Custody

/-!
Repeating a request is harmless: of all executions with one key at most one calls the ledger, and
all that return a record return the one that is stored under the key.
-/

namespace AccountLedger

namespace Desk

variable {desk next : Desk} {id : Nat} {execution new : Execution} {record : TransactionRecord}
  {fresh : Uuid}

/-! ## Runs -/

theorem drawnBy_mono_of_known (known : desk.executions id = some execution)
    (executions : next.executions = Function.update desk.executions id (some new))
    (drawn : execution.drawn ⊆ new.drawn) {other : Nat} (drew : fresh ∈ desk.drawnBy other) :
    fresh ∈ next.drawnBy other := by
  by_cases same : other = id
  · subst same
    rw [drawnBy_of_known known] at drew
    rw [@drawnBy_of_known next other new (by rw [executions, Function.update_self])]
    exact drawn drew
  · rw [drawnBy, executions, Function.update_of_ne same]
    exact drew

/-- An id that was drawn stays with its execution. -/
theorem Step.drawnBy_mono (step : desk.Step next) {other : Nat}
    (drew : fresh ∈ desk.drawnBy other) : fresh ∈ next.drawnBy other := by
  cases step with
  | call known running =>
    refine drawnBy_mono_of_known known rfl ?_ drew
    exact List.Subset.refl _
  | answer outcome known calling =>
    refine drawnBy_mono_of_known known rfl ?_ drew
    exact List.Subset.refl _
  | proceed proceeds =>
    cases proceeds with
    | @begin id policy request unknown =>
      have differs : other ≠ id := by
        intro same
        subst same
        rw [drawnBy, unknown] at drew
        cases drew
      show fresh ∈ ((Function.update desk.executions id _ other).map Execution.drawn).getD []
      rw [Function.update_of_ne differs]
      exact drew
    | host answer known running unused =>
      exact drawnBy_mono_of_known known rfl (List.subset_append_left _ _) drew
    | table known running =>
      refine drawnBy_mono_of_known known rfl ?_ drew
      exact List.Subset.refl _
    | elsewhere accounts outbox => exact drew

theorem run_sound (sound : desk.Sound) (run : Relation.ReflTransGen Step desk next) :
    next.Sound := by
  induction run with
  | refl => exact sound
  | tail _ step ih => exact (step_sound ih step).1

theorem run_drawnBy_mono (run : Relation.ReflTransGen Step desk next)
    (drew : fresh ∈ desk.drawnBy id) : fresh ∈ next.drawnBy id := by
  induction run with
  | refl => exact drew
  | tail _ step ih => exact step.drawnBy_mono ih

/-- What is stored stays stored, with the same terms. -/
theorem Sound.run_kept (sound : desk.Sound) (run : Relation.ReflTransGen Step desk next)
    (found : desk.tables.records.find? fresh = some record) :
    ∃ later, next.tables.records.find? fresh = some later ∧ record.SameTerms later := by
  induction run with
  | refl => exact ⟨record, found, .refl record⟩
  | tail before step ih =>
    obtain ⟨between, present, terms⟩ := ih
    obtain ⟨later, here, more, _⟩ := (step_sound (run_sound sound before) step).2.kept present
    exact ⟨later, here, terms.trans more⟩

/-! ## Executions with one key -/

/-- What an execution returns is stored, with the key of its request. -/
theorem Sound.returned (sound : desk.Sound) (known : desk.executions id = some execution)
    (returned : execution.returned? = some record) :
    ∃ stored, desk.tables.records.find? record.id = some stored ∧ stored.SameTerms record ∧
      record.idempotencyKey = execution.request.idempotencyKey := by
  unfold Execution.returned? at returned
  split at returned
  · next outcome done =>
    obtain ⟨filing, rest, backs⟩ := sound.bears known
    rw [Execution.rest, done] at rest
    have ended : Filing.Ended outcome filing := rest
    cases ended record returned with
    | filed outcomes =>
      cases backs with
      | filed _ found fits _ _ => exact ⟨record, found, .refl record, fits.idempotencyKey⟩
    | replayed =>
      cases backs with
      | replayed given keyed found same => exact ⟨_, found, same, keyed.trans given.symm⟩
  · cases returned

/-- Two executions that have called the ledger with one key have filed one record. -/
theorem Sound.callers_same (sound : desk.Sound) {first second : Nat} {one two : Execution}
    {key : String} (known : desk.executions first = some one)
    (alsoKnown : desk.executions second = some two)
    (keyed : one.request.idempotencyKey = some key)
    (alsoKeyed : two.request.idempotencyKey = some key) (called : one.calls ≠ [])
    (alsoCalled : two.calls ≠ []) : first = second := by
  obtain ⟨record, drawn, found, fits⟩ := sound.caller known called
  obtain ⟨theirs, alsoDrawn, alsoFound, alsoFits⟩ := sound.caller alsoKnown alsoCalled
  have same : record.id = theirs.id := sound.indexed.unique found
    (fits.idempotencyKey.trans keyed) alsoFound (alsoFits.idempotencyKey.trans alsoKeyed)
  apply sound.apart
  · rw [drawnBy_of_known known, drawn]
    exact List.mem_cons_self
  · rw [drawnBy_of_known alsoKnown, alsoDrawn, same]
    exact List.mem_cons_self

/-- Once a record is stored, nobody but the execution that has drawn its id calls the ledger with
its key. -/
theorem Sound.latecomer (sound : desk.Sound) (run : Relation.ReflTransGen Step desk next)
    {key : String} (stored : desk.tables.findByKey key = some record)
    (other : record.id ∉ desk.drawnBy id) (known : next.executions id = some execution)
    (keyed : execution.request.idempotencyKey = some key) : execution.calls = [] := by
  by_contra called
  obtain ⟨found, own⟩ := sound.indexed.findByKey.mp stored
  obtain ⟨owner, drew⟩ := sound.owned found
  have after := run_sound sound run
  obtain ⟨later, stillFound, terms⟩ := sound.run_kept run found
  obtain ⟨theirs, drawn, alsoFound, fits⟩ := after.caller known called
  have same : record.id = theirs.id := after.indexed.unique stillFound
    (terms.idempotencyKey.trans own) alsoFound (fits.idempotencyKey.trans keyed)
  have isOwner : owner = id := by
    apply after.apart (run_drawnBy_mono run drew)
    rw [drawnBy_of_known known, drawn, same]
    exact List.mem_cons_self
  exact other (isOwner ▸ drew)

/-- However executions are interleaved, whatever numbers are drawn and whatever the ledger answers:
of those with one key at most one ever calls the ledger, and once a record is stored with the key
none but the one that has drawn its id; every record they return is the stored one, and there is at
most one with the key. -/
theorem Reachable.idempotent (reachable : desk.Reachable) (key : String) :
    (∀ first second one two, desk.executions first = some one →
      desk.executions second = some two → one.request.idempotencyKey = some key →
      two.request.idempotencyKey = some key → one.calls ≠ [] → two.calls ≠ [] →
      first = second) ∧
    (∀ later stored, Relation.ReflTransGen Step desk later →
      desk.tables.findByKey key = some stored → ∀ id execution, stored.id ∉ desk.drawnBy id →
        later.executions id = some execution → execution.request.idempotencyKey = some key →
        execution.calls = []) ∧
    (∀ id execution record, desk.executions id = some execution →
      execution.request.idempotencyKey = some key → execution.returned? = some record →
      ∃ stored, desk.tables.findByKey key = some stored ∧ record.id = stored.id ∧
        record.reference = stored.reference ∧ record.account = stored.account ∧
        record.target = stored.target ∧ record.amount = stored.amount ∧
        record.kind = stored.kind) ∧
    ∀ first second one two, desk.tables.records.find? first = some one →
      desk.tables.records.find? second = some two → one.idempotencyKey = some key →
      two.idempotencyKey = some key → first = second := by
  have sound := reachable.sound
  refine ⟨fun first second one two => sound.callers_same,
    fun later stored run found id execution => sound.latecomer run found, ?_, ?_⟩
  · intro id execution record known keyed returned
    obtain ⟨stored, found, terms, own⟩ := sound.returned known returned
    have present : desk.tables.findByKey key = some stored := by
      refine sound.indexed.findByKey.mpr ⟨?_, ?_⟩
      · rw [← terms.id]
        exact found
      · exact terms.idempotencyKey.symm.trans (own.trans keyed)
    exact ⟨stored, present, terms.id, terms.reference, terms.account, terms.target, terms.amount,
      terms.kind⟩
  · exact fun first second one two found alsoFound keyed alsoKeyed =>
      sound.indexed.unique found keyed alsoFound alsoKeyed

/-! ## An execution without a break -/

/-- An execution goes on with its next request of the host or the store, unless the host would draw
an id again. -/
def goesOn (desk : Desk) (id : Nat) : Desk :=
  match desk.executions id with
  | none => desk
  | some execution => match execution.stage with
    | .running (.ask (.service (.host request)) resume) =>
      let answer := request.supplied desk.drawn.length
      if ∀ fresh ∈ request.drawn answer, fresh ∉ desk.drawn then
        desk.hosted id execution request resume answer
      else desk
    | .running (.ask (.service (.table request)) resume) => desk.tabled id execution request resume
    | _ => desk

/-- An execution goes on with so many requests. -/
def keptOn (desk : Desk) (id : Nat) : Nat → Desk
  | 0 => desk
  | requests + 1 => (desk.goesOn id).keptOn id requests

theorem goesOn_proceeds (desk : Desk) (id : Nat) :
    Relation.ReflGen Proceeds desk (desk.goesOn id) := by
  unfold goesOn
  split
  · exact .refl
  · next execution known =>
    split
    · next request resume running =>
      dsimp only
      split
      · next unnamed => exact .single (.host _ known running unnamed)
      · exact .refl
    · next request resume running => exact .single (.table known running)
    · exact .refl

theorem keptOn_proceeds (desk : Desk) (id requests : Nat) :
    Relation.ReflTransGen Proceeds desk (desk.keptOn id requests) := by
  induction requests generalizing desk with
  | zero => exact .refl
  | succ requests ih => exact (goesOn_proceeds desk id).to_reflTransGen.trans (ih (desk.goesOn id))

theorem Reachable.proceeds (reachable : desk.Reachable)
    (run : Relation.ReflTransGen Proceeds desk next) : next.Reachable :=
  reachable.trans (Relation.ReflTransGen.mono (fun _ _ => .proceed) _ _ run)

/-! ## A deposit that is asked for again -/

/-- A deposit that may be asked for again. -/
def keyedDeposit : TransactionRequest :=
  ⟨Uuid.nil, none, ⟨⟨1, 0, by decide, Decimal.zero.scale_le⟩, rfl⟩, .deposit, some "key"⟩

/-- The desk once it is recorded and the ledger is to be called for it. -/
def recorded : Desk := (start.withExecution 0 (.begun ⟨1, 0⟩ keyedDeposit)).keptOn 0 5

theorem recorded_proceeds : Relation.ReflTransGen Proceeds start recorded :=
  .head (.begin _ _ rfl) (keptOn_proceeds _ _ _)

theorem recorded_reachable : recorded.Reachable := Reachable.proceeds .refl recorded_proceeds

/-- A deposit is carried out, and asked for again: the ledger is called once, and the record of the
first execution is returned by the second. -/
theorem repeated_once :
    ∃ (desk : Desk) (one two : Execution) (first second stored : TransactionRecord),
      desk.Reachable ∧ desk.executions 0 = some one ∧ desk.executions 1 = some two ∧
      one.calls ≠ [] ∧ two.calls = [] ∧ one.returned? = some first ∧
      two.returned? = some second ∧ desk.tables.findByKey "key" = some stored ∧
      first.id = stored.id ∧ second.id = stored.id ∧ second.reference = stored.reference := by
  have called := recorded_reachable.tail (@Step.call _ 0 _ _ _ rfl rfl)
  have answered := called.tail (@Step.answer _ 0 _ _ _ (.ok ()) rfl rfl)
  have marked := Reachable.proceeds answered (keptOn_proceeds _ 0 2)
  have fromHere : ∀ {desk : Desk}, desk.Reachable → Relation.ReflTransGen Step desk desk :=
    fun _ => .refl
  have again := (fromHere marked).tail (.proceed (@Proceeds.begin _ 1 ⟨1, 0⟩ keyedDeposit rfl))
  have replayed := again.tail (.proceed (@Proceeds.table _ 1 _ _ _ rfl rfl))
  have last : Reachable _ := marked.trans replayed
  obtain ⟨_, late, _, _⟩ := marked.idempotent "key"
  obtain ⟨_, _, returned, _⟩ := last.idempotent "key"
  obtain ⟨kept, present, same, _⟩ := returned 0 _ _ rfl rfl rfl
  obtain ⟨alsoKept, alsoPresent, alsoSame, reference, _⟩ := returned 1 _ _ rfl rfl rfl
  cases present.symm.trans alsoPresent
  exact ⟨_, _, _, _, _, kept, last, rfl, rfl, List.cons_ne_nil _ _,
    late _ _ replayed rfl 1 _ List.not_mem_nil rfl rfl, rfl, rfl, present, same, alsoSame, reference⟩

end Desk

end AccountLedger
