import AccountLedger.Proofs.Transaction.Letters
import AccountLedger.Proofs.Transaction.Verdict

/-!
What a failed record tells of a ledger at an address. A response that goes astray leaves open what
the ledger has done, but it ends the execution: only the last attempt can have been carried out
without its execution knowing.
-/

namespace AccountLedger.Outpost

variable {root : RootAddress} {outpost : Outpost} {attempt : Nat} {unit : UnitId}
  {request : TransactionRequest} {outcome : Outcome DownstreamError Unit} {office : Office}
  {letter : Nat × Delivery} {letters : List (Nat × Delivery)}
  {outcomes : List (Outcome DownstreamError Unit)}

/-! ## What an attempt has done -/

/-- A contended lock has come back intact. -/
theorem Told.of_contended (told : Told office request letter outcome)
    (contended : Contended outcome) : letter.2 = .intact := by
  cases told with
  | intact _ _ => rfl
  | bare _ _ lasting => exact absurd contended lasting
  | astray _ _ lasting => exact absurd contended lasting

/-- An attempt has committed nothing when its error has come back intact or without its body. -/
theorem Told.uncommitted (sound : office.Sound) (told : Told office request letter outcome)
    (came : letter.2 = .intact ∨ letter.2 = .bare) (failed : Filing.Failed outcome)
    (owned : office.owner unit = some letter.1) : unit ∉ office.pool.committed := by
  have reverted : ∀ {said}, Branch.Heard office request letter.1 said → said ≠ .ok () →
      unit ∉ office.pool.committed := by
    intro said heard ill
    obtain ⟨call, made, asked, ⟨_, well, _⟩ | ⟨_, uncommitted⟩⟩ := heard.returned sound
    · exact absurd well ill
    · exact uncommitted unit ((Branch.owner_iff sound asked.known).mp owned)
  cases told with
  | intact heard well =>
    refine reverted heard fun same => ?_
    obtain ⟨error, absurdly⟩ := failed
    cases (well same).symm.trans absurdly
  | bare heard ill _ => exact reverted heard ill
  | astray notIntact notBare _ => exact (came.elim notIntact notBare).elim

theorem contended_uncommitted (sound : office.Sound)
    (all : List.Forall₂ (Told office request) letters outcomes)
    (contended : ∀ outcome ∈ outcomes, Contended outcome) :
    ∀ letter ∈ letters, office.owner unit = some letter.1 → unit ∉ office.pool.committed := by
  induction all with
  | nil => exact fun letter absurdly => absurd absurdly List.not_mem_nil
  | @cons first outcome _ _ told _ ih =>
    intro letter inside owned
    rcases List.mem_cons.mp inside with rfl | later
    · have here := contended outcome List.mem_cons_self
      obtain ⟨error, failed, _⟩ := id here
      exact told.uncommitted sound (.inl (told.of_contended here)) ⟨error, failed⟩ owned
    · exact ih (fun other member => contended other (List.mem_cons_of_mem _ member)) letter later owned

/-- If an execution has heard of nothing but failures, only its last attempt can have committed
anything, and only if its response has gone astray. -/
theorem last_astray (sound : office.Sound)
    (all : List.Forall₂ (Told office request) letters outcomes)
    (failed : ∀ outcome ∈ outcomes, Filing.Failed outcome)
    (before : ∀ outcome ∈ outcomes.dropLast, Contended outcome)
    (tried : attempt ∈ letters.map Prod.fst) (owned : office.owner unit = some attempt)
    (committed : unit ∈ office.pool.committed) :
    ∃ earlier delivery, letters = earlier ++ [(attempt, delivery)] ∧ delivery ≠ .intact ∧
      delivery ≠ .bare := by
  obtain ⟨letter, inside, rfl⟩ := List.mem_map.mp tried
  rcases List.eq_nil_or_concat' outcomes with rfl | ⟨front, last, rfl⟩
  · rw [List.forall₂_nil_right_iff.mp all] at inside
    cases inside
  rw [List.dropLast_concat] at before
  -- what was heard last apart from all that was heard before
  have earlier := List.forall₂_take_append _ _ _ all
  obtain ⟨final, rest, told, nothing, dropped⟩ :=
    List.forall₂_cons_right_iff.mp (List.forall₂_drop_append _ _ _ all)
  obtain rfl := List.forall₂_nil_right_iff.mp nothing
  have split := List.take_append_drop front.length letters
  rw [dropped] at split
  rw [← split] at inside
  rcases List.mem_append.mp inside with old | newest
  · exact absurd committed (contended_uncommitted sound earlier before letter old owned)
  · cases List.mem_singleton.mp newest
    have failure := failed last (List.mem_append_right _ List.mem_cons_self)
    have hidden : ¬ (letter.2 = .intact ∨ letter.2 = .bare) :=
      fun heard => told.uncommitted sound heard failure owned committed
    exact ⟨letters.take front.length, letter.2, split.symm, not_or.mp hidden⟩

theorem call_of_owner (sound : office.Sound) (owned : office.owner unit = some attempt) :
    ∃ made, office.calls attempt = some made ∧ made.unit = some unit := by
  obtain ⟨file, filed, own⟩ :=
    Option.bind_eq_some_iff.mp (sound.settled.registered.owner.mp owned)
  obtain ⟨made, known, rfl⟩ := Option.map_eq_some_iff.mp filed
  exact ⟨made, known, own⟩

/-! ## Failed records -/

/-- The execution of a record with a final status has heard of all its attempts. -/
theorem Sound.decided (sound : outpost.Sound) {fresh : Uuid} {record : TransactionRecord}
    (found : outpost.desk.tables.records.find? fresh = some record) (final : record.status ≠ .pending)
    {id : Nat} {execution : Execution} (known : outpost.desk.executions id = some execution)
    (drawn : execution.drawn = [fresh]) :
    outpost.attempts id = (outpost.letters id).map Prod.fst ∧
      List.Forall₂ (Told outpost.office execution.request) (outpost.letters id)
        execution.outcomes := by
  cases sound.tied known with
  | heard _ split all => exact ⟨split, all⟩
  | waiting calling => exact absurd calling (sound.desk.not_calling found final known drawn _ _)

/-- However executions, other calls of the ledger and writes past all locks are interleaved, and
whenever requests reach the ledger and responses come back: if a record has failed, at most one commit
of the ledger was made for it, and only for the last attempt of its execution, whose response, not
an error, came back unreadable, or came too late or was lost. -/
theorem Reachable.failed_commits (reachable : outpost.Reachable root) {id : Uuid}
    {record : TransactionRecord} (found : outpost.desk.tables.records.find? id = some record)
    (failed : record.status = .failed) :
    ∃ execution, outpost.desk.drawnBy execution = [id] ∧
      outpost.attempts execution = (outpost.letters execution).map Prod.fst ∧
      (outpost.commits execution = [] ∨ ∃ unit call policy tape earlier attempt delivery,
        outpost.commits execution = [unit] ∧ outpost.office.owner unit = some attempt ∧
        outpost.office.record unit = some (call.serviceCall policy, tape) ∧
        record.request.call = .ok call ∧
        outpost.letters execution = earlier ++ [(attempt, delivery)] ∧ delivery ≠ .intact ∧
        delivery ≠ .bare) := by
  have sound := reachable.sound
  obtain ⟨owner, execution, known, drawn, fits, verdict⟩ := sound.desk.owner found
  obtain ⟨split, all⟩ := sound.decided found (by simp [failed]) known drawn
  rw [failed] at verdict
  refine ⟨owner, (Desk.drawnBy_of_known known).trans drawn, split, ?_⟩
  have before := (sound.patient owner execution known).before
  have astray : ∀ {unit}, unit ∈ outpost.commits owner → ∃ attempt ∈ outpost.attempts owner,
      outpost.office.owner unit = some attempt ∧ ∃ earlier delivery,
        outpost.letters owner = earlier ++ [(attempt, delivery)] ∧ delivery ≠ .intact ∧
        delivery ≠ .bare := by
    intro unit inside
    obtain ⟨committed, attempt, mine, owned⟩ := Branch.mem_commits.mp inside
    exact ⟨attempt, mine, owned,
      last_astray sound.office all verdict before (split ▸ mine) owned committed⟩
  by_cases nothing : outpost.commits owner = []
  · exact Or.inl nothing
  obtain ⟨unit, inside⟩ := List.exists_mem_of_ne_nil _ nothing
  obtain ⟨attempt, mine, owned, earlier, delivery, last, lost⟩ := astray inside
  have registered := sound.office.settled.registered
  obtain ⟨made, present, own⟩ := call_of_owner sound.office owned
  obtain ⟨call, asked⟩ := sound.asked present ⟨owner, execution, known, mine, rfl⟩
  obtain ⟨policy, same⟩ := asked.asked
  refine Or.inr ⟨unit, call, policy, made.tape, earlier, attempt, delivery, ?_, owned,
    same ▸ registered.record present own, fits.request_eq ▸ asked.own, last, lost⟩
  -- every commit is of the last attempt, whose call has one unit of work
  apply List.perm_singleton.mp
  refine (List.perm_ext_iff_of_nodup (sound.office.settled.serialized.once.filter _)
    (List.nodup_singleton unit)).mpr fun other => ?_
  rw [List.mem_singleton]
  constructor
  · intro also
    obtain ⟨number, _, theirs, _, _, alsoLast, _⟩ := astray also
    obtain ⟨_, ends⟩ := List.append_inj' (last.symm.trans alsoLast) rfl
    cases ends
    exact Option.some.inj ((registered.owner.mp theirs).symm.trans (registered.owner.mp owned))
  · rintro rfl
    exact inside

section Late

theorem run_desk {desk : Desk} (run : Relation.ReflTransGen Desk.Proceeds outpost.desk desk) :
    Relation.ReflTransGen (Step root) outpost { outpost with desk } :=
  run.lift (fun desk => { outpost with desk }) fun _ _ proceeds => .desk proceeds

/-- While no call is under way the office goes on as by itself. -/
theorem run_office (here : ∀ attempt, outpost.underway attempt = none) {office : Office}
    (run : Relation.ReflTransGen Office.Step outpost.office office) :
    Relation.ReflTransGen (Step root) outpost { outpost with office } := by
  refine run.lift (fun office => { outpost with office }) fun _ _ step => ?_
  refine Step.office step fun attempt call away => ?_
  cases (here attempt).symm.trans away

/-- The one commit of the office that has made the recorded deposit. -/
theorem paid_commits : (Branch.paid.pool.committed.filter fun unit =>
    (Branch.paid.owner unit).any fun attempt => decide (attempt ∈ [0])) = [⟨0⟩] := by
  decide +kernel

/-- A deposit that is carried out after its caller has stopped waiting is recorded as a failure. -/
theorem late_deposit : ∃ (outpost : Outpost) (record : TransactionRecord),
    outpost.Reachable LedgerQuery.loopback ∧
    outpost.desk.tables.records.find? (Uuid.ofNat 1) = some record ∧ record.status = .failed ∧
    outpost.desk.drawnBy 0 = [Uuid.ofNat 1] ∧ outpost.commits 0 = [⟨0⟩] ∧
    outpost.letters 0 = [(0, .late)] := by
  have opened : Reachable LedgerQuery.loopback _ :=
    .tail .refl (.office (.overwrite Branch.payee) fun _ _ absurdly => nomatch absurdly)
  have recorded := opened.trans (run_desk Desk.recorded_proceeds)
  have sent := recorded.tail (@Step.send _ _ 0 _ _ _ 0 rfl rfl rfl fun _ => List.not_mem_nil)
  have arrived := sent.tail (@Step.arrive _ _ 0 _ Office.policy rfl)
  have here : ∀ attempt, Function.update (Function.update (fun _ => none : Nat → Option LedgerCall) 0
      (some (.deposit Uuid.nil Desk.keyedDeposit.amount))) 0 none attempt = none := by
    intro attempt
    rw [Function.update_idem, Function.update_eq_self_iff.mpr rfl]
  -- by the time it is carried out its caller has stopped waiting
  have carriedOut :=
    arrived.trans (@run_office _ _ here Branch.paid (Office.steps_making rfl _ 10))
  have answered := carriedOut.tail (@Step.hear _ _ 0 _ _ _ 0 _ .late rfl rfl rfl .late)
  have marked : Reachable LedgerQuery.loopback _ :=
    answered.trans (run_desk (Desk.keptOn_proceeds _ 0 2))
  exact ⟨_, _, marked, rfl, rfl, rfl, paid_commits, rfl⟩

/-- So a record may have failed although the money has moved. -/
theorem failed_committed : ¬ ∀ (root : RootAddress) (outpost : Outpost), outpost.Reachable root →
    ∀ id record, outpost.desk.tables.records.find? id = some record → record.status = .failed →
      ∀ execution, outpost.desk.drawnBy execution = [id] → outpost.commits execution = [] := by
  intro claimed
  obtain ⟨outpost, record, reachable, found, failed, drawn, commits, _⟩ := late_deposit
  have none := claimed _ outpost reachable _ record found failed 0 drawn
  cases commits.symm.trans none

/-- The one commit that was made for it is of the attempt whose response came too late. -/
theorem late_deposit_last : ∃ (outpost : Outpost) (record : TransactionRecord),
    outpost.Reachable LedgerQuery.loopback ∧
    outpost.desk.tables.records.find? (Uuid.ofNat 1) = some record ∧ record.status = .failed ∧
    ∃ unit call policy tape, outpost.commits 0 = [unit] ∧ outpost.office.owner unit = some 0 ∧
      outpost.office.record unit = some (call.serviceCall policy, tape) ∧
      record.request.call = .ok call ∧ outpost.letters 0 = [(0, .late)] := by
  obtain ⟨outpost, record, reachable, found, failed, drawn, commits, letters⟩ := late_deposit
  obtain ⟨owner, own, _, outcome⟩ := reachable.failed_commits found failed
  have isFirst : owner = 0 := by
    apply reachable.sound.desk.apart (own ▸ List.mem_cons_self)
    exact drawn ▸ List.mem_cons_self
  subst isFirst
  rcases outcome with none | ⟨unit, call, policy, tape, earlier, attempt, delivery, only, owned,
    recorded, asked, last, _⟩
  · cases commits.symm.trans none
  · have ends : [] ++ [(0, Delivery.late)] = earlier ++ [(attempt, delivery)] :=
      letters.symm.trans last
    cases (List.append_inj' ends rfl).2
    exact ⟨outpost, record, reachable, found, failed, unit, call, policy, tape, only, owned, recorded,
      asked, letters⟩

end Late

end AccountLedger.Outpost
