import AccountLedger.Proofs.Transaction.Filing

/-!
What holds of a desk however its executions are interleaved: every stored record belongs to the one
execution that has drawn its id, nobody else writes it, and it is written twice at most, when it is
stored and when it gets its final status.
-/

namespace AccountLedger

namespace Desk

/-! ## Writes of the records -/

/-- What a step does to the stored records. -/
inductive Writes (desk next : Desk) : Prop
  | nothing : next.tables.records = desk.tables.records →
    next.tables.references = desk.tables.references → next.tables.keys = desk.tables.keys →
    Writes desk next
  | stored {record : TransactionRecord} : desk.tables.records.find? record.id = none →
    desk.tables.references.find? record.reference = none →
    (∀ key, record.idempotencyKey = some key → desk.tables.keys.find? key = none) →
    record.status = .pending → next.tables = desk.tables.withRecord record → Writes desk next
  | marked {record before : TransactionRecord} :
    desk.tables.records.find? record.id = some before → before.status = .pending →
    before.SameTerms record → record.status ≠ .pending →
    next.tables = { desk.tables with records := desk.tables.records.put record.id record } →
    Writes desk next

variable {desk next : Desk} {id : Nat} {execution new : Execution} {filing : Filing}
  {record : TransactionRecord} {key : String} {fresh : Uuid} {drawn : List Uuid}

theorem Writes.indexed (writes : desk.Writes next) (indexed : desk.tables.Indexed) :
    next.tables.Indexed := by
  cases writes with
  | nothing records references keys =>
    refine ⟨?_, ?_, ?_, ?_⟩ <;> rw [records]
    · exact indexed.ids
    · rw [references]
      exact indexed.references
    · rw [keys]
      exact indexed.keys
    · rw [keys]
      exact indexed.keyed
  | stored new reference unused _ tables =>
    rw [tables]
    exact indexed.withRecord new reference unused
  | marked found _ same _ tables =>
    rw [tables]
    exact indexed.updated found same

/-- A stored record stays, with the same terms, and as it is once its status is final. -/
theorem Writes.kept (writes : desk.Writes next)
    (found : desk.tables.records.find? fresh = some record) :
    ∃ later, next.tables.records.find? fresh = some later ∧ record.SameTerms later ∧
      (record.status ≠ .pending → later = record) := by
  cases writes with
  | nothing records => exact ⟨record, records ▸ found, .refl record, fun _ => rfl⟩
  | @stored other new _ _ _ tables =>
    refine ⟨record, ?_, .refl record, fun _ => rfl⟩
    rw [tables, Tables.withRecord_find?, if_neg, found]
    intro same
    cases new.symm.trans (same ▸ found)
  | @marked other before present pending same _ tables =>
    rw [tables]
    show ∃ later, (desk.tables.records.put other.id other).find? fresh = some later ∧ _
    rw [Table.find?_put]
    split
    · next this =>
      cases present.symm.trans (this ▸ found)
      exact ⟨other, rfl, same, fun final => absurd pending final⟩
    · exact ⟨record, found, .refl record, fun _ => rfl⟩

/-- The ids that an execution has drawn. -/
def drawnBy (desk : Desk) (id : Nat) : List Uuid :=
  ((desk.executions id).map Execution.drawn).getD []

theorem drawnBy_of_known (known : desk.executions id = some execution) :
    desk.drawnBy id = execution.drawn := by
  rw [drawnBy, known]
  rfl

/-- What the tables and the marks of an execution have to say for what it knows. -/
inductive Backs (desk : Desk) (execution : Execution) : Filing → Prop
  | fresh : execution.drawn = [] → execution.calls = [] → execution.outcomes = [] →
    Backs desk execution .fresh
  | drafted {fresh : Uuid} : execution.drawn = [fresh] →
    desk.tables.records.find? fresh = none → execution.calls = [] → execution.outcomes = [] →
    Backs desk execution (.drafted fresh)
  | filed {record : TransactionRecord} {outcomes} : execution.drawn = [record.id] →
    desk.tables.records.find? record.id = some record → execution.request.Matches record →
    execution.outcomes = outcomes → Filing.Verdict outcomes record.status →
    Backs desk execution (.filed record outcomes)
  | replayed {record stored : TransactionRecord} {key : String} :
    execution.request.idempotencyKey = some key → record.idempotencyKey = some key →
    desk.tables.records.find? record.id = some stored → stored.SameTerms record →
    (∀ fresh ∈ execution.drawn, desk.tables.records.find? fresh = none) →
    execution.calls = [] → execution.outcomes = [] → Backs desk execution (.replayed record)

/-- An execution knows how to go on, and what it knows is so. -/
structure Bears (desk : Desk) (execution : Execution) (filing : Filing) : Prop where
  rest : execution.rest.Ensures (Filing.rule execution.request) filing Filing.Ended
  backs : desk.Backs execution filing

structure Sound (desk : Desk) : Prop where
  indexed : desk.tables.Indexed
  bears : ∀ {id execution}, desk.executions id = some execution →
    ∃ filing, desk.Bears execution filing
  drawn : ∀ {id fresh}, fresh ∈ desk.drawnBy id → fresh ∈ desk.drawn
  apart : ∀ {first second fresh}, fresh ∈ desk.drawnBy first → fresh ∈ desk.drawnBy second →
    first = second
  owned : ∀ {fresh record}, desk.tables.records.find? fresh = some record →
    ∃ id, fresh ∈ desk.drawnBy id

theorem start_sound : start.Sound := by
  refine ⟨Tables.empty_indexed, ?_, ?_, ?_, ?_⟩
  · intro id execution absurdly
    cases absurdly
  · intro id fresh absurdly
    cases absurdly
  · intro first second fresh absurdly
    cases absurdly
  · intro fresh record absurdly
    cases absurdly

/-- A stored record is the one that its execution has filed. -/
theorem Sound.owner (sound : desk.Sound)
    (found : desk.tables.records.find? fresh = some record) :
    ∃ id execution, desk.executions id = some execution ∧ execution.drawn = [fresh] ∧
      execution.request.Matches record ∧ Filing.Verdict execution.outcomes record.status := by
  obtain ⟨id, drew⟩ := sound.owned found
  cases known : desk.executions id with
  | none =>
    rw [drawnBy, known] at drew
    cases drew
  | some execution =>
    rw [drawnBy_of_known known] at drew
    obtain ⟨filing, _, backs⟩ := sound.bears known
    cases backs with
    | fresh drawn =>
      rw [drawn] at drew
      cases drew
    | drafted drawn absent =>
      rw [drawn, List.mem_singleton] at drew
      subst drew
      cases absent.symm.trans found
    | @filed own outcomes drawn present fits told verdict =>
      rw [drawn, List.mem_singleton] at drew
      subst drew
      cases present.symm.trans found
      exact ⟨id, execution, known, drawn, fits, told ▸ verdict⟩
    | replayed _ _ _ _ absent => cases (absent fresh drew).symm.trans found

/-- An execution that has called the ledger has stored the record itself. -/
theorem Sound.caller (sound : desk.Sound) (known : desk.executions id = some execution)
    (called : execution.calls ≠ []) :
    ∃ record, execution.drawn = [record.id] ∧
      desk.tables.records.find? record.id = some record ∧ execution.request.Matches record := by
  obtain ⟨filing, _, backs⟩ := sound.bears known
  cases backs with
  | fresh _ none => exact absurd none called
  | drafted _ _ none => exact absurd none called
  | filed drawn found fits => exact ⟨_, drawn, found, fits⟩
  | replayed _ _ _ _ _ none => exact absurd none called

/-! ## Steps -/

/-- An execution comes on, has drawn these ids, and writes no record but under ids of its own. -/
structure Advances (desk next : Desk) (id : Nat) (new : Execution) (drawn : List Uuid) : Prop where
  executions : next.executions = Function.update desk.executions id (some new)
  ids : next.drawn = desk.drawn ++ drawn
  own : new.drawn = desk.drawnBy id ++ drawn
  unused : ∀ fresh ∈ drawn, fresh ∉ desk.drawn
  others : ∀ fresh, fresh ∉ new.drawn →
    next.tables.records.find? fresh = desk.tables.records.find? fresh

theorem Advances.drawnBy (advances : desk.Advances next id new drawn) (other : Nat) :
    next.drawnBy other = if other = id then new.drawn else desk.drawnBy other := by
  unfold Desk.drawnBy
  rw [advances.executions]
  by_cases same : other = id
  · subst same
    simp
  · simp [same]

theorem Advances.mem_drawnBy (advances : desk.Advances next id new drawn) {other : Nat}
    (drew : fresh ∈ next.drawnBy other) :
    fresh ∈ desk.drawnBy other ∨ other = id ∧ fresh ∈ drawn := by
  rw [advances.drawnBy] at drew
  split at drew
  · next same =>
    rw [advances.own, ← same] at drew
    exact (List.mem_append.mp drew).imp_right fun now => ⟨same, now⟩
  · exact Or.inl drew

theorem Advances.drawnBy_mono (advances : desk.Advances next id new drawn) {other : Nat}
    (drew : fresh ∈ desk.drawnBy other) : fresh ∈ next.drawnBy other := by
  rw [advances.drawnBy]
  split
  · next same =>
    rw [advances.own]
    exact List.mem_append_left _ (same ▸ drew)
  · exact drew

/-- What an execution knows is so as long as nobody else writes its record. -/
theorem Backs.frame (backs : desk.Backs execution filing) (writes : desk.Writes next)
    (own : ∀ fresh ∈ execution.drawn,
      next.tables.records.find? fresh = desk.tables.records.find? fresh) :
    next.Backs execution filing := by
  cases backs with
  | fresh drawn uncalled unanswered => exact .fresh drawn uncalled unanswered
  | @drafted fresh drawn absent uncalled unanswered =>
    refine .drafted drawn ?_ uncalled unanswered
    rw [own fresh (drawn ▸ List.mem_cons_self)]
    exact absent
  | @filed record outcomes drawn found fits told verdict =>
    refine .filed drawn ?_ fits told verdict
    rw [own record.id (drawn ▸ List.mem_cons_self)]
    exact found
  | replayed given keyed found same absent uncalled unanswered =>
    obtain ⟨later, here, terms, _⟩ := writes.kept found
    refine .replayed given keyed here (terms.symm.trans same) ?_ uncalled unanswered
    intro fresh drew
    rw [own fresh drew]
    exact absent fresh drew

theorem Sound.advanced (sound : desk.Sound) (advances : desk.Advances next id new drawn)
    (writes : desk.Writes next) (bears : next.Bears new filing) : next.Sound := by
  refine ⟨writes.indexed sound.indexed, ?_, ?_, ?_, ?_⟩
  · intro other theirs known
    rw [advances.executions] at known
    by_cases same : other = id
    · subst same
      rw [Function.update_self] at known
      cases known
      exact ⟨filing, bears⟩
    · rw [Function.update_of_ne same] at known
      obtain ⟨filing, rest, backs⟩ := sound.bears known
      refine ⟨filing, rest, backs.frame writes fun fresh drew => advances.others fresh ?_⟩
      rw [← drawnBy_of_known known] at drew
      rw [advances.own]
      intro mine
      rcases List.mem_append.mp mine with before | now
      · exact same (sound.apart drew before)
      · exact advances.unused fresh now (sound.drawn drew)
  · intro other fresh drew
    rw [advances.ids]
    rcases advances.mem_drawnBy drew with before | ⟨_, now⟩
    · exact List.mem_append_left _ (sound.drawn before)
    · exact List.mem_append_right _ now
  · intro first second fresh one two
    rcases advances.mem_drawnBy one with before | ⟨rfl, now⟩
    · rcases advances.mem_drawnBy two with alsoBefore | ⟨_, now⟩
      · exact sound.apart before alsoBefore
      · exact absurd (sound.drawn before) (advances.unused fresh now)
    · rcases advances.mem_drawnBy two with before | ⟨same, _⟩
      · exact absurd (sound.drawn before) (advances.unused fresh now)
      · exact same.symm
  · intro fresh record found
    by_cases mine : fresh ∈ new.drawn
    · refine ⟨id, ?_⟩
      rw [advances.drawnBy, if_pos rfl]
      exact mine
    · rw [advances.others fresh mine] at found
      obtain ⟨other, drew⟩ := sound.owned found
      exact ⟨other, advances.drawnBy_mono drew⟩

/-- The tables say the same of an execution that goes on with what it knows. -/
theorem Backs.continued (backs : desk.Backs execution filing)
    (tables : next.tables = desk.tables) (request : new.request = execution.request)
    (drawn : new.drawn = execution.drawn) (calls : new.calls = execution.calls)
    (outcomes : new.outcomes = execution.outcomes) : next.Backs new filing := by
  cases backs with
  | fresh none uncalled unanswered =>
    exact .fresh (drawn.trans none) (calls.trans uncalled) (outcomes.trans unanswered)
  | drafted one absent uncalled unanswered =>
    exact .drafted (drawn.trans one) (tables ▸ absent) (calls.trans uncalled)
      (outcomes.trans unanswered)
  | filed one found fits told verdict =>
    exact .filed (drawn.trans one) (tables ▸ found) (request ▸ fits) (outcomes.trans told) verdict
  | replayed given keyed found same absent uncalled unanswered =>
    exact .replayed (request ▸ given) keyed (tables ▸ found) same (drawn ▸ tables ▸ absent)
      (calls.trans uncalled) (outcomes.trans unanswered)

/-- Nothing is stored under the ids of an execution that has filed nothing, nor has it called the
ledger. -/
theorem Backs.unfiled (backs : desk.Backs execution filing) (unfiled : filing.Unfiled) :
    (∀ fresh ∈ execution.drawn, desk.tables.records.find? fresh = none) ∧
      execution.calls = [] ∧ execution.outcomes = [] := by
  cases backs with
  | fresh drawn uncalled unanswered =>
    refine ⟨fun fresh drew => ?_, uncalled, unanswered⟩
    rw [drawn] at drew
    cases drew
  | drafted drawn absent uncalled unanswered =>
    refine ⟨fun fresh drew => ?_, uncalled, unanswered⟩
    rw [drawn, List.mem_singleton] at drew
    rw [drew]
    exact absent
  | filed => exact unfiled.elim
  | replayed => exact unfiled.elim

/-- An execution that is known comes on without an id. -/
theorem advances_of_known (known : desk.executions id = some execution)
    (executions : next.executions = Function.update desk.executions id (some new))
    (ids : next.drawn = desk.drawn) (own : new.drawn = execution.drawn)
    (others : ∀ fresh, fresh ∉ execution.drawn →
      next.tables.records.find? fresh = desk.tables.records.find? fresh) :
    desk.Advances next id new [] := by
  refine ⟨executions, ?_, ?_, ?_, ?_⟩
  · rw [ids, List.append_nil]
  · rw [own, drawnBy_of_known known, List.append_nil]
  · exact fun fresh absurdly => absurd absurdly List.not_mem_nil
  · rw [own]
    exact others

theorem Sound.begun (sound : desk.Sound) (policy : RetryPolicy) (request : TransactionRequest)
    (unknown : desk.executions id = none) :
    (desk.withExecution id (.begun policy request)).Sound := by
  refine @Sound.advanced desk _ id (.begun policy request) .fresh [] sound ?_ (.nothing rfl rfl rfl)
    ⟨Filing.execute_ensures policy request, .fresh rfl rfl rfl⟩
  refine ⟨rfl, (List.append_nil _).symm, ?_, ?_, fun fresh _ => rfl⟩
  · rw [drawnBy, unknown]
    rfl
  · exact fun fresh absurdly => absurd absurdly List.not_mem_nil

theorem Sound.hosted (sound : desk.Sound) {request : HostRequest}
    {resume : request.Answer → Procedure} (answer : request.Answer)
    (known : desk.executions id = some execution)
    (running : execution.stage = .running (.ask (.service (.host request)) resume))
    (unused : ∀ fresh ∈ request.drawn answer, fresh ∉ desk.drawn) :
    (desk.hosted id execution request resume answer).Sound := by
  obtain ⟨filing, rest, backs⟩ := sound.bears known
  rw [Execution.rest, running] at rest
  have advances : desk.Advances (desk.hosted id execution request resume answer) id
      { execution with
        stage := .running (resume answer)
        drawn := execution.drawn ++ request.drawn answer } (request.drawn answer) :=
    ⟨rfl, rfl, by rw [drawnBy_of_known known], unused, fun fresh _ => rfl⟩
  rcases Filing.hostRule_answer rest answer with ⟨fresh, drew, rfl, after⟩ | ⟨none, after⟩
  · refine sound.advanced advances (.nothing rfl rfl rfl) ⟨after, ?_⟩
    obtain ⟨_, uncalled, unanswered⟩ := backs.unfiled trivial
    cases backs with
    | fresh drawn =>
      refine .drafted ?_ ?_ uncalled unanswered
      · show execution.drawn ++ request.drawn answer = [fresh]
        rw [drawn, drew, List.nil_append]
      · cases found : desk.tables.records.find? fresh with
        | none => exact found
        | some record =>
          obtain ⟨owner, theirs⟩ := sound.owned found
          exact absurd (sound.drawn theirs) (unused fresh (drew ▸ List.mem_cons_self))
  · refine sound.advanced advances (.nothing rfl rfl rfl) ⟨after, ?_⟩
    refine backs.continued rfl rfl ?_ rfl rfl
    show execution.drawn ++ request.drawn answer = execution.drawn
    rw [none, List.append_nil]

section

variable {request : TableRequest} {resume : request.Answer → Procedure}

/-- The store has written only under the ids of an execution, and what it says is what the execution
knows next. -/
theorem Sound.recorded (sound : desk.Sound) (known : desk.executions id = some execution)
    {tables : Tables} {answer : request.Answer}
    (answered : desk.tables.answer request = (answer, tables))
    (ensures : (resume answer).Ensures (Filing.rule execution.request) filing Filing.Ended)
    (writes : desk.Writes (desk.withTables tables))
    (others : ∀ fresh, fresh ∉ execution.drawn →
      tables.records.find? fresh = desk.tables.records.find? fresh)
    (told : (desk.withTables tables).Backs execution filing) :
    (desk.tabled id execution request resume).Sound ∧
      desk.Writes (desk.tabled id execution request resume) := by
  have result : desk.tabled id execution request resume =
      (desk.withExecution id { execution with stage := .running (resume answer) }).withTables
        tables := by
    rw [Desk.tabled, answered]
  rw [result]
  have written : desk.Writes
      ((desk.withExecution id { execution with stage := .running (resume answer) }).withTables
        tables) := by
    cases writes with
    | nothing records references keys => exact .nothing records references keys
    | stored new reference unused pending same => exact .stored new reference unused pending same
    | marked found pending same final equal => exact .marked found pending same final equal
  refine ⟨sound.advanced (advances_of_known known rfl rfl rfl others) written
    ⟨ensures, told.continued rfl rfl rfl rfl rfl⟩, written⟩

/-- The store looks for a record with the key of an execution. -/
theorem Sound.sought (sound : desk.Sound) (known : desk.executions id = some execution)
    (backs : desk.Backs execution filing)
    {resume : (TableRequest.findByKey key).Answer → Procedure}
    (permitted : Filing.tableRule execution.request (.findByKey key) filing fun answer later =>
      (resume answer).Ensures (Filing.rule execution.request) later Filing.Ended) :
    (desk.tabled id execution (.findByKey key) resume).Sound ∧
      desk.Writes (desk.tabled id execution (.findByKey key) resume) := by
  obtain ⟨own, unfiled, absent, present⟩ := permitted
  obtain ⟨unstored, uncalled, unanswered⟩ := backs.unfiled unfiled
  cases found : desk.tables.findByKey key with
  | none =>
    refine sound.recorded known (congrArg (fun found => (Except.ok found, desk.tables)) found) absent
      (.nothing rfl rfl rfl) (fun _ _ => rfl) backs
  | some record =>
    obtain ⟨stored, keyed⟩ := sound.indexed.findByKey.mp found
    refine sound.recorded known (congrArg (fun found => (Except.ok found, desk.tables)) found)
      (present record keyed) (.nothing rfl rfl rfl) (fun _ _ => rfl) ?_
    exact .replayed own keyed stored (.refl record) unstored uncalled unanswered

/-- The store takes the record of an execution, or refuses it. -/
theorem Sound.inserted (sound : desk.Sound) (known : desk.executions id = some execution)
    (backs : desk.Backs execution filing)
    {resume : (TableRequest.insertRecord record).Answer → Procedure}
    (permitted : Filing.tableRule execution.request (.insertRecord record) filing
      fun answer later => (resume answer).Ensures (Filing.rule execution.request) later
        Filing.Ended) :
    (desk.tabled id execution (.insertRecord record) resume).Sound ∧
      desk.Writes (desk.tabled id execution (.insertRecord record) resume) := by
  obtain ⟨rfl, pending, fits, stored, reference, taken⟩ := permitted
  cases backs with
  | drafted drawn absent uncalled unanswered =>
    have inserts := desk.tables.insertRecord_inserts record
    generalize result : desk.tables.insertRecord record = outcome at inserts
    cases inserts with
    | stored free unused =>
      refine sound.recorded known result stored (.stored absent free unused pending rfl) ?_ ?_
      · intro fresh others
        rw [Tables.withRecord_find?, if_neg]
        intro same
        exact others (drawn ▸ List.mem_singleton.mpr same.symm)
      · refine .filed drawn ?_ fits unanswered ?_
        · exact (Tables.withRecord_find? _ _ _).trans (if_pos rfl)
        · rw [pending]
          trivial
    | takenReference _ =>
      exact sound.recorded known result reference (.nothing rfl rfl rfl) (fun _ _ => rfl)
        (.drafted drawn absent uncalled unanswered)
    | takenKey keyed _ =>
      exact sound.recorded known result (taken _ keyed) (.nothing rfl rfl rfl) (fun _ _ => rfl)
        (.drafted drawn absent uncalled unanswered)

/-- The store marks the record of an execution. -/
theorem Sound.updated (sound : desk.Sound) (known : desk.executions id = some execution)
    (backs : desk.Backs execution filing)
    {resume : (TableRequest.updateRecord record).Answer → Procedure}
    (permitted : Filing.tableRule execution.request (.updateRecord record) filing
      fun answer later => (resume answer).Ensures (Filing.rule execution.request) later
        Filing.Ended) :
    (desk.tabled id execution (.updateRecord record) resume).Sound ∧
      desk.Writes (desk.tabled id execution (.updateRecord record) resume) := by
  obtain ⟨stored, outcomes, rfl, pending, same, final, verdict, ensures⟩ := permitted
  cases backs with
  | filed drawn found fits told _ =>
    rw [← same.id] at drawn
    have here : desk.tables.records.find? record.id = some stored := by
      rw [same.id]
      exact found
    refine sound.recorded known (Tables.updateRecord_of_terms here same) ensures
      (.marked here pending same final rfl) ?_ ?_
    · intro fresh others
      refine (Table.find?_put _ _ _ _).trans (if_neg ?_)
      intro mine
      exact others (drawn ▸ List.mem_singleton.mpr mine.symm)
    · exact .filed drawn ((Table.find?_put _ _ _ _).trans (if_pos rfl)) (fits.terms same) told
        verdict

/-- The store answers an execution, and writes no record but one of its own. -/
theorem Sound.tabled (sound : desk.Sound) (known : desk.executions id = some execution)
    (running : execution.stage = .running (.ask (.service (.table request)) resume)) :
    (desk.tabled id execution request resume).Sound ∧
      desk.Writes (desk.tabled id execution request resume) := by
  obtain ⟨filing, rest, backs⟩ := sound.bears known
  rw [Execution.rest, running] at rest
  have permitted : Filing.tableRule execution.request request filing fun answer later =>
    (resume answer).Ensures (Filing.rule execution.request) later Filing.Ended := rest
  cases request with
  | findByKey key => exact sound.sought known backs permitted
  | insertRecord record => exact sound.inserted known backs permitted
  | updateRecord record => exact sound.updated known backs permitted
  | _ => exact permitted.elim

end

theorem Sound.called (sound : desk.Sound) {call : LedgerCall}
    {resume : Outcome DownstreamError Unit → Procedure}
    (known : desk.executions id = some execution)
    (running : execution.stage = .running (.ask (.ledger call) resume)) :
    (desk.called id execution call resume).Sound := by
  obtain ⟨filing, rest, backs⟩ := sound.bears known
  rw [Execution.rest, running] at rest
  have permitted : Filing.rule execution.request (.ledger call) filing fun answer later =>
    (resume answer).Ensures (Filing.rule execution.request) later Filing.Ended := rest
  obtain ⟨_, record, outcomes, rfl, _⟩ := permitted
  refine sound.advanced (advances_of_known known rfl rfl rfl fun _ _ => rfl) (.nothing rfl rfl rfl)
    ⟨rest, ?_⟩
  cases backs with
  | filed drawn found fits told verdict => exact .filed drawn found fits told verdict

theorem Sound.answered (sound : desk.Sound) {call : LedgerCall}
    {resume : Outcome DownstreamError Unit → Procedure} (outcome : Outcome DownstreamError Unit)
    (known : desk.executions id = some execution)
    (calling : execution.stage = .calling call resume) :
    (desk.answered id execution resume outcome).Sound := by
  obtain ⟨filing, rest, backs⟩ := sound.bears known
  rw [Execution.rest, calling] at rest
  have permitted : Filing.rule execution.request (.ledger call) filing fun answer later =>
    (resume answer).Ensures (Filing.rule execution.request) later Filing.Ended := rest
  obtain ⟨_, record, outcomes, rfl, pending, _, after⟩ := permitted
  refine sound.advanced (advances_of_known known rfl rfl rfl fun _ _ => rfl) (.nothing rfl rfl rfl)
    ⟨after outcome, ?_⟩
  cases backs with
  | filed drawn found fits told verdict =>
    refine .filed drawn found fits ?_ ?_
    · show execution.outcomes ++ [outcome] = outcomes ++ [outcome]
      rw [told]
    · rw [pending]
      trivial

/-- Accounts and outbox entries say nothing of executions. -/
theorem Sound.elsewhere (sound : desk.Sound) (accounts : Table Uuid Account)
    (outbox : Table Uuid OutboxEntry) :
    (desk.withTables { desk.tables with accounts, outbox }).Sound := by
  have writes : desk.Writes (desk.withTables { desk.tables with accounts, outbox }) :=
    .nothing rfl rfl rfl
  refine ⟨writes.indexed sound.indexed, fun known => ?_, sound.drawn, sound.apart, sound.owned⟩
  obtain ⟨filing, rest, backs⟩ := sound.bears known
  exact ⟨filing, rest, backs.frame writes fun _ _ => rfl⟩

theorem proceeds_sound (sound : desk.Sound) (proceeds : desk.Proceeds next) :
    next.Sound ∧ desk.Writes next := by
  cases proceeds with
  | begin policy request unknown => exact ⟨sound.begun policy request unknown, .nothing rfl rfl rfl⟩
  | host answer known running unused =>
    exact ⟨sound.hosted answer known running unused, .nothing rfl rfl rfl⟩
  | table known running => exact sound.tabled known running
  | elsewhere accounts outbox => exact ⟨sound.elsewhere accounts outbox, .nothing rfl rfl rfl⟩

/-- Every step keeps what holds of the desk, and writes at most one record. -/
theorem step_sound (sound : desk.Sound) (step : desk.Step next) :
    next.Sound ∧ desk.Writes next := by
  cases step with
  | proceed proceeds => exact proceeds_sound sound proceeds
  | call known running => exact ⟨sound.called known running, .nothing rfl rfl rfl⟩
  | answer outcome known calling =>
    exact ⟨sound.answered outcome known calling, .nothing rfl rfl rfl⟩

theorem Reachable.sound (reachable : desk.Reachable) : desk.Sound := by
  induction reachable with
  | refl => exact start_sound
  | tail _ step ih => exact (step_sound ih step).1

end Desk

end AccountLedger
