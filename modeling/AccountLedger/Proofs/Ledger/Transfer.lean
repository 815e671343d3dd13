import AccountLedger.Proofs.Account.Funds
import AccountLedger.Proofs.Ledger.Solitary
import AccountLedger.Proofs.Table

/-!
What a transfer does that nothing interferes with. Which of its two rows is locked first decides
nothing but which of two missing ones is complained about.
-/

namespace AccountLedger

/-- The missing one of two accounts; of two missing ones the one that is locked first. -/
inductive Missing (tables : Tables) (source target : Uuid) : Uuid → Prop
  | source : tables.accounts.find? source = none → (tables.accounts.find? target).isSome →
    Missing tables source target source
  | target : (tables.accounts.find? source).isSome → tables.accounts.find? target = none →
    Missing tables source target target
  | both : tables.accounts.find? source = none → tables.accounts.find? target = none →
    Missing tables source target (if source.value < target.value then source else target)

/-- Money can go from one account to the other. -/
structure Sendable (paying paid : Account) (amount : Amount) : Prop where
  payingActive : paying.status = .active
  paidActive : paid.status = .active
  currency : paying.currency = paid.currency
  covers : paying.Covers amount

/-- The first thing that stands against it. -/
inductive Objection (paying paid : Account) (amount : Amount) : Failure Refusal → Prop
  | payingClosed : paying.status = .closed →
    Objection paying paid amount (.error (.accountClosed paying.id))
  | paidClosed : paying.status = .active → paid.status = .closed →
    Objection paying paid amount (.error (.accountClosed paid.id))
  | currency : paying.status = .active → paid.status = .active → paying.currency ≠ paid.currency →
    Objection paying paid amount (.error (.currencyMismatch paying.currency paid.currency))
  | funds {failure : Failure Refusal} : paying.status = .active → paid.status = .active →
    paying.currency = paid.currency → ¬ paying.Covers amount → paying.Short amount failure →
    Objection paying paid amount failure

/-- Why a transfer fails. -/
inductive TransferFails (tables : Tables) (source target : Uuid) (amount : Amount) :
    Failure LedgerError → Prop
  | same : source = target →
    TransferFails tables source target amount (.error (.refused .sameAccountTransfer))
  | missing {id : Uuid} : source ≠ target → Missing tables source target id →
    TransferFails tables source target amount (.error (.notFound id))
  | objection {paying paid : Account} {failure : Failure Refusal} : source ≠ target →
    tables.accounts.find? source = some paying → tables.accounts.find? target = some paid →
    Objection paying paid amount failure →
    TransferFails tables source target amount failure.refused

/-- What a transfer has done to the tables, and its receipt. -/
structure Transferred (before after : Tables) (paying paid : Account) (amount : Amount)
    (committed : Committed TransferReceipt) : Prop where
  source : after.accounts.find? paying.id = some committed.value.source
  target : after.accounts.find? paid.id = some committed.value.target
  others : ∀ id, id ≠ paying.id → id ≠ paid.id →
    after.accounts.find? id = before.accounts.find? id
  debited : committed.value.source.balance.value.toRat =
    paying.balance.value.toRat - amount.value.toRat
  credited : committed.value.target.balance.value.toRat =
    paid.balance.value.toRat + amount.value.toRat
  sourceRevision : committed.value.source.revision = paying.revision + 1
  targetRevision : committed.value.target.revision = paid.revision + 1
  sourceTerms : paying.SameTerms committed.value.source
  targetTerms : paid.SameTerms committed.value.target
  active : committed.value.source.status = .active ∧ committed.value.target.status = .active
  outbox : after.outbox.rows = before.outbox.rows ++ [committed.entry]
  entry : ∃ id happened told, committed.entry = .ofEvent id
    (.fundsTransferred committed.value.transfer paying.id paid.id amount.value happened) told
  moved : committed.value.amount = amount
  pending : committed.entry.status = .pending
  kind : committed.entry.eventKind = "FundsTransferred"
  aggregate : committed.entry.aggregate = paying.id
  records : after.records = before.records ∧ after.references = before.references ∧
    after.keys = before.keys

variable {tables : Tables} {source target : Uuid} {order : LockOrder} {amount : Amount}

/-! ## The rows -/

theorem LockOrder.pair_ids (paired : pair source target = .ok order) : source ≠ target ∧
    (order.ids = [source, target] ∧ source.value < target.value ∨
      order.ids = [target, source] ∧ ¬ source.value < target.value) := by
  unfold pair at paired
  split at paired
  · cases paired
  · next differs =>
    cases paired
    refine ⟨differs, ?_⟩
    have values : source.value ≠ target.value := by
      intro same
      apply differs
      cases source
      cases target
      cases same
      rfl
    simp only [ofList, List.foldl_cons, List.foldl_nil, insertId]
    by_cases below : target.value < source.value
    · rw [if_pos below]
      exact Or.inr ⟨rfl, by omega⟩
    · rw [if_neg below, if_neg (Ne.symm values)]
      exact Or.inl ⟨rfl, by omega⟩

theorem LockOrder.pair_error {refusal : Refusal} (paired : pair source target = .error refusal) :
    source = target ∧ refusal = .sameAccountTransfer := by
  unfold pair at paired
  split at paired
  · next same =>
    cases paired
    exact ⟨same, rfl⟩
  · cases paired

theorem takeRow_ok {rows : List Account} {row : Account}
    (found : rows.find? (fun other => other.id == source) = some row) :
    LedgerAction.takeRow rows source = pure row := by
  unfold LedgerAction.takeRow
  rw [found]

/-- Two rows are read one after the other, up to one that is missing. -/
theorem read_two (tables : Tables) (first second : Uuid) :
    [first, second].mapM (UnitOfWork.empty.row tables) =
      match tables.accounts.find? first, tables.accounts.find? second with
      | none, _ => .error (.notFound first)
      | some _, none => .error (.notFound second)
      | some one, some two => .ok [one, two] := by
  have unwritten : UnitOfWork.empty.Unwritten := ⟨rfl, rfl⟩
  rw [List.mapM_cons, List.mapM_cons, unwritten.row, unwritten.row]
  cases tables.accounts.find? first <;> cases tables.accounts.find? second <;> rfl

theorem pair_missing (paired : LockOrder.pair source target = .ok order)
    (absent : tables.accounts.find? source = none ∨ tables.accounts.find? target = none) :
    ∃ id, Missing tables source target id ∧
      order.ids.mapM (UnitOfWork.empty.row tables) = .error (.notFound id) := by
  obtain ⟨-, ⟨ids, less⟩ | ⟨ids, less⟩⟩ := LockOrder.pair_ids paired
  all_goals
    rw [ids, read_two]
    cases foundSource : tables.accounts.find? source with
    | none =>
      cases foundTarget : tables.accounts.find? target with
      | none => exact ⟨_, .both foundSource foundTarget, by simp [less]⟩
      | some paid => exact ⟨_, .source foundSource (by rw [foundTarget]; rfl), rfl⟩
    | some paying =>
      cases foundTarget : tables.accounts.find? target with
      | none => exact ⟨_, .target (by rw [foundSource]; rfl) foundTarget, rfl⟩
      | some paid =>
        rcases absent with absent | absent
        · cases foundSource.symm.trans absent
        · cases foundTarget.symm.trans absent

/-- Each row is taken from those that were read for both accounts, whichever came first. -/
theorem pair_taken (keyed : tables.Keyed) (paired : LockOrder.pair source target = .ok order)
    {paying paid : Account} (foundSource : tables.accounts.find? source = some paying)
    (foundTarget : tables.accounts.find? target = some paid) :
    ∃ rows, order.ids.mapM (UnitOfWork.empty.row tables) = .ok rows ∧
      LedgerAction.takeRow rows source = pure paying ∧
      LedgerAction.takeRow rows target = pure paid := by
  have isSource := keyed _ _ foundSource
  have isTarget := keyed _ _ foundTarget
  obtain ⟨differs, ⟨ids, _⟩ | ⟨ids, _⟩⟩ := LockOrder.pair_ids paired
  all_goals
    rw [ids, read_two, foundSource, foundTarget]
    refine ⟨_, rfl, takeRow_ok ?_, takeRow_ok ?_⟩
    all_goals simp [isSource, isTarget, differs, Ne.symm differs]

/-! ## The rules -/

section Rules

variable {paying paid : Account}

theorem ensureActive_closed {account : Account} (closed : account.status = .closed) :
    account.ensureActive = .error (.error (.accountClosed account.id)) := by
  rw [Account.ensureActive, closed]
  rfl

/-- Either money can go, or the first objection is raised. -/
theorem checkSides_decides (regular : paying.Regular) (paid : Account) (amount : Amount) :
    Sendable paying paid amount ∧ LedgerAction.checkSides ⟨paying, paid⟩ amount = .ok () ∨
      ∃ failure, Objection paying paid amount failure ∧
        LedgerAction.checkSides ⟨paying, paid⟩ amount = .error failure := by
  unfold LedgerAction.checkSides
  cases payingStatus : paying.status with
  | closed =>
    rw [ensureActive_closed payingStatus]
    exact Or.inr ⟨_, .payingClosed payingStatus, rfl⟩
  | active =>
    rw [Account.ensureActive_ok.mpr payingStatus]
    cases paidStatus : paid.status with
    | closed =>
      rw [ensureActive_closed paidStatus]
      exact Or.inr ⟨_, .paidClosed payingStatus paidStatus, rfl⟩
    | active =>
      rw [Account.ensureActive_ok.mpr paidStatus]
      by_cases currency : paying.currency = paid.currency
      · rw [if_neg (not_not.mpr currency)]
        by_cases covers : paying.Covers amount
        · rw [regular.ensureFunds_covered amount covers]
          exact Or.inl ⟨⟨payingStatus, paidStatus, currency, covers⟩, rfl⟩
        · obtain ⟨failure, refused, short⟩ := regular.ensureFunds_short amount covers
          rw [refused]
          exact Or.inr ⟨failure, .funds payingStatus paidStatus currency covers short, rfl⟩
      · rw [if_pos currency]
        exact Or.inr ⟨_, .currency payingStatus paidStatus currency, rfl⟩

theorem Objection.not_sendable {failure : Failure Refusal}
    (objection : Objection paying paid amount failure) : ¬ Sendable paying paid amount := by
  intro sendable
  cases objection with
  | payingClosed closed => cases closed.symm.trans sendable.payingActive
  | paidClosed _ closed => cases closed.symm.trans sendable.paidActive
  | currency _ _ differs => exact differs sendable.currency
  | funds _ _ _ short => exact short sendable.covers

theorem Objection.unique {first second : Failure Refusal}
    (one : Objection paying paid amount first) (two : Objection paying paid amount second) :
    first = second := by
  cases one <;> cases two <;> first
    | rfl
    | (apply Account.Short.unique <;> assumption)
    | simp_all

/-- The amount is taken from the one balance and added to the other, exactly. -/
theorem Sendable.moves (sendable : Sendable paying paid amount) (payingRegular : paying.Regular)
    (paidRegular : paid.Regular) (debited credited : Timestamp) :
    ∃ payingBalance paidBalance,
      paying.debit amount debited =
        .ok { paying with balance := payingBalance, updatedAt := debited } ∧
      paid.credit amount credited =
        .ok { paid with balance := paidBalance, updatedAt := credited } ∧
      payingBalance.value.toRat = paying.balance.value.toRat - amount.value.toRat ∧
      paidBalance.value.toRat = paid.balance.value.toRat + amount.value.toRat := by
  obtain ⟨payingBalance, taken, less⟩ := payingRegular.debit amount
  obtain ⟨paidBalance, given, more⟩ := paidRegular.credit amount
  have covered := payingRegular.ensureFunds_covered amount sendable.covers
  refine ⟨payingBalance, paidBalance, ?_, ?_, less, more⟩
  · exact Account.debit_ok.mpr ⟨sendable.payingActive, Account.ensureFunds_ok.mp covered,
      payingBalance, taken, rfl⟩
  · exact Account.credit_ok.mpr ⟨sendable.paidActive, paidBalance, given, rfl⟩

end Rules

/-! ## The unit of work -/

namespace LedgerAction

open Program (SettlesOn)

variable {solo : Solo} {unit : UnitId} {work : UnitOfWork} {ids : List Uuid}
  {times : List Timestamp}

theorem debitCredit_alone {sides : TransferSides} {debited credited : Timestamp}
    {payingAfter paidAfter : Account}
    (holds : solo.Holds unit tables work ⟨ids, debited :: credited :: times⟩)
    (differs : sides.source.id ≠ sides.target.id)
    (paid : sides.source.debit amount debited = .ok payingAfter)
    (received : sides.target.credit amount credited = .ok paidAfter)
    (source : sides.source.id ∈ work.held.ids) (target : sides.target.id ∈ work.held.ids)
    (unwritten : work.writes = []) :
    SettlesOn Solo.rule (debitCredit unit amount) sides solo
      (fun _ after later => after = ⟨payingAfter.stored, paidAfter.stored⟩ ∧
        later.Holds unit tables { work with
          writes := [⟨payingAfter.revision, payingAfter⟩, ⟨paidAfter.revision, paidAfter⟩] }
          ⟨ids, times⟩) fun _ _ _ => False := by
  have payingTerms := (Account.debit_moved paid).terms
  have paidTerms := (Account.credit_moved received).terms
  have active := (Account.credit_moved received).active
  unfold debitCredit
  refine SettlesOn.bind (SettlesOn.get ?_)
  rw [if_neg differs]
  refine SettlesOn.bind (keeps_side Solo.rule_monotone
    (granted_alone (Account.ensureActive_ok.mpr active) ?_))
  refine SettlesOn.bind (keeps_side Solo.rule_monotone ((keeps_bind _ _).mpr
    (now_alone holds fun _ holds => granted_alone paid ?_)))
  refine SettlesOn.bind (SettlesOn.set ?_)
  refine SettlesOn.bind (keeps_side Solo.rule_monotone ((keeps_bind _ _).mpr
    (now_alone holds fun _ holds => granted_alone received ?_)))
  refine SettlesOn.bind (SettlesOn.set ?_)
  refine SettlesOn.bind (keeps_side Solo.rule_monotone (save_alone holds ?_ fun _ holds => ?_))
  · rw [payingTerms.id]
    exact source
  refine SettlesOn.bind (SettlesOn.set ?_)
  refine SettlesOn.bind (keeps_side Solo.rule_monotone (save_alone holds ?_ fun _ holds => ?_))
  · rw [paidTerms.id]
    exact target
  refine SettlesOn.set ⟨rfl, ?_⟩
  have apart : payingAfter.id ≠ paidAfter.id := by
    rw [payingTerms.id, paidTerms.id]
    exact differs
  have written : UnitOfWork.placeWrite paidAfter
      (UnitOfWork.placeWrite payingAfter work.writes) =
        [⟨payingAfter.revision, payingAfter⟩, ⟨paidAfter.revision, paidAfter⟩] := by
    simp [unwritten, UnitOfWork.placeWrite, apart]
  rw [← written]
  exact holds

/-- The unit of work of a transfer right before its commit. -/
def transferWork (order : LockOrder) (payingAfter paidAfter : Account) (entry : OutboxEntry) :
    UnitOfWork :=
  { UnitOfWork.locking order.ids with
    writes := [⟨payingAfter.revision, payingAfter⟩, ⟨paidAfter.revision, paidAfter⟩]
    entries := [entry] }

variable {paying paid : Account} {payingAfter paidAfter : Account}

theorem transferWork_accepted (payingMoved : paying.Moved payingAfter)
    (paidMoved : paid.Moved paidAfter)
    (foundPaying : tables.accounts.find? paying.id = some paying)
    (foundPaid : tables.accounts.find? paid.id = some paid) (entry : OutboxEntry) :
    (transferWork order payingAfter paidAfter entry).Accepted tables := by
  refine ⟨fun _ => (absurd · List.not_mem_nil), fun write inside => ?_⟩
  rcases List.mem_pair.mp inside with rfl | rfl
  · rw [payingMoved.terms.id, foundPaying]
    exact congrArg some payingMoved.revision.symm
  · rw [paidMoved.terms.id, foundPaid]
    exact congrArg some paidMoved.revision.symm

theorem transferWork_transferred {payingBalance paidBalance : Balance}
    {debited credited happened told : Timestamp} {transfer entryId : Uuid} {after : Tables}
    (sendable : Sendable paying paid amount) (differs : paying.id ≠ paid.id)
    (new : tables.outbox.find? entryId = none)
    (less : payingBalance.value.toRat = paying.balance.value.toRat - amount.value.toRat)
    (more : paidBalance.value.toRat = paid.balance.value.toRat + amount.value.toRat)
    (entry : OutboxEntry) (same : entry = .ofEvent entryId
      (.fundsTransferred transfer paying.id paid.id amount.value happened) told)
    (payingSame : payingAfter = { paying with balance := payingBalance, updatedAt := debited })
    (paidSame : paidAfter = { paid with balance := paidBalance, updatedAt := credited })
    (stored : after = (transferWork order payingAfter paidAfter entry).committedTables tables) :
    Transferred tables after paying paid amount
      ⟨⟨transfer, payingAfter.stored, paidAfter.stored, amount⟩, entry⟩ := by
  subst same payingSame paidSame stored
  have accounts : ∀ id, (tables.accounts.putAll Account.id
      [Account.stored { paying with balance := payingBalance, updatedAt := debited },
        Account.stored { paid with balance := paidBalance, updatedAt := credited }]).find? id =
      if paid.id = id then
        some (Account.stored { paid with balance := paidBalance, updatedAt := credited })
      else if paying.id = id then
        some (Account.stored { paying with balance := payingBalance, updatedAt := debited })
      else tables.accounts.find? id := by
    intro id
    simp only [Table.putAll, List.foldl_cons, List.foldl_nil, Table.find?_put]
    rfl
  constructor
  case source => exact (accounts _).trans (by rw [if_neg (Ne.symm differs), if_pos rfl])
  case target => exact (accounts _).trans (by rw [if_pos rfl])
  case others =>
    intro id notPaying notPaid
    exact (accounts _).trans (by rw [if_neg (Ne.symm notPaid), if_neg (Ne.symm notPaying)])
  case debited => exact less
  case credited => exact more
  case outbox => exact Table.put_rows_of_absent new
  case active => exact ⟨sendable.payingActive, sendable.paidActive⟩
  case entry => exact ⟨entryId, happened, told, rfl⟩
  case records => exact ⟨rfl, rfl, rfl⟩
  case sourceTerms => exact ⟨rfl, rfl, rfl, rfl, rfl⟩
  case targetTerms => exact ⟨rfl, rfl, rfl, rfl, rfl⟩
  all_goals rfl

/-- What is done with the two rows once they are locked. -/
theorem locked_transfer_alone {transferId entryId : Uuid}
    {debited credited happened told : Timestamp}
    (holds : solo.Holds unit tables (UnitOfWork.locking order.ids)
      ⟨transferId :: entryId :: ids, debited :: credited :: happened :: told :: times⟩)
    (locked : paying.id ∈ order.ids ∧ paid.id ∈ order.ids) (differs : paying.id ≠ paid.id)
    (foundPaying : tables.accounts.find? paying.id = some paying)
    (foundPaid : tables.accounts.find? paid.id = some paid)
    (payingRegular : paying.Regular) (paidRegular : paid.Regular)
    (new : tables.outbox.find? entryId = none) :
    Keeps Solo.rule (do
        ofOutcome (checkSides ⟨paying, paid⟩ amount)
        let (outcome, sides) ←
          ExceptT.lift ((debitCredit unit amount).run.run ⟨paying, paid⟩)
        ExceptT.mk (pure outcome)
        let id ← freshId
        let entry ← recordEvent unit
          (.fundsTransferred id paying.id paid.id amount.value (← now))
        return (⟨⟨id, sides.source, sides.target, amount⟩, entry⟩ : Committed TransferReceipt)) solo
      (fun value later => ∃ content tape, later.Holds unit tables content tape ∧
        content.Accepted tables ∧ ∀ last : Solo,
          last.store.tables = content.committedTables tables → Sendable paying paid amount ∧
            Transferred tables last.store.tables paying paid amount value)
      fun failure later => later.store.tables = tables ∧
        ∃ objection, failure = objection.refused ∧ Objection paying paid amount objection := by
  apply (keeps_bind _ _).mpr
  rcases checkSides_decides payingRegular paid amount with
    ⟨sendable, checked⟩ | ⟨objection, raised, refused⟩
  · refine granted_alone checked ?_
    obtain ⟨payingBalance, paidBalance, debit, credit, less, more⟩ :=
      sendable.moves payingRegular paidRegular debited credited
    refine (keeps_bind _ _).mpr ((keeps_lift _).mpr ?_)
    refine Program.Ensures.imp Solo.rule_monotone ?_ (debitCredit_alone holds differs debit credit
      locked.1 locked.2 rfl)
    rintro ⟨failure | _, sides⟩ later settled
    · exact settled.elim
    obtain ⟨rfl, holds⟩ := settled
    refine (keeps_bind _ _).mpr ?_
    refine (keeps_bind _ _).mpr (freshId_alone holds fun _ holds => ?_)
    refine (keeps_bind _ _).mpr (now_alone holds fun _ holds => ?_)
    refine (keeps_bind _ _).mpr (recordEvent_alone holds fun _ holds => ?_)
    refine ⟨_, _, holds, transferWork_accepted (Account.debit_moved debit)
      (Account.credit_moved credit) foundPaying foundPaid _, fun last stored => ⟨sendable, ?_⟩⟩
    exact transferWork_transferred sendable differs new less more _ rfl rfl rfl stored
  · exact refused_alone refused ⟨holds.tables, objection, rfl, raised⟩

/-- A transfer by itself does what it says or changes nothing. -/
theorem transfer_alone {timeoutMs : Nat} {transferId entryId : Uuid}
    {debited credited happened told : Timestamp}
    (keyed : solo.store.tables.Keyed)
    (regular : ∀ id account, solo.store.tables.accounts.find? id = some account → account.Regular)
    (sound : solo.store.locks.Sound)
    (free : ∀ ticket ∈ solo.store.locks.tickets,
      ticket.account ≠ source ∧ ticket.account ≠ target)
    (new : solo.store.tables.outbox.find? entryId = none)
    (tape : solo.tape =
      ⟨transferId :: entryId :: ids, debited :: credited :: happened :: told :: times⟩) :
    Keeps Solo.rule (transfer source target amount timeoutMs) solo
      (fun committed last => source ≠ target ∧ ∃ paying paid,
        solo.store.tables.accounts.find? source = some paying ∧
        solo.store.tables.accounts.find? target = some paid ∧ Sendable paying paid amount ∧
        Transferred solo.store.tables last.store.tables paying paid amount committed)
      (fun failure last => TransferFails solo.store.tables source target amount failure ∧
        last.store.tables = solo.store.tables) := by
  unfold transfer
  apply (keeps_bind _ _).mpr
  cases paired : LockOrder.pair source target with
  | error refusal =>
    obtain ⟨same, rfl⟩ := LockOrder.pair_error paired
    exact refused_alone rfl ⟨.same same, rfl⟩
  | ok order =>
    obtain ⟨differs, inside⟩ := LockOrder.pair_ok paired
    have unlocked : ∀ ticket ∈ solo.store.locks.tickets, ticket.account ∉ order.ids := by
      intro ticket member locked
      rcases (inside _).mp locked with same | same
      · exact (free ticket member).1 same
      · exact (free ticket member).2 same
    refine granted_alone rfl (committed_alone fun unit started begun => ?_)
    apply (keeps_bind _ _).mpr
    -- which row is locked first matters only where one is missing
    by_cases absent : solo.store.tables.accounts.find? source = none ∨
        solo.store.tables.accounts.find? target = none
    · obtain ⟨id, missing, failed⟩ := pair_missing paired absent
      refine lock_alone_keeps timeoutMs begun sound unlocked ?_ ?_
      · intro later error unchanged read
        cases failed.symm.trans read
        exact ⟨unchanged, fun last same => ⟨.missing differs missing, same⟩⟩
      · intro later rows _ read
        cases failed.symm.trans read
    · obtain ⟨noSource, noTarget⟩ := not_or.mp absent
      obtain ⟨paying, foundPaying⟩ := Option.ne_none_iff_exists'.mp noSource
      obtain ⟨paid, foundPaid⟩ := Option.ne_none_iff_exists'.mp noTarget
      obtain ⟨rows, given, takenPaying, takenPaid⟩ :=
        pair_taken keyed paired foundPaying foundPaid
      refine lock_alone_keeps timeoutMs begun sound unlocked ?_ ?_
      · intro later error _ read
        cases given.symm.trans read
      · intro later others holds read
        cases given.symm.trans read
        rw [takenPaying, takenPaid]
        obtain rfl := keyed _ _ foundPaying
        obtain rfl := keyed _ _ foundPaid
        rw [tape] at holds
        refine keeps_imp Solo.rule_monotone (locked_transfer_alone holds
          ⟨(inside _).mpr (Or.inl rfl), (inside _).mpr (Or.inr rfl)⟩ differs foundPaying foundPaid
          (regular _ _ foundPaying) (regular _ _ foundPaid) new) ?_ ?_
        · rintro committed before ⟨content, left, kept, accepted, moved⟩
          refine ⟨content, left, kept, accepted, fun last stored => ?_⟩
          obtain ⟨sendable, transferred⟩ := moved last stored
          exact ⟨differs, paying, paid, foundPaying, foundPaid, sendable, transferred⟩
        · rintro _ before ⟨unchanged, objection, rfl, raised⟩
          exact ⟨unchanged, fun last same =>
            ⟨.objection differs foundPaying foundPaid raised, same⟩⟩

end LedgerAction

theorem TransferFails.not_sendable {failure : Failure LedgerError}
    (fails : TransferFails tables source target amount failure) {paying paid : Account}
    (differs : source ≠ target) (foundPaying : tables.accounts.find? source = some paying)
    (foundPaid : tables.accounts.find? target = some paid) : ¬ Sendable paying paid amount := by
  cases fails with
  | same same => exact absurd same differs
  | missing _ missing => cases missing <;> simp_all
  | objection _ alsoPaying alsoPaid objection =>
    cases foundPaying.symm.trans alsoPaying
    cases foundPaid.symm.trans alsoPaid
    exact objection.not_sendable

theorem Missing.unique {first second : Uuid} (one : Missing tables source target first)
    (two : Missing tables source target second) : first = second := by
  cases one <;> cases two <;> simp_all

/-- Of all that stands against a transfer one thing is complained about. -/
theorem TransferFails.unique {first second : Failure LedgerError}
    (one : TransferFails tables source target amount first)
    (two : TransferFails tables source target amount second) : first = second := by
  cases one with
  | same same =>
    cases two with
    | same _ => rfl
    | missing differs _ => exact absurd same differs
    | objection differs _ _ _ => exact absurd same differs
  | missing differs missing =>
    cases two with
    | same same => exact absurd same differs
    | missing _ also => rw [missing.unique also]
    | objection _ foundPaying foundPaid _ => cases missing <;> simp_all
  | objection differs foundPaying foundPaid objection =>
    cases two with
    | same same => exact absurd same differs
    | missing _ missing => cases missing <;> simp_all
    | objection _ alsoPaying alsoPaid other =>
      cases foundPaying.symm.trans alsoPaying
      cases foundPaid.symm.trans alsoPaid
      rw [objection.unique other]

/-- A transfer that nothing interferes with succeeds if and only if there are two different accounts
between which the amount can go. Then it moves the amount exactly and tells of it once; otherwise it
fails for the first thing that stands against it, and changes nothing. -/
theorem transfer_meets {solo : Solo} {timeoutMs : Nat} {transferId entryId : Uuid} {ids : List Uuid}
    {debited credited happened told : Timestamp} {times : List Timestamp}
    (keyed : solo.store.tables.Keyed)
    (regular : ∀ id account, solo.store.tables.accounts.find? id = some account → account.Regular)
    (sound : solo.store.locks.Sound)
    (free : ∀ ticket ∈ solo.store.locks.tickets,
      ticket.account ≠ source ∧ ticket.account ≠ target)
    (new : solo.store.tables.outbox.find? entryId = none)
    (tape : solo.tape =
      ⟨transferId :: entryId :: ids, debited :: credited :: happened :: told :: times⟩) :
    ∃ outcome after,
      solo.run (LedgerAction.transfer source target amount timeoutMs).run = some (outcome, after) ∧
      ((∃ committed, outcome = .ok committed) ↔ source ≠ target ∧ ∃ paying paid,
        solo.store.tables.accounts.find? source = some paying ∧
        solo.store.tables.accounts.find? target = some paid ∧ Sendable paying paid amount) ∧
      (∀ committed, outcome = .ok committed → ∃ paying paid,
        solo.store.tables.accounts.find? source = some paying ∧
        solo.store.tables.accounts.find? target = some paid ∧
        Transferred solo.store.tables after.store.tables paying paid amount committed) ∧
      (∀ failure, outcome = .error failure ↔
        TransferFails solo.store.tables source target amount failure) ∧
      ((∃ failure, outcome = .error failure) → after.store.tables = solo.store.tables) := by
  have kept : LedgerAction.Keeps _ (LedgerAction.transfer source target amount timeoutMs) _ _ _ :=
    LedgerAction.transfer_alone keyed regular sound free new tape
  obtain ⟨outcome, after, ran, settled⟩ := Solo.run_of_ensures kept
  refine ⟨outcome, after, ran, ?_⟩
  rcases outcome with failure | committed
  · obtain ⟨fails, unchanged⟩ := settled
    refine ⟨⟨?_, ?_⟩, ?_, fun other => ⟨?_, ?_⟩, fun _ => unchanged⟩
    · rintro ⟨committed, absurdly⟩
      cases absurdly
    · rintro ⟨differs, paying, paid, foundPaying, foundPaid, sendable⟩
      exact absurd sendable (fails.not_sendable differs foundPaying foundPaid)
    · intro committed absurdly
      cases absurdly
    · intro same
      cases same
      exact fails
    · intro also
      rw [fails.unique also]
  · obtain ⟨differs, paying, paid, foundPaying, foundPaid, sendable, transferred⟩ := settled
    refine ⟨⟨fun _ => ?_, fun _ => ⟨committed, rfl⟩⟩, ?_, fun failure => ⟨?_, ?_⟩, ?_⟩
    · exact ⟨differs, paying, paid, foundPaying, foundPaid, sendable⟩
    · intro same succeeded
      cases succeeded
      exact ⟨paying, paid, foundPaying, foundPaid, transferred⟩
    · intro absurdly
      cases absurdly
    · intro fails
      exact absurd sendable (fails.not_sendable differs foundPaying foundPaid)
    · rintro ⟨failure, absurdly⟩
      cases absurdly

/-! ## Two accounts -/

/-- A store of two accounts, which nobody else uses. -/
def Solo.ofTwo (one two : Account) : Solo where
  store := { MemoryStore.empty with
    tables := { Tables.empty with accounts := Tables.empty.accounts.putAll Account.id [one, two] } }
  tape := ⟨[.ofNat 3, .ofNat 4], List.replicate 4 ⟨0, 0⟩⟩

namespace Solo

variable {one two : Account}

theorem ofTwo_find? (one two : Account) (id : Uuid) :
    (ofTwo one two).store.tables.accounts.find? id =
      if two.id = id then some two else if one.id = id then some one else none := by
  show (((Table.empty : Table Uuid Account).put one.id one).put two.id two).find? id = _
  rw [Table.find?_put, Table.find?_put, Table.find?_empty]

theorem ofTwo_found (differs : one.id ≠ two.id) :
    (ofTwo one two).store.tables.accounts.find? one.id = some one ∧
      (ofTwo one two).store.tables.accounts.find? two.id = some two := by
  constructor
  · rw [ofTwo_find?, if_neg (Ne.symm differs), if_pos rfl]
  · rw [ofTwo_find?, if_pos rfl]

theorem ofTwo_keyed (one two : Account) : (ofTwo one two).store.tables.Keyed :=
  @Table.putAll_keyed _ _ _ Account.id .empty [one, two] Tables.empty_keyed

theorem ofTwo_regular (first : one.Regular) (second : two.Regular) : ∀ id account,
    (ofTwo one two).store.tables.accounts.find? id = some account → account.Regular := by
  intro id account found
  rw [ofTwo_find?] at found
  split at found
  · cases found
    exact second
  · split at found
    · cases found
      exact first
    · cases found

end Solo

/-- An active account with a balance. -/
def funded (id : Uuid) (balance overdraftLimit : Decimal) : Account :=
  { Account.opened id .nil "USD" overdraftLimit ⟨0, 0⟩ with balance := ⟨balance⟩ }

theorem funded_regular (id : Uuid) {balance : Decimal} (overdraftLimit : Decimal)
    (whole : balance.scale = 0) (small : |balance.coefficient| < 10 ^ 24) :
    (funded id balance overdraftLimit).Regular := by
  have value : balance.toRat = balance.coefficient := by
    rw [Decimal.toRat, whole, pow_zero, div_one]
  refine ⟨⟨balance.coefficient * 10 ^ 4, ?_⟩, ?_⟩
  · show balance.toRat * 10 ^ 4 = _
    rw [value]
    push_cast
    rfl
  · show |balance.toRat| < 10 ^ 24
    rw [value]
    exact_mod_cast small

def ten : Amount := ⟨⟨10, 0, by decide, Decimal.zero.scale_le⟩, by decide⟩

/-- Ten are paid from six with an overdraft limit of five. -/
theorem transfer_meets_overdraft :
    let paying := funded (.ofNat 2) ⟨6, 0, by decide, by decide⟩ ⟨5, 0, by decide, by decide⟩
    let paid := funded (.ofNat 1) .zero .zero
    ∃ committed after, (Solo.ofTwo paying paid).run
        (LedgerAction.transfer paying.id paid.id ten 0).run = some (.ok committed, after) ∧
      Transferred (Solo.ofTwo paying paid).store.tables after.store.tables paying paid ten
        committed := by
  intro paying paid
  have differs : paying.id ≠ paid.id := by decide
  obtain ⟨foundPaying, foundPaid⟩ := Solo.ofTwo_found differs
  have sendable : Sendable paying paid ten := by
    refine ⟨rfl, rfl, rfl, ?_⟩
    norm_num [Account.Covers, paying, funded, Account.opened, ten, Decimal.toRat]
  obtain ⟨outcome, after, ran, succeeds, does, _⟩ :=
    @transfer_meets paying.id paid.id ten (Solo.ofTwo paying paid) 0 _ _ _ _ _ _ _ _
      (Solo.ofTwo_keyed _ _)
      (Solo.ofTwo_regular (funded_regular _ _ rfl (by decide)) (funded_regular _ _ rfl (by decide)))
      LockTable.empty_sound (fun _ => (absurd · List.not_mem_nil)) rfl rfl
  obtain ⟨committed, rfl⟩ := succeeds.mpr ⟨differs, _, _, foundPaying, foundPaid, sendable⟩
  obtain ⟨_, _, alsoPaying, alsoPaid, transferred⟩ := does committed rfl
  cases foundPaying.symm.trans alsoPaying
  cases foundPaid.symm.trans alsoPaid
  exact ⟨committed, after, ran, transferred⟩

/-- A shortage of more than 96 bits is not told as one. -/
theorem transfer_shortage_untold :
    let paying := funded (.ofNat 1) ⟨-1, 0, by decide, by decide⟩
      ⟨-79228162514264337593543950335, 0, by decide, by decide⟩
    let paid := funded (.ofNat 2) .zero .zero
    paying.Regular ∧ paid.Regular ∧ ¬ paying.Covers ten ∧
      ∃ after, (Solo.ofTwo paying paid).run (LedgerAction.transfer paying.id paid.id ten 0).run =
        some (.error (.overflow .addition), after) := by
  intro paying paid
  have differs : paying.id ≠ paid.id := by decide
  obtain ⟨foundPaying, foundPaid⟩ := Solo.ofTwo_found differs
  have payingRegular : paying.Regular := funded_regular _ _ rfl (by decide)
  have paidRegular : paid.Regular := funded_regular _ _ rfl (by decide)
  have short : ¬ paying.Covers ten := by
    norm_num [Account.Covers, paying, funded, Account.opened, ten, Decimal.toRat]
  have untold : paying.Short ten (.overflow .addition) := by
    refine .untold (by decide +kernel) ?_
    norm_num [paying, funded, Account.opened, Decimal.toRat]
  have kept : LedgerAction.Keeps _ (LedgerAction.transfer paying.id paid.id ten 0) _ _ _ :=
    @LedgerAction.transfer_alone paying.id paid.id ten (Solo.ofTwo paying paid) _ _ _ _ _ _ _ _ _
      (Solo.ofTwo_keyed _ _) (Solo.ofTwo_regular payingRegular paidRegular) LockTable.empty_sound
      (fun _ => (absurd · List.not_mem_nil)) rfl rfl
  obtain ⟨outcome, after, ran, settled⟩ := Solo.run_of_ensures kept
  refine ⟨payingRegular, paidRegular, short, after, ran.trans ?_⟩
  have objects : TransferFails (Solo.ofTwo paying paid).store.tables paying.id paid.id ten
      (.overflow .addition) :=
    .objection differs foundPaying foundPaid (.funds rfl rfl rfl short untold)
  rcases outcome with failure | committed
  · rw [settled.1.unique objects]
  · obtain ⟨_, _, _, alsoPaying, alsoPaid, sendable, _⟩ := settled
    exact absurd sendable (objects.not_sendable differs alsoPaying alsoPaid)

end AccountLedger
