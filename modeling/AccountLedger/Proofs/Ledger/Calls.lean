import AccountLedger.Proofs.Ledger.Discipline

/-!
Every call of the ledger service keeps to the discipline.
-/

namespace AccountLedger

namespace LedgerAction

open Errand (Ended)

variable {call : ServiceCall} {errand : Errand} {α : Type}

/-- How a part of a call that has a unit of work may fail. -/
def Fails (unit : UnitId) (failure : Failure LedgerError) (errand : Errand) : Prop :=
  (errand.phase = .working ∨ errand.phase = .failing) ∧ errand.unit = unit ∧
    failure.isBreach = false

theorem ended_failure {failure : Failure LedgerError} (benign : failure.isBreach = false)
    (phase : errand.phase = .outside ∨ errand.phase = .abandoned) :
    Ended (.error failure) errand := by
  rcases phase with phase | phase <;>
    simp only [Ended, phase, Except.error.injEq, exists_eq_left', benign]

theorem keeps_publish (wrap : α → ServiceReply) (action : LedgerAction (Committed α))
    {ok : ServiceReply → Errand → Prop} {failed : Failure LedgerError → Errand → Prop} :
    Keeps (Errand.rule call) (wrap <$> LedgerPolicy.publish action) errand ok failed =
      Keeps (Errand.rule call) action errand (fun value later => ok (wrap value.value) later)
        failed := by
  rw [keeps_map]
  exact keeps_bind _ _

/-- A call whose unit of work is done as its kind of change asks for ends as it should. -/
theorem keeps_committed (outside : errand.phase = .outside) (wrap : α → ServiceReply)
    {work : UnitId → LedgerAction (Committed α)}
    (working : ∀ unit, Keeps (Errand.rule call) (work unit)
      ⟨.working, unit, errand.tape, [], UnitOfWork.empty⟩
      (fun value later => later.phase = .working ∧ later.unit = unit ∧
        Change call later.tape later.reads later.work (wrap value.value))
      (Fails unit)) :
    Keeps (Errand.rule call) (committed work) errand
      (fun value later => Ended (.ok (wrap value.value)) later)
      (fun failure later => Ended (.error failure) later) := by
  refine Keeps.bind ((keeps_ofAnswer _).mpr ⟨outside, fun unit => Keeps.bind ?_⟩)
  refine (keeps_orAbandon unit (work unit)).mpr ((working unit).imp ?_ ?_)
  · rintro value later ⟨phase, mine, change⟩
    refine Keeps.bind ((keeps_ofAnswer _).mpr ⟨phase, mine.symm, _, change, ?_, fun error => ?_⟩)
    · rfl
    · rfl
  · rintro failure later ⟨phase, mine, benign⟩
    exact ⟨phase, mine.symm, ended_failure benign (Or.inr rfl)⟩

theorem openAccount_keeps (policy : LedgerPolicy) (owner : Uuid) (currency : String)
    (overdraftLimit : Option Decimal) :
    Keeps (Errand.rule (.openAccount policy owner currency overdraftLimit))
      (ServiceCall.openAccount policy owner currency overdraftLimit).action Errand.start
      (fun reply later => Ended (.ok reply) later)
      (fun failure later => Ended (.error failure) later) := by
  have benign : ∀ failure : Failure LedgerError, failure.isBreach = false →
      Ended (.error failure) Errand.start := fun failure benign =>
    ended_failure benign (Or.inl rfl)
  apply (keeps_publish ServiceReply.account _).mpr
  unfold openAccount
  split
  · exact Keeps.bind (Keeps.refuse benign)
  · next nonnegative =>
    refine Keeps.bind (Keeps.ofOutcome (fun code normal => ?_) benign)
    refine Keeps.bind (Keeps.now (Or.inl rfl) fun created => ?_)
    refine Keeps.bind (Keeps.freshId (Or.inl rfl) fun id => ?_)
    apply keeps_committed rfl ServiceReply.account
    intro unit
    refine Keeps.bind (Keeps.insert rfl ?_)
    refine Keeps.bind (Keeps.recordEvent rfl fun entry staged => ?_)
    exact Keeps.pure ⟨rfl, rfl, .opened (by simpa using nonnegative)
      (Outcome.ofExcept_eq_ok.mp normal)⟩

theorem lockOne_keeps {account : Uuid} (timeoutMs : Nat) (working : errand.phase = .working)
    (unread : errand.reads = []) (unused : errand.work = UnitOfWork.empty)
    {ok : Account → Errand → Prop} {failed : Failure LedgerError → Errand → Prop}
    (failure : ∀ failure : Failure LedgerError, failure.isBreach = false →
      failed failure { errand with phase := .failing })
    (locked : ∀ row : Account, row.id = account →
      ok row { errand with reads := [row], work := UnitOfWork.locking [account] }) :
    Keeps (Errand.rule call) (lockOne errand.unit account timeoutMs) errand ok failed := by
  refine Keeps.bind (Keeps.lock working unread unused failure fun rows ids => ?_)
  obtain ⟨row, rest, rfl, same, nothing⟩ := List.map_eq_cons_iff.mp ids
  obtain rfl := List.map_eq_nil_iff.mp nothing
  exact locked row same

/-- A change of one account, whatever it is. -/
theorem changeAccount_keeps {one : OneChange} (timeoutMs : Nat) (known : call.one? = some one)
    (action : call.action = ServiceReply.account <$>
      LedgerPolicy.publish (changeAccount one.account timeoutMs one.change one.event)) :
    Keeps (Errand.rule call) call.action Errand.start (fun reply later => Ended (.ok reply) later)
      (fun failure later => Ended (.error failure) later) := by
  rw [action]
  apply (keeps_publish ServiceReply.account _).mpr
  apply keeps_committed rfl ServiceReply.account
  intro unit
  refine Keeps.bind (lockOne_keeps timeoutMs rfl rfl rfl
    (fun failure benign => ⟨Or.inr rfl, rfl, benign⟩) fun row same => ?_)
  refine Keeps.bind (Keeps.now (Or.inr rfl) fun changed => ?_)
  refine Keeps.bind (Keeps.ofOutcome (fun after done => ?_) fun failure benign =>
    ⟨Or.inl rfl, rfl, benign⟩)
  refine Keeps.bind (Keeps.save rfl ?_ ?_)
  · rw [(ServiceCall.one?_moved known done).terms.id, same]
    exact List.mem_singleton.mpr rfl
  refine Keeps.bind (Keeps.now (Or.inr rfl) fun happened => ?_)
  refine Keeps.bind (Keeps.recordEvent rfl fun entry staged => ?_)
  exact Keeps.pure ⟨rfl, rfl, .changed known same done⟩

/-! ## Transfers -/

/-- What `Keeps` says of an action that also changes the two sides of a transfer. -/
def KeepsSides (call : ServiceCall)
    (action : ExceptT (Failure LedgerError) (StateT TransferSides (Program service)) α)
    (sides : TransferSides) (errand : Errand) (ok : α → TransferSides → Errand → Prop)
    (failed : Failure LedgerError → Errand → Prop) : Prop :=
  Program.Ensures (Errand.rule call) (action.run.run sides) errand fun result later =>
    match result.1 with
    | .ok value => ok value result.2 later
    | .error failure => failed failure later

namespace KeepsSides

variable {sides : TransferSides} {β : Type} {ok : α → TransferSides → Errand → Prop}
  {failed : Failure LedgerError → Errand → Prop}

theorem bind {action : ExceptT (Failure LedgerError) (StateT TransferSides (Program service)) α}
    {next : α → ExceptT (Failure LedgerError) (StateT TransferSides (Program service)) β}
    {ok : β → TransferSides → Errand → Prop}
    (first : KeepsSides call action sides errand
      (fun value sides later => KeepsSides call (next value) sides later ok failed) failed) :
    KeepsSides call (action >>= next) sides errand ok failed := by
  apply (Program.ensures_bind _ _ _ _).mpr
  refine Program.Ensures.imp (Errand.rule_monotone call) ?_ first
  rintro ⟨failure | value, later⟩ known kept
  · exact kept
  · exact kept

theorem lift {action : LedgerAction α}
    (kept : Keeps (Errand.rule call) action errand (fun value later => ok value sides later)
      failed) :
    KeepsSides call (ExceptT.mk (StateT.lift action.run)) sides errand ok failed := by
  apply (Program.ensures_bind _ _ _ _).mpr
  refine Program.Ensures.imp (Errand.rule_monotone call) ?_ kept
  rintro (failure | value) known kept
  · exact kept
  · exact kept

theorem get {ok : TransferSides → TransferSides → Errand → Prop} (known : ok sides sides errand) :
    KeepsSides call MonadState.get sides errand ok failed := known

theorem set {ok : PUnit → TransferSides → Errand → Prop} {after : TransferSides}
    (known : ok ⟨⟩ after errand) :
    KeepsSides call (MonadStateOf.set after) sides errand ok failed := known

end KeepsSides

theorem debitCredit_keeps (errand : Errand) (amount : Amount) {sides : TransferSides}
    (working : errand.phase = .working) (source : sides.source.id ∈ errand.work.held.ids)
    (target : sides.target.id ∈ errand.work.held.ids) (unwritten : errand.work.writes = [])
    {ok : Unit → TransferSides → Errand → Prop} {failed : Failure LedgerError → Errand → Prop}
    (failure : ∀ failure later, later.phase = .working → later.unit = errand.unit →
      failure.isBreach = false → failed failure later)
    (moved : ∀ debited credited payingAfter paidAfter,
      sides.source.debit amount debited = .ok payingAfter →
      sides.target.credit amount credited = .ok paidAfter →
      ok () ⟨payingAfter.stored, paidAfter.stored⟩ { errand with
        tape := (errand.tape.told debited).told credited
        work := { errand.work with
          writes := [⟨payingAfter.revision, payingAfter⟩, ⟨paidAfter.revision, paidAfter⟩] } }) :
    KeepsSides call (debitCredit errand.unit amount) sides errand ok failed := by
  unfold debitCredit
  refine KeepsSides.bind (KeepsSides.get ?_)
  by_cases same : sides.source.id = sides.target.id
  · rw [if_pos same]
    refine KeepsSides.bind (KeepsSides.lift (Keeps.refuse fun cause benign => ?_))
    exact failure cause errand working rfl benign
  rw [if_neg same]
  refine KeepsSides.bind (KeepsSides.lift (Keeps.ofOutcome (fun _ active => ?_) fun cause benign => ?_))
  rotate_left
  · exact failure cause errand working rfl benign
  refine KeepsSides.bind (KeepsSides.lift (Keeps.bind (Keeps.now (Or.inr working) fun debited => ?_)))
  refine Keeps.ofOutcome (fun payingAfter paid => ?_) fun cause benign => ?_
  rotate_left
  · exact failure cause _ working rfl benign
  refine KeepsSides.bind (KeepsSides.set ?_)
  refine KeepsSides.bind (KeepsSides.lift (Keeps.bind (Keeps.now (Or.inr working) fun credited => ?_)))
  refine Keeps.ofOutcome (fun paidAfter received => ?_) fun cause benign => ?_
  rotate_left
  · exact failure cause _ working rfl benign
  refine KeepsSides.bind (KeepsSides.set ?_)
  refine KeepsSides.bind (KeepsSides.lift (Keeps.save working ?_ ?_))
  · rw [(Account.debit_moved paid).terms.id]
    exact source
  refine KeepsSides.bind (KeepsSides.set ?_)
  refine KeepsSides.bind (KeepsSides.lift (Keeps.save working ?_ ?_))
  · rw [(Account.credit_moved received).terms.id]
    exact target
  apply KeepsSides.set
  have differs : payingAfter.id ≠ paidAfter.id := by
    rw [(Account.debit_moved paid).terms.id, (Account.credit_moved received).terms.id]
    exact same
  have written : UnitOfWork.placeWrite paidAfter
      (UnitOfWork.placeWrite payingAfter errand.work.writes) =
        [⟨payingAfter.revision, payingAfter⟩, ⟨paidAfter.revision, paidAfter⟩] := by
    simp [unwritten, UnitOfWork.placeWrite, differs]
  have kept := moved debited credited payingAfter paidAfter paid received
  rw [← written] at kept
  exact kept

theorem takeRow_keeps {rows : List Account} {account : Uuid} {ok : Account → Errand → Prop}
    {failed : Failure LedgerError → Errand → Prop}
    (failure : ∀ failure : Failure LedgerError, failure.isBreach = false → failed failure errand)
    (taken : ∀ row, rows.find? (fun row => row.id == account) = some row → ok row errand) :
    Keeps (Errand.rule call) (takeRow rows account) errand ok failed := by
  unfold takeRow
  split
  · next row found => exact taken row found
  · exact failure (.error (.notFound account)) rfl

theorem transfer_keeps (policy : LedgerPolicy) (source target : Uuid) (amount : Amount) :
    Keeps (Errand.rule (.transfer policy source target amount))
      (ServiceCall.transfer policy source target amount).action Errand.start
      (fun reply later => Ended (.ok reply) later)
      (fun failure later => Ended (.error failure) later) := by
  apply (keeps_publish ServiceReply.transfer _).mpr
  refine Keeps.bind (Keeps.ofOutcome (fun order paired => ?_) fun failure benign =>
    ended_failure benign (Or.inl rfl))
  apply keeps_committed rfl ServiceReply.transfer
  intro unit
  refine Keeps.bind (Keeps.lock rfl rfl rfl (fun failure benign => ⟨Or.inr rfl, rfl, benign⟩)
    fun rows ids => ?_)
  have stuck : ∀ failure : Failure LedgerError, failure.isBreach = false →
      Fails unit failure ⟨.working, unit, .empty, rows, UnitOfWork.locking order.ids⟩ :=
    fun failure benign => ⟨Or.inl rfl, rfl, benign⟩
  have locked : ∀ {account : Uuid} {row : Account},
      rows.find? (fun row => row.id == account) = some row → row.id ∈ order.ids := by
    intro account row found
    rw [← ids]
    exact List.mem_map_of_mem (List.mem_of_find?_eq_some found)
  refine Keeps.bind (takeRow_keeps stuck fun paying foundPaying => ?_)
  refine Keeps.bind (takeRow_keeps stuck fun paid foundPaid => ?_)
  refine Keeps.bind (Keeps.ofOutcome (fun _ checked => ?_) stuck)
  have moved : KeepsSides (.transfer policy source target amount) (debitCredit unit amount)
      ⟨paying, paid⟩ ⟨.working, unit, .empty, rows, UnitOfWork.locking order.ids⟩
      (fun _ sides later => ∃ debited credited payingAfter paidAfter,
        paying.debit amount debited = .ok payingAfter ∧
        paid.credit amount credited = .ok paidAfter ∧
        sides = ⟨payingAfter.stored, paidAfter.stored⟩ ∧
        later = ⟨.working, unit, ⟨[], [debited, credited]⟩, rows,
          { UnitOfWork.locking order.ids with
            writes := [⟨payingAfter.revision, payingAfter⟩, ⟨paidAfter.revision, paidAfter⟩] }⟩)
      (Fails unit) :=
    debitCredit_keeps ⟨.working, unit, .empty, rows, UnitOfWork.locking order.ids⟩ amount rfl
      (locked foundPaying) (locked foundPaid) rfl
      (fun failure later working mine benign => ⟨Or.inl working, mine, benign⟩)
      fun debited credited payingAfter paidAfter debit credit =>
        ⟨debited, credited, payingAfter, paidAfter, debit, credit, rfl, rfl⟩
  refine Keeps.bind ((keeps_lift _).mpr ?_)
  refine Program.Ensures.imp (Errand.rule_monotone _) ?_ moved
  rintro ⟨failure | _, sides⟩ later kept
  · exact kept
  obtain ⟨debited, credited, payingAfter, paidAfter, debit, credit, rfl, rfl⟩ := kept
  refine Keeps.bind (Keeps.pure ?_)
  refine Keeps.bind (Keeps.freshId (Or.inr rfl) fun transfer => ?_)
  refine Keeps.bind (Keeps.now (Or.inr rfl) fun happened => ?_)
  refine Keeps.bind (Keeps.recordEvent rfl fun entry staged => ?_)
  exact Keeps.pure ⟨rfl, rfl,
    .transferred (Outcome.ofExcept_eq_ok.mp paired) ids foundPaying foundPaid checked debit credit⟩

/-- Whatever a call is answered, it keeps to the discipline to its end. -/
theorem action_keeps (call : ServiceCall) :
    Keeps (Errand.rule call) call.action Errand.start (fun reply later => Ended (.ok reply) later)
      (fun failure later => Ended (.error failure) later) := by
  cases call with
  | openAccount policy owner currency overdraftLimit =>
    exact openAccount_keeps policy owner currency overdraftLimit
  | closeAccount policy account => exact changeAccount_keeps policy.lockTimeoutMs rfl rfl
  | deposit policy account amount => exact changeAccount_keeps policy.lockTimeoutMs rfl rfl
  | withdraw policy account amount => exact changeAccount_keeps policy.lockTimeoutMs rfl rfl
  | transfer policy source target amount => exact transfer_keeps policy source target amount

theorem program_ensures (call : ServiceCall) :
    call.program.Ensures (Errand.rule call) Errand.start Ended := by
  refine Program.Ensures.imp (Errand.rule_monotone call) ?_ (action_keeps call)
  rintro (failure | reply) later ended
  · exact ended
  · exact ended

end LedgerAction

end AccountLedger
