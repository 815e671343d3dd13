import AccountLedger.Proofs.Database.Deployed

/-!
The commit discipline of calls over a database, whatever the server answers: a commit is sent once
at most, after everything before it has succeeded, and an event is handed on only after a commit
that succeeded.
-/

namespace AccountLedger

open Program (SettlesOn)

theorem LockOrder.nodup (order : LockOrder) : order.ids.Nodup := by
  refine List.Pairwise.imp ?_ order.ascending
  rintro a b below rfl
  exact Nat.lt_irrefl _ below

/-- The two accounts of a transfer are locked in one order or the other. -/
theorem LockOrder.pair_perm {source target : Uuid} {order : LockOrder}
    (paired : pair source target = .ok order) : order.ids.Perm [source, target] := by
  obtain ⟨differs, inside⟩ := pair_ok paired
  refine (List.perm_ext_iff_of_nodup order.nodup (by simpa using differs)).mpr fun id => ?_
  simpa using inside id

namespace LedgerAction

variable {unit : UnitId} {prior : Preparation} {known : Transcript deployment} {units : OpenUnits}
  {call : ServiceCall}

theorem openAccount_deployed (policy : LedgerPolicy) (owner : Uuid) (currency : String)
    (overdraftLimit : Option Decimal) (idle : Idle known)
    (fresh : units.get ⟨units.next⟩ = ⟨HeldLocks.none, none⟩) :
    Keeps deployedRule (ServiceCall.openAccount policy owner currency overdraftLimit).action
      (known, units)
      (fun reply later => (ServiceCall.openAccount policy owner currency overdraftLimit).Concluded
        (.ok reply) later.1)
      fun failure later => (ServiceCall.openAccount policy owner currency overdraftLimit).Concluded
        (.error failure) later.1 := by
  apply publish_deployed ServiceReply.account
  unfold openAccount
  split
  · exact (keeps_bind _ _).mpr (idle.concluded _)
  · refine (keeps_bind _ _).mpr (ofOutcome_deployed (fun code _ => ?_) idle.concluded)
    refine (keeps_bind _ _).mpr (now_deployed fun created => ?_)
    refine (keeps_bind _ _).mpr (freshId_deployed fun id => ?_)
    refine committed_deployed ((idle.drawn rfl).drawn rfl) fresh fun unit known units preparing => ?_
    refine (keeps_bind _ _).mpr (Keeps.weaken (insert_deployed _ preparing) ?_ fun _ _ fails => fails)
    rintro _ ⟨known, units⟩ inserted
    refine (keeps_bind _ _).mpr (Keeps.weaken (recordEvent_deployed _ inserted) ?_
      fun _ _ fails => fails)
    rintro entry ⟨known, units⟩ staged
    exact ⟨_, staged, List.Perm.refl _, rfl, rfl, rfl⟩

/-- The row that a call for one account changes. -/
theorem rows_of_one? {one : OneChange} (kind : call.one? = some one) :
    call.rows = [one.account] := by
  cases call with
  | openAccount policy owner currency overdraftLimit => cases kind
  | transfer policy source target amount => cases kind
  | _ =>
    cases kind
    rfl

theorem lockOne_deployed (account : Uuid) (timeoutMs : Nat)
    (preparing : Preparing unit prior known units) :
    Keeps deployedRule (lockOne unit account timeoutMs) (known, units)
      (fun _ later =>
        Preparing unit { prior with locked := prior.locked ++ [account] } later.1 later.2)
      (FailsIn unit) := by
  refine (keeps_bind _ _).mpr (Keeps.weaken (lock_deployed (.single account) timeoutMs preparing) ?_
    fun _ _ fails => fails)
  rintro rows ⟨known, units⟩ locked
  cases rows.getLast? with
  | none => exact locked.failing
  | some row => exact locked

/-- A change of one account, whatever it is. -/
theorem changeAccount_deployed {one : OneChange} (timeoutMs : Nat) (kind : call.one? = some one)
    (action : call.action = ServiceReply.account <$>
      LedgerPolicy.publish (changeAccount one.account timeoutMs one.change one.event))
    (idle : Idle known) (fresh : units.get ⟨units.next⟩ = ⟨HeldLocks.none, none⟩) :
    Keeps deployedRule call.action (known, units)
      (fun reply later => call.Concluded (.ok reply) later.1)
      fun failure later => call.Concluded (.error failure) later.1 := by
  rw [action]
  apply publish_deployed ServiceReply.account
  refine committed_deployed idle fresh fun unit known units preparing => ?_
  refine (keeps_bind _ _).mpr (Keeps.weaken (lockOne_deployed one.account timeoutMs preparing) ?_
    fun _ _ fails => fails)
  rintro row ⟨known, units⟩ locked
  refine (keeps_bind _ _).mpr (now_deployed fun changed => ?_)
  have told : Preparing unit ⟨[one.account], [], [], []⟩ (known ++ [⟨.host .now, changed⟩]) units :=
    locked.drawn rfl
  refine (keeps_bind _ _).mpr (ofOutcome_deployed (fun after _ => ?_) fun _ => told.failing)
  refine (keeps_bind _ _).mpr (Keeps.weaken (save_deployed after told) ?_ fun _ _ fails => fails)
  rintro stored ⟨known, units⟩ ⟨-, saved, held⟩
  have own : after.id = one.account := by simpa using held
  refine (keeps_bind _ _).mpr (now_deployed fun happened => ?_)
  have dated : Preparing unit ⟨[one.account], [after.id], [], []⟩
      (known ++ [⟨.host .now, happened⟩]) units := saved.drawn rfl
  refine (keeps_bind _ _).mpr (Keeps.weaken (recordEvent_deployed _ dated) ?_ fun _ _ fails => fails)
  rintro entry ⟨known, units⟩ staged
  have rows := rows_of_one? kind
  refine ⟨_, staged, ?_, ?_, ?_, rfl⟩
  · rw [rows]
  · rw [rows, own]
  · rw [rows]
    rfl

/-! ## Transfers -/

theorem debitCredit_deployed (amount : Amount) (sides : TransferSides)
    (preparing : Preparing unit prior known units) :
    SettlesOn deployedRule (debitCredit unit amount) sides (known, units)
      (fun _ _ later => Preparing unit
        { prior with updated := prior.updated ++ [sides.source.id, sides.target.id] }
        later.1 later.2)
      fun failure _ later => FailsIn unit failure later := by
  unfold debitCredit
  refine SettlesOn.bind (SettlesOn.get ?_)
  split
  · exact SettlesOn.bind (side_deployed preparing.failing)
  refine SettlesOn.bind (side_deployed (ofOutcome_deployed (fun _ _ => ?_)
    fun _ => preparing.failing))
  refine SettlesOn.bind (side_deployed ((keeps_bind _ _).mpr (now_deployed fun debited => ?_)))
  have dated : Preparing unit prior (known ++ [⟨.host .now, debited⟩]) units := preparing.drawn rfl
  refine ofOutcome_deployed (fun paying paid => ?_) fun _ => dated.failing
  refine SettlesOn.bind (SettlesOn.set ?_)
  refine SettlesOn.bind (side_deployed ((keeps_bind _ _).mpr (now_deployed fun credited => ?_)))
  have told : Preparing unit prior
      (known ++ [⟨.host .now, debited⟩] ++ [⟨.host .now, credited⟩]) units := dated.drawn rfl
  refine ofOutcome_deployed (fun receiving received => ?_) fun _ => told.failing
  refine SettlesOn.bind (SettlesOn.set ?_)
  refine SettlesOn.bind (side_deployed (Keeps.weaken (save_deployed paying told) ?_
    fun _ _ fails => fails))
  rintro stored ⟨known, units⟩ ⟨-, written, -⟩
  refine SettlesOn.bind (SettlesOn.set ?_)
  refine SettlesOn.bind (side_deployed (Keeps.weaken (save_deployed receiving written) ?_
    fun _ _ fails => fails))
  rintro stored ⟨known, units⟩ ⟨-, both, -⟩
  refine SettlesOn.set ?_
  have source : paying.id = sides.source.id := (Account.debit_moved paid).terms.id
  have target : receiving.id = sides.target.id := (Account.credit_moved received).terms.id
  simpa [source, target] using both

/-- A row of the account that is asked for. -/
theorem takeRow_deployed {rows : List Account} {account : Uuid}
    {state : Transcript deployment × OpenUnits}
    {ok : Account → Transcript deployment × OpenUnits → Prop}
    {failed : Failure LedgerError → Transcript deployment × OpenUnits → Prop}
    (taken : ∀ row : Account, row.id = account → ok row state)
    (failure : ∀ failure, failed failure state) :
    Keeps deployedRule (takeRow rows account) state ok failed := by
  unfold takeRow
  split
  · next row found => exact taken row (by simpa using List.find?_some found)
  · exact failure (.error (.notFound account))

theorem transfer_deployed (policy : LedgerPolicy) (source target : Uuid) (amount : Amount)
    (idle : Idle known) (fresh : units.get ⟨units.next⟩ = ⟨HeldLocks.none, none⟩) :
    Keeps deployedRule (ServiceCall.transfer policy source target amount).action (known, units)
      (fun reply later => (ServiceCall.transfer policy source target amount).Concluded (.ok reply)
        later.1)
      fun failure later => (ServiceCall.transfer policy source target amount).Concluded
        (.error failure) later.1 := by
  apply publish_deployed ServiceReply.transfer
  refine (keeps_bind _ _).mpr (ofOutcome_deployed (fun order paired => ?_) idle.concluded)
  refine committed_deployed idle fresh fun unit known units preparing => ?_
  refine (keeps_bind _ _).mpr (Keeps.weaken (lock_deployed order policy.lockTimeoutMs preparing) ?_
    fun _ _ fails => fails)
  rintro rows ⟨known, units⟩ locked
  refine (keeps_bind _ _).mpr (takeRow_deployed (fun paying isSource => ?_) fun _ => locked.failing)
  refine (keeps_bind _ _).mpr (takeRow_deployed (fun paid isTarget => ?_) fun _ => locked.failing)
  refine (keeps_bind _ _).mpr (ofOutcome_deployed (fun _ _ => ?_) fun _ => locked.failing)
  refine (keeps_bind _ _).mpr ((keeps_lift _).mpr ?_)
  refine Program.Ensures.imp deployedRule_monotone ?_
    (debitCredit_deployed amount ⟨paying, paid⟩ locked)
  rintro ⟨failure | _, sides⟩ ⟨known, units⟩ settled
  · exact settled
  have moved : Preparing unit ⟨order.ids, [paying.id, paid.id], [], []⟩ known units := settled
  refine (keeps_bind _ _).mpr ?_
  refine (keeps_bind _ _).mpr (freshId_deployed fun transfer => ?_)
  refine (keeps_bind _ _).mpr (now_deployed fun happened => ?_)
  have dated : Preparing unit ⟨order.ids, [paying.id, paid.id], [], []⟩
      (known ++ [⟨.host .freshId, transfer⟩] ++ [⟨.host .now, happened⟩]) units :=
    (moved.drawn rfl).drawn rfl
  refine (keeps_bind _ _).mpr (Keeps.weaken (recordEvent_deployed _ dated) ?_ fun _ _ fails => fails)
  rintro entry ⟨known, units⟩ staged
  refine ⟨_, staged, ?_, ?_, rfl, rfl⟩
  · exact LockOrder.pair_perm (Outcome.ofExcept_eq_ok.mp paired)
  · rw [isSource, isTarget]
    rfl

theorem action_deployed (call : ServiceCall) (idle : Idle known)
    (fresh : units.get ⟨units.next⟩ = ⟨HeldLocks.none, none⟩) :
    Keeps deployedRule call.action (known, units)
      (fun reply later => call.Concluded (.ok reply) later.1)
      fun failure later => call.Concluded (.error failure) later.1 := by
  cases call with
  | openAccount policy owner currency overdraftLimit =>
    exact openAccount_deployed policy owner currency overdraftLimit idle fresh
  | closeAccount policy account =>
    exact changeAccount_deployed policy.lockTimeoutMs rfl rfl idle fresh
  | deposit policy account amount =>
    exact changeAccount_deployed policy.lockTimeoutMs rfl rfl idle fresh
  | withdraw policy account amount =>
    exact changeAccount_deployed policy.lockTimeoutMs rfl rfl idle fresh
  | transfer policy source target amount =>
    exact transfer_deployed policy source target amount idle fresh

end LedgerAction

/-! ## The three ways to end -/

/-- Where there is one commit, every split at a commit is the split there. -/
theorem split_commit {before earlier after later : Transcript deployment}
    {commit only : Exchange deployment} (commits : commit.isCommit = true)
    (noneEarlier : ∀ exchange ∈ earlier, exchange.isCommit = false)
    (noneLater : ∀ exchange ∈ later, exchange.isCommit = false)
    (split : earlier ++ only :: later = before ++ commit :: after) :
    before = earlier ∧ commit = only ∧ after = later := by
  rcases List.append_eq_append_iff.mp split with ⟨rest, rfl, same⟩ | ⟨rest, rfl, same⟩
  · cases rest with
    | nil =>
      obtain ⟨rfl, rfl⟩ := List.cons.inj same
      exact ⟨List.append_nil _, rfl, rfl⟩
    | cons first rest =>
      obtain ⟨rfl, rfl⟩ := List.cons.inj same
      rw [noneLater commit (List.mem_append_right _ List.mem_cons_self)] at commits
      cases commits
  · cases rest with
    | nil =>
      obtain ⟨rfl, rfl⟩ := List.cons.inj same
      exact ⟨(List.append_nil _).symm, rfl, rfl⟩
    | cons first rest =>
      obtain ⟨own, -⟩ := List.cons.inj same
      rw [own, noneEarlier first (List.mem_append_right _ List.mem_cons_self)] at commits
      cases commits

section

variable {before : Transcript deployment} {unit : UnitId}

theorem filter_isCommit (prepares : ∀ exchange ∈ before, exchange.Prepares unit) :
    before.filter Exchange.isCommit = [] :=
  List.filter_eq_nil_iff.mpr fun exchange member => by
    simp [(prepares exchange member).untold.1.1]

theorem dispatched_eq_nil (prepares : ∀ exchange ∈ before, exchange.Prepares unit) :
    dispatched before = [] :=
  List.filterMap_eq_nil_iff.mpr fun exchange member => (prepares exchange member).untold.1.2

end

/-- How a call ends once the commit is answered: its entry is handed over, or what was left of the
transaction is rolled back. -/
def EndsAfterCommit (unit : UnitId) (entry : OutboxEntry) :
    (answer : Except DatabaseError Unit) → (after : Transcript deployment) →
      Outcome LedgerError ServiceReply → Prop
  | .ok _, after, outcome =>
    after = [⟨.host (.dispatch entry), ()⟩] ∧ ∃ reply, outcome = .ok reply
  | .error error, after, outcome =>
    after = [⟨.database (.rollback unit), ()⟩] ∧ outcome = .error (.error (.database error))

namespace ServiceCall

variable {call : ServiceCall} {transcript : Transcript deployment}
  {outcome : Outcome LedgerError ServiceReply}

namespace Concluded

theorem one_commit (concluded : call.Concluded outcome transcript) :
    (transcript.filter Exchange.isCommit).length ≤ 1 := by
  cases concluded with
  | committed reply prepares prepared =>
    rw [List.filter_append, filter_isCommit prepares]
    exact Nat.le_refl 1
  | refused error prepares prepared =>
    rw [List.filter_append, filter_isCommit prepares]
    exact Nat.le_refl 1
  | givenUp failure untold rolledBack =>
    rw [List.filter_eq_nil_iff.mpr fun exchange member => by simp [(untold exchange member).1]]
    exact Nat.zero_le 1

/-- What comes before a commit and after it. -/
theorem at_commit (concluded : call.Concluded outcome transcript)
    {before after : Transcript deployment} {unit : UnitId} {answer : Except DatabaseError Unit}
    (split : transcript = before ++ ⟨.database (.commit unit), answer⟩ :: after) :
    (∀ exchange ∈ before, exchange.Prepares unit) ∧
      ∃ entry, call.Prepared entry (preparation before) ∧
        EndsAfterCommit unit entry answer after outcome := by
  cases concluded with
  | @committed earlier own entry reply prepares prepared =>
    have alone : ∀ exchange ∈ earlier, exchange.isCommit = false := fun exchange member =>
      (prepares exchange member).untold.1.1
    obtain ⟨rfl, same, rfl⟩ := split_commit rfl alone (by simp [Exchange.isCommit]) split
    cases same
    exact ⟨prepares, entry, prepared, rfl, reply, rfl⟩
  | @refused earlier own entry error prepares prepared =>
    have alone : ∀ exchange ∈ earlier, exchange.isCommit = false := fun exchange member =>
      (prepares exchange member).untold.1.1
    obtain ⟨rfl, same, rfl⟩ := split_commit rfl alone (by simp [Exchange.isCommit]) split
    cases same
    exact ⟨prepares, entry, prepared, rfl, rfl⟩
  | givenUp failure untold rolledBack =>
    subst split
    cases (untold _ (List.mem_append_right _ List.mem_cons_self)).1

theorem ok_iff (concluded : call.Concluded outcome transcript) :
    (∃ reply, outcome = .ok reply) ↔
      ∃ unit, ⟨.database (.commit unit), Except.ok ()⟩ ∈ transcript := by
  cases concluded with
  | @committed before unit entry reply prepares prepared =>
    exact ⟨fun _ => ⟨unit, by simp⟩, fun _ => ⟨reply, rfl⟩⟩
  | @refused before unit entry error prepares prepared =>
    refine ⟨fun ⟨_, same⟩ => (nomatch same), fun ⟨own, member⟩ => ?_⟩
    rcases List.mem_append.mp member with member | member
    · exact absurd (prepares _ member) id
    · rcases List.mem_pair.mp member with same | same <;> cases same
  | givenUp failure untold rolledBack =>
    exact ⟨fun ⟨_, same⟩ => (nomatch same), fun ⟨_, member⟩ => nomatch (untold _ member).1⟩

/-- A failure is not told of, and comes without a commit or with that of the commit itself. -/
theorem failed {failure : Failure LedgerError}
    (concluded : call.Concluded (.error failure) transcript) :
    dispatched transcript = [] ∧
      ((∀ exchange ∈ transcript, exchange.isCommit = false) ∨
        ∃ unit error, ⟨.database (.commit unit), Except.error error⟩ ∈ transcript ∧
          failure = .error (.database error)) ∧
      ∀ exchange ∈ transcript, ∀ unit, exchange.request = .database (.begin unit) →
        ⟨.database (.rollback unit), ()⟩ ∈ transcript := by
  cases concluded with
  | @refused before unit entry error prepares prepared =>
    refine ⟨?_, Or.inr ⟨unit, error, by simp, rfl⟩, fun exchange member own begins => ?_⟩
    · rw [dispatched, List.filterMap_append]
      exact List.append_eq_nil_iff.mpr ⟨dispatched_eq_nil prepares, rfl⟩
    · rcases List.mem_append.mp member with member | member
      · rw [(prepares exchange member).untold.2 own begins]
        simp
      · rcases List.mem_pair.mp member with rfl | rfl <;> cases begins
  | givenUp failure untold rolledBack =>
    refine ⟨?_, Or.inl fun exchange member => (untold exchange member).1, rolledBack⟩
    exact List.filterMap_eq_nil_iff.mpr fun exchange member => (untold exchange member).2

end Concluded

variable {units later : OpenUnits}

/-- Whatever the server answers, a call ends in one of the three ways. -/
theorem concluded (fresh : units.get ⟨units.next⟩ = ⟨HeldLocks.none, none⟩)
    (ran : (call.deployed units).Runs transcript (outcome, later)) :
    call.Concluded outcome transcript := by
  have idle : Idle [] := ⟨fun _ member => (nomatch member), rfl⟩
  have ensured : call.program.Ensures deployedRule ([], units)
      fun outcome later => call.Concluded outcome later.1 := by
    refine Program.Ensures.imp deployedRule_monotone ?_
      (LedgerAction.action_deployed call idle fresh)
    rintro (failure | reply) later concluded
    · exact concluded
    · exact concluded
  exact (ran.recorded (ensures_deployed ensured)).1

/-- A commit is sent once at most. Everything before it succeeded and prepared it, and nothing
comes after it but the hand-over of its entry, or the rollback if it failed. The call succeeds if and
only if its commit does; in every other case nothing is handed over, and there was no commit unless
it is what failed. -/
theorem commit_discipline (fresh : units.get ⟨units.next⟩ = ⟨HeldLocks.none, none⟩)
    (ran : (call.deployed units).Runs transcript (outcome, later)) :
    (transcript.filter Exchange.isCommit).length ≤ 1 ∧
    (∀ (before after : Transcript deployment) (unit : UnitId) (answer : Except DatabaseError Unit),
      transcript = before ++ ⟨.database (.commit unit), answer⟩ :: after →
      (∀ exchange ∈ before, exchange.Prepares unit) ∧
      ∃ entry, call.Prepared entry (preparation before) ∧
        EndsAfterCommit unit entry answer after outcome) ∧
    ((∃ reply, outcome = .ok reply) ↔
      ∃ unit, ⟨.database (.commit unit), Except.ok ()⟩ ∈ transcript) ∧
    ∀ failure, outcome = .error failure →
      dispatched transcript = [] ∧
      ((∀ exchange ∈ transcript, exchange.isCommit = false) ∨
        ∃ unit error, ⟨.database (.commit unit), Except.error error⟩ ∈ transcript ∧
          failure = .error (.database error)) ∧
      ∀ exchange ∈ transcript, ∀ unit, exchange.request = .database (.begin unit) →
        ⟨.database (.rollback unit), ()⟩ ∈ transcript := by
  have concluded := concluded fresh ran
  refine ⟨concluded.one_commit, fun before after unit answer split => concluded.at_commit split,
    concluded.ok_iff, ?_⟩
  rintro failure rfl
  exact concluded.failed

/-- The row of an account in dollars that nobody has changed yet. -/
def dollars (id : Uuid) (balance : Decimal) : Row :=
  [("status", .text "ACTIVE"), ("id", .uuid id), ("owner_id", .uuid .nil),
    ("balance", .numeric balance), ("currency", .text "USD"),
    ("overdraft_limit", .numeric .zero), ("revision", .integer 0),
    ("created_at", .time ⟨0, 0⟩), ("updated_at", .time ⟨0, 0⟩)]

def seven : Amount := ⟨⟨7, 0, by decide, Decimal.zero.scale_le⟩, by decide⟩

/-- Seven dollars are moved from the second account to the first, and every statement succeeds. The
rows are locked in the order of their ids, and updated in the order of the payment. -/
theorem transferred_disciplined : ∃ (transcript : Transcript deployment) (reply : ServiceReply)
    (later : OpenUnits),
    ((transfer ⟨500, .zero⟩ (.ofNat 2) (.ofNat 1) seven).deployed .none).Runs transcript
      (.ok reply, later) ∧
    (preparation transcript).locked = [.ofNat 1, .ofNat 2] ∧
    (preparation transcript).updated = [.ofNat 2, .ofNat 1] ∧
    (transcript.filter Exchange.isCommit).length ≤ 1 ∧
    ∃ unit before after entry,
      transcript = before ++ ⟨.database (.commit unit), Except.ok ()⟩ :: after ∧
      (transfer ⟨500, .zero⟩ (.ofNat 2) (.ofNat 1) seven).Prepared entry (preparation before) ∧
      EndsAfterCommit unit entry (.ok ()) after (.ok reply) := by
  have ran : ((transfer ⟨500, .zero⟩ (.ofNat 2) (.ofNat 1) seven).deployed .none).Runs
      [⟨.database (.begin ⟨0⟩), Except.ok ()⟩,
        ⟨.database (.run (some ⟨0⟩) (.setLockTimeout 500)), Except.ok ⟨[], 1⟩⟩,
        ⟨.database (.run (some ⟨0⟩) (.lockAccount (.ofNat 1))),
          Except.ok ⟨[dollars (.ofNat 1) .zero], 1⟩⟩,
        ⟨.database (.run (some ⟨0⟩) (.lockAccount (.ofNat 2))),
          Except.ok ⟨[dollars (.ofNat 2) seven.value], 1⟩⟩,
        ⟨.host .now, (⟨0, 0⟩ : Timestamp)⟩, ⟨.host .now, (⟨0, 0⟩ : Timestamp)⟩,
        ⟨.database (.run (some ⟨0⟩) (.updateAccount _)), Except.ok ⟨[], 1⟩⟩,
        ⟨.database (.run (some ⟨0⟩) (.updateAccount _)), Except.ok ⟨[], 1⟩⟩,
        ⟨.host .freshId, Uuid.ofNat 3⟩, ⟨.host .now, (⟨0, 0⟩ : Timestamp)⟩,
        ⟨.host .freshId, Uuid.ofNat 4⟩, ⟨.host .now, (⟨0, 0⟩ : Timestamp)⟩,
        ⟨.database (.run (some ⟨0⟩) (.insertEntry _)), Except.ok ⟨[], 1⟩⟩,
        ⟨.database (.commit ⟨0⟩), Except.ok ()⟩, ⟨.host (.dispatch _), ()⟩] (.ok _, _) :=
    .ask _ (.ask _ (.ask _ (.ask _ (.ask _ (.ask _ (.ask _ (.ask _ (.ask _ (.ask _ (.ask _ (.ask _
      (.ask _ (.ask _ (.ask _ (.done _)))))))))))))))
  obtain ⟨once, split, succeeds, _⟩ := commit_discipline rfl ran
  obtain ⟨unit, committed⟩ := succeeds.mp ⟨_, rfl⟩
  obtain ⟨before, after, same⟩ := List.append_of_mem committed
  obtain ⟨_, entry, prepared, ends⟩ := split before after _ _ same
  exact ⟨_, _, _, ran, rfl, rfl, once, unit, before, after, entry, same, prepared, ends⟩

end ServiceCall

end AccountLedger
