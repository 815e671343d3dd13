import AccountLedger.Proofs.Database.Deployment
import AccountLedger.Proofs.Database.Remembering

/-!
What the steps of a unit of work send to the server: after a step that succeeds the transaction is
prepared a little further, after one that fails it is still neither committed nor told of.
-/

namespace AccountLedger

open Program (SettlesOn)

/-- Everything is recorded, and every answer may come. -/
abbrev recorded : RequestRule deployment (Transcript deployment) :=
  RequestRule.recording fun _ _ => True

/-- What is sent to the server is recorded beside what the host is asked for. -/
def serverRule : RequestRule database (Transcript deployment) :=
  fun request => request.sent.Ensures recorded

theorem serverRule_monotone : serverRule.Monotone := fun _ _ _ _ weaker =>
  Program.Ensures.imp (RequestRule.recording_monotone _) weaker

/-- The transaction of the unit is open, all that was sent for it succeeded, and the unit holds
only rows that were locked or inserted for it. -/
structure Preparing (unit : UnitId) (now : Preparation) (known : Transcript deployment)
    (units : OpenUnits) : Prop where
  prepares : ∀ exchange ∈ known, exchange.Prepares unit
  now_eq : preparation known = now
  held : ∀ id ∈ (units.get unit).held.ids, id ∈ now.locked ∨ id ∈ now.inserted

/-- Something failed: the transaction is still open, but neither committed nor told of. -/
structure Failing (unit : UnitId) (known : Transcript deployment) : Prop where
  untold : ∀ exchange ∈ known, exchange.isCommit = false ∧ exchange.dispatched? = none
  own : ∀ exchange ∈ known, ∀ other, exchange.request = .database (.begin other) → other = unit

theorem Exchange.Prepares.untold {unit : UnitId} {exchange : Exchange deployment}
    (prepares : exchange.Prepares unit) :
    (exchange.isCommit = false ∧ exchange.dispatched? = none) ∧
      ∀ other, exchange.request = .database (.begin other) → other = unit := by
  obtain ⟨request, answer⟩ := exchange
  rcases request with request | request
  · cases request with
    | begin own =>
      refine ⟨⟨rfl, rfl⟩, fun other same => ?_⟩
      cases same
      exact prepares.1
    | commit own => exact prepares.elim
    | rollback own => exact prepares.elim
    | run own statement => exact ⟨⟨rfl, rfl⟩, fun other same => nomatch same⟩
  · cases request with
    | dispatch entry => exact prepares.elim
    | _ => exact ⟨⟨rfl, rfl⟩, fun other same => nomatch same⟩

section

variable {unit : UnitId} {now : Preparation} {known : Transcript deployment} {units : OpenUnits}

theorem Preparing.failing (preparing : Preparing unit now known units) : Failing unit known :=
  ⟨fun exchange member => (preparing.prepares exchange member).untold.1,
    fun exchange member => (preparing.prepares exchange member).untold.2⟩

/-- A statement in a failing transaction does not mend it. -/
theorem Failing.sent (failing : Failing unit known) {own : Option UnitId} {statement : Statement}
    (answer : Except DatabaseError StatementResult) :
    Failing unit (known ++ [⟨.database (.run own statement), answer⟩]) := by
  refine ⟨fun exchange member => ?_, fun exchange member other same => ?_⟩
  · rcases List.mem_append.mp member with member | member
    · exact failing.untold exchange member
    · rw [List.mem_singleton.mp member]
      exact ⟨rfl, rfl⟩
  · rcases List.mem_append.mp member with member | member
    · exact failing.own exchange member other same
    · rw [List.mem_singleton.mp member] at same
      cases same

theorem Preparing.after (preparing : Preparing unit now known units) {later : OpenUnits}
    {exchange : Exchange deployment} {next : Preparation} (prepares : exchange.Prepares unit)
    (same : now.after exchange = next)
    (held : ∀ id ∈ (later.get unit).held.ids, id ∈ next.locked ∨ id ∈ next.inserted) :
    Preparing unit next (known ++ [exchange]) later := by
  refine ⟨fun other member => ?_, ?_, held⟩
  · rcases List.mem_append.mp member with member | member
    · exact preparing.prepares other member
    · rw [List.mem_singleton.mp member]
      exact prepares
  · rw [preparation_concat, preparing.now_eq, same]

end

namespace UnitAction

variable {unit : UnitId} {units : OpenUnits} {known : Transcript deployment} {now : Preparation}

theorem sent_settles {statement : Statement} {wrap : DatabaseError → LedgerError}
    {failed : LedgerError → OpenUnits → Transcript deployment → Prop}
    {ok : StatementResult → OpenUnits → Transcript deployment → Prop}
    (sent : ∀ result, ok result units
      (known ++ [⟨.database (.run (some unit) statement), Except.ok result⟩]))
    (failure : ∀ error, failed (wrap error) units
      (known ++ [⟨.database (.run (some unit) statement), Except.error error⟩])) :
    SettlesOn serverRule (send unit statement wrap) units known ok failed := by
  refine SettlesOn.lift ⟨trivial, fun answer => ?_⟩
  rcases answer with error | result
  · exact failure error
  · exact sent result

/-- How a step may fail. -/
abbrev Fails (unit : UnitId) (_ : LedgerError) (_ : OpenUnits) (known : Transcript deployment) :
    Prop := Failing unit known

theorem setLockTimeout_prepares (timeoutMs : Nat) (preparing : Preparing unit now known units) :
    SettlesOn serverRule (setLockTimeout unit timeoutMs) units known
      (fun _ later known => Preparing unit now known later) (Fails unit) := by
  refine SettlesOn.bind (remembered_settles ?_)
  split
  · refine SettlesOn.bind (sent_settles (fun result => remember_settles ?_) fun error =>
      preparing.failing.sent _)
    refine preparing.after ⟨rfl, result, rfl⟩ rfl fun id => ?_
    rw [OpenUnits.get_set, if_pos rfl]
    exact preparing.held id
  · exact preparing

theorem lockRow_prepares (timeoutMs : Nat) (id : Uuid) (preparing : Preparing unit now known units) :
    SettlesOn serverRule (lockRow unit timeoutMs id) units known
      (fun _ later known =>
        Preparing unit { now with locked := now.locked ++ [id] } known later) (Fails unit) := by
  refine SettlesOn.bind (sent_settles (fun result => ?_) fun error => preparing.failing.sent _)
  have failing : Failing unit
      (known ++ [⟨.database (.run (some unit) (.lockAccount id)), Except.ok result⟩]) :=
    preparing.failing.sent _
  cases found : result.rows.head? with
  | none => exact SettlesOn.throw failing
  | some row =>
    have read : ∀ later : OpenUnits,
        (∀ other ∈ (later.get unit).held.ids,
          other ∈ (units.get unit).held.ids ∨ other = id) →
        SettlesOn serverRule (ExceptT.mk (pure (Account.ofRow row))) later
          (known ++ [⟨.database (.run (some unit) (.lockAccount id)), Except.ok result⟩])
          (fun _ later known =>
            Preparing unit { now with locked := now.locked ++ [id] } known later) (Fails unit) := by
      intro later held
      refine SettlesOn.ofExcept (fun account decoded => ?_) fun _ _ => failing
      refine preparing.after ⟨rfl, result, row, account, rfl, found, decoded⟩ rfl fun other member => ?_
      rcases held other member with already | rfl
      · exact (preparing.held other already).imp_left (List.mem_append_left _)
      · exact Or.inl (List.mem_append_right _ (List.mem_singleton.mpr rfl))
    refine SettlesOn.bind (remembered_settles ?_)
    split
    · refine SettlesOn.bind (SettlesOn.bind (remembered_settles (remember_settles ?_)))
      refine read _ fun other member => ?_
      rw [OpenUnits.get_set, if_pos rfl] at member
      simpa [HeldLocks.record] using member
    · exact read units fun other => Or.inl

theorem lockRows_prepares (timeoutMs : Nat) (ids : List Uuid)
    (preparing : Preparing unit now known units) :
    SettlesOn serverRule (ids.mapM (lockRow unit timeoutMs)) units known
      (fun _ later known =>
        Preparing unit { now with locked := now.locked ++ ids } known later) (Fails unit) := by
  induction ids generalizing units known now with
  | nil =>
    rw [List.append_nil]
    exact preparing
  | cons id rest ih =>
    rw [List.mapM_cons]
    refine SettlesOn.bind (SettlesOn.imp serverRule_monotone (lockRow_prepares timeoutMs id preparing)
      (fun _ later transcript locked => ?_) fun _ _ _ failing => failing)
    refine SettlesOn.bind (SettlesOn.imp serverRule_monotone (ih locked)
      (fun _ last transcript all => ?_) fun _ _ _ failing => failing)
    rw [List.append_assoc] at all
    exact all

theorem lockDatabaseRows_prepares (order : LockOrder) (timeoutMs : Nat)
    (preparing : Preparing unit now known units) :
    SettlesOn serverRule (lockDatabaseRows unit order timeoutMs) units known
      (fun _ later known =>
        Preparing unit { now with locked := now.locked ++ order.ids } known later) (Fails unit) := by
  refine SettlesOn.bind (remembered_settles ?_)
  refine SettlesOn.bind (SettlesOn.ofExcept (fun _ _ => ?_) fun _ _ => preparing.failing)
  refine SettlesOn.bind (SettlesOn.imp serverRule_monotone
    (setLockTimeout_prepares timeoutMs preparing) (fun _ later transcript timed => ?_)
    fun _ _ _ failing => failing)
  exact lockRows_prepares timeoutMs order.ids timed

theorem insertRow_prepares (account : Account) (preparing : Preparing unit now known units) :
    SettlesOn serverRule (insertRow unit account) units known
      (fun _ later known =>
        Preparing unit { now with inserted := now.inserted ++ [account.id] } known later)
      (Fails unit) := by
  refine SettlesOn.bind (sent_settles (fun result => ?_) fun error => preparing.failing.sent _)
  refine SettlesOn.bind (remembered_settles (remember_settles ?_))
  refine preparing.after ⟨rfl, result, rfl⟩ rfl fun id member => ?_
  rw [OpenUnits.get_set, if_pos rfl] at member
  rcases List.mem_append.mp member with already | new
  · exact (preparing.held id already).imp_right (List.mem_append_left _)
  · exact Or.inr (List.mem_append_right _ new)

/-- Only rows that are held are updated, and a row that is not found fails the step. -/
theorem saveRow_prepares (account : Account) (preparing : Preparing unit now known units) :
    SettlesOn serverRule (saveRow unit account) units known
      (fun _ later known =>
        Preparing unit { now with updated := now.updated ++ [account.id] } known later ∧
          (account.id ∈ now.locked ∨ account.id ∈ now.inserted))
      (Fails unit) := by
  refine SettlesOn.bind (remembered_settles ?_)
  by_cases held : (units.get unit).held.contains account.id = true
  · rw [if_neg (by simp [held])]
    refine SettlesOn.bind (sent_settles (fun result => ?_) fun error => preparing.failing.sent _)
    by_cases missed : result.affected = 0
    · rw [if_pos missed]
      refine SettlesOn.bind (sent_settles (fun found => ?_) fun error =>
        (preparing.failing.sent _).sent _)
      exact SettlesOn.bind (SettlesOn.ofExcept
        (fun _ _ => SettlesOn.throw ((preparing.failing.sent _).sent _))
        fun _ _ => (preparing.failing.sent _).sent _)
    · rw [if_neg missed]
      exact ⟨preparing.after ⟨rfl, result, rfl, Nat.pos_of_ne_zero missed⟩ rfl preparing.held,
        preparing.held _ (HeldLocks.contains_iff.mp held)⟩
  · rw [if_pos (by simp [held])]
    exact SettlesOn.bind (SettlesOn.throw preparing.failing)

theorem insertEntry_prepares (entry : OutboxEntry) (preparing : Preparing unit now known units) :
    SettlesOn serverRule (insertEntry unit entry) units known
      (fun _ later known =>
        Preparing unit { now with staged := now.staged ++ [entry] } known later) (Fails unit) := by
  refine SettlesOn.bind (sent_settles (fun result => ?_) fun error => preparing.failing.sent _)
  exact preparing.after ⟨rfl, result, rfl⟩ rfl preparing.held

end UnitAction

end AccountLedger
