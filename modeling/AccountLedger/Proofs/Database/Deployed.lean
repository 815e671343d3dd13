import AccountLedger.Proofs.Database.Preparing
import AccountLedger.Proofs.Ledger.Discipline

/-!
Actions of the ledger over a database, whatever the server answers: what each leaves exchanged when
it succeeds and when it fails, and how a unit of work ends.
-/

namespace AccountLedger

open Program (SettlesOn)

/-- What a service asks for is carried out over a database, and all that is exchanged for it is
recorded. -/
def deployedRule : RequestRule service (Transcript deployment × OpenUnits) :=
  recorded.threaded ServiceRequest.deployed

theorem deployedRule_monotone : deployedRule.Monotone :=
  RequestRule.threaded_monotone (RequestRule.recording_monotone _) _

theorem deployedRule_unit (request : UnitRequest) {known : Transcript deployment} {units : OpenUnits}
    {result : request.Answer → Transcript deployment × OpenUnits → Prop}
    (ensured : (request.inDatabase.run units).Ensures serverRule known fun given later =>
      result given.1 (later, given.2)) :
    deployedRule (.unit request) (known, units) result := by
  have sent : ((request.inDatabase.run units).translate DatabaseRequest.sent).Ensures recorded known
      fun given later => result given.1 (later, given.2) :=
    (Program.ensures_translate _ _ _ _).mpr ensured
  exact sent

theorem ensures_deployed {α : Type} {program : Program service α} {known : Transcript deployment}
    {units : OpenUnits} {result : α → Transcript deployment × OpenUnits → Prop}
    (ensured : program.Ensures deployedRule (known, units) result) :
    ((program.interpret ServiceRequest.deployed).run units).Ensures recorded known
      fun given later => result given.1 (later, given.2) := by
  rw [Program.ensures_interpret]
  exact ensured

namespace Exchange

variable {exchange : Exchange deployment}

theorem untold_of_isDraw (draw : exchange.isDraw = true) :
    exchange.isCommit = false ∧ exchange.dispatched? = none := by
  obtain ⟨request, answer⟩ := exchange
  rcases request with request | request
  · cases draw
  · cases request with
    | dispatch entry => cases draw
    | _ => exact ⟨rfl, rfl⟩

theorem prepares_of_isDraw (draw : exchange.isDraw = true) (unit : UnitId) :
    exchange.Prepares unit := by
  obtain ⟨request, answer⟩ := exchange
  rcases request with request | request
  · cases draw
  · cases request with
    | dispatch entry => cases draw
    | _ => trivial

theorem begins_of_isDraw (draw : exchange.isDraw = true) (unit : UnitId) :
    exchange.request ≠ .database (.begin unit) := by
  obtain ⟨request, answer⟩ := exchange
  rintro rfl
  cases draw

theorem after_of_isDraw (draw : exchange.isDraw = true) (preparation : Preparation) :
    preparation.after exchange = preparation := by
  obtain ⟨request, answer⟩ := exchange
  rcases request with request | request
  · cases draw
  · rfl

end Exchange

/-- Only the clock was read and ids were drawn. -/
structure Idle (known : Transcript deployment) : Prop where
  draws : ∀ exchange ∈ known, exchange.isDraw = true
  nothing : preparation known = .none

section

variable {unit : UnitId} {now : Preparation} {known : Transcript deployment} {units : OpenUnits}
  {call : ServiceCall}

theorem Idle.drawn (idle : Idle known) {exchange : Exchange deployment}
    (draw : exchange.isDraw = true) : Idle (known ++ [exchange]) := by
  refine ⟨fun other member => ?_, ?_⟩
  · rcases List.mem_append.mp member with member | member
    · exact idle.draws other member
    · rw [List.mem_singleton.mp member]
      exact draw
  · rw [preparation_concat, Exchange.after_of_isDraw draw, idle.nothing]

theorem Idle.concluded (idle : Idle known) (failure : Failure LedgerError) :
    call.Concluded (.error failure) known := by
  refine .givenUp failure (fun exchange member => ?_) fun exchange member unit begins => ?_
  · exact Exchange.untold_of_isDraw (idle.draws exchange member)
  · exact absurd begins (Exchange.begins_of_isDraw (idle.draws exchange member) unit)

/-- A transaction that something failed in is rolled back, and that is the end of it. -/
theorem Failing.concluded (failing : Failing unit known) (failure : Failure LedgerError) :
    call.Concluded (.error failure) (known ++ [⟨.database (.rollback unit), ()⟩]) := by
  refine .givenUp failure (fun exchange member => ?_) fun exchange member other begins => ?_
  · rcases List.mem_append.mp member with member | member
    · exact failing.untold exchange member
    · rw [List.mem_singleton.mp member]
      exact ⟨rfl, rfl⟩
  · rcases List.mem_append.mp member with member | member
    · rw [failing.own exchange member other begins]
      exact List.mem_append_right _ (List.mem_singleton.mpr rfl)
    · rw [List.mem_singleton.mp member] at begins
      cases begins

theorem Preparing.drawn (preparing : Preparing unit now known units)
    {exchange : Exchange deployment} (draw : exchange.isDraw = true) :
    Preparing unit now (known ++ [exchange]) units :=
  preparing.after (Exchange.prepares_of_isDraw draw unit) (Exchange.after_of_isDraw draw now)
    preparing.held

end

namespace LedgerAction

variable {unit : UnitId} {prior : Preparation} {known : Transcript deployment} {units : OpenUnits}
  {α : Type}

theorem Keeps.weaken {action : LedgerAction α} {state : Transcript deployment × OpenUnits}
    {strongOk weakOk : α → Transcript deployment × OpenUnits → Prop}
    {strongFailed weakFailed : Failure LedgerError → Transcript deployment × OpenUnits → Prop}
    (keeps : Keeps deployedRule action state strongOk strongFailed)
    (value : ∀ value later, strongOk value later → weakOk value later)
    (failure : ∀ failure later, strongFailed failure later → weakFailed failure later) :
    Keeps deployedRule action state weakOk weakFailed :=
  keeps_imp deployedRule_monotone keeps value failure

/-- How an action in an open transaction may fail. -/
abbrev FailsIn (unit : UnitId) (_ : Failure LedgerError)
    (state : Transcript deployment × OpenUnits) : Prop := Failing unit state.1

section

variable {failed : Failure LedgerError → Transcript deployment × OpenUnits → Prop}

theorem freshId_deployed {ok : Uuid → Transcript deployment × OpenUnits → Prop}
    (drawn : ∀ id, ok id (known ++ [⟨.host .freshId, id⟩], units)) :
    Keeps deployedRule freshId (known, units) ok failed :=
  (keeps_lift _).mpr ⟨trivial, drawn⟩

theorem now_deployed {ok : Timestamp → Transcript deployment × OpenUnits → Prop}
    (told : ∀ time, ok time (known ++ [⟨.host .now, time⟩], units)) :
    Keeps deployedRule now (known, units) ok failed :=
  (keeps_lift _).mpr ⟨trivial, told⟩

end

/-- A request that a step of a unit of work carries out over the server. -/
theorem ofAnswer_deployed {program : Program service (Except LedgerError α)} {action : UnitAction α}
    {ok : α → Transcript deployment × OpenUnits → Prop}
    {failed : Failure LedgerError → Transcript deployment × OpenUnits → Prop}
    (carried : ∀ result : Except LedgerError α → Transcript deployment × OpenUnits → Prop,
      ((action.run.run units).Ensures serverRule known fun given later =>
        result given.1 (later, given.2)) →
      program.Ensures deployedRule (known, units) result)
    (settles : SettlesOn serverRule action units known
      (fun value later transcript => ok value (transcript, later))
      fun error later transcript => failed (.error error) (transcript, later)) :
    Keeps deployedRule (ofAnswer program) (known, units) ok failed := by
  rw [keeps_ofAnswer]
  refine carried _ (Program.Ensures.imp serverRule_monotone ?_ settles)
  rintro ⟨error | value, later⟩ transcript settled
  · exact settled
  · exact settled

theorem lock_deployed (order : LockOrder) (timeoutMs : Nat)
    (preparing : Preparing unit prior known units) :
    Keeps deployedRule (lock unit order timeoutMs) (known, units)
      (fun _ later =>
        Preparing unit { prior with locked := prior.locked ++ order.ids } later.1 later.2)
      (FailsIn unit) :=
  ofAnswer_deployed (fun _ => deployedRule_unit (.lock unit order timeoutMs))
    (UnitAction.lockDatabaseRows_prepares order timeoutMs preparing)

theorem insert_deployed (account : Account) (preparing : Preparing unit prior known units) :
    Keeps deployedRule (insert unit account) (known, units)
      (fun _ later =>
        Preparing unit { prior with inserted := prior.inserted ++ [account.id] } later.1 later.2)
      (FailsIn unit) :=
  ofAnswer_deployed (fun _ => deployedRule_unit (.insert unit account))
    (UnitAction.insertRow_prepares account preparing)

theorem save_deployed (account : Account) (preparing : Preparing unit prior known units) :
    Keeps deployedRule (save unit account) (known, units)
      (fun stored later => stored = account.stored ∧
        Preparing unit { prior with updated := prior.updated ++ [account.id] } later.1 later.2 ∧
        (account.id ∈ prior.locked ∨ account.id ∈ prior.inserted))
      (FailsIn unit) :=
  (keeps_bind _ _).mpr (ofAnswer_deployed (fun _ => deployedRule_unit (.save unit account))
    (SettlesOn.imp serverRule_monotone (UnitAction.saveRow_prepares account preparing)
      (fun _ _ _ saved => ⟨rfl, saved⟩) fun _ _ _ failing => failing))

theorem recordEvent_deployed (event : LedgerEvent) (preparing : Preparing unit prior known units) :
    Keeps deployedRule (recordEvent unit event) (known, units)
      (fun entry later =>
        Preparing unit { prior with staged := prior.staged ++ [entry] } later.1 later.2)
      (FailsIn unit) := by
  refine (keeps_bind _ _).mpr (freshId_deployed fun id => ?_)
  refine (keeps_bind _ _).mpr (now_deployed fun time => ?_)
  have drawn : Preparing unit prior
      (known ++ [⟨.host .freshId, id⟩] ++ [⟨.host .now, time⟩]) units :=
    (preparing.drawn rfl).drawn rfl
  exact (keeps_bind _ _).mpr (ofAnswer_deployed
    (fun _ => deployedRule_unit (.stage unit (OutboxEntry.ofEvent id event time)))
    (UnitAction.insertEntry_prepares (OutboxEntry.ofEvent id event time) drawn))

/-- An outcome of the domain changes nothing. -/
theorem ofOutcome_deployed {outcome : Outcome Refusal α} {state : Transcript deployment × OpenUnits}
    {ok : α → Transcript deployment × OpenUnits → Prop}
    {failed : Failure LedgerError → Transcript deployment × OpenUnits → Prop}
    (value : ∀ value, outcome = .ok value → ok value state)
    (failure : ∀ failure, failed failure state) :
    Keeps deployedRule (ofOutcome outcome) state ok failed := by
  rcases outcome with (refusal | overflow) | result
  · exact failure (.error (.refused refusal))
  · exact failure (.overflow overflow)
  · exact value result rfl

/-- An action between changes of the two sides of a transfer. -/
theorem side_deployed {action : LedgerAction α} {sides : TransferSides}
    {state : Transcript deployment × OpenUnits}
    {ok : α → TransferSides → Transcript deployment × OpenUnits → Prop}
    {failed : Failure LedgerError → TransferSides → Transcript deployment × OpenUnits → Prop}
    (kept : Keeps deployedRule action state (fun value later => ok value sides later)
      fun failure later => failed failure sides later) :
    SettlesOn deployedRule (ExceptT.mk (StateT.lift action.run)) sides state ok failed :=
  keeps_side deployedRule_monotone kept

variable {call : ServiceCall}

theorem start_deployed (idle : Idle known) (fresh : units.get ⟨units.next⟩ = ⟨HeldLocks.none, none⟩)
    {ok : UnitId → Transcript deployment × OpenUnits → Prop}
    (begun : ∀ unit known units, Preparing unit .none known units → ok unit (known, units)) :
    Keeps deployedRule (ofAnswer UnitRequest.start.perform) (known, units) ok
      fun failure later => call.Concluded (.error failure) later.1 := by
  refine (keeps_ofAnswer _).mpr (deployedRule_unit .start ⟨trivial, fun answer => ?_⟩)
  rcases answer with error | opened
  · refine ⟨trivial, fun _ => ?_⟩
    refine Failing.concluded ⟨fun exchange member => ?_, fun exchange member other begins => ?_⟩ _
    · rcases List.mem_append.mp member with member | member
      · exact Exchange.untold_of_isDraw (idle.draws exchange member)
      · rw [List.mem_singleton.mp member]
        exact ⟨rfl, rfl⟩
    · rcases List.mem_append.mp member with member | member
      · exact absurd begins (Exchange.begins_of_isDraw (idle.draws exchange member) other)
      · rw [List.mem_singleton.mp member] at begins
        cases begins
        rfl
  · refine begun ⟨units.next⟩ _ _ ⟨fun exchange member => ?_, ?_, fun id member => ?_⟩
    · rcases List.mem_append.mp member with member | member
      · exact Exchange.prepares_of_isDraw (idle.draws exchange member) _
      · rw [List.mem_singleton.mp member]
        exact ⟨rfl, rfl⟩
    · rw [preparation_concat, idle.nothing]
      rfl
    · have nothing : (units.get ⟨units.next⟩).held.ids = [] := by rw [fresh]; rfl
      have inside : id ∈ (units.get ⟨units.next⟩).held.ids := member
      rw [nothing] at inside
      cases inside

/-- The transaction is committed, and its entry has still to be handed on. -/
def Stored (call : ServiceCall) (entry : OutboxEntry) (known : Transcript deployment) : Prop :=
  ∃ before unit, known = before ++ [⟨.database (.commit unit), Except.ok ()⟩] ∧
    (∀ exchange ∈ before, exchange.Prepares unit) ∧ call.Prepared entry (preparation before)

theorem commit_deployed {entry : OutboxEntry} (preparing : Preparing unit prior known units)
    (prepared : call.Prepared entry prior) :
    Keeps deployedRule (ofAnswer (UnitRequest.commit unit).perform) (known, units)
      (fun _ later => Stored call entry later.1)
      fun failure later => call.Concluded (.error failure) later.1 := by
  rw [← preparing.now_eq] at prepared
  refine (keeps_ofAnswer _).mpr (deployedRule_unit (.commit unit) ⟨trivial, fun answer => ?_⟩)
  rcases answer with error | ⟨⟩
  · refine ⟨trivial, fun _ => ?_⟩
    have refused := ServiceCall.Concluded.refused error preparing.prepares prepared
    rw [List.append_cons] at refused
    exact refused
  · exact ⟨known, unit, rfl, preparing.prepares, prepared⟩

/-- Work that prepares what the call asks for is committed, or all of it is given up. -/
theorem committed_deployed {work : UnitId → LedgerAction (Committed α)}
    (idle : Idle known) (fresh : units.get ⟨units.next⟩ = ⟨HeldLocks.none, none⟩)
    (working : ∀ unit known units, Preparing unit .none known units →
      Keeps deployedRule (work unit) (known, units)
        (fun value later => ∃ now, Preparing unit now later.1 later.2 ∧
          call.Prepared value.entry now)
        (FailsIn unit)) :
    Keeps deployedRule (committed work) (known, units)
      (fun value later => Stored call value.entry later.1)
      fun failure later => call.Concluded (.error failure) later.1 := by
  refine (keeps_bind _ _).mpr (start_deployed idle fresh fun unit known units preparing => ?_)
  refine (keeps_bind _ _).mpr ((keeps_orAbandon _ _).mpr
    (Keeps.weaken (working unit known units preparing) ?_ ?_))
  · rintro value ⟨known, units⟩ ⟨now, preparing, prepared⟩
    refine (keeps_bind _ _).mpr (Keeps.weaken (commit_deployed preparing prepared) ?_ ?_)
    · exact fun _ _ stored => stored
    · exact fun _ _ refused => refused
  · rintro failure ⟨known, units⟩ failing
    exact deployedRule_unit (.abandon unit) ⟨trivial, fun _ => failing.concluded failure⟩

/-- The entry is handed on once it is stored. -/
theorem publish_deployed (wrap : α → ServiceReply) {action : LedgerAction (Committed α)}
    {state : Transcript deployment × OpenUnits}
    (kept : Keeps deployedRule action state (fun value later => Stored call value.entry later.1)
      fun failure later => call.Concluded (.error failure) later.1) :
    Keeps deployedRule (wrap <$> LedgerPolicy.publish action) state
      (fun reply later => call.Concluded (.ok reply) later.1)
      fun failure later => call.Concluded (.error failure) later.1 := by
  rw [keeps_map]
  refine (keeps_bind _ _).mpr (Keeps.weaken kept ?_ fun _ _ concluded => concluded)
  rintro value ⟨known, units⟩ ⟨before, unit, rfl, prepares, prepared⟩
  refine (keeps_bind _ _).mpr ((keeps_lift _).mpr ⟨trivial, fun _ => ?_⟩)
  have stored := ServiceCall.Concluded.committed (wrap value.value) prepares prepared
  rw [List.append_cons] at stored
  exact stored

end LedgerAction

end AccountLedger
