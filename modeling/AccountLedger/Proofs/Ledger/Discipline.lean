import AccountLedger.Proofs.Ensures
import AccountLedger.Proofs.Ledger.Change

/-!
How a call of the ledger service goes about its unit of work: it locks once, before it writes,
writes only what it has locked, and commits only what its kind of change allows; if anything fails
before, it abandons the unit of work and replies with the failure.
-/

namespace AccountLedger

namespace LedgerError

/-- Errors that come of a broken discipline of locks, revisions and ids. -/
def isBreach : LedgerError → Bool
  | .concurrentModification .. => true
  | .lockOrderViolation .. => true
  | .notLocked _ => true
  | .corruptRow _ => true
  | _ => false

end LedgerError

def Failure.isBreach : Failure LedgerError → Bool
  | .error cause => cause.isBreach
  | .overflow _ => false

/-- How far a call has come: it has no unit of work yet, has one, has one on which something failed,
has abandoned it, has committed it and owes a reply, or was refused the commit. -/
inductive Phase where
  | outside
  | working
  | failing
  | abandoned
  | committed (reply : ServiceReply)
  | rejected (error : LedgerError)
  deriving DecidableEq

/-- What a call knows of itself. -/
structure Errand where
  phase : Phase
  unit : UnitId
  tape : Tape
  reads : List Account
  work : UnitOfWork

namespace Errand

def start : Errand := ⟨.outside, ⟨0⟩, .empty, [], .empty⟩

/-- Whether a call may still draw ids and read the clock. -/
def Draws (errand : Errand) : Prop := errand.phase = .outside ∨ errand.phase = .working

/-- Where a call may end, and with what. -/
def Ended (outcome : Outcome LedgerError ServiceReply) (errand : Errand) : Prop :=
  match errand.phase with
  | .committed reply => outcome = .ok reply
  | .rejected error => outcome = .error (.error error)
  | .outside | .abandoned => ∃ failure, outcome = .error failure ∧ failure.isBreach = false
  | .working | .failing => False

def hostRule : (request : HostRequest) → Errand → (request.Answer → Errand → Prop) → Prop
  | .freshId, errand, result =>
    errand.Draws ∧ ∀ id, result id { errand with tape := errand.tape.drawn id }
  | .now, errand, result =>
    errand.Draws ∧ ∀ time, result time { errand with tape := errand.tape.told time }
  | .dispatch _, errand, result => result () errand
  | _, _, _ => False

theorem hostRule_answer {request : HostRequest} {errand : Errand}
    {result : request.Answer → Errand → Prop} (permitted : hostRule request errand result)
    (answer : request.Answer) :
    result answer { errand with tape := errand.tape.after request answer } := by
  cases request with
  | freshId => exact permitted.2 answer
  | now => exact permitted.2 answer
  | dispatch entry => exact permitted
  | _ => exact permitted.elim

def unitRule (call : ServiceCall) : (request : UnitRequest) → Errand →
    (request.Answer → Errand → Prop) → Prop
  | .start, errand, result =>
    errand.phase = .outside ∧
      ∀ unit, result (.ok unit) ⟨.working, unit, errand.tape, [], UnitOfWork.empty⟩
  | .lock own order _, errand, result =>
    errand.phase = .working ∧ own = errand.unit ∧ errand.reads = [] ∧
      errand.work = UnitOfWork.empty ∧
      (∀ error, error.isBreach = false → result (.error error) { errand with phase := .failing }) ∧
      ∀ rows : List Account, rows.map (·.id) = order.ids →
        result (.ok rows) { errand with reads := rows, work := UnitOfWork.locking order.ids }
  | .insert own account, errand, result =>
    errand.phase = .working ∧ own = errand.unit ∧
      result (.ok ()) { errand with work := errand.work.insert account }
  | .save own account, errand, result =>
    errand.phase = .working ∧ own = errand.unit ∧ account.id ∈ errand.work.held.ids ∧
      result (.ok ()) { errand with
        work := { errand.work with
          writes := UnitOfWork.placeWrite account errand.work.writes } }
  | .stage own entry, errand, result =>
    errand.phase = .working ∧ own = errand.unit ∧
      result (.ok ()) { errand with work := errand.work.stage entry }
  | .commit own, errand, result =>
    errand.phase = .working ∧ own = errand.unit ∧
      ∃ reply, Change call errand.tape errand.reads errand.work reply ∧
        result (.ok ()) { errand with phase := .committed reply } ∧
        ∀ error, result (.error error) { errand with phase := .rejected error }
  | .abandon own, errand, result =>
    (errand.phase = .working ∨ errand.phase = .failing) ∧ own = errand.unit ∧
      result () { errand with phase := .abandoned }

/-- What a call may ask for, and what it knows of itself after the answer. -/
def rule (call : ServiceCall) : RequestRule service Errand
  | .unit request, errand, result => unitRule call request errand result
  | .table _, _, _ => False
  | .host request, errand, result => hostRule request errand result

theorem rule_monotone (call : ServiceCall) : (rule call).Monotone := by
  rintro (request | request | request) errand weak strong weaker
  · cases request with
    | start => exact And.imp_right fun after unit => weaker _ _ (after unit)
    | lock own order timeoutMs =>
      rintro ⟨working, mine, unread, unused, failed, locked⟩
      exact ⟨working, mine, unread, unused, fun error benign => weaker _ _ (failed error benign),
        fun rows ids => weaker _ _ (locked rows ids)⟩
    | commit own =>
      rintro ⟨working, mine, reply, change, stored, refused⟩
      exact ⟨working, mine, reply, change, weaker _ _ stored, fun error => weaker _ _ (refused error)⟩
    | save own account =>
      rintro ⟨working, mine, locked, after⟩
      exact ⟨working, mine, locked, weaker _ _ after⟩
    | _ =>
      rintro ⟨working, mine, after⟩
      exact ⟨working, mine, weaker _ _ after⟩
  · exact id
  · cases request with
    | freshId => exact And.imp_right fun after id => weaker _ _ (after id)
    | now => exact And.imp_right fun after time => weaker _ _ (after time)
    | dispatch entry => exact weaker _ _
    | _ => exact id

end Errand

namespace LedgerAction

section

variable {σ α β : Type} {rule : RequestRule service σ} {known : σ} {ok : α → σ → Prop}
  {failed : Failure LedgerError → σ → Prop}

/-- The action ends with a value, or fails, with this known in either case. -/
def Keeps (rule : RequestRule service σ) (action : LedgerAction α) (known : σ)
    (ok : α → σ → Prop) (failed : Failure LedgerError → σ → Prop) : Prop :=
  Program.Ensures rule action.run known fun outcome later =>
    match outcome with
    | .ok value => ok value later
    | .error failure => failed failure later

theorem keeps_eq_settles (action : LedgerAction α) :
    Keeps rule action known ok failed = Program.Settles rule action known ok failed := by
  unfold Keeps Program.Settles
  congr 1
  funext outcome later
  cases outcome <;> rfl

theorem keeps_imp (monotone : rule.Monotone) {action : LedgerAction α} {strongOk : α → σ → Prop}
    {strongFailed : Failure LedgerError → σ → Prop}
    (keeps : Keeps rule action known strongOk strongFailed)
    (value : ∀ value later, strongOk value later → ok value later)
    (failure : ∀ failure later, strongFailed failure later → failed failure later) :
    Keeps rule action known ok failed := by
  rw [keeps_eq_settles] at *
  exact Program.Settles.imp monotone keeps value failure

theorem keeps_bind (action : LedgerAction α) (next : α → LedgerAction β) {ok : β → σ → Prop} :
    Keeps rule (action >>= next) known ok failed =
      Keeps rule action known (fun value later => Keeps rule (next value) later ok failed)
        failed := by
  simp only [keeps_eq_settles]
  exact Program.settles_bind action next known ok

theorem keeps_map (f : α → β) (action : LedgerAction α) {ok : β → σ → Prop} :
    Keeps rule (f <$> action) known ok failed =
      Keeps rule action known (fun value later => ok (f value) later) failed := by
  show Program.Ensures rule (Program.bind _ _) known _ = _
  rw [Program.ensures_bind]
  unfold Keeps
  congr 1
  funext outcome later
  cases outcome <;> rfl

theorem keeps_lift (program : Program service α) :
    Keeps rule (ExceptT.lift program) known ok failed = program.Ensures rule known ok := by
  rw [keeps_eq_settles]
  exact Program.settles_lift program known ok

theorem keeps_ofAnswer (program : Program service (Except LedgerError α)) :
    Keeps rule (ofAnswer program) known ok failed =
      program.Ensures rule known fun answer later =>
        match answer with
        | .ok value => ok value later
        | .error error => failed (.error error) later := by
  show Program.Ensures rule (Program.bind _ _) known _ = _
  rw [Program.ensures_bind]
  congr 1
  funext answer later
  cases answer <;> rfl

theorem keeps_orAbandon (unit : UnitId) (work : LedgerAction α) :
    Keeps rule (orAbandon unit work) known ok failed =
      Keeps rule work known ok fun failure later =>
        rule (.unit (.abandon unit)) later fun _ last => failed failure last := by
  show Program.Ensures rule (Program.bind _ _) known _ = _
  rw [Program.ensures_bind]
  unfold Keeps
  congr 1
  funext outcome later
  cases outcome <;> rfl

/-- An action between changes of the two sides of a transfer. -/
theorem keeps_side (monotone : rule.Monotone) {action : LedgerAction α} {sides : TransferSides}
    {ok : α → TransferSides → σ → Prop} {failed : Failure LedgerError → TransferSides → σ → Prop}
    (keeps : Keeps rule action known (fun value later => ok value sides later)
      fun failure later => failed failure sides later) :
    Program.SettlesOn rule (ExceptT.mk (StateT.lift action.run)) sides known ok failed := by
  refine Program.SettlesOn.lift (Program.Ensures.imp monotone ?_ keeps)
  rintro (failure | value) later settled
  · exact settled
  · exact settled

end

namespace Keeps

variable {call : ServiceCall} {errand : Errand} {α β : Type} {ok : α → Errand → Prop}
  {failed : Failure LedgerError → Errand → Prop}

theorem bind {action : LedgerAction α} {next : α → LedgerAction β} {ok : β → Errand → Prop}
    (first : Keeps (Errand.rule call) action errand
      (fun value later => Keeps (Errand.rule call) (next value) later ok failed) failed) :
    Keeps (Errand.rule call) (action >>= next) errand ok failed :=
  (keeps_bind action next).mpr first

theorem imp {action : LedgerAction α} {strongOk : α → Errand → Prop}
    {strongFailed : Failure LedgerError → Errand → Prop}
    (keeps : Keeps (Errand.rule call) action errand strongOk strongFailed)
    (value : ∀ value later, strongOk value later → ok value later)
    (failure : ∀ failure later, strongFailed failure later → failed failure later) :
    Keeps (Errand.rule call) action errand ok failed :=
  keeps_imp (Errand.rule_monotone call) keeps value failure

theorem pure {value : α} (known : ok value errand) :
    Keeps (Errand.rule call) (Pure.pure value : LedgerAction α) errand ok failed := known

theorem ofOutcome {outcome : Outcome Refusal α}
    (value : ∀ value, outcome = .ok value → ok value errand)
    (failure : ∀ failure, failure.isBreach = false → failed failure errand) :
    Keeps (Errand.rule call) (ofOutcome outcome) errand ok failed := by
  rcases outcome with (refusal | overflow) | result
  · exact failure (.error (.refused refusal)) rfl
  · exact failure (.overflow overflow) rfl
  · exact value result rfl

theorem refuse {refusal : Refusal}
    (failure : ∀ failure, failure.isBreach = false → failed failure errand) :
    Keeps (Errand.rule call) (refuse refusal : LedgerAction α) errand ok failed :=
  failure (.error (.refused refusal)) rfl

theorem freshId {ok : Uuid → Errand → Prop} (draws : errand.Draws)
    (next : ∀ id, ok id { errand with tape := errand.tape.drawn id }) :
    Keeps (Errand.rule call) freshId errand ok failed :=
  (keeps_lift _).mpr ⟨draws, next⟩

theorem now {ok : Timestamp → Errand → Prop} (draws : errand.Draws)
    (next : ∀ time, ok time { errand with tape := errand.tape.told time }) :
    Keeps (Errand.rule call) now errand ok failed :=
  (keeps_lift _).mpr ⟨draws, next⟩

theorem lock {ok : List Account → Errand → Prop} {order : LockOrder} {timeoutMs : Nat}
    (working : errand.phase = .working) (unread : errand.reads = [])
    (unused : errand.work = UnitOfWork.empty)
    (failure : ∀ failure : Failure LedgerError, failure.isBreach = false →
      failed failure { errand with phase := .failing })
    (locked : ∀ rows : List Account, rows.map (·.id) = order.ids →
      ok rows { errand with reads := rows, work := UnitOfWork.locking order.ids }) :
    Keeps (Errand.rule call) (lock errand.unit order timeoutMs) errand ok failed :=
  (keeps_ofAnswer _).mpr
    ⟨working, rfl, unread, unused, fun error benign => failure (.error error) benign, locked⟩

theorem insert {ok : Unit → Errand → Prop} {account : Account} (working : errand.phase = .working)
    (next : ok () { errand with work := errand.work.insert account }) :
    Keeps (Errand.rule call) (insert errand.unit account) errand ok failed :=
  (keeps_ofAnswer _).mpr ⟨working, rfl, next⟩

theorem save {ok : Account → Errand → Prop} {account : Account} (working : errand.phase = .working)
    (locked : account.id ∈ errand.work.held.ids)
    (next : ok account.stored { errand with
      work := { errand.work with
        writes := UnitOfWork.placeWrite account errand.work.writes } }) :
    Keeps (Errand.rule call) (save errand.unit account) errand ok failed :=
  bind ((keeps_ofAnswer _).mpr ⟨working, rfl, locked, next⟩)

theorem recordEvent {ok : OutboxEntry → Errand → Prop} {event : LedgerEvent}
    (working : errand.phase = .working)
    (next : ∀ id time, ok (OutboxEntry.ofEvent id event time) { errand with
      tape := (errand.tape.drawn id).told time
      work := errand.work.stage (OutboxEntry.ofEvent id event time) }) :
    Keeps (Errand.rule call) (recordEvent errand.unit event) errand ok failed := by
  refine bind (freshId (Or.inr working) fun id => ?_)
  refine bind (now (Or.inr working) fun time => ?_)
  exact bind ((keeps_ofAnswer _).mpr ⟨working, rfl, next id time⟩)

end Keeps

end LedgerAction

end AccountLedger
