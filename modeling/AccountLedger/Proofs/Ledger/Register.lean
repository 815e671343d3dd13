import AccountLedger.Proofs.Ledger.Conduct
import AccountLedger.Proofs.Memory.Alike

/-!
What has happened so far agrees with the calls made one at a time: which unit of work belongs to
which call, which ids each of them has drawn, and what the accounts and the outbox have come to.
-/

namespace AccountLedger

/-- The unit of work of an event. -/
def PoolEvent.unit? : PoolEvent → Option UnitId
  | .committed unit => some unit
  | .overwritten _ => none

/-- The units of work that have committed, in this order. -/
def Pool.committed (pool : Pool) : List UnitId := pool.log.filterMap PoolEvent.unit?

theorem Pool.mem_committed {pool : Pool} {unit : UnitId} :
    unit ∈ pool.committed ↔ .committed unit ∈ pool.log := by
  simp only [Pool.committed, List.mem_filterMap]
  constructor
  · rintro ⟨event, member, same⟩
    cases event with
    | committed other =>
      cases same
      exact member
    | overwritten account => cases same
  · exact fun member => ⟨_, member, rfl⟩

/-- What is known of a call apart from how far it has come. -/
structure CallFile where
  asked : ServiceCall
  unit : Option UnitId
  tape : Tape

def Call.file (call : Call) : CallFile := ⟨call.asked, call.unit, call.tape⟩

namespace Serial

variable {record other : UnitId → Option (ServiceCall × Tape)} {log : List PoolEvent}

theorem run_append (log more : List PoolEvent) :
    run record (log ++ more) =
      (run record log).bind fun serial => more.foldlM (next record) serial := by
  unfold run
  rw [List.foldlM_append]
  rfl

theorem next_outcomes {before after : Serial} {event : PoolEvent}
    (stepped : next record before event = some after) : before.outcomes ⊆ after.outcomes := by
  cases event with
  | committed unit =>
    obtain ⟨⟨call, tape⟩, _, rest⟩ := Option.bind_eq_some_iff.mp stepped
    obtain ⟨⟨outcome, tables⟩, _, last⟩ := Option.bind_eq_some_iff.mp rest
    cases last
    exact List.subset_append_left _ _
  | overwritten account =>
    cases stepped
    exact fun _ => id

theorem foldlM_outcomes {before after : Serial} {more : List PoolEvent}
    (run : more.foldlM (next record) before = some after) : before.outcomes ⊆ after.outcomes := by
  induction more generalizing before with
  | nil =>
    cases run
    exact fun _ => id
  | cons event rest ih =>
    rw [List.foldlM_cons] at run
    obtain ⟨between, stepped, last⟩ := Option.bind_eq_some_iff.mp run
    exact fun _ member => ih last (next_outcomes stepped member)

theorem foldlM_congr (same : ∀ unit, .committed unit ∈ log → record unit = other unit)
    (serial : Serial) : log.foldlM (next record) serial = log.foldlM (next other) serial := by
  induction log generalizing serial with
  | nil => rfl
  | cons event rest ih =>
    have head : next record serial event = next other serial event := by
      cases event with
      | committed unit => simp only [next, same unit List.mem_cons_self]
      | overwritten account => rfl
    simp only [List.foldlM_cons, head]
    congr 1
    funext later
    exact ih (fun unit member => same unit (List.mem_cons_of_mem _ member)) later

/-- Only the records of calls that have committed matter. -/
theorem run_congr (same : ∀ unit, .committed unit ∈ log → record unit = other unit) :
    run record log = run other log :=
  foldlM_congr same start

end Serial

namespace Office

def file? (office : Office) (id : Nat) : Option CallFile := (office.calls id).map Call.file

/-- The unit of work of a call. -/
def unitOf (office : Office) (id : Nat) : Option UnitId := (office.file? id).bind CallFile.unit

/-- A call has drawn an id. -/
def Drew (office : Office) (id : Nat) (fresh : Uuid) : Prop :=
  ∃ file, office.file? id = some file ∧ fresh ∈ file.tape.ids

/-- An id was drawn by a call that has committed. -/
def Traced (office : Office) (fresh : Uuid) : Prop :=
  ∃ unit file, .committed unit ∈ office.pool.log ∧ office.record unit = some file ∧
    fresh ∈ file.2.ids

/-! ## What agrees with all steps so far -/

/-- Units of work belong to the calls that have started them. -/
structure Registered (office : Office) : Prop where
  owner : ∀ {unit id}, office.owner unit = some id ↔ office.unitOf id = some unit
  young : ∀ {unit id}, office.owner unit = some id → unit.number < office.pool.store.nextUnit
  active : ∀ {unit}, office.pool.activity unit ≠ .gone → ∃ id, office.owner unit = some id
  committed : ∀ {unit}, .committed unit ∈ office.pool.log → ∃ id, office.owner unit = some id

/-- The calls that have committed, made one at a time, each go well and leave the same tables. -/
structure Agrees (office : Office) (serial : Serial) : Prop where
  run : office.serial = some serial
  tables : serial.tables.Alike office.tables
  units : serial.outcomes.map (·.1) = office.pool.committed
  replies : ∀ outcome ∈ serial.outcomes, ∃ reply, outcome.2 = .ok reply

structure Serialized (office : Office) : Prop where
  agrees : ∃ serial, office.Agrees serial
  once : office.pool.committed.Nodup

/-- Unless ids repeat, no two calls have drawn the same. -/
structure Apart (office : Office) : Prop where
  drawn : ∀ {id fresh}, office.Drew id fresh → fresh ∈ office.drawn
  apart : office.drawn.Nodup → ∀ {first second fresh}, office.Drew first fresh →
    office.Drew second fresh → first = second

/-- What is stored has come from calls that have committed. -/
structure Provenance (office : Office) : Prop where
  accounts : ¬ office.pool.Tampered → ∀ {fresh account},
    office.tables.accounts.find? fresh = some account → office.Traced fresh
  entries : ∀ {fresh entry}, office.tables.outbox.find? fresh = some entry → office.Traced fresh

structure Settled (office : Office) : Prop where
  registered : office.Registered
  serialized : office.Serialized
  apart : office.Apart
  provenance : office.Provenance

theorem start_settled : start.Settled := by
  refine ⟨⟨?_, ?_, ?_, ?_⟩, ⟨⟨Serial.start, rfl, Tables.Alike.refl _, rfl, ?_⟩, List.nodup_nil⟩,
    ⟨?_, ?_⟩, ⟨?_, ?_⟩⟩
  · intro unit id
    exact ⟨fun absurdly => (nomatch absurdly), fun absurdly => (nomatch absurdly)⟩
  · intro unit id absurdly
    cases absurdly
  · intro unit present
    exact absurd rfl present
  · intro unit absurdly
    cases absurdly
  · intro outcome absurdly
    cases absurdly
  · rintro id fresh ⟨file, absurdly, _⟩
    cases absurdly
  · rintro _ first second fresh ⟨file, absurdly, _⟩
    cases absurdly
  · intro _ fresh account absurdly
    cases absurdly
  · intro fresh entry absurdly
    cases absurdly

/-! ## Calls on file -/

variable {office next : Office} {unit : UnitId} {id : Nat} {call : Call}

theorem file?_of_call (known : office.calls id = some call) : office.file? id = some call.file := by
  rw [file?, known]
  rfl

theorem unitOf_of_call (known : office.calls id = some call) : office.unitOf id = call.unit := by
  rw [unitOf, file?_of_call known]
  rfl

theorem record_eq (office : Office) (unit : UnitId) :
    office.record unit =
      (office.owner unit).bind fun id =>
        (office.file? id).map fun file => (file.asked, file.tape) := by
  unfold record file?
  cases office.owner unit with
  | none => rfl
  | some id => cases found : office.calls id <;> simp [found, Call.file]

theorem withCall_file? (office : Office) (id : Nat) (call : Call) :
    (office.withCall id call).file? = Function.update office.file? id (some call.file) := by
  funext other
  unfold file? withCall
  by_cases same : other = id
  · subst same
    simp
  · simp [Function.update_of_ne same]

theorem withCall_file?_of_same {new : Call} (known : office.calls id = some call)
    (same : new.file = call.file) : (office.withCall id new).file? = office.file? := by
  rw [withCall_file?, same, ← file?_of_call known, Function.update_eq_self]

theorem Registered.unique (registered : office.Registered) {first second : Nat} {one two : Call}
    (known : office.calls first = some one) (other : office.calls second = some two)
    (mine : one.unit = some unit) (theirs : two.unit = some unit) : first = second := by
  have left := registered.owner.mpr ((unitOf_of_call known).trans mine)
  have right := registered.owner.mpr ((unitOf_of_call other).trans theirs)
  exact Option.some.inj (left.symm.trans right)

theorem Registered.record (registered : office.Registered) (known : office.calls id = some call)
    (own : call.unit = some unit) : office.record unit = some (call.asked, call.tape) := by
  rw [record_eq, registered.owner.mpr ((unitOf_of_call known).trans own)]
  show (office.file? id).map _ = _
  rw [file?_of_call known]
  rfl

/-- The unit of work that is started next is nobody's. -/
theorem Registered.unowned (registered : office.Registered) :
    office.owner office.pool.nextUnit = none := by
  cases owned : office.owner office.pool.nextUnit with
  | none => rfl
  | some id => exact absurd (registered.young owned) (Nat.lt_irrefl _)

/-- Nor has it committed. -/
theorem Registered.uncommitted (registered : office.Registered) :
    .committed office.pool.nextUnit ∉ office.pool.log := by
  intro inside
  obtain ⟨id, owned⟩ := registered.committed inside
  cases registered.unowned.symm.trans owned

/-! ## Steps that forget nothing -/

/-- A step on which what has been committed and drawn stays so. -/
structure Extends (office next : Office) : Prop where
  log : ∃ more, next.pool.log = office.pool.log ++ more
  drawn : ∃ more, next.drawn = office.drawn ++ more
  record : ∀ unit, .committed unit ∈ office.pool.log → next.record unit = office.record unit

theorem Extends.breached (extended : office.Extends next) (breached : office.Breached) :
    next.Breached := by
  obtain ⟨log, sameLog⟩ := extended.log
  obtain ⟨drawn, sameDrawn⟩ := extended.drawn
  rcases breached with ⟨account, overwritten⟩ | repeated
  · refine Or.inl ⟨account, ?_⟩
    rw [sameLog]
    exact List.mem_append_left _ overwritten
  · refine Or.inr fun nodup => repeated ?_
    rw [sameDrawn] at nodup
    exact (List.nodup_append.mp nodup).1

theorem Extends.traced (extended : office.Extends next) {fresh : Uuid}
    (traced : office.Traced fresh) : next.Traced fresh := by
  obtain ⟨unit, file, committed, record, drew⟩ := traced
  obtain ⟨log, sameLog⟩ := extended.log
  refine ⟨unit, file, ?_, (extended.record unit committed).trans record, drew⟩
  rw [sameLog]
  exact List.mem_append_left _ committed

/-- The calls one at a time come on from where they were. -/
theorem Extends.serial (extended : office.Extends next) {more : List PoolEvent}
    (log : next.pool.log = office.pool.log ++ more) :
    next.serial =
      office.serial.bind fun serial => more.foldlM (Serial.next next.record) serial := by
  unfold Office.serial
  rw [log, Serial.run_append, Serial.run_congr extended.record]

theorem Extends.served (extended : office.Extends next) (serialized : next.Serialized)
    {reply : ServiceReply} (served : office.Served unit reply) : next.Served unit reply := by
  obtain ⟨before, known, member⟩ := served
  obtain ⟨more, log⟩ := extended.log
  obtain ⟨after, agrees⟩ := serialized.agrees
  have run := (extended.serial log).symm.trans agrees.run
  rw [known] at run
  exact ⟨after, agrees.run, Serial.foldlM_outcomes run member⟩

end Office

end AccountLedger
