import AccountLedger.Database.UnitOfWork
import AccountLedger.Proofs.Lock.Permit
import AccountLedger.Proofs.Transcript
import Mathlib.Data.List.Basic

/-!
What a unit of work remembers of its transaction is what it has exchanged with the server: the rows
it has locked or inserted, and the lock timeout that was set last.
-/

namespace AccountLedger

namespace Exchange

/-- The row that the transaction has locked by this: it was read for update, and it was there. -/
def locked? (unit : UnitId) : Exchange database → Option Uuid
  | ⟨.run own (.lockAccount id), .ok result⟩ =>
    if own = some unit ∧ result.rows ≠ [] then some id else none
  | _ => none

def inserted? (unit : UnitId) : Exchange database → Option Uuid
  | ⟨.run own (.insertAccount account), .ok _⟩ => if own = some unit then some account.id else none
  | _ => none

/-- The row that the transaction has locked or inserted by this. -/
def touched? (unit : UnitId) (exchange : Exchange database) : Option Uuid :=
  (exchange.locked? unit).or (exchange.inserted? unit)

/-- The lock timeout that the transaction has got by this. -/
def timeout? (unit : UnitId) : Exchange database → Option Nat
  | ⟨.run own (.setLockTimeout timeoutMs), .ok _⟩ => if own = some unit then some timeoutMs else none
  | _ => none

theorem locked?_request {unit : UnitId} {exchange : Exchange database} {id : Uuid}
    (locked : exchange.locked? unit = some id) :
    exchange.request = .run (some unit) (.lockAccount id) := by
  unfold locked? at locked
  split at locked
  · split at locked
    · next own =>
      cases locked
      rw [own.1]
    · cases locked
  · cases locked

end Exchange

/-- The rows that a transaction has locked or inserted. -/
def touched (unit : UnitId) (transcript : Transcript database) : List Uuid :=
  transcript.filterMap (Exchange.touched? unit)

/-- The lock timeout that was set last in a transaction. -/
def lastTimeout? (unit : UnitId) (transcript : Transcript database) : Option Nat :=
  (transcript.filterMap (Exchange.timeout? unit)).getLast?

variable {unit : UnitId} {transcript : Transcript database} {exchange : Exchange database}

theorem mem_touched_concat {id : Uuid} :
    id ∈ touched unit (transcript ++ [exchange]) ↔
      id ∈ touched unit transcript ∨ exchange.touched? unit = some id := by
  simp [touched]

theorem lastTimeout?_concat :
    lastTimeout? unit (transcript ++ [exchange]) =
      (exchange.timeout? unit).or (lastTimeout? unit transcript) := by
  rw [lastTimeout?, List.filterMap_append, List.getLast?_append]
  cases found : exchange.timeout? unit <;> simp [found, lastTimeout?]

namespace OpenUnits

variable {units : OpenUnits} {state : OpenUnit} {other : UnitId}

theorem get_set : (units.set unit state).get other = if unit = other then state else units.get other := by
  rw [get, set, Table.find?_put]
  by_cases same : unit = other
  · simp [same]
  · have differs : unit.number ≠ other.number := fun equal => same (by
      cases unit
      cases other
      cases equal
      rfl)
    simp [same, differs, get]

/-- Every unit of work remembers what it has exchanged. -/
def Remember (units : OpenUnits) (transcript : Transcript database) : Prop :=
  ∀ unit, (∀ id, id ∈ (units.get unit).held.ids ↔ id ∈ touched unit transcript) ∧
    (units.get unit).lockTimeoutMs = lastTimeout? unit transcript

theorem none_remember : none.Remember [] := fun _ =>
  ⟨fun _ => Iff.rfl, rfl⟩

namespace Remember

variable {later : OpenUnits}

theorem after (remember : units.Remember transcript)
    (held : ∀ other id, id ∈ (later.get other).held.ids ↔
      id ∈ (units.get other).held.ids ∨ exchange.touched? other = some id)
    (timeout : ∀ other, (later.get other).lockTimeoutMs =
      (exchange.timeout? other).or (units.get other).lockTimeoutMs) :
    later.Remember (transcript ++ [exchange]) := by
  intro other
  refine ⟨fun id => ?_, ?_⟩
  · rw [held, mem_touched_concat, (remember other).1]
  · rw [timeout, lastTimeout?_concat, (remember other).2]

/-- Nothing is remembered of an exchange that neither touches a row nor sets the timeout. -/
theorem passed (remember : units.Remember transcript)
    (untouched : ∀ other, exchange.touched? other = .none)
    (untimed : ∀ other, exchange.timeout? other = .none) :
    units.Remember (transcript ++ [exchange]) :=
  remember.after (fun other id => by simp [untouched]) (fun other => by simp [untimed])

theorem held (remember : units.Remember transcript) {id : Uuid}
    (touches : exchange.touched? unit = some id)
    (own : ∀ other, other ≠ unit → exchange.touched? other = .none)
    (untimed : ∀ other, exchange.timeout? other = .none) :
    (units.set unit { units.get unit with
      held := (units.get unit).held.record id }).Remember (transcript ++ [exchange]) := by
  refine remember.after (fun other id => ?_) fun other => ?_
  · rw [get_set]
    by_cases same : unit = other
    · subst same
      simp [HeldLocks.record, touches, eq_comm]
    · simp [same, own other (Ne.symm same)]
  · rw [get_set, untimed]
    by_cases same : unit = other
    · simp [same]
    · simp [same]

/-- A row that was held already is held still. -/
theorem heldAgain (remember : units.Remember transcript) {id : Uuid}
    (touches : exchange.touched? unit = some id)
    (own : ∀ other, other ≠ unit → exchange.touched? other = .none)
    (untimed : ∀ other, exchange.timeout? other = .none)
    (already : (units.get unit).held.contains id = true) :
    units.Remember (transcript ++ [exchange]) := by
  refine remember.after (fun other found => ?_) fun other => by simp [untimed]
  by_cases same : other = unit
  · subst same
    rw [touches, Option.some.injEq]
    refine ⟨Or.inl, ?_⟩
    rintro (inside | rfl)
    · exact inside
    · exact HeldLocks.contains_iff.mp already
  · simp [own other same]

theorem timed (remember : units.Remember transcript) {timeoutMs : Nat}
    (sets : exchange.timeout? unit = some timeoutMs)
    (own : ∀ other, other ≠ unit → exchange.timeout? other = .none)
    (untouched : ∀ other, exchange.touched? other = .none) :
    (units.set unit { units.get unit with
      lockTimeoutMs := some timeoutMs }).Remember (transcript ++ [exchange]) := by
  refine remember.after (fun other id => ?_) fun other => ?_
  · rw [get_set, untouched]
    by_cases same : unit = other
    · simp [same]
    · simp [same]
  · rw [get_set]
    by_cases same : unit = other
    · subst same
      simp [sets]
    · simp [same, own other (Ne.symm same)]

end Remember

end OpenUnits

namespace UnitAction

variable {σ : Type} {rule : RequestRule database σ} {unit : UnitId} {units : OpenUnits} {known : σ}
  {failed : LedgerError → OpenUnits → σ → Prop}

theorem remembered_settles {ok : OpenUnit → OpenUnits → σ → Prop}
    (holds : ok (units.get unit) units known) :
    Program.SettlesOn rule (remembered unit) units known ok failed := holds

theorem remember_settles {state : OpenUnit} {ok : Unit → OpenUnits → σ → Prop}
    (holds : ok () (units.set unit state) known) :
    Program.SettlesOn rule (remember unit state) units known ok failed := holds

end UnitAction

end AccountLedger
