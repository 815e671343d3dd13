import AccountLedger.Lock.Acquire
import AccountLedger.Proofs.Ensures

/-!
What somebody has of the lock table, as told by its own requests and their answers, and what it may
ask for: it waits for one row at a time, gives back only what is its own, and asks for the slot of a
row to be freed right after it has unlocked the row or waited for it too long. Everybody who locks
rows or lets them go keeps to this.
-/

namespace AccountLedger

/-- The row locks that somebody has, and the one that it waits for. -/
structure Grip where
  held : List RowGuard
  awaited : Option RowGuard
  deriving DecidableEq, Repr

namespace Grip

/-- Row locks that are had, with nothing waited for. -/
def of (guards : List RowGuard) : Grip := ⟨guards, none⟩

/-- All that is had or waited for. -/
def guards (grip : Grip) : List RowGuard := grip.held ++ grip.awaited.toList

@[simp]
theorem guards_of (guards : List RowGuard) : (of guards).guards = guards := List.append_nil guards

/-- No ticket stands for two of the row locks. -/
def Distinct (grip : Grip) : Prop := (grip.guards.map (·.ticket)).Nodup

theorem distinct_of {guards : List RowGuard} :
    (of guards).Distinct ↔ (guards.map (·.ticket)).Nodup := by
  rw [Distinct, guards_of]

/-- What is in hand after an answer of the lock table. -/
def after (grip : Grip) : (request : LockRequest) → request.Answer → Grip
  | .enter _ account, ticket => { grip with awaited := some ⟨account, ticket⟩ }
  | .await _ _, served => of (bif served then grip.guards else grip.held)
  | .leave number, _ =>
    ⟨grip.held.filter (·.ticket != number), grip.awaited.filter (·.ticket != number)⟩
  | .prune _, _ => grip

/-- What may be asked of the lock table with this in hand. -/
def Permits (grip : Grip) : LockRequest → Prop
  | .enter _ _ => grip.awaited = none
  | .await number _ => ∃ guard, grip.awaited = some guard ∧ guard.ticket = number
  | .leave number => ∃ guard ∈ grip.guards, guard.ticket = number
  | .prune _ => True

/-- A new ticket is none of those in hand. -/
def Admits (grip : Grip) : (request : LockRequest) → request.Answer → Prop
  | .enter _ _, ticket => ∀ guard ∈ grip.guards, guard.ticket ≠ ticket
  | _, _ => True

def rule : RequestRule lockInterface Grip := fun request grip result =>
  grip.Permits request ∧
    ∀ answer, grip.Admits request answer → result answer (grip.after request answer)

/-- What the row locks of an outcome are; a failure leaves none. -/
def handed : Except LedgerError (List RowGuard) → List RowGuard
  | .ok guards => guards
  | .error _ => []

/-- At the end of a call its caller gets exactly what is in hand. -/
def Handed (outcome : Except LedgerError (List RowGuard)) (grip : Grip) : Prop :=
  grip = of (handed outcome)

/-- Leave the queue for a mutex, if there is one that is waited for. -/
def giveUp : Option RowGuard → Program lockInterface Unit
  | none => return ()
  | some guard => (LockRequest.leave guard.ticket).perform

/-- Let everything go: the mutex that is waited for, then the row locks that are had. -/
def letGo (grip : Grip) : Program lockInterface (Except LedgerError (List RowGuard)) := do
  giveUp grip.awaited
  RowGuard.releaseAll grip.held
  return .ok []

variable {guards : List RowGuard} {guard : RowGuard}

theorem after_leave (distinct : (of (guard :: guards)).Distinct) :
    (of (guard :: guards)).after (.leave guard.ticket) () = of guards := by
  have absent := (List.nodup_cons.mp (distinct_of.mp distinct)).1
  have others : guards.filter (·.ticket != guard.ticket) = guards := by
    refine List.filter_eq_self.mpr fun other member => ?_
    simp only [bne_iff_ne, ne_eq]
    exact fun same => absent (List.mem_map.mpr ⟨other, member, same⟩)
  simp [after, of, others]

theorem Distinct.apart (distinct : (⟨guards, some guard⟩ : Grip).Distinct) :
    (of guards).Distinct ∧ ∀ other ∈ guards, other.ticket ≠ guard.ticket := by
  rw [distinct_of]
  simpa [Distinct, Grip.guards, List.nodup_append] using distinct

theorem after_giveUp (distinct : (⟨guards, some guard⟩ : Grip).Distinct) :
    (⟨guards, some guard⟩ : Grip).after (.leave guard.ticket) () = of guards := by
  have others : guards.filter (·.ticket != guard.ticket) = guards :=
    List.filter_eq_self.mpr fun other member => by simpa using distinct.apart.2 other member
  simp [after, of, others]

theorem Distinct.concat (distinct : (of guards).Distinct)
    (new : ∀ other ∈ guards, other.ticket ≠ guard.ticket) : (of (guards ++ [guard])).Distinct := by
  rw [distinct_of] at distinct ⊢
  simp only [List.map_append, List.map_cons, List.map_nil, List.nodup_append]
  refine ⟨distinct, by simp, ?_⟩
  intro number member other single
  obtain ⟨known, present, rfl⟩ := List.mem_map.mp member
  rw [List.mem_singleton.mp single]
  exact new known present

end Grip

/-! ## Slots to be seen to -/

/-- What is in hand, and the row whose slot has to be seen to before anything else. -/
structure Chore where
  grip : Grip
  due : Option Uuid

namespace Chore

def of (guards : List RowGuard) : Chore := ⟨.of guards, none⟩

/-- The row whose slot has to be seen to after a request: one that was unlocked or waited for too
long. -/
def dueAfter (grip : Grip) : (request : LockRequest) → request.Answer → Option Uuid
  | .await _ _, served => bif served then none else grip.awaited.map (·.account)
  | .leave number, _ => (grip.held.find? (·.ticket == number)).map (·.account)
  | _, _ => none

/-- Nothing is asked for that may not be, and a slot that has to be seen to is asked to be freed. -/
def rule : RequestRule lockInterface Chore := fun request chore result =>
  (chore.grip.Permits request ∧ ∀ account, chore.due = some account → request = .prune account) ∧
    ∀ answer, chore.grip.Admits request answer →
      result answer ⟨chore.grip.after request answer, dueAfter chore.grip request answer⟩

/-- At the end of a call its caller gets exactly what is in hand, and no slot has to be seen to. -/
def Done (outcome : Except LedgerError (List RowGuard)) (chore : Chore) : Prop :=
  chore = of (Grip.handed outcome)

theorem handed_of_done {chore : Chore} {program : Program lockInterface _}
    (ensured : program.Ensures rule chore Done) :
    program.Ensures Grip.rule chore.grip Grip.Handed := by
  induction program generalizing chore with
  | done outcome => exact congrArg Chore.grip ensured
  | ask request resume ih =>
    exact ⟨ensured.1.1, fun answer admitted => ih answer (ensured.2 answer admitted)⟩

/-! ## Letting go -/

variable {guards : List RowGuard}

theorem ensures_releaseAll {result : Unit → Chore → Prop} (distinct : (Grip.of guards).Distinct)
    (finished : result () (of [])) :
    (RowGuard.releaseAll guards).Ensures rule (of guards) result := by
  induction guards with
  | nil => exact finished
  | cons guard rest ih =>
    have apart := (List.nodup_cons.mp (Grip.distinct_of.mp distinct)).2
    have due : dueAfter (.of (guard :: rest)) (.leave guard.ticket) () = some guard.account := by
      simp [dueAfter, Grip.of]
    refine ⟨⟨⟨guard, by simp [of], rfl⟩, fun account same => ?_⟩, fun _ _ => ⟨⟨trivial, ?_⟩, ?_⟩⟩
    · cases same
    · intro account same
      rw [Option.some.inj (due.symm.trans same)]
    · intro _ _
      show Program.Ensures rule (RowGuard.releaseAll rest)
        ⟨(Grip.of (guard :: rest)).after (.leave guard.ticket) (), none⟩ result
      rw [Grip.after_leave distinct]
      exact ih (Grip.distinct_of.mpr apart)

theorem ensures_letGo {grip : Grip} (distinct : grip.Distinct) :
    grip.letGo.Ensures rule ⟨grip, none⟩ Done := by
  obtain ⟨held, awaited⟩ := grip
  cases awaited with
  | none =>
    show Program.Ensures rule (Program.bind (RowGuard.releaseAll held) _) (of held) Done
    rw [Program.ensures_bind]
    exact ensures_releaseAll distinct rfl
  | some guard =>
    have due : dueAfter ⟨held, some guard⟩ (.leave guard.ticket) () = none := by
      simpa [dueAfter] using distinct.apart.2
    refine ⟨⟨⟨guard, by simp [Grip.guards], rfl⟩, fun _ => nofun⟩, fun _ _ => ?_⟩
    show Program.Ensures rule (Program.bind (RowGuard.releaseAll held) _)
      ⟨(⟨held, some guard⟩ : Grip).after (.leave guard.ticket) (),
        dueAfter ⟨held, some guard⟩ (.leave guard.ticket) ()⟩ Done
    rw [Grip.after_giveUp distinct, due, Program.ensures_bind]
    exact ensures_releaseAll distinct.apart.1 rfl

/-! ## Taking -/

variable {caller timeoutMs : Nat} {account : Uuid}

theorem ensures_acquire {result : Except LedgerError RowGuard → Chore → Prop}
    (success : ∀ ticket, (∀ guard ∈ guards, guard.ticket ≠ ticket) →
      result (.ok ⟨account, ticket⟩) (of (guards ++ [⟨account, ticket⟩])))
    (failure : result (.error (.lockTimeout account timeoutMs)) (of guards)) :
    (RowGuard.acquire caller account timeoutMs).Ensures rule (of guards) result := by
  refine ⟨⟨rfl, fun _ => nofun⟩, fun ticket new => ?_⟩
  refine ⟨⟨⟨⟨account, ticket⟩, rfl, rfl⟩, fun _ => nofun⟩, fun served _ => ?_⟩
  cases served with
  | true => exact success ticket fun guard member => new guard (by simpa [of] using member)
  | false => exact ⟨⟨trivial, fun other same => by cases same; rfl⟩, fun _ _ => failure⟩

theorem ensures_acquireAll (ids : List Uuid) (distinct : (Grip.of guards).Distinct) :
    (RowGuard.acquireAll caller timeoutMs guards ids).Ensures rule (of guards) Done := by
  induction ids generalizing guards with
  | nil => rfl
  | cons id rest ih =>
    show Program.Ensures rule (Program.bind (RowGuard.acquire caller id timeoutMs) _) _ _
    rw [Program.ensures_bind]
    apply ensures_acquire
    · intro ticket new
      exact ih (distinct.concat new)
    · show Program.Ensures rule (Program.bind (RowGuard.releaseAll guards) _) _ _
      rw [Program.ensures_bind]
      exact ensures_releaseAll distinct rfl

end Chore

theorem Grip.ensures_letGo {grip : Grip} (distinct : grip.Distinct) :
    grip.letGo.Ensures rule grip Handed := Chore.handed_of_done (Chore.ensures_letGo distinct)

/-- What can be asked of the lock manager. -/
inductive LockErrand where
  | acquire (account : Uuid) (timeoutMs : Nat)
  | acquireAll (order : LockOrder) (timeoutMs : Nat)

namespace LockErrand

def program (caller : Nat) :
    LockErrand → Program lockInterface (Except LedgerError (List RowGuard))
  | .acquire account timeoutMs => do
    let outcome ← RowGuard.acquire caller account timeoutMs
    return outcome.map fun guard => [guard]
  | .acquireAll order timeoutMs => RowGuard.acquireAll caller timeoutMs [] order.ids

theorem ensures_done (errand : LockErrand) (caller : Nat) :
    (errand.program caller).Ensures Chore.rule (.of []) Chore.Done := by
  cases errand with
  | acquire account timeoutMs =>
    show Program.Ensures Chore.rule (Program.bind (RowGuard.acquire caller account timeoutMs) _) _ _
    rw [Program.ensures_bind]
    exact Chore.ensures_acquire (fun _ _ => rfl) rfl
  | acquireAll order timeoutMs => exact Chore.ensures_acquireAll order.ids List.nodup_nil

theorem ensures_program (errand : LockErrand) (caller : Nat) :
    (errand.program caller).Ensures Grip.rule (.of []) Grip.Handed :=
  Chore.handed_of_done (errand.ensures_done caller)

end LockErrand

end AccountLedger
