import AccountLedger.Proofs.Memory.Commit
import AccountLedger.Proofs.Memory.Serving

/-!
The course of one unit of work: what it was asked for, one operation after another, with the answers
that it gave. What it keeps aside for its commit is told by the accounts that it accepted.
-/

namespace AccountLedger

/-- Something that a unit of work was asked for, and its answer. -/
structure Deed where
  request : UnitRequest
  answer : request.Answer

namespace Deed

/-- The account that was inserted. -/
def inserted? : Deed → Option Account
  | ⟨.insert _ account, _⟩ => some account
  | _ => none

/-- The account that was written, if the unit of work accepted it. -/
def saved? : Deed → Option Account
  | ⟨.save _ account, .ok ()⟩ => some account
  | _ => none

/-- The row of an id that was read under a lock. -/
def lent? (deed : Deed) (id : Uuid) : Option Account :=
  match deed with
  | ⟨.lock _ order _, .ok rows⟩ => (order.ids.zip rows).lookup id
  | _ => none

/-- The accounts that were inserted. -/
def inserts (deeds : List Deed) : List Account := deeds.filterMap inserted?

/-- The accepted writes of one account, in their order. -/
def saves (id : Uuid) (deeds : List Deed) : List Account :=
  (deeds.filterMap saved?).filter fun account => account.id == id

theorem inserts_concat (deeds : List Deed) (deed : Deed) :
    inserts (deeds ++ [deed]) = inserts deeds ++ deed.inserted?.toList := by
  cases kind : deed.inserted? <;> simp [inserts, List.filterMap_append, kind]

theorem saves_concat (id : Uuid) (deeds : List Deed) (deed : Deed) :
    saves id (deeds ++ [deed]) =
      saves id deeds ++ deed.saved?.toList.filter fun account => account.id == id := by
  cases kind : deed.saved? <;> simp [saves, List.filterMap_append, kind]

theorem saves_concat_of_none {deed : Deed} (unsaved : deed.saved? = none) (id : Uuid)
    (deeds : List Deed) : saves id (deeds ++ [deed]) = saves id deeds := by
  simp [saves_concat, unsaved]

end Deed

open Deed (inserts saves)

/-- What a unit of work that was started has come to, with what it did on the way. -/
inductive Course (considerate : Prop) (unit : UnitId) : List Deed → MemoryStore → Prop
  | start {store} : store.unit unit = UnitOfWork.empty → Course considerate unit [] store
  | call {deeds store after} (request) {answer} : Course considerate unit deeds store →
    request.unit? = some unit → request.isLast = false →
    MemoryStore.Serves considerate unit store request.inMemory answer after →
    Course considerate unit (deeds ++ [⟨request, answer⟩]) after

namespace Course

variable {considerate : Prop} {unit : UnitId} {deeds : List Deed} {store after : MemoryStore}

/-- What holds at the start and after each operation holds throughout. -/
theorem induction {motive : List Deed → MemoryStore → Prop}
    (start : ∀ store, store.unit unit = UnitOfWork.empty → motive [] store)
    (lock : ∀ deeds store order timeoutMs answer after guards,
      Course considerate unit deeds store → motive deeds store →
      store.Passes considerate unit ((store.unit unit).hold guards) after →
      (∀ rows, answer = .ok rows →
        guards.map (·.account) = (store.unit unit).held.fresh order ∧
          ((store.unit unit).hold guards).rows after.tables order = .ok rows) →
      motive (deeds ++ [⟨.lock unit order timeoutMs, answer⟩]) after)
    (insert : ∀ deeds store account answer after, Course considerate unit deeds store →
      motive deeds store →
      store.Passes considerate unit ((store.unit unit).insert account) after →
      motive (deeds ++ [⟨.insert unit account, answer⟩]) after)
    (save : ∀ deeds store account after, Course considerate unit deeds store → motive deeds store →
      store.Passes considerate unit ((store.unit unit).save account).2 after →
      motive (deeds ++ [⟨.save unit account, ((store.unit unit).save account).1⟩]) after)
    (stage : ∀ deeds store entry answer after, Course considerate unit deeds store →
      motive deeds store →
      store.Passes considerate unit ((store.unit unit).stage entry) after →
      motive (deeds ++ [⟨.stage unit entry, answer⟩]) after)
    (course : Course considerate unit deeds store) : motive deeds store := by
  induction course with
  | start unused => exact start _ unused
  | @call deeds store after request answer course own more ran ih =>
    cases request with
    | start => cases own
    | lock other order timeoutMs =>
      cases own
      obtain ⟨guards, passes, read⟩ := ran.lock
      exact lock deeds store order timeoutMs answer after guards course ih passes read
    | insert other account =>
      cases own
      exact insert deeds store account answer after course ih ran.insert
    | save other account =>
      cases own
      obtain ⟨rfl, passes⟩ := ran.save
      exact save deeds store account after course ih passes
    | stage other entry =>
      cases own
      exact stage deeds store entry answer after course ih ran.stage
    | commit other => cases more
    | abandon other => cases more

end Course

/-! ## What is kept aside -/

namespace UnitOfWork

variable {work : UnitOfWork} {writes : List StagedWrite} {account : Account} {id : Uuid}

/-- The write of one account. -/
def write? (writes : List StagedWrite) (id : Uuid) : Option StagedWrite :=
  writes.find? fun write => write.account.id == id

theorem staged?_eq (work : UnitOfWork) (id : Uuid) :
    work.staged? id = ((write? work.writes id).map (·.account.stored)).or
      (work.inserted.find? fun account => account.id == id) := by
  unfold staged? write?
  cases work.writes.find? _ <;> rfl

/-- A second write of an account takes the place of the first, but what is expected stays. -/
theorem write?_placeWrite (account : Account) (writes : List StagedWrite) (id : Uuid) :
    write? (placeWrite account writes) id =
      if account.id = id then
        some (((write? writes id).map fun write => { write with account }).getD
          ⟨account.revision, account⟩)
      else write? writes id := by
  induction writes with
  | nil => by_cases same : account.id = id <;> simp [placeWrite, write?, same]
  | cons head rest ih =>
    by_cases placed : head.account.id = account.id
    · by_cases same : account.id = id
      · simp [placeWrite, write?, placed, same]
      · simp [placeWrite, write?, placed, same]
    · by_cases same : account.id = id
      · have other : ¬ head.account.id = id := fun equal => placed (equal.trans same.symm)
        simpa [placeWrite, write?, placed, other] using ih
      · by_cases here : head.account.id = id
        · rw [placeWrite, if_neg placed, if_neg same]
          simp [write?, here]
        · simpa [placeWrite, write?, placed, here] using ih

theorem placeWrite_ids (account : Account) (writes : List StagedWrite) :
    (placeWrite account writes).map (·.account.id) =
      if account.id ∈ writes.map (·.account.id) then writes.map (·.account.id)
      else writes.map (·.account.id) ++ [account.id] := by
  induction writes with
  | nil => simp [placeWrite]
  | cons head rest ih =>
    by_cases placed : head.account.id = account.id
    · simp [placeWrite, placed]
    · have other : account.id ≠ head.account.id := Ne.symm placed
      by_cases inside : account.id ∈ rest.map (·.account.id)
      · rw [if_pos inside] at ih
        simp only [placeWrite, if_neg placed, List.map_cons, ih,
          if_pos (List.mem_cons_of_mem _ inside)]
      · rw [if_neg inside] at ih
        simp only [placeWrite, if_neg placed, List.map_cons, ih, List.mem_cons, other, inside,
          or_self, if_false, List.cons_append]

end UnitOfWork

/-- The write of an account after these have been accepted: the first tells what is expected, the
last what is stored. -/
def StagedWrite.of (accepted : List Account) : Option StagedWrite :=
  match accepted with
  | [] => none
  | first :: more => some ⟨first.revision, (first :: more).getLast (List.cons_ne_nil first more)⟩

theorem StagedWrite.of_concat (accepted : List Account) (account : Account) :
    of (accepted ++ [account]) =
      some (((of accepted).map fun write => { write with account }).getD
        ⟨account.revision, account⟩) := by
  cases accepted with
  | nil => rfl
  | cons first more => simp [of]

/-- The content of a unit of work is what it has accepted. -/
structure KeptAside (deeds : List Deed) (work : UnitOfWork) : Prop where
  writes : ∀ id, UnitOfWork.write? work.writes id = StagedWrite.of (saves id deeds)
  distinct : (work.writes.map (·.account.id)).Nodup
  inserted : work.inserted = inserts deeds

theorem KeptAside.same {deeds : List Deed} {work later : UnitOfWork} (aside : KeptAside deeds work)
    {deed : Deed} (unsaved : deed.saved? = none) (writes : later.writes = work.writes)
    (inserted : later.inserted = work.inserted ++ deed.inserted?.toList) :
    KeptAside (deeds ++ [deed]) later := by
  refine ⟨fun id => ?_, by rw [writes]; exact aside.distinct, ?_⟩
  · rw [writes, Deed.saves_concat_of_none unsaved]
    exact aside.writes id
  · rw [inserted, Deed.inserts_concat, aside.inserted]

theorem KeptAside.saved {deeds : List Deed} {work : UnitOfWork} (aside : KeptAside deeds work)
    (unit : UnitId) (account : Account) :
    KeptAside (deeds ++ [⟨.save unit account, (work.save account).1⟩]) (work.save account).2 := by
  unfold UnitOfWork.save
  split
  · refine ⟨fun id => ?_, ?_, ?_⟩
    · show UnitOfWork.write? (UnitOfWork.placeWrite account work.writes) id = _
      rw [UnitOfWork.write?_placeWrite, Deed.saves_concat, aside.writes]
      by_cases same : account.id = id
      · simp [same, Deed.saved?, StagedWrite.of_concat]
      · simp [same, Deed.saved?]
    · show ((UnitOfWork.placeWrite account work.writes).map _).Nodup
      rw [UnitOfWork.placeWrite_ids]
      split
      · exact aside.distinct
      · next absent =>
        exact List.nodup_append.mpr ⟨aside.distinct, by simp, fun id inside other single => by
          rw [List.mem_singleton.mp single]
          exact fun equal => absent (equal ▸ inside)⟩
    · rw [Deed.inserts_concat]
      exact aside.inserted.trans (List.append_nil _).symm
  · exact aside.same rfl rfl (List.append_nil _).symm

theorem Course.keptAside {considerate : Prop} {unit : UnitId} {deeds : List Deed}
    {store : MemoryStore} (course : Course considerate unit deeds store) :
    KeptAside deeds (store.unit unit) := by
  refine course.induction (motive := fun deeds store => KeptAside deeds (store.unit unit))
    ?start ?lock ?insert ?save ?stage
  case start =>
    intro store unused
    rw [unused]
    exact ⟨fun _ => rfl, List.nodup_nil, rfl⟩
  case lock =>
    intro deeds store order timeoutMs answer after guards _ aside passes _
    rw [passes.content]
    exact aside.same rfl rfl (List.append_nil _).symm
  case insert =>
    intro deeds store account answer after _ aside passes
    rw [passes.content]
    exact aside.same rfl rfl rfl
  case save =>
    intro deeds store account after _ aside passes
    rw [passes.content]
    exact aside.saved unit account
  case stage =>
    intro deeds store entry answer after _ aside passes
    rw [passes.content]
    exact aside.same rfl rfl (List.append_nil _).symm

end AccountLedger
