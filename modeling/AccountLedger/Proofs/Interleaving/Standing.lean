import AccountLedger.Proofs.Ensures
import AccountLedger.Proofs.Interleaving.Pool
import AccountLedger.Proofs.Lock.Holding
import AccountLedger.Proofs.Memory.Commit

/-!
What one unit of work may do with row locks, seen from its own side: it waits for one row at a time,
always for one above all that it holds, and gives back only what is its own. Every operation keeps
to this, whatever the others do in between.
-/

namespace AccountLedger

open LockTable (except)

/-- Where a unit of work stands: the row locks it has and waits for, its content, and the rows it
has read. -/
structure Standing where
  held : Set RowGuard
  awaited : Set RowGuard
  work : UnitOfWork
  reads : List Account

namespace Standing

/-- What holds of a unit of work at any time. -/
structure Valid (standing : Standing) : Prop where
  ids : standing.work.held.ids = standing.work.guards.map (·.account)
  guarded : ∀ guard ∈ standing.work.guards, guard ∈ standing.held
  ascending : (standing.work.guards.map (·.account)).Pairwise (fun a b => a.value < b.value)
  one : ∀ first ∈ standing.awaited, ∀ second ∈ standing.awaited, first = second
  above : ∀ waited ∈ standing.awaited, ∀ guard ∈ standing.held,
    guard.account.value < waited.account.value
  locked : ∀ write ∈ standing.work.writes, write.account.id ∈ standing.work.held.ids
  read : ∀ row ∈ standing.reads, row.id ∈ standing.work.held.ids

/-- Between two operations a unit of work waits for nothing and has the locks of its guards. -/
structure Resting (standing : Standing) : Prop where
  awaited : standing.awaited = ∅
  held : standing.held = {guard | guard ∈ standing.work.guards}

/-- Where a unit of work stands that has not been started or has ended. -/
def bare : Standing := ⟨∅, ∅, UnitOfWork.empty, []⟩

/-- Where an operation leaves its unit of work. -/
def Finished (request : UnitRequest) (standing : Standing) : Prop :=
  if request.isLast then standing = bare else standing.Resting

def lockRule (unit : UnitId) : (request : LockRequest) → Standing →
    (request.Answer → Standing → Prop) → Prop
  | .enter owner account, standing, result =>
    owner = unit.number ∧ standing.awaited = ∅ ∧
      (∀ guard ∈ standing.held, guard.account.value < account.value) ∧
      ∀ ticket : Nat, (∀ guard ∈ standing.held, guard.ticket ≠ ticket) →
        result ticket { standing with awaited := {⟨account, ticket⟩} }
  | .await ticket _, standing, result =>
    ∃ account, standing.awaited = {⟨account, ticket⟩} ∧
      result true { standing with held := insert ⟨account, ticket⟩ standing.held, awaited := ∅ } ∧
      result false { standing with awaited := ∅ }
  | .leave ticket, standing, result =>
    (∃ guard, (guard ∈ standing.held ∨ guard ∈ standing.awaited) ∧ guard.ticket = ticket) ∧
      (∀ guard ∈ standing.work.guards, guard.ticket ≠ ticket) ∧
      result () { standing with held := except standing.held ticket
                                awaited := except standing.awaited ticket }
  | .prune _, standing, result => result () standing

def storeRule (unit : UnitId) : (request : StoreRequest) → Standing →
    (request.Answer → Standing → Prop) → Prop
  | .startUnit, _, _ => False
  | .permit own order, standing, result =>
    own = unit ∧ result (standing.work.held.permit order) standing
  | .hold own guards, standing, result =>
    own = unit ∧ (∀ guard ∈ guards, guard ∈ standing.held) ∧
      ((standing.work.guards ++ guards).map (·.account)).Pairwise
        (fun a b => a.value < b.value) ∧
      result () { standing with work := standing.work.hold guards }
  | .rows own order, standing, result =>
    own = unit ∧ (∀ id ∈ order.ids, id ∈ standing.work.held.ids) ∧
      ∀ tables : Tables, tables.Keyed → result (standing.work.rows tables order)
        { standing with reads := standing.reads ++ standing.work.readRows tables order }
  | .insert own account, standing, result =>
    own = unit ∧ result () { standing with work := standing.work.insert account }
  | .save own account, standing, result =>
    own = unit ∧ result (standing.work.save account).1
      { standing with work := (standing.work.save account).2 }
  | .stage own entry, standing, result =>
    own = unit ∧ result () { standing with work := standing.work.stage entry }
  | .apply own, standing, result =>
    own = unit ∧ ∀ outcome : Except LedgerError Unit, result outcome standing
  | .endUnit own, standing, result =>
    own = unit ∧ result standing.work.guards
      { standing with work := UnitOfWork.empty, reads := [] }
  | .table _, _, _ => False

/-- What a unit of work may ask for, and what it knows of itself after the answer. -/
def rule (unit : UnitId) : RequestRule memory Standing
  | .lock request, standing, result => lockRule unit request standing result
  | .store request, standing, result => storeRule unit request standing result

theorem rule_monotone (unit : UnitId) : (rule unit).Monotone := by
  rintro (request | request) standing weak strong weaker
  · cases request with
    | enter owner account =>
      rintro ⟨own, nothing, above, after⟩
      exact ⟨own, nothing, above, fun ticket new => weaker _ _ (after ticket new)⟩
    | await ticket timeoutMs =>
      rintro ⟨account, waits, served, late⟩
      exact ⟨account, waits, weaker _ _ served, weaker _ _ late⟩
    | leave ticket =>
      rintro ⟨own, unguarded, after⟩
      exact ⟨own, unguarded, weaker _ _ after⟩
    | prune account => exact weaker _ _
  · cases request with
    | startUnit => exact id
    | permit own order => exact And.imp_right (weaker _ _)
    | hold own guards =>
      rintro ⟨own, held, ascending, after⟩
      exact ⟨own, held, ascending, weaker _ _ after⟩
    | rows own order =>
      rintro ⟨own, locked, after⟩
      exact ⟨own, locked, fun tables keyed => weaker _ _ (after tables keyed)⟩
    | insert own account => exact And.imp_right (weaker _ _)
    | save own account => exact And.imp_right (weaker _ _)
    | stage own entry => exact And.imp_right (weaker _ _)
    | apply own => exact And.imp_right fun after outcome => weaker _ _ (after outcome)
    | endUnit own => exact And.imp_right (weaker _ _)
    | table request => exact id

variable {unit : UnitId} {standing : Standing}

/-! ## Giving locks back -/

/-- The locks of a list on top of others. -/
def plus (others : Set RowGuard) (guards : List RowGuard) : Set RowGuard :=
  {guard | guard ∈ others ∨ guard ∈ guards}

/-- Different locks have different tickets, and none of a list is among the others. -/
structure Apart (others : Set RowGuard) (guards : List RowGuard) : Prop where
  tickets : (guards.map (·.ticket)).Nodup
  others : ∀ guard ∈ others, guard.ticket ∉ guards.map (·.ticket)

theorem Apart.tail {others : Set RowGuard} {guard : RowGuard} {rest : List RowGuard}
    (apart : Apart others (guard :: rest)) : Apart others rest :=
  ⟨(List.nodup_cons.mp apart.tickets).2,
    fun other member inside => apart.others other member (List.mem_cons_of_mem _ inside)⟩

theorem except_plus {others : Set RowGuard} {guard : RowGuard} {rest : List RowGuard}
    (apart : Apart others (guard :: rest)) :
    except (plus others (guard :: rest)) guard.ticket = plus others rest := by
  have absent := (List.nodup_cons.mp apart.tickets).1
  ext other
  simp only [except, plus, Set.mem_ofPred_eq, List.mem_cons]
  constructor
  · rintro ⟨member | rfl | member, differs⟩
    · exact Or.inl member
    · exact absurd rfl differs
    · exact Or.inr member
  · rintro (member | member)
    · refine ⟨Or.inl member, fun same => apart.others other member ?_⟩
      simp [same]
    · exact ⟨Or.inr (Or.inr member),
        fun same => absent (List.mem_map.mpr ⟨other, member, same⟩)⟩

theorem ensures_locking (program : Program lockInterface α)
    (result : α → Standing → Prop) :
    (UnitId.locking program).Ensures (rule unit) standing result =
      program.Ensures (lockRule unit) standing result := by
  induction program generalizing standing with
  | done value => rfl
  | ask request resume ih =>
    show lockRule unit request standing _ = lockRule unit request standing _
    congr 1
    funext answer later
    exact ih answer

theorem ensures_releaseAll (others : Set RowGuard) (guards : List RowGuard)
    {result : Unit → Standing → Prop} (nothing : standing.awaited = ∅)
    (held : standing.held = plus others guards) (apart : Apart others guards)
    (unguarded : ∀ guard ∈ standing.work.guards, guard.ticket ∉ guards.map (·.ticket))
    (after : result () { standing with held := others, awaited := ∅ }) :
    (RowGuard.releaseAll guards).Ensures (lockRule unit) standing result := by
  induction guards generalizing standing with
  | nil =>
    have none : plus others [] = others := by ext; simp [plus]
    rw [none] at held
    show result () standing
    rw [← held, ← nothing] at after
    exact after
  | cons guard rest ih =>
    refine ⟨⟨guard, Or.inl (by rw [held]; simp [plus]), rfl⟩,
      fun own member same => unguarded own member (by simp [same]), ?_⟩
    have nothingLeft : except standing.awaited guard.ticket = ∅ := by
      rw [nothing]; ext; simp [except]
    exact ih nothingLeft (by rw [← except_plus apart, ← held]) apart.tail
      (fun own member inside => unguarded own member (List.mem_cons_of_mem _ inside)) after

/-! ## Taking locks -/

theorem Apart.concat {others : Set RowGuard} {taken : List RowGuard} {guard : RowGuard}
    (apart : Apart others taken)
    (new : ∀ other ∈ plus others taken, other.ticket ≠ guard.ticket) :
    Apart others (taken ++ [guard]) := by
  constructor
  · rw [List.map_append, List.nodup_append]
    refine ⟨apart.tickets, by simp, ?_⟩
    intro number member other single same
    obtain ⟨known, present, rfl⟩ := List.mem_map.mp member
    simp only [List.map_cons, List.map_nil, List.mem_singleton] at single
    exact new known (Or.inr present) (same.trans single)
  · intro known member inside
    rw [List.map_append, List.mem_append] at inside
    rcases inside with inside | inside
    · exact apart.others known member inside
    · simp only [List.map_cons, List.map_nil, List.mem_singleton] at inside
      exact new known (Or.inl member) inside

theorem insert_plus {others : Set RowGuard} {taken : List RowGuard} {guard : RowGuard} :
    insert guard (plus others taken) = plus others (taken ++ [guard]) := by
  ext other
  simp only [plus, Set.mem_insert_iff, Set.mem_ofPred_eq, List.mem_append, List.mem_singleton]
  tauto

theorem ensures_acquireAll (others : Set RowGuard) (timeoutMs : Nat) (ids : List Uuid)
    {taken : List RowGuard} {result : Except LedgerError (List RowGuard) → Standing → Prop}
    (nothing : standing.awaited = ∅) (held : standing.held = plus others taken)
    (apart : Apart others taken) (ascending : ids.Pairwise (fun a b => a.value < b.value))
    (above : ∀ guard ∈ standing.held, ∀ id ∈ ids, guard.account.value < id.value)
    (unguarded : ∀ guard ∈ standing.work.guards, guard ∈ others)
    (success : ∀ more : List RowGuard, more.map (·.account) = ids →
      Apart others (taken ++ more) →
      result (.ok (taken ++ more))
        { standing with held := plus others (taken ++ more), awaited := ∅ })
    (failure : ∀ account waitedMs, result (.error (.lockTimeout account waitedMs))
      { standing with held := others, awaited := ∅ }) :
    (RowGuard.acquireAll unit.number timeoutMs taken ids).Ensures (lockRule unit) standing
      result := by
  induction ids generalizing standing taken with
  | nil =>
    have done := success [] rfl (by simpa using apart)
    simp only [List.append_nil, ← held, ← nothing] at done
    exact done
  | cons id rest ih =>
    have below := (List.pairwise_cons.mp ascending).1
    refine ⟨rfl, nothing, fun guard member => above guard member id List.mem_cons_self,
      fun ticket new => ⟨id, rfl, ?_, ?_⟩⟩
    · -- the row is locked
      have grown : insert ⟨id, ticket⟩ standing.held = plus others (taken ++ [⟨id, ticket⟩]) := by
        rw [held]
        exact insert_plus
      have stillApart : Apart others (taken ++ [⟨id, ticket⟩]) := by
        apply apart.concat
        rw [← held]
        exact new
      refine ih rfl grown stillApart (List.pairwise_cons.mp ascending).2 ?_ unguarded ?_ failure
      · intro guard member other inside
        rcases Set.mem_insert_iff.mp member with rfl | member
        · exact below other inside
        · exact above guard member other (List.mem_cons_of_mem _ inside)
      · intro more accounts apartMore
        simpa using success (⟨id, ticket⟩ :: more) (by simp [accounts]) (by simpa using apartMore)
    · -- waiting took too long
      show (RowGuard.releaseAll taken).bind _ |>.Ensures _ _ _
      rw [Program.ensures_bind]
      refine ensures_releaseAll others taken rfl held apart ?_ ?_
      · intro guard member inside
        exact apart.others guard (unguarded guard member) inside
      · exact failure id timeoutMs

end Standing

end AccountLedger
