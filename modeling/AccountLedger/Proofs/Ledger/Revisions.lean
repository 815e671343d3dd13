import AccountLedger.Proofs.Ledger.Rows

/-!
Revisions of stored accounts. Whoever writes an account, a call of the ledger service or somebody
past all locks, stores it in a higher revision than before, so that no two versions of an account
share one. A write raises a revision by one at most, or to that of the account that was written, so 64
bits are enough for any number of writes that can be made.
-/

namespace AccountLedger

namespace Account

/-- What may be stored later in the place of an account: itself, or a later version. -/
def Precedes (row after : Account) : Prop := after = row ∨ row.revision < after.revision

theorem Precedes.trans {row between after : Account} (first : row.Precedes between)
    (second : between.Precedes after) : row.Precedes after := by
  rcases first with rfl | first
  · exact second
  · rcases second with rfl | second
    · exact Or.inr first
    · exact Or.inr (Int.lt_trans first second)

end Account

namespace Office

variable {office next : Office} {id : Uuid} {row : Account}

theorem Commits.altered {call : Call} {errand : Errand} {reply : ServiceReply}
    (commits : office.Commits call errand reply) (fits : office.tables.Fits errand.reads)
    (accepted : errand.work.Accepted office.tables) {after : Account}
    (member : after ∈ errand.work.rowsPut)
    (stored : office.tables.accounts.find? after.id = some row) : row.Altered after := by
  obtain ⟨_, _, _, movement, _⟩ := commits.change.movement fits accepted
  rcases movement.put after member with ⟨absent, _⟩ | ⟨before, present, altered⟩
  · cases stored.symm.trans absent
  · cases stored.symm.trans present
    exact altered

/-- A step leaves a stored account, or stores a later version of it. -/
theorem Effect.precedes (effect : office.Effect next)
    (stored : office.tables.accounts.find? id = some row) :
    ∃ after, next.tables.accounts.find? id = some after ∧ row.Precedes after := by
  cases effect with
  | quiet _ alike => exact ⟨row, alike.accounts ▸ stored, Or.inl rfl⟩
  | @committed _ _ errand _ _ _ _ _ commits fits accepted _ _ tables =>
    rw [tables]
    rcases office.tables.accounts.putAll_find? Account.id errand.work.rowsPut id with
      ⟨_, found⟩ | ⟨after, member, rfl, found⟩
    · exact ⟨row, found.trans stored, Or.inl rfl⟩
    · have altered := commits.altered fits accepted member stored
      refine ⟨after, found, Or.inr ?_⟩
      rw [altered.revision]
      exact Int.lt_succ row.revision
  | overwritten account _ tables =>
    rw [tables, Tables.overwriteAccount_find?]
    by_cases same : account.id = id
    · subst same
      rw [if_pos rfl]
      exact ⟨_, rfl, Or.inr (Tables.raisedRevision_gt stored)⟩
    · rw [if_neg same]
      exact ⟨row, stored, Or.inl rfl⟩

/-- Of two versions of an account that are not the same, the later one has the higher revision. -/
theorem Reachable.precedes (reachable : office.Reachable)
    (run : Relation.ReflTransGen Step office next)
    (stored : office.tables.accounts.find? id = some row) :
    ∃ after, next.tables.accounts.find? id = some after ∧ row.Precedes after := by
  induction run with
  | refl => exact ⟨row, stored, Or.inl rfl⟩
  | tail before step ih =>
    obtain ⟨between, there, first⟩ := ih
    have effect := (step_sound (Reachable.sound (reachable.trans before)) step).2.2
    obtain ⟨after, last, second⟩ := effect.precedes there
    exact ⟨after, last, first.trans second⟩

/-- What is written past all locks is stored in a higher revision than what was there. -/
theorem Effect.overwritten_revision (effect : office.Effect next) {account : Account}
    (log : next.pool.log = office.pool.log ++ [.overwritten account]) :
    ∃ after, next.tables.accounts.find? account.id = some after ∧
      ∀ row, office.tables.accounts.find? account.id = some row →
        row.revision < after.revision := by
  rcases effect with ⟨same, _⟩ | ⟨_, _, _, _, _, _, _, other, _⟩ | ⟨written, other, tables⟩
  · have absurdly := List.append_cancel_left
      ((List.append_nil office.pool.log).trans (same.symm.trans log))
    cases absurdly
  · have absurdly := List.append_cancel_left (other.symm.trans log)
    cases absurdly
  · cases List.append_cancel_left (other.symm.trans log)
    rw [tables, Tables.overwriteAccount_find?, if_pos rfl]
    exact ⟨_, rfl, fun row stored => Tables.raisedRevision_gt stored⟩

/-! ## How far they go -/

/-- Whatever was written past all locks had a revision up to this one. -/
def OverwritesUpTo (office : Office) (most : Nat) : Prop :=
  ∀ account : Account, .overwritten account ∈ office.pool.log →
    0 ≤ account.revision ∧ account.revision ≤ most

/-- No stored account has a revision beyond this one and the number of writes since. -/
def RevisedUpTo (office : Office) (most : Nat) : Prop :=
  ∀ id row, office.tables.accounts.find? id = some row →
    0 ≤ row.revision ∧ row.revision ≤ most + office.pool.log.length

/-- A write raises the revision of an account by one at most, or to that of what is written. -/
theorem Effect.revisedUpTo {most : Nat} (effect : office.Effect next)
    (overwrites : next.OverwritesUpTo most) (before : office.RevisedUpTo most) :
    next.RevisedUpTo most := by
  intro id row stored
  cases effect with
  | quiet log alike =>
    rw [log]
    exact before id row (alike.accounts ▸ stored)
  | @committed _ _ errand _ _ _ _ _ commits fits accepted _ log tables =>
    obtain ⟨_, _, _, movement, _⟩ := commits.change.movement fits accepted
    have longer : next.pool.log.length = office.pool.log.length + 1 := by
      rw [log, List.length_append, List.length_singleton]
    rw [tables] at stored
    rcases office.tables.accounts.putAll_find? Account.id errand.work.rowsPut id with
      ⟨_, kept⟩ | ⟨after, member, rfl, put⟩
    · have old := before id row (kept.symm.trans stored)
      omega
    · cases put.symm.trans stored
      rcases movement.put row member with ⟨_, new⟩ | ⟨earlier, present, altered⟩
      · have first : row.revision = 0 := by
          cases new
          rfl
        omega
      · have old := before row.id earlier present
        have raised := altered.revision
        omega
  | overwritten account log tables =>
    have longer : next.pool.log.length = office.pool.log.length + 1 := by
      rw [log, List.length_append, List.length_singleton]
    have written := overwrites account (log ▸ List.mem_append_right _ List.mem_cons_self)
    rw [tables, Tables.overwriteAccount_find?] at stored
    by_cases same : account.id = id
    · rw [if_pos same] at stored
      cases stored
      rcases Tables.raisedRevision_cases office.tables account with
        raised | ⟨current, present, raised⟩
      · show 0 ≤ office.tables.raisedRevision account ∧ office.tables.raisedRevision account ≤ _
        omega
      · have old := before account.id current present
        show 0 ≤ office.tables.raisedRevision account ∧ office.tables.raisedRevision account ≤ _
        omega
    · rw [if_neg same] at stored
      have old := before id row stored
      omega

theorem Reachable.revisedUpTo {most : Nat} (reachable : office.Reachable)
    (overwrites : office.OverwritesUpTo most) : office.RevisedUpTo most := by
  induction reachable with
  | refl =>
    intro id row absurdly
    cases absurdly
  | @tail before after reachable step ih =>
    obtain ⟨⟨⟨more, log⟩, _⟩, _, effect⟩ := step_sound (Reachable.sound reachable) step
    have earlier : before.OverwritesUpTo most := fun account inside =>
      overwrites account (log ▸ List.mem_append_left _ inside)
    exact effect.revisedUpTo overwrites (ih earlier)

/-- As long as there were not more writes than 64 bits can count, these are enough for the revision
of every stored account, and for that of its next version. -/
theorem Reachable.revision_fits {most : Nat} (reachable : office.Reachable)
    (overwrites : office.OverwritesUpTo most)
    (few : most + office.pool.log.length + 1 < 2 ^ 63)
    (stored : office.tables.accounts.find? id = some row) :
    (Int64.ofInt row.revision).toInt = row.revision ∧
      (Int64.ofInt row.stored.revision).toInt = row.stored.revision := by
  obtain ⟨positive, limited⟩ := reachable.revisedUpTo overwrites id row stored
  have next : row.stored.revision = row.revision + 1 := rfl
  constructor
  · exact Int64.toInt_ofInt_of_le (by omega) (by omega)
  · exact Int64.toInt_ofInt_of_le (by omega) (by omega)

end Office

end AccountLedger
