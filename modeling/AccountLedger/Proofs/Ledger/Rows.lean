import AccountLedger.Proofs.Ledger.Invariant
import AccountLedger.Proofs.Ledger.Movement
import AccountLedger.Proofs.Ledger.Schedule

/-!
What becomes of the stored accounts as calls of the ledger service follow each other: an account
keeps its terms, its balance stays above its floor, and once it is closed nothing of it changes any
more.
-/

namespace AccountLedger

namespace Office

variable {office next : Office}

/-- A step leaves the accounts and the outbox, or stores a movement and the entry of its event. -/
inductive Moves (office next : Office) : Prop
  | still : next.tables.Alike office.tables → Moves office next
  | moved {rows event entry staged id call} : Movement office.tables rows event →
    next.tables.accounts = office.tables.accounts.putAll Account.id rows →
    next.tables.outbox =
      office.tables.outbox.put entry (OutboxEntry.ofEvent entry event staged) →
    (office.drawn.Nodup → office.tables.outbox.find? entry = none) →
    office.calls id = some call → event.time ∈ call.tape.times → Moves office next

theorem Sound.moves (sound : office.Sound) (step : office.Step next)
    (untampered : ∀ account, .overwritten account ∉ next.pool.log) : office.Moves next := by
  rcases (step_sound sound step).2.2 with
    ⟨_, alike⟩ | ⟨known, own, waiting, commits, fits, accepted, fresh, log, tables, _⟩ |
    ⟨account, log, _⟩
  · exact .still alike
  · obtain ⟨entry, event, staged, movement, entries, time⟩ :=
      commits.change.movement fits accepted
    refine @Moves.moved office next _ event entry staged _ _ movement ?_ ?_ (fun nodup => ?_) known
      (commits.tape ▸ time)
    · rw [tables]
      rfl
    · rw [tables]
      show office.tables.outbox.putAll OutboxEntry.id _ = _
      rw [entries]
      rfl
    · exact fresh nodup _ (entries ▸ List.mem_cons_self)
  · refine absurd ?_ (untampered account)
    rw [log]
    exact List.mem_append_right _ List.mem_cons_self

/-- A stored account is still stored after a step, with the same terms. -/
structure Keeps (row after : Account) : Prop where
  terms : row.SameTerms after
  revision : row.revision ≤ after.revision
  closed : row.status = .closed → after = row

theorem Keeps.refl (row : Account) : Keeps row row := ⟨.refl row, Int.le_refl _, fun _ => rfl⟩

theorem Keeps.trans {row between after : Account} (first : Keeps row between)
    (second : Keeps between after) : Keeps row after := by
  refine ⟨first.terms.trans second.terms, first.revision.trans second.revision, fun closed => ?_⟩
  have same := first.closed closed
  rw [second.closed (same ▸ closed), same]

theorem keeps_of_altered {row after : Account} (altered : row.Altered after) : Keeps row after := by
  have counted := altered.revision
  obtain ⟨between, moved, rfl⟩ := altered.moved
  refine ⟨⟨moved.terms.id, moved.terms.owner, moved.terms.currency, moved.terms.overdraftLimit,
    moved.terms.createdAt⟩, by omega, fun closed => ?_⟩
  cases moved.active.symm.trans closed

theorem Moves.kept (moves : office.Moves next) {id : Uuid} {row : Account}
    (stored : office.tables.accounts.find? id = some row) :
    ∃ after, next.tables.accounts.find? id = some after ∧ Keeps row after := by
  cases moves with
  | still alike => exact ⟨row, alike.accounts ▸ stored, .refl row⟩
  | moved movement accounts =>
    rw [accounts]
    rcases office.tables.accounts.putAll_find? Account.id _ id with
      ⟨_, found⟩ | ⟨after, member, rfl, found⟩
    · exact ⟨row, found.trans stored, .refl row⟩
    · refine ⟨after, found, ?_⟩
      rcases movement.put after member with ⟨absent, _⟩ | ⟨before, present, altered⟩
      · cases stored.symm.trans absent
      · cases stored.symm.trans present
        exact keeps_of_altered altered

theorem Moves.valid (moves : office.Moves next)
    (valid : ∀ id row, office.tables.accounts.find? id = some row → row.Valid) :
    ∀ id row, next.tables.accounts.find? id = some row → row.Valid := by
  intro id row stored
  cases moves with
  | still alike => exact valid id row (alike.accounts ▸ stored)
  | moved movement accounts =>
    rw [accounts] at stored
    rcases office.tables.accounts.putAll_find? Account.id _ id with
      ⟨_, found⟩ | ⟨after, member, rfl, found⟩
    · exact valid id row (found.symm.trans stored)
    · cases found.symm.trans stored
      rcases movement.put row member with ⟨_, new⟩ | ⟨before, present, altered⟩
      · exact new.valid
      · exact altered.valid (valid _ before present)

theorem Extends.untampered (extended : office.Extends next)
    (untampered : ∀ account, .overwritten account ∉ next.pool.log) (account : Account) :
    .overwritten account ∉ office.pool.log := by
  obtain ⟨more, log⟩ := extended.log
  rw [log] at untampered
  exact fun inside => untampered account (List.mem_append_left _ inside)

theorem Reachable.rows_valid (reachable : office.Reachable)
    (untampered : ∀ account, .overwritten account ∉ office.pool.log) :
    ∀ id row, office.tables.accounts.find? id = some row → row.Valid := by
  induction reachable with
  | refl =>
    intro id row absurdly
    cases absurdly
  | tail before step ih =>
    have sound := Reachable.sound before
    have extended := (step_sound sound step).1
    exact (sound.moves step untampered).valid (ih (extended.untampered untampered))

theorem Reachable.rows_kept (reachable : office.Reachable)
    (run : Relation.ReflTransGen Step office next)
    (untampered : ∀ account, .overwritten account ∉ next.pool.log) {id : Uuid} {row : Account}
    (stored : office.tables.accounts.find? id = some row) :
    ∃ after, next.tables.accounts.find? id = some after ∧ Keeps row after := by
  induction run with
  | refl => exact ⟨row, stored, .refl row⟩
  | tail before step ih =>
    have sound := Reachable.sound (reachable.trans before)
    have extended := (step_sound sound step).1
    obtain ⟨between, there, first⟩ := ih (extended.untampered untampered)
    obtain ⟨after, last, second⟩ := (sound.moves step untampered).kept there
    exact ⟨after, last, first.trans second⟩

/-- Whatever calls of the ledger service are made and however they are interleaved, every stored
account is under its own id, has an overdraft limit that is not negative, a balance above its floor,
a currency of three capital letters, and no balance once it is closed; from then on it stays as it
is, and before that it keeps its terms and its revision does not fall. -/
theorem Reachable.rows_sound (reachable : office.Reachable)
    (run : Relation.ReflTransGen Step office next)
    (untampered : ∀ account, .overwritten account ∉ next.pool.log) :
    (∀ id row, next.tables.accounts.find? id = some row → row.id = id ∧
      0 ≤ row.overdraftLimit.toRat ∧ -row.overdraftLimit.toRat ≤ row.balance.value.toRat ∧
      (row.currency.toList.length = 3 ∧ ∀ c ∈ row.currency.toList, c.isUpper = true) ∧
      (row.status = .closed → row.balance.value.toRat = 0)) ∧
    ∀ id row, office.tables.accounts.find? id = some row →
      ∃ after, next.tables.accounts.find? id = some after ∧ after.id = row.id ∧
        after.owner = row.owner ∧ after.currency = row.currency ∧
        after.overdraftLimit = row.overdraftLimit ∧ after.createdAt = row.createdAt ∧
        row.revision ≤ after.revision ∧ (row.status = .closed → after = row) := by
  have there : next.Reachable := reachable.trans run
  refine ⟨fun id row stored => ?_, fun id row stored => ?_⟩
  · have valid := there.rows_valid untampered id row stored
    exact ⟨there.sound.pool.keyed id row stored, valid.overdraftLimit, valid.balance, valid.currency,
      valid.closed⟩
  · obtain ⟨after, found, keeps⟩ := reachable.rows_kept run untampered stored
    exact ⟨after, found, keeps.terms.id, keeps.terms.owner, keeps.terms.currency,
      keeps.terms.overdraftLimit, keeps.terms.createdAt, keeps.revision, keeps.closed⟩

/-- An account keeps its terms while two deposits into it are made at once. -/
theorem deposits_kept : ∃ (office next : Office) (row after : Account), office.Reachable ∧
    Relation.ReflTransGen Step office next ∧ (∀ account, .overwritten account ∉ next.pool.log) ∧
    office.tables.accounts.find? row.id = some row ∧ row.revision = 0 ∧
    next.tables.accounts.find? row.id = some after ∧ after.revision = 2 ∧
    after.owner = row.owner ∧ 0 ≤ after.overdraftLimit.toRat ∧
    -after.overdraftLimit.toRat ≤ after.balance.value.toRat := by
  let account := Account.opened (.ofNat 1) Uuid.nil "USD" Decimal.zero ⟨0, 0⟩
  have reachable : opened.Reachable := Reachable.scheduled .refl opening
  have run : Relation.ReflTransGen Step opened deposited := by
    rw [deposited, scheduled_append]
    exact steps_scheduled opened deposits
  have before : opened.tables.accounts.find? (.ofNat 1) = some account := by decide +kernel
  obtain ⟨sound, kept⟩ := reachable.rows_sound run deposited_untampered
  obtain ⟨after, found, _, owner, _⟩ := kept _ _ before
  cases deposited_row.symm.trans found
  obtain ⟨_, limit, floor, _⟩ := sound _ _ found
  exact ⟨_, _, account, paidIn, reachable, run, deposited_untampered, before, rfl, found, rfl, owner,
    limit, floor⟩

end Office

end AccountLedger
