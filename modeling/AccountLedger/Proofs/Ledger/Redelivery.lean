import AccountLedger.Proofs.Ledger.Rows
import AccountLedger.Proofs.Text.Uuid

/-!
What consumers can tell from the keys of outbox entries. Two entries have one key just if they are
about one account and one kind of event. Accounts are opened and closed once, so the key of such an
event is that of no other; deposits, withdrawals and transfers share theirs with all others of the
account.
-/

namespace AccountLedger

namespace OutboxEntry

/-- An identifier has a fixed length, so the key can be taken apart. -/
theorem dedupKey_eq_iff {one two : OutboxEntry} :
    one.dedupKey = two.dedupKey ↔
      one.aggregate = two.aggregate ∧ one.eventKind = two.eventKind := by
  have written : ∀ entry : OutboxEntry, entry.dedupKey =
      String.ofList (entry.aggregate.toText ++ ':' :: entry.eventKind.toList) := by
    intro entry
    apply String.toList_injective
    simp [dedupKey, toString]
  rw [written, written, String.ofList_inj]
  constructor
  · intro same
    obtain ⟨aggregate, kind⟩ := List.append_inj same
      ((Uuid.toText_length _).trans (Uuid.toText_length _).symm)
    exact ⟨Uuid.toText_injective aggregate, String.toList_injective (List.cons.inj kind).2⟩
  · rintro ⟨aggregate, kind⟩
    rw [aggregate, kind]

end OutboxEntry

namespace LedgerEvent

/-- The kinds of events that happen to an account once. -/
def Lifecycle (kind : String) : Prop := kind = "AccountOpened" ∨ kind = "AccountClosed"

end LedgerEvent

open LedgerEvent (Lifecycle)

/-- The accounts bear out that this has happened to one of them. -/
def Tables.Shows (tables : Tables) (kind : String) (account : Uuid) : Prop :=
  ∃ row, tables.accounts.find? account = some row ∧
    (kind = "AccountClosed" → row.status = .closed)

/-- What happens to an account once has not happened to it before, and then it has. -/
theorem Movement.happens_once {tables after : Tables} {rows : List Account} {event : LedgerEvent}
    (movement : Movement tables rows event)
    (accounts : after.accounts = tables.accounts.putAll Account.id rows)
    (once : Lifecycle event.kind) :
    ¬ tables.Shows event.kind event.aggregate ∧ after.Shows event.kind event.aggregate := by
  cases movement with
  | @opened id owner currency code limit created new =>
    refine ⟨?_, Account.opened id owner code limit created, ?_, ?_⟩
    · rintro ⟨row, stored, _⟩
      cases new.symm.trans stored
    · rw [accounts]
      exact (Table.find?_put _ _ _ _).trans (if_pos rfl)
    · intro same
      simp [LedgerEvent.kind] at same
  | @closed row gone now stored done =>
    have ended : row.status = .active ∧ gone.stored.status = .closed ∧ gone.stored.id = row.id := by
      obtain ⟨active, _, rfl⟩ := Account.close_ok.mp done
      exact ⟨active, rfl, rfl⟩
    obtain ⟨active, closed, same⟩ := ended
    refine ⟨?_, gone.stored, ?_, fun _ => closed⟩
    · rintro ⟨other, present, gone⟩
      cases stored.symm.trans present
      cases active.symm.trans (gone rfl)
    · rw [accounts]
      exact (Table.find?_put _ _ _ _).trans (if_pos same)
  | deposited => simp [Lifecycle, LedgerEvent.kind] at once
  | withdrawn => simp [Lifecycle, LedgerEvent.kind] at once
  | transferred => simp [Lifecycle, LedgerEvent.kind] at once

namespace Office

variable {office next : Office}

/-- What has happened to an account once is told by one entry, and the accounts bear it out. -/
structure Announced (office : Office) : Prop where
  shown : ∀ id entry, office.tables.outbox.find? id = some entry → Lifecycle entry.eventKind →
    office.tables.Shows entry.eventKind entry.aggregate
  once : ∀ first second one two, office.tables.outbox.find? first = some one →
    office.tables.outbox.find? second = some two → one.aggregate = two.aggregate →
    one.eventKind = two.eventKind → Lifecycle one.eventKind → first = second

theorem start_announced : start.Announced := by
  refine ⟨?_, ?_⟩
  · intro id entry absurdly
    cases absurdly
  · intro first second one two absurdly
    cases absurdly

theorem Moves.shows (moves : office.Moves next) {kind : String} {account : Uuid}
    (shows : office.tables.Shows kind account) : next.tables.Shows kind account := by
  obtain ⟨row, stored, closed⟩ := shows
  obtain ⟨after, there, keeps⟩ := moves.kept stored
  refine ⟨after, there, fun same => ?_⟩
  rw [keeps.closed (closed same)]
  exact closed same

/-- A step adds at most one entry, and none for what was told before. -/
theorem Moves.announced (moves : office.Moves next) (announced : office.Announced) :
    next.Announced := by
  have kept := @moves.shows
  cases moves with
  | still alike =>
    have twin : ∀ {id entry}, next.tables.outbox.find? id = some entry →
        ∃ before, office.tables.outbox.find? id = some before ∧
          before.aggregate = entry.aggregate ∧ before.eventKind = entry.eventKind := by
      intro id entry found
      obtain ⟨before, present, same⟩ := alike.entry found
      exact ⟨before, present, (OutboxEntry.mk.inj same).2.1, (OutboxEntry.mk.inj same).2.2.1⟩
    refine ⟨fun id entry found lifecycle => ?_, ?_⟩
    · obtain ⟨before, present, aggregate, kind⟩ := twin found
      rw [← aggregate, ← kind]
      rw [← kind] at lifecycle
      exact kept (announced.shown id before present lifecycle)
    · intro first second one two found alsoFound aggregate kind lifecycle
      obtain ⟨before, present, sameAggregate, sameKind⟩ := twin found
      obtain ⟨other, alsoPresent, otherAggregate, otherKind⟩ := twin alsoFound
      refine announced.once first second before other present alsoPresent ?_ ?_
        (sameKind ▸ lifecycle)
      · rw [sameAggregate, aggregate, otherAggregate]
      · rw [sameKind, kind, otherKind]
  | @moved rows event entry staged id call movement accounts outbox new known time =>
    -- an entry is the one of this movement, or was there before
    have split : ∀ {id found}, next.tables.outbox.find? id = some found →
        id = entry ∧ found.aggregate = event.aggregate ∧ found.eventKind = event.kind ∨
          office.tables.outbox.find? id = some found := by
      intro id found here
      rw [outbox, Table.find?_put] at here
      split at here
      · next same =>
        cases here
        exact Or.inl ⟨same.symm, rfl, rfl⟩
      · exact Or.inr here
    -- and what this movement tells was not told before
    have untold : ∀ {id found}, office.tables.outbox.find? id = some found →
        found.aggregate = event.aggregate → found.eventKind = event.kind →
        ¬ Lifecycle event.kind := by
      intro id found present aggregate kind lifecycle
      have shown := announced.shown id found present (kind ▸ lifecycle)
      rw [aggregate, kind] at shown
      exact (movement.happens_once accounts lifecycle).1 shown
    refine ⟨fun id found here lifecycle => ?_, ?_⟩
    · rcases split here with ⟨_, aggregate, kind⟩ | before
      · rw [aggregate, kind]
        exact (movement.happens_once accounts (kind ▸ lifecycle)).2
      · exact kept (announced.shown id found before lifecycle)
    · intro first second one two found alsoFound aggregate kind lifecycle
      rcases split found with ⟨isNew, mine, ownKind⟩ | before
      · rcases split alsoFound with ⟨alsoNew, _⟩ | alsoBefore
        · rw [isNew, alsoNew]
        · exact absurd (ownKind ▸ lifecycle)
            (untold alsoBefore (aggregate ▸ mine) (kind ▸ ownKind))
      · rcases split alsoFound with ⟨_, theirs, theirKind⟩ | alsoBefore
        · refine absurd ?_ (untold before (aggregate.trans theirs) (kind.trans theirKind))
          rw [← theirKind, ← kind]
          exact lifecycle
        · exact announced.once first second one two before alsoBefore aggregate kind lifecycle

theorem Reachable.announced (reachable : office.Reachable)
    (untampered : ∀ account, .overwritten account ∉ office.pool.log) : office.Announced := by
  induction reachable with
  | refl => exact start_announced
  | tail before step ih =>
    have sound := Reachable.sound before
    have extended := (step_sound sound step).1
    exact (sound.moves step untampered).announced (ih (extended.untampered untampered))

/-- However calls of the ledger service and deliveries are interleaved, two stored entries have one
key just if they name one account and one kind of event. If that is an opening or a closing they are
one entry, so that whoever keeps one message for each key loses none of these events. -/
theorem Reachable.dedupKeys (reachable : office.Reachable)
    (untampered : ∀ account, .overwritten account ∉ office.pool.log)
    {first second : Uuid} {one two : OutboxEntry}
    (found : office.tables.outbox.find? first = some one)
    (alsoFound : office.tables.outbox.find? second = some two) :
    (one.dedupKey = two.dedupKey ↔
      one.aggregate = two.aggregate ∧ one.eventKind = two.eventKind) ∧
    (one.dedupKey = two.dedupKey →
      one.eventKind = "AccountOpened" ∨ one.eventKind = "AccountClosed" →
        first = second ∧ one = two) := by
  refine ⟨OutboxEntry.dedupKey_eq_iff, fun same lifecycle => ?_⟩
  obtain ⟨aggregate, kind⟩ := OutboxEntry.dedupKey_eq_iff.mp same
  obtain rfl := (reachable.announced untampered).once first second one two found alsoFound
    aggregate kind lifecycle
  exact ⟨rfl, Option.some.inj (found.symm.trans alsoFound)⟩

/-- Of an account that was opened and that two deposits were made into, these entries tell. -/
def announcements : List (Uuid × String) :=
  [(.ofNat 2, "AccountOpened"), (.ofNat 3, "FundsDeposited"), (.ofNat 4, "FundsDeposited")]

theorem deposited_entry {id : Uuid} {kind : String} (among : (id, kind) ∈ announcements) :
    ∃ entry, deposited.tables.outbox.find? id = some entry ∧ entry.id = id ∧
      entry.aggregate = .ofNat 1 ∧ entry.eventKind = kind := by
  have checked : announcements.all (fun one =>
      (deposited.tables.outbox.find? one.1).any fun entry =>
        entry.id == one.1 && entry.aggregate == .ofNat 1 && entry.eventKind == one.2) = true := by
    decide +kernel
  obtain ⟨entry, found, same⟩ :=
    (Option.any_eq_true _ _).mp (List.all_eq_true.mp checked _ among)
  simp only [Bool.and_eq_true, beq_iff_eq] at same
  exact ⟨entry, found, same.1.1, same.1.2, same.2⟩

/-- The key of an opening is not that of a deposit into the account. -/
theorem dedupKeys_opened : ∃ (office : Office) (opening deposit : OutboxEntry), office.Reachable ∧
    (∀ account, .overwritten account ∉ office.pool.log) ∧
    office.tables.outbox.find? opening.id = some opening ∧
    office.tables.outbox.find? deposit.id = some deposit ∧
    opening.aggregate = deposit.aggregate ∧ opening.dedupKey ≠ deposit.dedupKey := by
  obtain ⟨opening, found, isOpening, account, opens⟩ :=
    @deposited_entry (.ofNat 2) "AccountOpened" (by simp [announcements])
  obtain ⟨deposit, alsoFound, isDeposit, sameAccount, pays⟩ :=
    @deposited_entry (.ofNat 3) "FundsDeposited" (by simp [announcements])
  rw [← isOpening] at found
  rw [← isDeposit] at alsoFound
  refine ⟨deposited, opening, deposit, deposited_reachable, deposited_untampered, found, alsoFound,
    account.trans sameAccount.symm, fun same => ?_⟩
  have kinds :=
    ((deposited_reachable.dedupKeys deposited_untampered found alsoFound).1.mp same).2
  rw [opens, pays] at kinds
  simp at kinds

/-- Two deposits into one account share their key, and are not one entry. -/
theorem deposits_share_key : ¬ ∀ office : Office, office.Reachable → office.drawn.Nodup →
    (∀ account, .overwritten account ∉ office.pool.log) →
    ∀ first second one two, office.tables.outbox.find? first = some one →
      office.tables.outbox.find? second = some two → one.dedupKey = two.dedupKey → one = two := by
  intro claimed
  obtain ⟨one, found, isFirst, account, pays⟩ :=
    @deposited_entry (.ofNat 3) "FundsDeposited" (by simp [announcements])
  obtain ⟨two, alsoFound, isSecond, sameAccount, alsoPays⟩ :=
    @deposited_entry (.ofNat 4) "FundsDeposited" (by simp [announcements])
  have sameKey : one.dedupKey = two.dedupKey :=
    OutboxEntry.dedupKey_eq_iff.mpr ⟨account.trans sameAccount.symm, pays.trans alsoPays.symm⟩
  have same := claimed deposited deposited_reachable deposited_fresh deposited_untampered _ _ _ _
    found alsoFound sameKey
  rw [← same, isFirst] at isSecond
  exact absurd isSecond (by decide)

end Office

end AccountLedger
