import AccountLedger.Proofs.Account.Row
import AccountLedger.Proofs.Event.Payload
import AccountLedger.Proofs.Ledger.Shadow
import AccountLedger.Proofs.Memory.Commit

/-!
What one commit of the ledger service does to the stored accounts, and the event it records of that.
-/

namespace AccountLedger

/-- Accounts to be stored over those in the tables, with the event that tells of it. -/
inductive Movement (tables : Tables) : List Account → LedgerEvent → Prop
  | opened {id owner : Uuid} {currency code : String} {limit : Decimal} {created : Timestamp} :
    tables.accounts.find? id = none → limit.lt Decimal.zero = false →
    normalizeCurrency currency = .ok code →
    Movement tables [Account.opened id owner code limit created]
      (.accountOpened id owner code created)
  | closed {row after : Account} {now : Timestamp} :
    tables.accounts.find? row.id = some row → row.close now = .ok after →
    Movement tables [after.stored] (.accountClosed row.id now)
  | deposited {row after : Account} {amount : Amount} {now happened : Timestamp} :
    tables.accounts.find? row.id = some row → row.credit amount now = .ok after →
    Movement tables [after.stored]
      (.fundsDeposited row.id amount.value after.balance.value happened)
  | withdrawn {row after : Account} {amount : Amount} {now happened : Timestamp} :
    tables.accounts.find? row.id = some row → row.debit amount now = .ok after →
    Movement tables [after.stored]
      (.fundsWithdrawn row.id amount.value after.balance.value happened)
  | transferred {paying paid payingAfter paidAfter : Account} {amount : Amount} {transfer : Uuid}
    {debited credited happened : Timestamp} :
    tables.accounts.find? paying.id = some paying → tables.accounts.find? paid.id = some paid →
    paying.id ≠ paid.id → paying.debit amount debited = .ok payingAfter →
    paid.credit amount credited = .ok paidAfter →
    Movement tables [payingAfter.stored, paidAfter.stored]
      (.fundsTransferred transfer paying.id paid.id amount.value happened)

/-- The event of a changed account happened when the account was changed or right after. -/
theorem ServiceCall.one?_movement {call : ServiceCall} {one : OneChange} {tables : Tables}
    {row after : Account} {now happened : Timestamp} (known : call.one? = some one)
    (same : row.id = one.account) (stored : tables.accounts.find? row.id = some row)
    (done : one.change row now = .ok after) :
    Movement tables [after.stored] (one.event after.stored happened) ∧
      ((one.event after.stored happened).time = now ∨
        (one.event after.stored happened).time = happened) := by
  cases call with
  | closeAccount policy account =>
    cases known
    have closed : row.close now = .ok after := done
    have time : after.stored.updatedAt = now := by
      obtain ⟨_, _, rfl⟩ := Account.close_ok.mp closed
      rfl
    have movement := Movement.closed stored closed
    rw [← time, same] at movement
    exact ⟨movement, Or.inl time⟩
  | deposit policy account amount =>
    cases known
    have movement := @Movement.deposited tables row after amount now happened stored done
    rw [same] at movement
    exact ⟨movement, Or.inr rfl⟩
  | withdraw policy account amount =>
    cases known
    have movement := @Movement.withdrawn tables row after amount now happened stored done
    rw [same] at movement
    exact ⟨movement, Or.inr rfl⟩
  | _ => cases known

/-- A commit of rows as they are stored is a movement, recorded once. -/
theorem Change.movement {call : ServiceCall} {tape : Tape} {reads : List Account}
    {work : UnitOfWork} {reply : ServiceReply} {tables : Tables}
    (change : Change call tape reads work reply) (fits : tables.Fits reads)
    (accepted : work.Accepted tables) : ∃ entry event staged,
      Movement tables work.rowsPut event ∧
        work.entries = [OutboxEntry.ofEvent entry event staged] ∧ event.time ∈ tape.times := by
  cases change with
  | opened allowed normalized =>
    exact ⟨_, _, _, .opened (accepted.inserted _ List.mem_cons_self) allowed normalized, rfl,
      List.mem_cons_self⟩
  | @changed call one row after entry now happened staged known same done =>
    obtain ⟨movement, time⟩ := @ServiceCall.one?_movement call one tables row after now happened
      known same (fits row List.mem_cons_self) done
    exact ⟨entry, _, staged, movement, rfl, by simpa using time.imp_right Or.inl⟩
  | transferred paired ids foundPaying foundPaid checked debit credit =>
    obtain ⟨paying, samePaying⟩ := Change.found_row foundPaying
    obtain ⟨paid, samePaid⟩ := Change.found_row foundPaid
    subst samePaying samePaid
    exact ⟨_, _, _, .transferred (fits _ paying) (fits _ paid) (LockOrder.pair_ok paired).1 debit
      credit, rfl, List.mem_cons_of_mem _ (List.mem_cons_of_mem _ List.mem_cons_self)⟩

/-- What is stored is a new account, or what a change has made of the one there was. -/
theorem Movement.put {tables : Tables} {rows : List Account} {event : LedgerEvent}
    (movement : Movement tables rows event) : ∀ after ∈ rows,
      (tables.accounts.find? after.id = none ∧ after.New) ∨
        ∃ row, tables.accounts.find? after.id = some row ∧ row.Altered after := by
  have changed : ∀ {row after : Account}, tables.accounts.find? row.id = some row →
      row.Altered after → ∃ row, tables.accounts.find? after.id = some row ∧ row.Altered after := by
    intro row after stored altered
    obtain ⟨between, moved, rfl⟩ := altered.moved
    exact ⟨row, moved.terms.id ▸ stored, altered⟩
  intro after member
  cases movement with
  | opened new allowed normalized =>
    cases List.mem_singleton.mp member
    exact Or.inl ⟨new, .opened allowed normalized⟩
  | closed stored closed =>
    cases List.mem_singleton.mp member
    exact Or.inr (changed stored (.closed closed))
  | deposited stored credited =>
    cases List.mem_singleton.mp member
    exact Or.inr (changed stored (.credited credited))
  | withdrawn stored debited =>
    cases List.mem_singleton.mp member
    exact Or.inr (changed stored (.debited debited))
  | transferred paying paid differ debited credited =>
    rcases List.mem_cons.mp member with rfl | other
    · exact Or.inr (changed paying (.debited debited))
    · cases List.mem_singleton.mp other
      exact Or.inr (changed paid (.credited credited))

end AccountLedger
