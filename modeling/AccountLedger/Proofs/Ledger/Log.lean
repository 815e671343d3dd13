import AccountLedger.Proofs.Ledger.Rows
import AccountLedger.Proofs.Ledger.Schedule
import AccountLedger.Proofs.Ledger.Tally
import AccountLedger.Proofs.Table

/-!
The outbox is the log of the ledger: the stored accounts are what the payloads of its entries say.
-/

namespace AccountLedger

namespace Tables

/-- What the entries of the outbox say, in their order. -/
def payloads (tables : Tables) : List String := tables.outbox.rows.map (·.payload)

/-- Deliveries change no payload. -/
theorem Alike.payloads {tables other : Tables} (alike : tables.Alike other) :
    tables.payloads = other.payloads := by
  have kept : ∀ any : Tables, any.payloads = any.staged.rows.map (·.payload) := by
    intro any
    simp [Tables.payloads, Tables.staged, Table.rows, Table.mapRows, OutboxEntry.undelivered]
  rw [kept, kept, alike.staged]

end Tables

namespace Office

variable {office next : Office} {events : List LedgerEvent}

/-- Nobody has written past all locks, no id was drawn twice, the clock was read within the
calendar, and no balance is beyond the largest with four decimals. -/
structure Orderly (office : Office) : Prop where
  untampered : ∀ account, .overwritten account ∉ office.pool.log
  fresh : office.drawn.Nodup
  clock : ∀ id call, office.calls id = some call → ∀ time ∈ call.tape.times, time.Civil
  balances : ∀ id row, office.tables.accounts.find? id = some row →
    |row.balance.value.toRat| ≤ Decimal.moneyLimit

/-- The outbox tells these events, and the accounts are what they say. -/
structure Logged (office : Office) (events : List LedgerEvent) : Prop where
  payloads : office.tables.payloads = events.map LedgerEvent.payload
  clock : ∀ event ∈ events, event.time.Civil
  told : Told office.tables.accounts events

theorem start_orderly : start.Orderly := by
  refine ⟨fun account => List.not_mem_nil, List.nodup_nil, ?_, ?_⟩
  · intro id call known
    cases known
  · intro id row stored
    cases stored

theorem start_logged : start.Logged [] := by
  refine ⟨rfl, fun event inside => absurd inside List.not_mem_nil, ⟨?_, ?_⟩⟩
  · intro id row stored
    cases stored
  · exact fun event inside => absurd inside List.not_mem_nil

theorem ReachableWith.orderly (reachable : office.ReachableWith Orderly) : office.Orderly := by
  cases reachable with
  | refl => exact start_orderly
  | tail _ step => exact step.2

/-- A step adds at most the event of what it has moved. -/
theorem Moves.logged (moves : office.Moves next) (keyed : office.tables.Keyed)
    (before : office.Orderly) (after : next.Orderly) (logged : office.Logged events) :
    ∃ events, next.Logged events := by
  cases moves with
  | still alike =>
    exact ⟨events, alike.payloads.trans logged.payloads, logged.clock,
      alike.accounts ▸ logged.told⟩
  | @moved rows event entry staged id call movement accounts outbox new known time =>
    refine ⟨events ++ [event], ?_, ?_, ?_⟩
    · rw [Tables.payloads, outbox, Table.put_rows_of_absent (new before.fresh), List.map_append,
        List.map_append, ← logged.payloads]
      rfl
    · intro other inside
      rcases List.mem_append.mp inside with earlier | now
      · exact logged.clock other earlier
      · cases List.mem_singleton.mp now
        exact before.clock id call known _ time
    · rw [accounts]
      exact movement.told logged.told keyed (accounts ▸ after.balances)

theorem ReachableWith.logged (reachable : office.ReachableWith Orderly) :
    ∃ events, office.Logged events := by
  induction reachable with
  | refl => exact ⟨[], start_logged⟩
  | @tail office next before step ih =>
    obtain ⟨events, logged⟩ := ih
    have orderly := ReachableWith.orderly before
    have sound := Reachable.sound (ReachableWith.reachable before)
    exact (sound.moves step.1 step.2.untampered).logged sound.pool.keyed orderly step.2 logged

/-- However calls of the ledger service and deliveries are interleaved, the entries of the outbox
are decoded to events of which every stored account is the result: its balance is what they pay in
less what they take out, its revision the number of those that change it, one of them opens it, one
closes it just if it is closed, and they name no account that is not stored. -/
theorem ReachableWith.outbox_complete (reachable : office.ReachableWith Orderly) :
    ∃ events : List LedgerEvent,
      (office.tables.outbox.rows.map fun entry =>
        Decoder.run LedgerEvent.decode entry.payload.toList) = events.map .ok ∧
      (∀ id row, office.tables.accounts.find? id = some row →
        row.balance.value.toRat = (events.map (LedgerEvent.payment id)).sum ∧
        row.revision = events.countP (LedgerEvent.changes id) ∧
        events.countP (LedgerEvent.opens id) = 1 ∧
        (row.status = .closed ↔ events.countP (LedgerEvent.closes id) = 1)) ∧
      ∀ event ∈ events, ∀ id ∈ event.accounts, ∃ row,
        office.tables.accounts.find? id = some row := by
  obtain ⟨events, logged⟩ := reachable.logged
  have keyed := (Reachable.sound reachable.reachable).pool.keyed
  refine ⟨events, ?_, fun id row stored => ?_, logged.told.named⟩
  · have decoded : ∀ event ∈ events,
        Decoder.run LedgerEvent.decode event.payload.toList = .ok event :=
      fun event inside => event.run_payload (logged.clock event inside)
    calc (office.tables.outbox.rows.map fun entry =>
          Decoder.run LedgerEvent.decode entry.payload.toList)
        = office.tables.payloads.map fun payload =>
            Decoder.run LedgerEvent.decode payload.toList := by
          rw [Tables.payloads, List.map_map]
          rfl
      _ = events.map fun event => Decoder.run LedgerEvent.decode event.payload.toList := by
          rw [logged.payloads, List.map_map]
          rfl
      _ = events.map .ok := List.map_congr_left decoded
  · have told := logged.told.stored id row stored
    obtain rfl := keyed id row stored
    refine ⟨told.balance, told.revision, told.opened, ?_⟩
    rw [told.closed]
    split <;> simp_all

/-- A check that nobody wrote past the locks, no id was drawn twice, and little money was moved. -/
def isOrderly (office : Office) : Bool :=
  (office.pool.log.all fun event => event.unit?.isSome) && decide office.drawn.Nodup &&
    office.tables.accounts.rows.all fun row => row.balance.value.coefficient.natAbs ≤ 1000

theorem Timeless.orderly (timeless : office.Timeless) (checked : office.isOrderly = true) :
    office.Orderly := by
  simp only [isOrderly, Bool.and_eq_true] at checked
  obtain ⟨⟨log, drawn⟩, balances⟩ := checked
  refine ⟨fun account inside => ?_, of_decide_eq_true drawn, fun id call known time inside => ?_,
    fun id row stored => ?_⟩
  · cases List.all_eq_true.mp log _ inside
  · rw [timeless id call known time inside]
    exact ⟨by decide, by decide⟩
  · have small : row.balance.value.coefficient.natAbs ≤ 1000 :=
      of_decide_eq_true (List.all_eq_true.mp balances row (Table.mem_rows_of_find? stored))
    calc |row.balance.value.toRat|
        ≤ row.balance.value.coefficient.natAbs := row.balance.value.abs_toRat_le
      _ ≤ 1000 := by exact_mod_cast small
      _ ≤ Decimal.moneyLimit := by norm_num [Decimal.moneyLimit, Decimal.coefficientLimit]

/-- Two deposits into one account that were made at once are both told of. -/
theorem deposits_told : ∃ office : Office, office.ReachableWith Orderly ∧
    ∃ (events : List LedgerEvent) (row : Account),
      (office.tables.outbox.rows.map fun entry =>
        Decoder.run LedgerEvent.decode entry.payload.toList) = events.map .ok ∧
      office.tables.accounts.find? (Uuid.ofNat 1) = some row ∧ row.balance.value.toRat = 8 ∧
      (events.map (LedgerEvent.payment (Uuid.ofNat 1))).sum = 8 ∧
      events.countP (LedgerEvent.changes (Uuid.ofNat 1)) = 2 ∧
      events.countP (LedgerEvent.opens (Uuid.ofNat 1)) = 1 := by
  have checked : (start.schedule (opening ++ deposits)).all isOrderly = true := by decide +kernel
  have reachable : deposited.ReachableWith Orderly := .scheduled _ fun office inside timeless =>
    timeless.orderly (List.all_eq_true.mp checked office inside)
  obtain ⟨events, decoded, rows, _⟩ := reachable.outbox_complete
  obtain ⟨paid, revision, opened, _⟩ := rows _ _ deposited_row
  have eight : paidIn.balance.value.toRat = 8 := by norm_num [paidIn, Decimal.toRat]
  have twice : (2 : Int) = events.countP (LedgerEvent.changes (Uuid.ofNat 1)) := revision
  exact ⟨deposited, reachable, events, paidIn, decoded, deposited_row, eight,
    paid.symm.trans eight, by exact_mod_cast twice.symm, opened⟩

end Office

end AccountLedger
