import AccountLedger.Ledger.Action
import AccountLedger.Proofs.Account.Balance

/-!
Stored accounts: how they come about, what one stored change makes of them, and what holds of them
ever after.
-/

namespace AccountLedger

theorem isLower_iff (c : Char) : c.isLower = true ↔ 'a'.val ≤ c.val ∧ c.val ≤ 'z'.val := by
  delta Char.isLower
  rw [Bool.and_eq_true, decide_eq_true_iff, decide_eq_true_iff]

/-- Whatever letter is put into capitals is a capital one. -/
theorem isUpper_of_isAlpha {c : Char} (alpha : c.toUpper.isAlpha = true) :
    c.toUpper.isUpper = true := by
  apply ((Bool.or_eq_true _ _).mp alpha).resolve_right
  rw [isLower_iff]
  delta Char.toUpper
  by_cases lower : 'a'.val ≤ c.val ∧ c.val ≤ 'z'.val
  · rw [dif_pos lower]
    have low := UInt32.le_iff_toNat_le.mp lower.1
    have high := UInt32.le_iff_toNat_le.mp lower.2
    simp [UInt32.le_iff_toNat_le] at low high ⊢
    omega
  · rw [dif_neg lower]
    exact lower

theorem normalizeCurrency_ok {currency code : String}
    (normalized : normalizeCurrency currency = .ok code) :
    code.toList.length = 3 ∧ ∀ c ∈ code.toList, c.isUpper = true := by
  unfold normalizeCurrency at normalized
  dsimp only at normalized
  split at normalized
  · next fits =>
    cases normalized
    rw [String.toList_ofList]
    refine ⟨fits.1, fun c member => ?_⟩
    obtain ⟨plain, _, rfl⟩ := List.mem_map.mp member
    exact isUpper_of_isAlpha (List.all_eq_true.mp fits.2 _ member)
  · cases normalized

namespace Account

/-- One stored change of an account. -/
inductive Altered (row : Account) : Account → Prop
  | closed {after now} : row.close now = .ok after → Altered row after.stored
  | credited {after amount now} : row.credit amount now = .ok after → Altered row after.stored
  | debited {after amount now} : row.debit amount now = .ok after → Altered row after.stored

theorem Altered.moved {row after : Account} (altered : row.Altered after) :
    ∃ between, row.Moved between ∧ after = between.stored := by
  cases altered with
  | closed closed => exact ⟨_, close_moved closed, rfl⟩
  | credited credited => exact ⟨_, credit_moved credited, rfl⟩
  | debited debited => exact ⟨_, debit_moved debited, rfl⟩

theorem Altered.revision {row after : Account} (altered : row.Altered after) :
    after.revision = row.revision + 1 := by
  obtain ⟨between, moved, rfl⟩ := altered.moved
  rw [← moved.revision]
  rfl

/-- An account as the ledger opens them. -/
inductive New : Account → Prop
  | opened {id owner currency code limit created} : limit.lt Decimal.zero = false →
    normalizeCurrency currency = .ok code → New (Account.opened id owner code limit created)

/-- What holds of every account that is stored. -/
structure Valid (account : Account) : Prop where
  overdraftLimit : 0 ≤ account.overdraftLimit.toRat
  balance : -account.overdraftLimit.toRat ≤ account.balance.value.toRat
  currency : account.currency.toList.length = 3 ∧ ∀ c ∈ account.currency.toList, c.isUpper = true
  closed : account.status = .closed → account.balance.value.toRat = 0

variable {row after : Account}

theorem New.valid (new : after.New) : after.Valid := by
  obtain ⟨allowed, normalized⟩ := new
  rw [Bool.eq_false_iff, ne_eq, Decimal.lt_iff, Decimal.zero_toRat, not_lt] at allowed
  refine ⟨allowed, ?_, normalizeCurrency_ok normalized, fun closed => nomatch closed⟩
  show _ ≤ Decimal.zero.toRat
  rw [Decimal.zero_toRat]
  exact neg_nonpos.mpr allowed

theorem Altered.valid (valid : row.Valid) (altered : row.Altered after) : after.Valid := by
  cases altered with
  | closed closed =>
    obtain ⟨_, zero, rfl⟩ := close_ok.mp closed
    exact ⟨valid.overdraftLimit, valid.balance, valid.currency,
      fun _ => Decimal.isZero_iff.mp zero⟩
  | credited credited =>
    obtain ⟨active, balance, added, rfl⟩ := credit_ok.mp credited
    refine ⟨valid.overdraftLimit, ?_, valid.currency, fun closed => ?_⟩
    · refine le_trans (le_min ?_ valid.balance) (Balance.credit_floor added)
      exact neg_nonpos.mpr valid.overdraftLimit
    · cases active.symm.trans closed
  | debited debited =>
    obtain ⟨active, covered, balance, subtracted, rfl⟩ := debit_ok.mp debited
    refine ⟨valid.overdraftLimit, Balance.debit_floor covered subtracted, valid.currency,
      fun closed => ?_⟩
    cases active.symm.trans closed

end Account

end AccountLedger
