import AccountLedger.Ledger.Remote
import AccountLedger.Proofs.Json.Record
import AccountLedger.Proofs.Json.Text

/-!
The answers of the ledger are read back from their texts, and what is decoded from them is what
they are seen as from outside.
-/

namespace AccountLedger

open RecordDecoder

theorem AccountStatus.decode_name (status : AccountStatus) :
    AccountStatus.decode (.string status.name) = .ok status := by
  cases status <;> rfl

namespace Account

theorem readsBack_toJson (account : Account) : account.toJson.ReadsBack := by
  refine Json.readsBack_record (List.cons_ne_nil _ _) ?_
  simp [Decimal.toJson, Json.readsBack_string, Json.readsBack_ofInt]

/-- Of the members of an account those of its view are taken, and the others skipped. -/
theorem decode_view (account : Account) :
    AccountView.decode account.toJson = .ok (AccountView.ofAccount account) := by
  have currency : Decoder.string (.string account.currency) = .ok account.currency := rfl
  have reads : Reads AccountView.decoder
      [("id", .string (toString account.id)), ("owner_id", .string (toString account.owner)),
        ("balance", account.balance.value.toJson), ("currency", .string account.currency),
        ("status", .string account.status.name)] (AccountView.ofAccount account) :=
    (((((reads_required (Decoder.uuid_string account.id)).map).seq
      (reads_required (Decoder.uuid_string account.owner))).seq
      (reads_required (Decoder.decimal_toJson account.balance.value))).seq
      (reads_required currency)).seq (reads_required account.status.decode_name)
  refine reads.decode_among (by simp) (by simp) ?_
  simp [Json.isWhole, Json.ofInt, Decimal.toJson]

theorem run_view (account : Account) :
    Decoder.run (fun json => (AccountView.decode json).map .account) account.toJson.text.toList =
      .ok (LedgerView.account (AccountView.ofAccount account)) :=
  account.readsBack_toJson.run_text (by rw [account.decode_view]; rfl)

end Account

namespace TransferReceipt

variable (receipt : TransferReceipt)

theorem readsBack_toJson : receipt.toJson.ReadsBack := by
  refine Json.readsBack_record (List.cons_ne_nil _ _) ?_
  simp [Decimal.toJson, Json.readsBack_string, Account.readsBack_toJson]

theorem decode_view :
    TransferView.decode receipt.toJson = .ok (TransferView.ofReceipt receipt) := by
  have reads : Reads TransferView.decoder
      [("transfer_id", .string (toString receipt.transfer)), ("from", receipt.source.toJson),
        ("to", receipt.target.toJson), ("amount", receipt.amount.value.toJson)]
      (TransferView.ofReceipt receipt) :=
    ((((reads_required (Decoder.uuid_string receipt.transfer)).map).seq
      (reads_required receipt.source.decode_view)).seq
      (reads_required receipt.target.decode_view)).seq
      (reads_required (Decoder.decimal_toJson receipt.amount.value))
  exact reads.decode (by simp)

theorem run_view :
    Decoder.run (fun json => (TransferView.decode json).map .transfer) receipt.toJson.text.toList =
      .ok (LedgerView.transfer (TransferView.ofReceipt receipt)) :=
  receipt.readsBack_toJson.run_text (by rw [receipt.decode_view]; rfl)

end TransferReceipt

end AccountLedger
