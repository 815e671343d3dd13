import AccountLedger.Http.Exchange
import AccountLedger.Http.LedgerSite
import AccountLedger.Ledger.Remote
import AccountLedger.Proofs.Http.Url
import AccountLedger.Proofs.Json.Record
import AccountLedger.Proofs.Json.Text

/-!
The calls of those who ask the ledger over the network, as its site reads them: every id and every
amount arrives as it was sent.
-/

namespace AccountLedger

namespace Uuid

theorem plain_toText (id : Uuid) : Url.Plain id.toText :=
  @toText_all (fun c => Url.isPlain c = true) (by decide) rfl id

theorem toList_toString (id : Uuid) : (toString id).toList = id.toText := String.toList_ofList

theorem toText_ne_nil (id : Uuid) : id.toText ≠ [] := by
  simp [toText]

end Uuid

theorem Amount.ofDecimal_value (amount : Amount) : Amount.ofDecimal amount.value = .ok amount := by
  unfold ofDecimal
  split
  · next complaint => rw [amount.admitted] at complaint; cases complaint
  · rfl

/-- An amount is understood as it is written, with its scale. -/
theorem readAmount_toString (amount : Amount) : readAmount (toString amount.value) = .ok amount := by
  have written : (toString amount.value).toList = amount.value.toText := String.toList_ofList
  have read : Amount.read amount.value.toText = .ok amount := by
    rw [Amount.read, Decimal.read_toText]
    exact Amount.ofDecimal_value amount
  rw [readAmount, written, Text.trim_eq amount.value.toText_solid, read]

namespace HttpRequest

theorem idParameter_toString (id : Uuid) : idParameter (toString id) = .ok id := by
  have decoded : Path.decode? (toString id) = some (toString id) :=
    Path.decode?_plain id.plain_toText
  have read : Uuid.read? (toString id).toList = some id := by
    rw [id.toList_toString, id.read?_toText]
  simp only [idParameter, parameter, decoded]
  simp only [bind, Except.bind, read]

end HttpRequest

namespace HttpCall

variable {α : Type} (call : HttpCall)

theorem correlation?_request : call.request.correlation? = none := by
  obtain ⟨method, url, body⟩ := call
  cases body <;> rfl

theorem hasJson_request {json : Json} (sent : call.body = some json) :
    call.request.hasJson = true := by
  have declared : (Headers.ofList [("content-type", "application/json")]).text? "content-type" =
      some "application/json" := by decide
  have known : MediaType.isJson "application/json" = true := by decide
  simp [HttpRequest.hasJson, request, sent, declared, known]

/-- A body that is read back arrives as what is decoded from it. -/
theorem jsonBody_request {decode : Decoder α} {json : Json} {value : α}
    (sent : call.body = some json) (back : json.ReadsBack) (decoded : decode json = .ok value) :
    call.request.jsonBody decode = .ok value := by
  have arrived : call.request.body.toList = json.render := by
    simp [request, sent, Json.text]
  rw [HttpRequest.jsonBody, if_pos (call.hasJson_request sent), Decoder.runOnFirst, arrived,
    back.readDocument, decoded]

end HttpCall

namespace LedgerQuery

/-- The segments of the path of a query. -/
def segments : LedgerQuery → List (List Char)
  | .movement (.deposit account _) =>
    ["api".toList, "v1".toList, "accounts".toList, account.toText, "deposit".toList]
  | .movement (.withdraw account _) =>
    ["api".toList, "v1".toList, "accounts".toList, account.toText, "withdraw".toList]
  | .movement (.transfer ..) => ["api".toList, "v1".toList, "transfers".toList]
  | .lookUp id => ["api".toList, "v1".toList, "accounts".toList, id.toText]

/-- The endpoint of the site that a query is for. -/
def route : LedgerQuery → LedgerEndpoint
  | .movement (.deposit account _) => .deposit (toString account)
  | .movement (.withdraw account _) => .withdraw (toString account)
  | .movement (.transfer ..) => .transfers
  | .lookUp id => .account (toString id)

variable (query : LedgerQuery)

theorem accountPath_toList (id : Uuid) :
    ("/api/v1/accounts/" ++ toString id).toList =
      Url.pathText ["api".toList, "v1".toList, "accounts".toList, id.toText] := by
  rw [String.toList_append, id.toList_toString]
  simp [Url.pathText, List.intercalate_cons_cons]

theorem path_eq : query.path = String.ofList (Url.pathText query.segments) := by
  rw [← String.toList_inj, String.toList_ofList]
  rcases query with (⟨account, amount⟩ | ⟨account, amount⟩ | ⟨source, target, amount⟩) | id
  case movement.deposit =>
    show ("/api/v1/accounts/" ++ toString account ++ "/deposit").toList = _
    rw [String.toList_append, accountPath_toList]
    simp [segments, Url.pathText, List.intercalate_cons_cons]
  case movement.withdraw =>
    show ("/api/v1/accounts/" ++ toString account ++ "/withdraw").toList = _
    rw [String.toList_append, accountPath_toList]
    simp [segments, Url.pathText, List.intercalate_cons_cons]
  case movement.transfer =>
    show "/api/v1/transfers".toList = _
    simp [segments, Url.pathText, List.intercalate_cons_cons]
  case lookUp => exact accountPath_toList id

theorem segments_plain : ∀ segment ∈ query.segments, Url.Plain segment := by
  rcases query with (⟨account, amount⟩ | ⟨account, amount⟩ | ⟨source, target, amount⟩) | id
  all_goals
    simp only [segments, List.forall_mem_cons, Uuid.plain_toText]
    decide

/-- A query arrives at its endpoint. -/
theorem ofPath?_call (root : RootAddress) :
    (Path.segments? (query.call root.text).request.target).bind LedgerEndpoint.ofPath? =
      some query.route := by
  have filled : query.segments ≠ [] := by
    rcases query with (⟨account, amount⟩ | ⟨account, amount⟩ | ⟨source, target, amount⟩) | id
    all_goals exact List.cons_ne_nil _ _
  have arrived := root.segments?_target filled query.segments_plain
  rw [← query.path_eq] at arrived
  show (Path.segments? (Url.ofText (baseAddress root.text ++ query.path)).target).bind _ = _
  rw [arrived]
  rcases query with (⟨account, amount⟩ | ⟨account, amount⟩ | ⟨source, target, amount⟩) | id
  all_goals simp [segments, route, LedgerEndpoint.ofPath?, toString, Uuid.toText_ne_nil]

end LedgerQuery

namespace LedgerSite

open RecordDecoder

variable {α β : Type} {call : HttpCall}

theorem check_ok_bind (value : α) (next : α → Handler β) :
    check (.ok value) >>= next = next value := rfl

/-- An amount is sent as text. -/
theorem string_toJson (amount : Amount) :
    Decoder.string amount.value.toJson = .ok (toString amount.value) := rfl

theorem readsBack_amount (amount : Amount) : amount.value.toJson.ReadsBack :=
  Json.readsBack_string _

theorem amountBody_call {amount : Amount}
    (sent : call.body = some (Json.record [("amount", amount.value.toJson)])) :
    call.request.jsonBody decodeAmountBody = .ok (toString amount.value) := by
  refine call.jsonBody_request sent (Json.readsBack_record (List.cons_ne_nil _ _) ?_) ?_
  · simpa using readsBack_amount amount
  · exact (reads_required (string_toJson amount)).decode (by simp)

theorem transferBody_call {source target : Uuid} {amount : Amount}
    (sent : call.body = some (Json.record [("from_account_id", .string (toString source)),
      ("to_account_id", .string (toString target)), ("amount", amount.value.toJson)])) :
    call.request.jsonBody TransferBody.decode = .ok ⟨source, target, toString amount.value⟩ := by
  refine call.jsonBody_request sent (Json.readsBack_record (List.cons_ne_nil _ _) ?_) ?_
  · simp [Json.readsBack_string, readsBack_amount]
  · exact Reads.decode ((((reads_required (Decoder.uuid_string source)).map).seq
      (reads_required (Decoder.uuid_string target))).seq
      (reads_required (string_toJson amount))) (by simp)

/-- A movement on one account is carried out as it was asked for. -/
theorem change_call (policy : LedgerPolicy)
    (operation : LedgerPolicy → Uuid → Amount → LedgerAction Account) {account : Uuid}
    {amount : Amount} (sent : call.body = some (Json.record [("amount", amount.value.toJson)])) :
    change policy operation (toString account) call.request =
      (fun row => HttpResponse.json 200 row.toJson) <$>
        onLedger (operation policy account amount) := by
  rw [change, HttpRequest.idParameter_toString, check_ok_bind, amountBody_call sent,
    check_ok_bind, readAmount_toString, check_ok_bind, map_eq_pure_bind]

theorem transfers_call (policy : LedgerPolicy) {source target : Uuid} {amount : Amount}
    (sent : call.body = some (Json.record [("from_account_id", .string (toString source)),
      ("to_account_id", .string (toString target)), ("amount", amount.value.toJson)])) :
    serve policy .transfers call.request =
      (fun receipt => HttpResponse.json 200 receipt.toJson) <$>
        onLedger (policy.transfer source target amount) := by
  rw [serve, transferBody_call sent, check_ok_bind, readAmount_toString, check_ok_bind,
    map_eq_pure_bind]

theorem account_call (policy : LedgerPolicy) (id : Uuid) :
    serve policy (.account (toString id)) call.request =
      (fun row => HttpResponse.json 200 row.toJson) <$>
        onLedger (LedgerAction.getAccount id) := by
  rw [serve, HttpRequest.idParameter_toString, check_ok_bind, map_eq_pure_bind]

end LedgerSite

end AccountLedger
