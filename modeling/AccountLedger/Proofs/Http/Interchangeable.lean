import AccountLedger.Proofs.Http.LedgerCall
import AccountLedger.Proofs.Ledger.Alone
import AccountLedger.Proofs.Ledger.View

/-!
It makes no difference to those who ask the ledger whether it is in their process or at an address:
the same is asked of its surroundings, and its outcome is seen as the same.
-/

namespace AccountLedger.LedgerQuery

variable {α : Type} {policy : LedgerPolicy} {query : LedgerQuery} {action : LedgerAction α}
  {write : α → Json} {view : α → LedgerView}

/-- What is seen over the network of the ledger's outcome: an overflow leaves no response. -/
def seen (base : String) (query : LedgerQuery) :
    Outcome DownstreamError LedgerView → Except DownstreamError LedgerView
  | .ok view => .ok view
  | .error (.error error) => .error error
  | .error (.overflow _) =>
    .error (DownstreamError.unreachable ledgerServiceName query.endpoint
      (query.call base).failureText)

/-- Both ways of asking come to the same action of the ledger. Its value is shown, or written in the
response and read back as what is shown. -/
structure Agrees (policy : LedgerPolicy) (query : LedgerQuery) (action : LedgerAction α)
    (write : α → Json) (view : α → LedgerView) : Prop where
  performs : query.perform policy = view <$> action
  serves : ∀ base, LedgerSite.serve policy query.route (query.call base).request =
    (fun value => HttpResponse.json 200 (write value)) <$> LedgerSite.onLedger action
  reads : ∀ value, Decoder.run query.viewDecoder (write value).text.toList = .ok (view value)

theorem exists_agrees (policy : LedgerPolicy) (query : LedgerQuery) :
    ∃ (α : Type) (action : LedgerAction α) (write : α → Json) (view : α → LedgerView),
      Agrees policy query action write view := by
  rcases query with (⟨id, amount⟩ | ⟨id, amount⟩ | ⟨source, target, amount⟩) | id
  · exact ⟨_, _, _, _, rfl, fun _ => LedgerSite.change_call policy _ rfl,
      Account.run_view⟩
  · exact ⟨_, _, _, _, rfl, fun _ => LedgerSite.change_call policy _ rfl,
      Account.run_view⟩
  · exact ⟨_, _, _, _, rfl, fun _ => LedgerSite.transfers_call policy rfl,
      TransferReceipt.run_view⟩
  · exact ⟨_, _, _, _, rfl, fun _ => LedgerSite.account_call policy id, Account.run_view⟩

/-- Errors of the ledger are not answered as successes. -/
theorem isSuccessStatus_ledger (error : LedgerError) :
    isSuccessStatus (ServiceError.ledger error).reply.status = false := by
  cases error with
  | refused refusal => cases refusal <;> rfl
  | _ => rfl

/-- The text of an object is taken as it is. -/
theorem bodyText_record (members : List (String × Json)) :
    bodyText (Json.record members).text = (Json.record members).text := by
  have head : (Json.record members).text.toList =
      '\x7b' :: (Json.memberText members ++ ['\x7d']) := by
    rw [Json.text, String.toList_ofList, Json.render_record, List.cons_append]
  rw [bodyText, head]
  exact if_neg (by decide)

theorem ofCall_success {base body : String} {status : Nat} {view : LedgerView}
    (success : isSuccessStatus status = true)
    (read : Decoder.run query.viewDecoder body.toList = .ok view) :
    query.ofCall base (.response status body) = .ok view := by
  rw [ofCall, if_pos success, read]

theorem ofCall_failure {base body : String} {status : Nat} (failed : isSuccessStatus status = false)
    (plain : bodyText body = body) :
    query.ofCall base (.response status body) =
      .error (DownstreamError.ofResponse ledgerServiceName query.endpoint status body) := by
  rw [ofCall, failed, if_neg Bool.false_ne_true, plain]

/-- What the site makes of the ledger's outcome is seen by the caller as a caller in the same process
would see it. -/
theorem Agrees.ofCall (agrees : Agrees policy query action write view) (base : String) (id : Uuid)
    (outcome : Outcome LedgerError α) :
    query.ofCall base (CallResult.ofServed ((Site.conclude ((Outcome.mapError
      (fun error => HttpError.failed (.ledger error)) outcome).map fun value =>
        HttpResponse.json 200 (write value))).map fun response =>
          { response with correlation := some id })) =
      query.seen base (Outcome.mapError query.downstreamError (outcome.map view)) := by
  rcases outcome with (error | overflow) | value
  case error.error =>
    exact ofCall_failure (isSuccessStatus_ledger error) (bodyText_record _)
  case error.overflow => rfl
  case ok => exact ofCall_success rfl (agrees.reads value)

theorem respond_call (policy : LedgerPolicy) (query : LedgerQuery) (base : String) :
    (ledgerSite policy).respond query.route (query.call base).request =
      Site.conclude <$> (LedgerSite.serve policy query.route (query.call base).request).run := by
  have served : (ledgerSite policy).serves query.route (query.call base).request.method = true := by
    rcases query with (⟨account, amount⟩ | ⟨account, amount⟩ | ⟨source, target, amount⟩) | id
    all_goals rfl
  have whole : ((query.call base).request.method == "HEAD") = false := by
    rcases query with (⟨account, amount⟩ | ⟨account, amount⟩ | ⟨source, target, amount⟩) | id
    all_goals rfl
  rw [Site.respond, if_pos served, map_eq_pure_bind]
  simp only [whole]
  rfl

/-- The site of the ledger serves every query, and logs it under a fresh id. -/
theorem answer_call (policy : LedgerPolicy) (query : LedgerQuery) (root : RootAddress) :
    (ledgerSite policy).answer (query.call root.text).request = (do
      let id ← HostRequest.freshId.perform
      let outcome ← (LedgerSite.serve policy query.route (query.call root.text).request).run
      return (Site.conclude outcome).map fun response => { response with correlation := some id }) := by
  have logged : (ledgerSite policy).isLogged query.route = true := by
    rcases query with (⟨account, amount⟩ | ⟨account, amount⟩ | ⟨source, target, amount⟩) | id
    all_goals rfl
  have found : (Path.segments? (query.call root.text).request.target).bind
      (ledgerSite policy).ofPath? = some query.route := query.ofPath?_call root
  rw [Site.answer, found]
  simp only [logged, if_true, HttpCall.correlation?_request, respond_call, bind_map_left]
  rfl

/-- Asking over the network is to draw an id for the log and to ask as in the same process. -/
theorem Agrees.performRemotely (agrees : Agrees policy query action write view)
    (root : RootAddress) :
    query.performRemotely policy root.text = (do
      let _ ← HostRequest.freshId.perform
      query.seen root.text <$> query.performLocally policy) := by
  have onLedger : (LedgerSite.onLedger action).run =
      Outcome.mapError (fun error => HttpError.failed (.ledger error)) <$> action.run := rfl
  rw [LedgerQuery.performRemotely, answer_call, agrees.serves, ExceptT.run_map, onLedger,
    performLocally, agrees.performs, ExceptT.run_map]
  simp only [map_eq_pure_bind, bind_assoc, pure_bind]
  exact bind_congr fun id => bind_congr fun outcome =>
    congrArg pure (agrees.ofCall root.text id outcome)

variable (root : RootAddress) (policy : LedgerPolicy) (query : LedgerQuery)

/-- A ledger at an address and one in the same process are interchangeable. Whatever a service has
for a state and however it answers, a query over the network asks it for one more fresh id, and then
for the same as a query in the process, which leaves it in the same state; and the result is the
same, unless an overflow has ended the call. -/
theorem interchangeable :
    (∀ result, query.seen root.text (Outcome.ofExcept result) = result) ∧
    ∀ {σ : Type} {m : Type → Type} [Monad m] [LawfulMonad m]
      (service : (request : ServiceRequest) → StateT σ m request.Answer) (state : σ),
      ((query.performRemotely policy root.text).interpret service).run state = (do
        let (_, drawn) ← (service (.host .freshId)).run state
        let (outcome, after) ← ((query.performLocally policy).interpret service).run drawn
        return (query.seen root.text outcome, after)) := by
  refine ⟨fun result => by cases result <;> rfl, fun service state => ?_⟩
  obtain ⟨α, action, write, view, agrees⟩ := exists_agrees policy query
  have asked : (query.performRemotely policy root.text).interpret service =
      (service (.host .freshId) >>= fun _ =>
        query.seen root.text <$> (query.performLocally policy).interpret service) := by
    rw [agrees.performRemotely root]
    refine (Program.interpret_bind service HostRequest.freshId.perform _).trans ?_
    have drawing : (HostRequest.freshId.perform).interpret service =
        service (.host .freshId) := bind_pure _
    rw [drawing]
    refine bind_congr fun _ => ?_
    exact Program.interpret_map service (query.performLocally policy) (query.seen root.text)
  rw [asked, StateT.run_bind]
  refine bind_congr fun drawn => ?_
  rw [StateT.run_map, map_eq_pure_bind]

section Deposit

/-- An address of the own machine. -/
def loopback : RootAddress :=
  ⟨"http:".toList, "127.0.0.1:8080".toList, 1, by simp, by simp, by simp⟩

def tenDollars : Amount := ⟨⟨1000, 2, by decide, by decide⟩, by decide⟩

def customer : Account :=
  Account.opened (Uuid.ofNat 1) (Uuid.ofNat 2) "USD" Decimal.zero default

/-- A store with this account, whose service draws these ids. -/
def stocked (ids : List Uuid) : Solo :=
  ⟨Tables.fresh ({ Tables.empty with accounts := Table.empty.put customer.id customer }) ⟨0⟩,
    ⟨ids, [default, default, default]⟩⟩

/-- A deposit is seen with its two decimals on either way, and leaves the same store. -/
theorem deposited_remotely : ∃ after : Solo,
    ((performLocally ⟨1000, Decimal.zero⟩ (.movement (.deposit customer.id tenDollars))).interpret
      ServiceRequest.alone).run (stocked [Uuid.ofNat 7]) =
        some (.ok (.account ⟨customer.id, customer.owner, tenDollars.value, "USD", .active⟩), after) ∧
    ((performRemotely ⟨1000, Decimal.zero⟩ loopback.text
      (.movement (.deposit customer.id tenDollars))).interpret
        ServiceRequest.alone).run (stocked [Uuid.ofNat 3, Uuid.ofNat 7]) =
        some (.ok (.account ⟨customer.id, customer.owner, tenDollars.value, "USD", .active⟩), after) := by
  refine ⟨_, rfl, ?_⟩
  exact ((interchangeable loopback _ _).2 ServiceRequest.alone _).trans rfl

end Deposit

end AccountLedger.LedgerQuery
