import AccountLedger.Proofs.Http.Interchangeable
import AccountLedger.Proofs.Transaction.Branch

/-!
What a ledger at an address responds to a movement, and what the response tells: the reply of its
service is written as JSON and read back as what it is, and anything else is an error.
-/

namespace AccountLedger

/-! ## The kinds of replies -/

namespace LedgerCall

/-- A transfer is replied with its receipt, any other movement with an account. -/
def Gets : LedgerCall → ServiceReply → Prop
  | .transfer .., .transfer _ => True
  | .transfer .., .account _ => False
  | _, .account _ => True
  | _, .transfer _ => False

end LedgerCall

section

variable {α : Type} {call : LedgerCall} {policy : LedgerPolicy} {reply : ServiceReply}
  {unit : UnitId} {tape : Tape} {tables after : Tables}

/-- What the values of a program are made into is what comes out where it is run. -/
theorem Solo.run_mapped {ε : Type} {wrap : α → ServiceReply} {action : ExceptT ε (Program service) α}
    {solo later : Solo} (ran : solo.run (wrap <$> action).run = some (.ok reply, later)) :
    ∃ value, reply = wrap value := by
  rw [Program.run_map, Solo.run, Program.interpret_map] at ran
  obtain ⟨⟨outcome, _⟩, _, same⟩ := Option.bind_eq_some_iff.mp ran
  rcases outcome with failure | value
  · cases same
  · cases same
    exact ⟨value, rfl⟩

theorem LedgerCall.alone_gets
    (alone : (call.serviceCall policy).alone unit tape tables = some (.ok reply, after)) :
    call.Gets reply := by
  unfold ServiceCall.alone at alone
  split at alone
  · next outcome store ran =>
    cases alone
    cases call with
    | deposit account amount =>
      obtain ⟨row, rfl⟩ := Solo.run_mapped ran
      trivial
    | withdraw account amount =>
      obtain ⟨row, rfl⟩ := Solo.run_mapped ran
      trivial
    | transfer source target amount =>
      obtain ⟨receipt, rfl⟩ := Solo.run_mapped ran
      trivial
  · cases alone

end

namespace Serial

variable {record : UnitId → Option (ServiceCall × Tape)} {log : List PoolEvent}
  {before after : Serial}

/-- Every outcome is one of the recorded call by itself. -/
def Own (record : UnitId → Option (ServiceCall × Tape)) (serial : Serial) : Prop :=
  ∀ unit outcome, (unit, outcome) ∈ serial.outcomes → ∃ asked tape tables later,
    record unit = some (asked, tape) ∧ asked.alone unit tape tables = some (outcome, later)

theorem next_own {event : PoolEvent} (own : before.Own record)
    (stepped : next record before event = some after) : after.Own record := by
  cases event with
  | committed unit =>
    obtain ⟨⟨asked, tape⟩, recorded, rest⟩ := Option.bind_eq_some_iff.mp stepped
    obtain ⟨⟨outcome, tables⟩, alone, last⟩ := Option.bind_eq_some_iff.mp rest
    cases last
    intro other theirs inside
    rcases List.mem_append.mp inside with earlier | new
    · exact own other theirs earlier
    · cases List.mem_singleton.mp new
      exact ⟨asked, tape, before.tables, tables, recorded, alone⟩
  | overwritten account =>
    cases stepped
    exact own

theorem foldlM_own (own : before.Own record) (run : log.foldlM (next record) before = some after) :
    after.Own record := by
  induction log generalizing before with
  | nil =>
    cases run
    exact own
  | cons event rest ih =>
    rw [List.foldlM_cons] at run
    obtain ⟨between, stepped, last⟩ := Option.bind_eq_some_iff.mp run
    exact ih (next_own own stepped) last

theorem run_own (run : Serial.run record log = some after) : after.Own record :=
  foldlM_own (fun _ _ absurdly => absurd absurdly List.not_mem_nil) run

end Serial

/-- What a call has returned is of its kind. -/
theorem Office.Sound.gets {office : Office} (sound : office.Sound) {attempt : Nat} {made : Call}
    {call : LedgerCall} {policy : LedgerPolicy} {reply : ServiceReply}
    (known : office.calls attempt = some made) (asked : made.asked = call.serviceCall policy)
    (returned : made.returned? = some (.ok reply)) : call.Gets reply := by
  rcases (sound.bears known).returned returned with
    ⟨unit, same, own, _, equal, serial, run, served⟩ | ⟨_, _, absurdly, _⟩
  · cases equal
    obtain ⟨theirs, tape, tables, later, recorded, alone⟩ := Serial.run_own run unit _ served
    cases (sound.settled.registered.record known own).symm.trans recorded
    rw [asked] at alone
    exact LedgerCall.alone_gets alone
  · cases absurdly

/-! ## Responses -/

/-- A reply as the body of a response. -/
def ServiceReply.toJson : ServiceReply → Json
  | .account row => row.toJson
  | .transfer receipt => receipt.toJson

/-- The response of the ledger's site to an outcome of its service; an overflow leaves none. -/
def LedgerSite.response (correlation : Uuid) (outcome : Outcome LedgerError ServiceReply) :
    Except Overflow HttpResponse :=
  (Site.conclude ((Outcome.mapError (fun error => HttpError.failed (.ledger error)) outcome).map
    fun reply => HttpResponse.json 200 reply.toJson)).map fun response =>
      { response with correlation := some correlation }

/-! ## What is told of a call -/

namespace LedgerCall

variable (call : LedgerCall) (root : RootAddress)

/-- What a call of the ledger at an address is taken to have come to. -/
def told (result : CallResult) : Outcome DownstreamError Unit :=
  Outcome.ofExcept (((LedgerQuery.movement call).ofCall root.text result).map fun _ => ())

/-- Without a response the call has failed for good. -/
theorem told_timedOut : ∃ error, call.told root .timedOut = .error (.error error) ∧
    error.isTransient = false := ⟨_, rfl, rfl⟩

theorem told_disconnected : ∃ error, call.told root .disconnected = .error (.error error) ∧
    error.isTransient = false := ⟨_, rfl, rfl⟩

/-- So it has when a success cannot be read. -/
theorem told_unread {body : String}
    (unread : ∀ view, Decoder.run (LedgerQuery.movement call).viewDecoder body.toList ≠ .ok view) :
    ∃ error, call.told root (.response 200 body) = .error (.error error) ∧
      error.isTransient = false := by
  have success : isSuccessStatus 200 = true := rfl
  rw [told, LedgerQuery.ofCall, if_pos success]
  split
  · next view read => exact absurd read (unread view)
  · exact ⟨_, rfl, rfl⟩

/-- Without its body a response names no error, so no contended lock either. -/
theorem told_bare (status : Nat) : ∃ error,
    call.told root (.response status "") = .error (.error error) ∧ error.isTransient = false := by
  have unread : ∃ error, Decoder.run (LedgerQuery.movement call).viewDecoder "".toList =
      .error error := by
    cases call <;> exact ⟨_, rfl⟩
  obtain ⟨_, unread⟩ := unread
  rw [told, LedgerQuery.ofCall, unread]
  split
  · exact ⟨_, rfl, rfl⟩
  · exact ⟨_, rfl, rfl⟩

variable {call root}

/-- A reply of its kind is read as a success. -/
theorem told_reply {reply : ServiceReply} (gets : call.Gets reply) (correlation : Uuid) :
    call.told root (CallResult.ofServed (LedgerSite.response correlation (.ok reply))) = .ok () := by
  have read : ∃ view, Decoder.run (LedgerQuery.movement call).viewDecoder
      reply.toJson.text.toList = .ok view := by
    cases call with
    | deposit account amount =>
      cases reply with
      | account row => exact ⟨_, row.run_view⟩
      | transfer receipt => exact gets.elim
    | withdraw account amount =>
      cases reply with
      | account row => exact ⟨_, row.run_view⟩
      | transfer receipt => exact gets.elim
    | transfer source target amount =>
      cases reply with
      | account row => exact gets.elim
      | transfer receipt => exact ⟨_, receipt.run_view⟩
  obtain ⟨view, read⟩ := read
  have success : isSuccessStatus 200 = true := rfl
  show Outcome.ofExcept (Except.map _ (LedgerQuery.ofCall _ _ (.response 200 reply.toJson.text))) = _
  rw [LedgerQuery.ofCall_success success read]
  rfl

end LedgerCall

end AccountLedger
