import AccountLedger.Proofs.Interleaving.Carrying
import AccountLedger.Proofs.Ledger.Invariant

/-!
Runs of the ledger service by a schedule, which says in turn whose call goes on. A call goes on with
one request, up to its answer or to a row lock that another call has; its ids are fresh and its clock
stands still. Whatever the schedule, every state that it goes through is come to by a step.
-/

namespace AccountLedger

/-- What happens next. -/
inductive Turn where
  | call (id : Nat) (asked : ServiceCall)
  | ask (id : Nat)
  | goOn (id : Nat)
  | overwrite (account : Account)

/-- What the host answers in a run by a schedule, where so many ids have been drawn. -/
def HostRequest.supplied (drawn : Nat) : (request : HostRequest) → request.Answer
  | .freshId => .ofNat (drawn + 1)
  | .now => ⟨0, 0⟩
  | .drawSuffix => .ofNat 0
  | .pause _ => ()
  | .send .. => .ok ()
  | .dispatch _ => ()

/-- Whether a call has returned a reply. -/
def Call.replied (call : Call) : Bool := call.returned?.any (·.toBool)

theorem Call.replied_iff {call : Call} :
    call.replied = true ↔ ∃ reply, call.returned? = some (.ok reply) := by
  rw [replied, Option.any_eq_true]
  constructor
  · rintro ⟨outcome, returned, well⟩
    cases outcome with
    | error failure => cases well
    | ok reply => exact ⟨reply, returned⟩
  · rintro ⟨reply, returned⟩
    exact ⟨_, returned, rfl⟩

/-- Whether a call is about to commit a unit of work. -/
def Call.commits (call : Call) (unit : UnitId) : Bool :=
  match call.stage with
  | .running (.ask (.unit (.commit other)) _) => other == unit
  | _ => false

theorem Call.commits_iff {call : Call} {unit : UnitId} : call.commits unit = true ↔
    ∃ resume, call.stage = .running (.ask (.unit (.commit unit)) resume) := by
  unfold commits
  split
  · next other resume running =>
    constructor
    · intro same
      obtain rfl := beq_iff_eq.mp same
      exact ⟨resume, running⟩
    · rintro ⟨_, same⟩
      cases running.symm.trans same
      exact beq_self_eq_true _
  · next other =>
    simp only [Bool.false_eq_true, false_iff]
    exact fun ⟨resume, same⟩ => other _ _ same

namespace Office

variable {office next : Office} {id : Nat} {call : Call}

/-- No call has seen another time than the start of 1970. -/
def Timeless (office : Office) : Prop :=
  ∀ id call, office.calls id = some call → ∀ time ∈ call.tape.times, time = ⟨0, 0⟩

/-- A step that changes the outbox only by a commit, and lets the clock stand still. -/
structure Goes (office next : Office) : Prop where
  step : office.Step next
  outbox : next.tables.outbox = office.tables.outbox ∨ next.pool.log ≠ office.pool.log
  timeless : office.Timeless → next.Timeless

/-! ## A call goes on -/

/-- A call is answered by the host. -/
def hosted (office : Office) (id : Nat) (call : Call) (request : HostRequest)
    (resume : request.Answer → Script) : Office :=
  let answer := request.supplied office.drawn.length
  { office.withCall id { call with
      stage := .running (resume answer)
      tape := call.tape.after request answer } with
    drawn := office.drawn ++ request.drawn answer }

/-- A call asks its unit of work for something. -/
def asking (office : Office) (id : Nat) (call : Call) (unit : UnitId) (request : UnitRequest)
    (resume : request.Answer → Script) : Office :=
  (office.withCall id { call with stage := .waiting request resume }).withPool
    (office.pool.asked unit request)

/-- A call that waits is given the answer, if there is one. -/
def given (office : Office) (id : Nat) (call : Call) (unit : UnitId) (request : UnitRequest)
    (resume : request.Answer → Script) : Option request.Answer → List Office
  | none => []
  | some answer => [(office.withCall id { call with stage := .running (resume answer) }).withPool
      (office.pool.concluded unit request)]

/-- The unit of work of a call that waits is carried on, at best until the call has its answer. -/
def carriedOn (office : Office) (id : Nat) (call : Call) (unit : UnitId) (request : UnitRequest)
    (resume : request.Answer → Script) (rest : Program memory request.Answer) : List Office :=
  let carried := Pool.carried unit request rest office.pool
  let last := office.withPool (carried.1.getLastD office.pool)
  carried.1.map office.withPool ++ last.given id call unit request resume carried.2

/-- A call goes on with its next request, or with the row locks that it waits for. -/
def goesOn (office : Office) (id : Nat) : List Office :=
  match office.calls id with
  | none => []
  | some call => match call.stage with
    | .running (.ask (.host request) resume) => [office.hosted id call request resume]
    | .running (.ask (.unit .start) resume) =>
      [office.started id { call with stage := .running (resume (.ok office.pool.nextUnit)) }]
    | .running (.ask (.unit request) resume) => match request.unit? with
      | none => []
      | some unit =>
        let asking := office.asking id call unit request resume
        asking :: asking.carriedOn id { call with stage := .waiting request resume } unit request
          resume request.inMemory
    | .waiting (.lock unit order timeoutMs) resume => match office.pool.activity unit with
      | .busy (.lock other others theirs) rest =>
        if other = unit ∧ others = order ∧ theirs = timeoutMs then
          office.carriedOn id call unit (.lock unit order timeoutMs) resume rest
        else []
      | _ => []
    | _ => []

/-- A call asks its unit of work for something, and goes no further. -/
def asks (office : Office) (id : Nat) : List Office :=
  match office.calls id with
  | none => []
  | some call => match call.stage with
    | .running (.ask (.unit request) resume) => match request.unit? with
      | none => []
      | some unit => [office.asking id call unit request resume]
    | _ => []

/-! ## Schedules -/

/-- The states of one turn. -/
def turn (office : Office) : Turn → List Office
  | .call id asked =>
    if (office.calls id).isNone then [office.withCall id (Call.begun asked)] else []
  | .ask id => office.asks id
  | .goOn id => office.goesOn id
  | .overwrite account => [office.withPool (office.pool.overwritten account)]

/-- The state after a turn. -/
def after (office : Office) (turn : Turn) : Office := (office.turn turn).getLastD office

/-- The states of a run by a schedule. -/
def schedule (office : Office) : List Turn → List Office
  | [] => []
  | turn :: rest => office.turn turn ++ (office.after turn).schedule rest

/-- The last state of a run by a schedule. -/
def scheduled (office : Office) (turns : List Turn) : Office := turns.foldl after office

/-! ## Every state is come to by a step -/

theorem Timeless.withCall (timeless : office.Timeless)
    (own : ∀ time ∈ call.tape.times, time = ⟨0, 0⟩) : (office.withCall id call).Timeless := by
  intro other theirs known
  rcases withCall_calls known with ⟨_, rfl⟩ | ⟨_, before⟩
  · exact own
  · exact timeless other theirs before

theorem goes_called (asked : ServiceCall) (new : office.calls id = none) :
    office.Goes (office.withCall id (Call.begun asked)) := by
  refine ⟨.call asked new, Or.inl rfl, fun timeless => timeless.withCall ?_⟩
  simp [Call.begun, Tape.empty]

theorem goes_hosted {request : HostRequest} {resume : request.Answer → Script}
    (known : office.calls id = some call)
    (running : call.stage = .running (.ask (.host request) resume)) :
    office.Goes (office.hosted id call request resume) := by
  refine ⟨.host _ known running, Or.inl rfl, fun timeless => timeless.withCall ?_⟩
  have before := timeless id call known
  cases request with
  | now =>
    intro time inside
    rcases List.mem_append.mp inside with earlier | last
    · exact before time earlier
    · exact List.mem_singleton.mp last
  | _ => exact before

theorem goes_started {resume : (UnitRequest.start).Answer → Script}
    (known : office.calls id = some call)
    (running : call.stage = .running (.ask (.unit .start) resume)) :
    office.Goes (office.started id
      { call with stage := .running (resume (.ok office.pool.nextUnit)) }) :=
  ⟨.start known running, Or.inl rfl, fun timeless => timeless.withCall (timeless id call known)⟩

section

variable {unit : UnitId} {request : UnitRequest} {resume : request.Answer → Script}

theorem goes_asking (known : office.calls id = some call)
    (running : call.stage = .running (.ask (.unit request) resume))
    (own : request.unit? = some unit) : office.Goes (office.asking id call unit request resume) :=
  ⟨.ask known running own, Or.inl rfl, fun timeless => timeless.withCall (timeless id call known)⟩

theorem goes_answered {answer : request.Answer} (known : office.calls id = some call)
    (waiting : call.stage = .waiting request resume) (own : request.unit? = some unit)
    (ended : office.pool.activity unit = .busy request (.done answer)) :
    office.Goes ((office.withCall id { call with stage := .running (resume answer) }).withPool
      (office.pool.concluded unit request)) :=
  ⟨.answer known waiting own ended, Or.inl rfl,
    fun timeless => timeless.withCall (timeless id call known)⟩

theorem carriedOn_visits {rest : Program memory request.Answer}
    (known : office.calls id = some call) (waiting : call.stage = .waiting request resume)
    (own : request.unit? = some unit) (busy : office.pool.activity unit = .busy request rest) :
    ∃ last, Visits Goes office (office.carriedOn id call unit request resume rest) last := by
  obtain ⟨last, visits, ends⟩ := Pool.carried_visits rest busy
  have lifted : Visits Goes office ((Pool.carried unit request rest office.pool).1.map
      office.withPool) (office.withPool last) :=
    visits.map office.withPool fun before after carries =>
      ⟨.proceed carries.proceeds, carries.outbox, fun timeless => timeless⟩
  rw [carriedOn, visits.last]
  cases answered : (Pool.carried unit request rest office.pool).2 with
  | none => exact ⟨_, lifted.append (.nothing _)⟩
  | some answer =>
    have ended := ends answer answered
    exact ⟨_, lifted.append (.one (goes_answered known waiting own ended))⟩

end

theorem goesOn_visits (office : Office) (id : Nat) :
    ∃ last, Visits Goes office (office.goesOn id) last := by
  unfold goesOn
  split
  · exact ⟨office, .nothing office⟩
  · next call known =>
    split
    · next request resume running => exact ⟨_, .one (goes_hosted known running)⟩
    · next resume running => exact ⟨_, .one (goes_started known running)⟩
    · next request resume _ running =>
      split
      · exact ⟨office, .nothing office⟩
      · next unit own =>
        obtain ⟨last, visits⟩ := @carriedOn_visits (office.asking id call unit request resume) id
          { call with stage := .waiting request resume } unit request resume request.inMemory
          (Function.update_self ..) rfl own (Function.update_self ..)
        exact ⟨last, .next (.single (goes_asking known running own)) visits⟩
    · next unit order timeoutMs resume waiting =>
      split
      · next other others theirs rest busy =>
        split
        · next same =>
          obtain ⟨rfl, rfl, rfl⟩ := same
          exact carriedOn_visits known waiting rfl busy
        · exact ⟨office, .nothing office⟩
      · exact ⟨office, .nothing office⟩
    · exact ⟨office, .nothing office⟩

theorem asks_visits (office : Office) (id : Nat) :
    ∃ last, Visits Goes office (office.asks id) last := by
  unfold asks
  split
  · exact ⟨office, .nothing office⟩
  · next call known =>
    split
    · next request resume running =>
      split
      · exact ⟨office, .nothing office⟩
      · next unit own => exact ⟨_, .one (goes_asking known running own)⟩
    · exact ⟨office, .nothing office⟩

theorem turn_visits (office : Office) (turn : Turn) :
    ∃ last, Visits Goes office (office.turn turn) last := by
  cases turn with
  | call id asked =>
    cases new : office.calls id with
    | none =>
      have called := goes_called asked new
      exact ⟨_, by simpa [Office.turn, new] using Visits.one called⟩
    | some call => exact ⟨office, by simpa [Office.turn, new] using Visits.nothing office⟩
  | ask id => exact asks_visits office id
  | goOn id => exact goesOn_visits office id
  | overwrite account =>
    refine ⟨_, .one ⟨.overwrite account, Or.inl rfl, fun timeless => timeless⟩⟩

/-- Every state of a run by a schedule is come to by a step. -/
theorem schedule_visits (office : Office) (turns : List Turn) :
    Visits Goes office (office.schedule turns) (office.scheduled turns) := by
  induction turns generalizing office with
  | nil => exact .nothing office
  | cons turn rest ih =>
    obtain ⟨last, visits⟩ := turn_visits office turn
    obtain rfl : office.after turn = last := visits.last
    exact visits.append (ih (office.after turn))

theorem scheduled_append (office : Office) (first second : List Turn) :
    office.scheduled (first ++ second) = (office.scheduled first).scheduled second :=
  List.foldl_append

/-! ## Runs by a schedule -/

theorem scheduled_run (office : Office) (turns : List Turn) :
    Relation.ReflTransGen Goes office (office.scheduled turns) :=
  Relation.ReflTransGen.mono (fun _ _ => And.left) _ _
    (@Visits.run _ _ _ _ _ (fun _ => True) (schedule_visits office turns) fun _ _ => trivial)

theorem steps_scheduled (office : Office) (turns : List Turn) :
    Relation.ReflTransGen Step office (office.scheduled turns) :=
  Relation.ReflTransGen.mono (fun _ _ => Goes.step) _ _ (office.scheduled_run turns)

theorem Reachable.scheduled (reachable : office.Reachable) (turns : List Turn) :
    (office.scheduled turns).Reachable :=
  reachable.trans (office.steps_scheduled turns)

theorem start_timeless : start.Timeless := by
  intro id call absurdly
  cases absurdly

/-- What holds of all states that are listed holds after every step. -/
theorem ReachableWith.scheduled {good : Office → Prop} (turns : List Turn)
    (well : ∀ office ∈ start.schedule turns, office.Timeless → good office) :
    (start.scheduled turns).ReachableWith good := by
  have visits := schedule_visits start turns
  have timeless := visits.kept start_timeless fun _ _ goes => goes.timeless
  refine Relation.ReflTransGen.mono (fun _ _ next => ⟨next.1.step, next.2⟩) _ _
    (visits.run fun office inside => well office inside (timeless office inside))

/-! ## One call -/

/-- A call is made, and goes on with so many requests. -/
def making (id : Nat) (asked : ServiceCall) (requests : Nat) : List Turn :=
  .call id asked :: List.replicate requests (.goOn id)

theorem scheduled_making (new : office.calls id = none) (asked : ServiceCall) (requests : Nat) :
    office.scheduled (making id asked requests) =
      (office.withCall id (Call.begun asked)).scheduled (List.replicate requests (.goOn id)) := by
  simp [scheduled, making, after, turn, new]

theorem steps_making (new : office.calls id = none) (asked : ServiceCall) (requests : Nat) :
    Relation.ReflTransGen Step (office.withCall id (Call.begun asked))
      (office.scheduled (making id asked requests)) := by
  rw [scheduled_making new]
  exact steps_scheduled _ _

/-! ## An account and two deposits at once -/

def policy : LedgerPolicy := ⟨10, Decimal.zero⟩

def four : Amount := ⟨⟨4, 0, by decide, Decimal.zero.scale_le⟩, by decide⟩

/-- An account is opened. -/
def opening : List Turn := making 0 (.openAccount policy Uuid.nil "usd" none) 9

/-- The office once it is open. -/
def opened : Office := start.scheduled opening

/-- The entry that tells of it. -/
def announcement : OutboxEntry :=
  .ofEvent (.ofNat 2) (.accountOpened (.ofNat 1) Uuid.nil "USD" ⟨0, 0⟩) ⟨0, 0⟩

theorem opened_outbox : opened.tables.outbox = ⟨[(announcement.id, announcement)]⟩ := by
  decide +kernel

theorem opened_fresh : opened.drawn.Nodup := by
  have drawn : opened.drawn = [.ofNat 1, .ofNat 2] := by decide +kernel
  rw [drawn]
  decide

/-- Two deposits into the account are made, and the second one has to wait for the row lock of the
first. -/
def deposits : List Turn :=
  making 1 (.deposit policy (.ofNat 1) four) 2 ++ making 2 (.deposit policy (.ofNat 1) four) 2 ++
    List.replicate 8 (.goOn 1) ++ List.replicate 9 (.goOn 2)

/-- At some point one has the lock and the other is queued for it. -/
example : (start.schedule (opening ++ deposits)).any (fun office =>
    office.pool.store.locks.tickets.map (fun ticket => (ticket.owner, ticket.phase)) =
      [(1, .held), (2, .queued)]) = true := by
  decide +kernel

/-- The office once both of them are over. -/
def deposited : Office := start.scheduled (opening ++ deposits)

theorem deposited_reachable : deposited.Reachable := Reachable.scheduled .refl _

theorem deposited_log :
    deposited.pool.log = [.committed ⟨0⟩, .committed ⟨1⟩, .committed ⟨2⟩] := by
  decide +kernel

theorem deposited_untampered (account : Account) : .overwritten account ∉ deposited.pool.log := by
  simp [deposited_log]

theorem deposited_drawn : deposited.drawn = [.ofNat 1, .ofNat 2, .ofNat 3, .ofNat 4] := by
  decide +kernel

theorem deposited_fresh : deposited.drawn.Nodup := by
  rw [deposited_drawn]
  decide

/-- The account then. -/
def paidIn : Account :=
  { Account.opened (.ofNat 1) Uuid.nil "USD" Decimal.zero ⟨0, 0⟩ with
    balance := ⟨⟨8, 0, by decide, Decimal.zero.scale_le⟩⟩
    revision := 2 }

theorem deposited_row : deposited.tables.accounts.find? (.ofNat 1) = some paidIn := by
  decide +kernel

/-- Both have returned a reply. -/
theorem deposited_returned {id : Nat} (among : id = 1 ∨ id = 2) : ∃ call reply,
    deposited.calls id = some call ∧ call.unit = some ⟨id⟩ ∧ call.returned? = some (.ok reply) := by
  have checked : (deposited.calls id).any (fun call =>
      call.unit == some ⟨id⟩ && call.replied) = true := by
    rcases among with rfl | rfl <;> decide +kernel
  obtain ⟨call, known, ended⟩ := (Option.any_eq_true _ _).mp checked
  rw [Bool.and_eq_true, beq_iff_eq, Call.replied_iff] at ended
  obtain ⟨own, reply, returned⟩ := ended
  exact ⟨call, reply, known, own, returned⟩

end Office

end AccountLedger
