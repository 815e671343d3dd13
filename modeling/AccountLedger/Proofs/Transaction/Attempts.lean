import AccountLedger.Proofs.Transaction.Branch
import Mathlib.Data.List.Forall2

/-!
Which calls of the ledger service were made for which execution, and that an execution has heard
what they have returned.
-/

namespace AccountLedger

/-! ## Steps of the office and the desk -/

namespace Office

variable {office next : Office} {id : Nat} {call : Call}

/-- A call stays, and what it was asked for. -/
theorem Step.asked_kept (step : office.Step next) (known : office.calls id = some call) :
    ∃ later, next.calls id = some later ∧ later.asked = call.asked := by
  have changed : ∀ {other before new}, office.calls other = some before →
      next.calls = (office.withCall other new).calls → new.asked = before.asked →
      ∃ later, next.calls id = some later ∧ later.asked = call.asked := by
    intro other before new present same asked
    rw [same]
    by_cases this : id = other
    · subst this
      cases known.symm.trans present
      exact ⟨new, Function.update_self .., asked⟩
    · exact ⟨call, (Function.update_of_ne this _ _).trans known, rfl⟩
  cases step with
  | @call other asked new =>
    refine ⟨call, (Function.update_of_ne ?_ _ _).trans known, rfl⟩
    intro same
    subst same
    cases known.symm.trans new
  | host answer present running => exact changed present rfl rfl
  | start present running => exact changed present rfl rfl
  | ask present running own => exact changed present rfl rfl
  | answer present waiting own busy => exact changed present rfl rfl
  | drop present unreturned => exact changed present rfl rfl
  | proceed proceeds => exact ⟨call, known, rfl⟩
  | tidy present dropped own busy => exact ⟨call, known, rfl⟩
  | table request => exact ⟨call, known, rfl⟩
  | overwrite account => exact ⟨call, known, rfl⟩

end Office

namespace Desk

variable {desk next : Desk} {id : Nat} {execution new : Execution}

/-- Without the ledger an execution begins, or goes on with what it has heard. -/
inductive Carries (desk : Desk) (id : Nat) (new : Execution) : Prop
  | still : desk.executions id = some new → Carries desk id new
  | begun : desk.executions id = none → (∃ rest, new.stage = .running rest) → new.outcomes = [] →
    Carries desk id new
  | continued {execution : Execution} {rest} : desk.executions id = some execution →
    execution.stage = .running rest → (∃ rest, new.stage = .running rest) →
    new.request = execution.request → new.outcomes = execution.outcomes → Carries desk id new

theorem withExecution_executions {other : Nat} {theirs : Execution}
    (known : (desk.withExecution id new).executions other = some theirs) :
    other = id ∧ theirs = new ∨ other ≠ id ∧ desk.executions other = some theirs := by
  by_cases same : other = id
  · subst same
    exact Or.inl ⟨rfl, Option.some.inj (known.symm.trans (Function.update_self ..))⟩
  · exact Or.inr ⟨same, (Function.update_of_ne same _ _).symm.trans known⟩

theorem Proceeds.carries (proceeds : desk.Proceeds next)
    (known : next.executions id = some new) : desk.Carries id new := by
  cases proceeds with
  | begin policy request unknown =>
    rcases withExecution_executions known with ⟨rfl, rfl⟩ | ⟨_, before⟩
    · exact .begun unknown ⟨_, rfl⟩ rfl
    · exact .still before
  | @host other execution request resume answer present running unused =>
    have known : (desk.withExecution other _).executions id = some new := known
    rcases withExecution_executions known with ⟨rfl, rfl⟩ | ⟨_, before⟩
    · exact .continued present running ⟨_, rfl⟩ rfl rfl
    · exact .still before
  | @table other execution request resume present running =>
    have known : (desk.withExecution other _).executions id = some new := known
    rcases withExecution_executions known with ⟨rfl, rfl⟩ | ⟨_, before⟩
    · exact .continued present running ⟨_, rfl⟩ rfl rfl
    · exact .still before
  | elsewhere accounts outbox => exact .still known

/-- An execution that has begun stays. -/
theorem Proceeds.unknown (proceeds : desk.Proceeds next) (absent : next.executions id = none) :
    desk.executions id = none := by
  have kept : ∀ {other execution}, (desk.withExecution other execution).executions id = none →
      desk.executions id = none := by
    intro other execution none
    by_cases same : id = other
    · subst same
      cases none.symm.trans (Function.update_self ..)
    · exact (Function.update_of_ne same _ _).symm.trans none
  cases proceeds with
  | begin policy request unknown => exact kept absent
  | host answer present running unused => exact kept absent
  | table present running => exact kept absent
  | elsewhere accounts outbox => exact absent

/-- The record of an execution that waits for the ledger is pending. -/
theorem Sound.calling_pending (sound : desk.Sound) {call : LedgerCall}
    {resume : Outcome DownstreamError Unit → Procedure}
    (known : desk.executions id = some execution)
    (calling : execution.stage = .calling call resume) :
    execution.request.call = .ok call ∧
      ∃ record, execution.drawn = [record.id] ∧
        desk.tables.records.find? record.id = some record ∧ record.status = .pending := by
  obtain ⟨filing, rest, backs⟩ := sound.bears known
  rw [Execution.rest, calling] at rest
  have permitted : Filing.rule execution.request (.ledger call) filing fun answer later =>
    (resume answer).Ensures (Filing.rule execution.request) later Filing.Ended := rest
  obtain ⟨own, record, outcomes, rfl, pending, _⟩ := permitted
  cases backs with
  | filed drawn found => exact ⟨own, record, drawn, found, pending⟩

/-- The execution of a record with a final status does not wait for the ledger. -/
theorem Sound.not_calling (sound : desk.Sound) {fresh : Uuid} {record : TransactionRecord}
    (found : desk.tables.records.find? fresh = some record) (final : record.status ≠ .pending)
    (known : desk.executions id = some execution) (drawn : execution.drawn = [fresh])
    (call : LedgerCall) (resume : Outcome DownstreamError Unit → Procedure) :
    execution.stage ≠ .calling call resume := by
  intro calling
  obtain ⟨_, pendingRecord, alsoDrawn, here, pending⟩ := sound.calling_pending known calling
  cases drawn.symm.trans alsoDrawn
  cases found.symm.trans here
  exact final pending

/-- An execution calls the ledger for what it was asked for. -/
theorem Sound.running_call (sound : desk.Sound) {call : LedgerCall}
    {resume : Outcome DownstreamError Unit → Procedure}
    (known : desk.executions id = some execution)
    (running : execution.stage = .running (.ask (.ledger call) resume)) :
    execution.request.call = .ok call := by
  obtain ⟨filing, rest, _⟩ := sound.bears known
  rw [Execution.rest, running] at rest
  exact rest.1

end Desk

namespace Branch

variable {branch next : Branch} {id : Nat} {execution : Execution} {attempt : Nat}
  {request : TransactionRequest} {outcome : Outcome DownstreamError Unit}

/-! ## Attempts -/

/-- An attempt after one more was made one before, or is the new one. -/
theorem mem_attempted {attempts : Nat → List Nat} {other number : Nat}
    (inside : number ∈ Function.update attempts id (attempts id ++ [attempt]) other) :
    number ∈ attempts other ∨ number = attempt ∧ other = id := by
  by_cases same : other = id
  · subst same
    rw [Function.update_self] at inside
    exact (List.mem_append.mp inside).imp_right fun last => ⟨List.mem_singleton.mp last, rfl⟩
  · rw [Function.update_of_ne same] at inside
    exact Or.inl inside

/-- A call of the office is one for the request. -/
structure Asked (office : Office) (request : TransactionRequest) (attempt : Nat) (call : LedgerCall)
    (made : Call) : Prop where
  own : request.call = .ok call
  known : office.calls attempt = some made
  asked : ∃ policy, made.asked = call.serviceCall policy

/-- A call of the office has returned, and this is what has come back. -/
def Heard (office : Office) (request : TransactionRequest) (attempt : Nat)
    (outcome : Outcome DownstreamError Unit) : Prop :=
  ∃ call made theirs, Asked office request attempt call made ∧ made.returned? = some theirs ∧
    outcome = call.answer theirs

/-- An execution has heard of all its attempts, or waits for the last of them. -/
inductive Tied (office : Office) (attempts : List Nat) (execution : Execution) : Prop
  | heard {rest} : execution.stage = .running rest →
    List.Forall₂ (Heard office execution.request) attempts execution.outcomes →
    Tied office attempts execution
  | waiting {call resume earlier attempt made} : execution.stage = .calling call resume →
    attempts = earlier ++ [attempt] →
    List.Forall₂ (Heard office execution.request) earlier execution.outcomes →
    Asked office execution.request attempt call made → Tied office attempts execution

theorem Asked.step {office next : Office} {call : LedgerCall} {made : Call}
    (asked : Asked office request attempt call made) (step : office.Step next) :
    ∃ later, Asked next request attempt call later := by
  obtain ⟨own, known, policy, same⟩ := asked
  obtain ⟨later, present, kept⟩ := step.asked_kept known
  exact ⟨later, own, present, policy, kept.trans same⟩

theorem asked_called {office : Office} {call : LedgerCall} (own : request.call = .ok call)
    (policy : LedgerPolicy) :
    Asked (office.withCall attempt (Call.begun (call.serviceCall policy))) request attempt call
      (Call.begun (call.serviceCall policy)) :=
  ⟨own, Function.update_self .., policy, rfl⟩

theorem Heard.step {office next : Office} (heard : Heard office request attempt outcome)
    (step : office.Step next) : Heard next request attempt outcome := by
  obtain ⟨call, made, theirs, ⟨own, known, asked⟩, returned, same⟩ := heard
  have ended : made.HasEnded := Or.inr ⟨theirs, returned⟩
  exact ⟨call, made, theirs, ⟨own, step.ended known ended, asked⟩, returned, same⟩

theorem Tied.step {office next : Office} {attempts : List Nat} (tied : Tied office attempts execution)
    (step : office.Step next) : Tied next attempts execution := by
  cases tied with
  | heard running all => exact .heard running (all.imp fun _ _ heard => heard.step step)
  | waiting calling split all asked =>
    obtain ⟨later, asked⟩ := asked.step step
    exact .waiting calling split (all.imp fun _ _ heard => heard.step step) asked

structure Sound (branch : Branch) : Prop where
  desk : branch.desk.Sound
  office : branch.office.Sound
  made : ∀ {id attempt}, attempt ∈ branch.attempts id →
    ∃ made, branch.office.calls attempt = some made
  apart : ∀ {first second attempt}, attempt ∈ branch.attempts first →
    attempt ∈ branch.attempts second → first = second
  idle : ∀ {id}, branch.desk.executions id = none → branch.attempts id = []
  tied : ∀ {id execution}, branch.desk.executions id = some execution →
    Tied branch.office (branch.attempts id) execution

theorem start_sound : start.Sound := by
  refine ⟨Desk.start_sound, Office.start_sound, ?_, ?_, fun _ => rfl, ?_⟩
  · intro id attempt absurdly
    cases absurdly
  · intro first second attempt absurdly
    cases absurdly
  · intro id execution absurdly
    cases absurdly

theorem Sound.proceeded (sound : branch.Sound) {desk : Desk}
    (proceeds : branch.desk.Proceeds desk) : Sound { branch with desk } := by
  refine ⟨(Desk.proceeds_sound sound.desk proceeds).1, sound.office, sound.made, sound.apart,
    fun absent => sound.idle (proceeds.unknown absent), ?_⟩
  intro id new known
  cases proceeds.carries known with
  | still before => exact sound.tied before
  | begun absent running unheard =>
    obtain ⟨rest, running⟩ := running
    refine .heard running ?_
    show List.Forall₂ _ (branch.attempts id) _
    rw [sound.idle absent, unheard]
    exact .nil
  | continued before running newRunning request outcomes =>
    obtain ⟨rest, newRunning⟩ := newRunning
    cases sound.tied before with
    | heard _ all =>
      rw [← request, ← outcomes] at all
      exact .heard newRunning all
    | waiting calling => cases running.symm.trans calling

theorem Sound.stepped (sound : branch.Sound) {office : Office} (step : branch.office.Step office) :
    Sound { branch with office } := by
  refine ⟨sound.desk, (Office.step_sound sound.office step).2.1, ?_, sound.apart, sound.idle,
    fun known => (sound.tied known).step step⟩
  intro id attempt inside
  obtain ⟨made, known⟩ := sound.made inside
  obtain ⟨later, present, _⟩ := step.asked_kept known
  exact ⟨later, present⟩

theorem Sound.called (sound : branch.Sound) {call : LedgerCall}
    {resume : Outcome DownstreamError Unit → Procedure} (policy : LedgerPolicy)
    (known : branch.desk.executions id = some execution)
    (running : execution.stage = .running (.ask (.ledger call) resume))
    (new : branch.office.calls attempt = none) :
    (branch.called id execution call resume policy attempt).Sound := by
  have step : branch.office.Step
      (branch.office.withCall attempt (Call.begun (call.serviceCall policy))) := .call _ new
  have unused : ∀ other, attempt ∉ branch.attempts other := by
    intro other inside
    obtain ⟨made, present⟩ := sound.made inside
    cases new.symm.trans present
  refine ⟨sound.desk.called known running, (Office.step_sound sound.office step).2.1, ?_, ?_, ?_, ?_⟩
  · intro other number inside
    rcases mem_attempted inside with before | ⟨rfl, _⟩
    · obtain ⟨made, present⟩ := sound.made before
      obtain ⟨later, here, _⟩ := step.asked_kept present
      exact ⟨later, here⟩
    · exact ⟨_, Function.update_self ..⟩
  · intro first second number one two
    rcases mem_attempted one with before | ⟨rfl, rfl⟩
    · rcases mem_attempted two with alsoBefore | ⟨rfl, _⟩
      · exact sound.apart before alsoBefore
      · exact absurd before (unused first)
    · rcases mem_attempted two with before | ⟨_, rfl⟩
      · exact absurd before (unused second)
      · rfl
  · intro other absent
    have differs : other ≠ id := by
      intro same
      subst same
      cases absent.symm.trans (Function.update_self ..)
    show Function.update branch.attempts id _ other = []
    rw [Function.update_of_ne differs]
    exact sound.idle ((Function.update_of_ne differs _ _).symm.trans absent)
  · intro other theirs present
    rcases Desk.withExecution_executions present with ⟨rfl, rfl⟩ | ⟨differs, before⟩
    · cases sound.tied known with
      | heard _ all =>
        exact .waiting rfl (Function.update_self ..) (all.imp fun _ _ heard => heard.step step)
          (asked_called (sound.desk.running_call known running) policy)
      | waiting calling => cases running.symm.trans calling
    · show Tied _ (Function.update branch.attempts id _ other) _
      rw [Function.update_of_ne differs]
      exact (sound.tied before).step step

theorem Sound.answered (sound : branch.Sound) {call : LedgerCall}
    {resume : Outcome DownstreamError Unit → Procedure} {made : Call}
    {outcome : Outcome LedgerError ServiceReply}
    (known : branch.desk.executions id = some execution)
    (calling : execution.stage = .calling call resume)
    (last : (branch.attempts id).getLast? = some attempt)
    (present : branch.office.calls attempt = some made)
    (returned : made.returned? = some outcome) :
    (branch.answered id execution call resume outcome).Sound := by
  refine ⟨sound.desk.answered _ known calling, sound.office, sound.made, sound.apart, ?_, ?_⟩
  · intro other absent
    apply sound.idle
    by_cases same : other = id
    · subst same
      cases absent.symm.trans (Function.update_self ..)
    · exact (Function.update_of_ne same _ _).symm.trans absent
  · intro other theirs there
    rcases Desk.withExecution_executions there with ⟨rfl, rfl⟩ | ⟨_, before⟩
    · cases sound.tied known with
      | heard running => cases calling.symm.trans running
      | @waiting asking _ earlier attempt' made' alsoCalling split all asked =>
        cases calling.symm.trans alsoCalling
        rw [split, List.getLast?_append_of_ne_nil _ (List.cons_ne_nil _ _)] at last
        cases last
        cases present.symm.trans asked.known
        refine .heard rfl ?_
        show List.Forall₂ _ (branch.attempts other) _
        rw [split]
        refine List.rel_append all (.cons ?_ .nil)
        exact ⟨call, made, outcome, asked, returned, rfl⟩
    · exact sound.tied before

theorem step_sound (sound : branch.Sound) (step : branch.Step next) : next.Sound := by
  cases step with
  | desk proceeds => exact sound.proceeded proceeds
  | office step => exact sound.stepped step
  | call policy known running new => exact sound.called policy known running new
  | answer known calling last present returned =>
    exact sound.answered known calling last present returned

theorem Reachable.sound (reachable : branch.Reachable) : branch.Sound := by
  induction reachable with
  | refl => exact start_sound
  | tail _ step ih => exact step_sound ih step

end Branch

end AccountLedger
