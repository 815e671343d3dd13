import AccountLedger.Proofs.Transaction.Outpost

/-!
What executions have heard of their attempts at a ledger at an address: what the ledger has made of
them, as long as its responses come back intact, and otherwise errors that say nothing of it.
-/

namespace AccountLedger

/-- An error that will not pass is not a contended lock. -/
theorem not_contended {outcome : Outcome DownstreamError Unit}
    (lasting : ∃ error, outcome = .error (.error error) ∧ error.isTransient = false) :
    ¬ Contended outcome := by
  obtain ⟨error, rfl, final⟩ := lasting
  rintro ⟨_, same, transient⟩
  cases same
  cases final.symm.trans transient

namespace Outpost

open Branch (Asked Heard)

/-! ## What an execution has heard -/

/-- What an execution has heard of an attempt: what the ledger has made of it, that it has failed
there, or an error that leaves this open. The last two are not taken for a contended lock. -/
inductive Told (office : Office) (request : TransactionRequest) :
    Nat × Delivery → Outcome DownstreamError Unit → Prop
  | intact {attempt said outcome} : Heard office request attempt said →
    (said = .ok () → outcome = .ok ()) → Told office request (attempt, .intact) outcome
  | bare {attempt said outcome} : Heard office request attempt said → said ≠ .ok () →
    ¬ Contended outcome → Told office request (attempt, .bare) outcome
  | astray {attempt delivery outcome} : delivery ≠ .intact → delivery ≠ .bare →
    ¬ Contended outcome → Told office request (attempt, delivery) outcome

/-- An execution has heard of all its attempts, or waits to hear of the last of them. -/
inductive Tied (office : Office) (attempts : List Nat) (letters : List (Nat × Delivery))
    (execution : Execution) : Prop
  | heard {rest} : execution.stage = .running rest → attempts = letters.map Prod.fst →
    List.Forall₂ (Told office execution.request) letters execution.outcomes →
    Tied office attempts letters execution
  | waiting {call resume attempt} : execution.stage = .calling call resume →
    attempts = letters.map Prod.fst ++ [attempt] →
    List.Forall₂ (Told office execution.request) letters execution.outcomes →
    Tied office attempts letters execution

variable {root : RootAddress} {outpost next : Outpost} {id : Nat} {execution : Execution}
  {attempt : Nat} {call : LedgerCall} {resume : Outcome DownstreamError Unit → Procedure}
  {request : TransactionRequest} {outcome : Outcome DownstreamError Unit} {delivery : Delivery}
  {office : Office}

theorem Told.step {next : Office} {letter : Nat × Delivery}
    (told : Told office request letter outcome) (step : office.Step next) :
    Told next request letter outcome := by
  cases told with
  | intact heard well => exact .intact (heard.step step) well
  | bare heard ill lasting => exact .bare (heard.step step) ill lasting
  | astray notIntact notBare lasting => exact .astray notIntact notBare lasting

theorem Tied.step {next : Office} {attempts : List Nat} {letters : List (Nat × Delivery)}
    (tied : Tied office attempts letters execution) (step : office.Step next) :
    Tied next attempts letters execution := by
  cases tied with
  | heard running split all => exact .heard running split (all.imp fun _ _ told => told.step step)
  | waiting calling split all => exact .waiting calling split (all.imp fun _ _ told => told.step step)

/-! ## The invariant -/

/-- An execution of the request has made this attempt. -/
def Made (outpost : Outpost) (attempt : Nat) (request : TransactionRequest) : Prop :=
  ∃ id execution, outpost.desk.executions id = some execution ∧ attempt ∈ outpost.attempts id ∧
    execution.request = request

structure Sound (outpost : Outpost) : Prop where
  desk : outpost.desk.Sound
  patient : outpost.desk.Patient
  office : outpost.office.Sound
  idle : ∀ {id}, outpost.desk.executions id = none →
    outpost.attempts id = [] ∧ outpost.letters id = []
  placed : ∀ {id attempt}, attempt ∈ outpost.attempts id →
    (∃ call, outpost.underway attempt = some call) ∨
      ∃ made, outpost.office.calls attempt = some made
  underway : ∀ {attempt call}, outpost.underway attempt = some call →
    outpost.office.calls attempt = none ∧
      ∀ {request}, outpost.Made attempt request → request.call = .ok call
  asked : ∀ {attempt made request}, outpost.office.calls attempt = some made →
    outpost.Made attempt request → ∃ call, Asked outpost.office request attempt call made
  tied : ∀ {id execution}, outpost.desk.executions id = some execution →
    Tied outpost.office (outpost.attempts id) (outpost.letters id) execution

theorem start_sound : start.Sound := by
  refine ⟨Desk.start_sound, Desk.start_patient, Office.start_sound, fun _ => ⟨rfl, rfl⟩, ?_, ?_, ?_,
    ?_⟩
  · intro id attempt absurdly
    cases absurdly
  · intro attempt call absurdly
    cases absurdly
  · intro attempt made request absurdly
    cases absurdly
  · intro id execution absurdly
    cases absurdly

theorem Sound.proceeded (sound : outpost.Sound) {desk : Desk}
    (proceeds : outpost.desk.Proceeds desk) : Sound { outpost with desk } := by
  have before : ∀ {attempt request}, Made { outpost with desk } attempt request →
      outpost.Made attempt request := by
    rintro attempt request ⟨id, new, known, inside, same⟩
    cases proceeds.carries known with
    | still before => exact ⟨id, new, before, inside, same⟩
    | begun absent _ _ =>
      have inside : attempt ∈ outpost.attempts id := inside
      rw [(sound.idle absent).1] at inside
      cases inside
    | continued before _ _ requests _ => exact ⟨id, _, before, inside, requests.symm.trans same⟩
  refine ⟨(Desk.proceeds_sound sound.desk proceeds).1, sound.patient.proceeded proceeds, sound.office,
    fun absent => sound.idle (proceeds.unknown absent), sound.placed,
    fun away => ⟨(sound.underway away).1, fun made => (sound.underway away).2 (before made)⟩,
    fun present made => sound.asked present (before made), ?_⟩
  intro id new known
  cases proceeds.carries known with
  | still before => exact sound.tied before
  | begun absent running unheard =>
    obtain ⟨rest, running⟩ := running
    obtain ⟨noAttempts, noLetters⟩ := sound.idle absent
    refine .heard running ?_ ?_
    · show outpost.attempts id = (outpost.letters id).map Prod.fst
      rw [noAttempts, noLetters, List.map_nil]
    · show List.Forall₂ _ (outpost.letters id) _
      rw [noLetters, unheard]
      exact .nil
  | continued before running newRunning request outcomes =>
    obtain ⟨rest, newRunning⟩ := newRunning
    cases sound.tied before with
    | heard _ split all =>
      rw [← request, ← outcomes] at all
      exact .heard newRunning split all
    | waiting calling => cases running.symm.trans calling

theorem Sound.stepped (sound : outpost.Sound) {office : Office} (step : outpost.office.Step office)
    (spares : ∀ attempt call, outpost.underway attempt = some call → office.calls attempt = none) :
    Sound { outpost with office } := by
  refine ⟨sound.desk, sound.patient, (Office.step_sound sound.office step).2.1, sound.idle, ?_,
    fun away => ⟨spares _ _ away, (sound.underway away).2⟩, ?_,
    fun known => (sound.tied known).step step⟩
  · intro id attempt inside
    refine (sound.placed inside).imp_right ?_
    rintro ⟨made, known⟩
    obtain ⟨later, present, _⟩ := step.asked_kept known
    exact ⟨later, present⟩
  · rintro attempt later request present ⟨id, execution, known, inside, same⟩
    -- a call that is under way cannot have been made by the office itself
    rcases sound.placed inside with ⟨call, away⟩ | ⟨old, there⟩
    · cases (spares attempt call away).symm.trans present
    · obtain ⟨call, asked⟩ := sound.asked there ⟨id, execution, known, inside, same⟩
      obtain ⟨last, stillAsked⟩ := asked.step step
      cases stillAsked.known.symm.trans present
      exact ⟨call, stillAsked⟩

theorem Sound.sent (sound : outpost.Sound) (known : outpost.desk.executions id = some execution)
    (running : execution.stage = .running (.ask (.ledger call) resume))
    (new : outpost.office.calls attempt = none)
    (unused : ∀ other, attempt ∉ outpost.attempts other) :
    (outpost.sent id execution call resume attempt).Sound := by
  have own := sound.desk.running_call known running
  have before : ∀ {number request},
      (outpost.sent id execution call resume attempt).Made number request →
        outpost.Made number request ∨ number = attempt ∧ request = execution.request := by
    rintro number request ⟨other, theirs, present, inside, same⟩
    rcases Desk.withExecution_executions present with ⟨rfl, rfl⟩ | ⟨differs, there⟩
    · exact (Branch.mem_attempted inside).imp (fun old => ⟨other, execution, known, old, same⟩)
        fun newest => ⟨newest.1, same.symm⟩
    · refine Or.inl ⟨other, theirs, there, ?_, same⟩
      exact (Branch.mem_attempted inside).resolve_right fun newest => differs newest.2
  -- nobody else has made the new attempt, so it is meant for this execution's request alone
  have untried : ∀ {request}, ¬ outpost.Made attempt request :=
    fun ⟨other, _, _, inside, _⟩ => unused other inside
  refine ⟨sound.desk.called known running, sound.patient.called known running, sound.office, ?_, ?_,
    ?_, ?_, ?_⟩
  · intro other absent
    have differs : other ≠ id := by
      rintro rfl
      cases absent.symm.trans (Function.update_self ..)
    obtain ⟨noAttempts, noLetters⟩ :=
      sound.idle ((Function.update_of_ne differs _ _).symm.trans absent)
    exact ⟨(Function.update_of_ne differs _ _).trans noAttempts, noLetters⟩
  · intro other number inside
    by_cases same : number = attempt
    · subst same
      exact Or.inl ⟨call, Function.update_self ..⟩
    · have old := (Branch.mem_attempted inside).resolve_right fun newest => same newest.1
      refine (sound.placed old).imp_left ?_
      rintro ⟨earlier, away⟩
      exact ⟨earlier, (Function.update_of_ne same _ _).trans away⟩
  · intro number theirs away
    by_cases same : number = attempt
    · subst same
      have newest : Function.update outpost.underway number (some call) number = some theirs := away
      rw [Function.update_self] at newest
      cases newest
      refine ⟨new, fun made => ?_⟩
      rcases before made with old | ⟨_, rfl⟩
      · exact absurd old untried
      · exact own
    · obtain ⟨absent, meant⟩ := sound.underway ((Function.update_of_ne same _ _).symm.trans away)
      exact ⟨absent, fun made => meant ((before made).resolve_right fun newest => same newest.1)⟩
  · intro number made request present tried
    rcases before tried with old | ⟨rfl, _⟩
    · exact sound.asked present old
    · cases new.symm.trans present
  · intro other theirs present
    rcases Desk.withExecution_executions present with ⟨rfl, rfl⟩ | ⟨differs, there⟩
    · cases sound.tied known with
      | heard _ split all =>
        have listed : Function.update outpost.attempts other (outpost.attempts other ++ [attempt])
            other = (outpost.letters other).map Prod.fst ++ [attempt] := by
          rw [Function.update_self, split]
        exact .waiting rfl listed all
      | waiting calling => cases running.symm.trans calling
    · show Tied _ (Function.update outpost.attempts id _ other) _ _
      rw [Function.update_of_ne differs]
      exact sound.tied there

theorem Sound.arrived (sound : outpost.Sound) (policy : LedgerPolicy)
    (away : outpost.underway attempt = some call) :
    (outpost.arrived attempt call policy).Sound := by
  obtain ⟨new, meant⟩ := sound.underway away
  have step : outpost.office.Step
      (outpost.office.withCall attempt (Call.begun (call.serviceCall policy))) := .call _ new
  refine ⟨sound.desk, sound.patient, (Office.step_sound sound.office step).2.1, sound.idle, ?_, ?_, ?_,
    fun known => (sound.tied known).step step⟩
  · intro id number inside
    by_cases same : number = attempt
    · subst same
      exact Or.inr ⟨_, Function.update_self ..⟩
    · rcases sound.placed inside with ⟨theirs, alsoAway⟩ | ⟨made, known⟩
      · exact Or.inl ⟨theirs, (Function.update_of_ne same _ _).trans alsoAway⟩
      · exact Or.inr ⟨made, (Function.update_of_ne same _ _).trans known⟩
  · intro number theirs stillAway
    have differs : number ≠ attempt := by
      rintro rfl
      have gone : Function.update outpost.underway number none number = some theirs := stillAway
      rw [Function.update_self] at gone
      cases gone
    obtain ⟨absent, own⟩ := sound.underway ((Function.update_of_ne differs _ _).symm.trans stillAway)
    exact ⟨(Function.update_of_ne differs _ _).trans absent, own⟩
  · intro number made request present tried
    by_cases same : number = attempt
    · subst same
      cases (Function.update_self ..).symm.trans present
      exact ⟨call, Branch.asked_called (meant tried) policy⟩
    · obtain ⟨theirs, asked⟩ := sound.asked ((Function.update_of_ne same _ _).symm.trans present) tried
      obtain ⟨last, stillAsked⟩ := asked.step step
      cases stillAsked.known.symm.trans present
      exact ⟨theirs, stillAsked⟩

/-- What comes back of an attempt tells of it. -/
theorem Sound.told (sound : outpost.Sound) {result : CallResult}
    (own : request.call = .ok call) (made : outpost.Made attempt request)
    (brings : delivery.Brings outpost.office attempt call result) :
    Told outpost.office request (attempt, delivery) (call.told root result) := by
  cases brings with
  | @intact known theirs correlation present returned =>
    obtain ⟨asking, asked⟩ := sound.asked present made
    obtain rfl : call = asking := Except.ok.inj (own.symm.trans asked.own)
    refine .intact ⟨call, known, theirs, asked, returned, rfl⟩ fun well => ?_
    obtain ⟨reply, rfl⟩ := LedgerCall.answer_eq_ok.mp well
    obtain ⟨policy, same⟩ := asked.asked
    exact LedgerCall.told_reply (sound.office.gets present same returned) correlation
  | @bare known failure correlation response present returned responded =>
    obtain ⟨asking, asked⟩ := sound.asked present made
    refine .bare ⟨asking, known, _, asked, returned, rfl⟩ (fun well => ?_)
      (not_contended (call.told_bare root response.status))
    obtain ⟨reply, absurdly⟩ := LedgerCall.answer_eq_ok.mp well
    cases absurdly
  | garbled present returned unread =>
    exact .astray Delivery.noConfusion Delivery.noConfusion
      (not_contended (call.told_unread root unread))
  | late =>
    exact .astray Delivery.noConfusion Delivery.noConfusion
      (not_contended (call.told_timedOut root))
  | lost =>
    exact .astray Delivery.noConfusion Delivery.noConfusion
      (not_contended (call.told_disconnected root))

theorem Sound.answered (sound : outpost.Sound) {result : CallResult}
    (known : outpost.desk.executions id = some execution)
    (calling : execution.stage = .calling call resume)
    (last : (outpost.attempts id).getLast? = some attempt)
    (brings : delivery.Brings outpost.office attempt call result) :
    (outpost.answered id execution resume (call.told root result) (attempt, delivery)).Sound := by
  have before : ∀ {number request},
      (outpost.answered id execution resume (call.told root result) (attempt, delivery)).Made number
        request → outpost.Made number request := by
    rintro number request ⟨other, theirs, present, inside, same⟩
    rcases Desk.withExecution_executions present with ⟨rfl, rfl⟩ | ⟨_, there⟩
    · exact ⟨other, execution, known, inside, same⟩
    · exact ⟨other, theirs, there, inside, same⟩
  refine ⟨sound.desk.answered _ known calling, sound.patient.answered _ known calling, sound.office, ?_,
    sound.placed,
    fun away => ⟨(sound.underway away).1, fun made => (sound.underway away).2 (before made)⟩,
    fun present made => sound.asked present (before made), ?_⟩
  · intro other absent
    have differs : other ≠ id := by
      rintro rfl
      cases absent.symm.trans (Function.update_self ..)
    obtain ⟨noAttempts, noLetters⟩ :=
      sound.idle ((Function.update_of_ne differs _ _).symm.trans absent)
    exact ⟨noAttempts, (Function.update_of_ne differs _ _).trans noLetters⟩
  · intro other theirs present
    rcases Desk.withExecution_executions present with ⟨rfl, rfl⟩ | ⟨differs, there⟩
    · show Tied _ _ (Function.update outpost.letters other _ other) _
      rw [Function.update_self]
      cases sound.tied known with
      | heard running => cases calling.symm.trans running
      | @waiting _ _ number _ split all =>
        have newest : (outpost.attempts other).getLast? = some number := by
          rw [split, List.getLast?_concat]
        cases last.symm.trans newest
        have made : outpost.Made attempt execution.request := by
          refine ⟨other, execution, known, ?_, rfl⟩
          rw [split]
          exact List.mem_append_right _ List.mem_cons_self
        refine .heard rfl ?_ (List.rel_append all (.cons ?_ .nil))
        · show outpost.attempts other = _
          rw [split, List.map_append]
          rfl
        · exact sound.told (sound.desk.calling_pending known calling).1 made brings
    · show Tied _ _ (Function.update outpost.letters id _ other) _
      rw [Function.update_of_ne differs]
      exact sound.tied there

theorem step_sound (sound : outpost.Sound) (step : outpost.Step root next) : next.Sound := by
  cases step with
  | desk proceeds => exact sound.proceeded proceeds
  | office step spares => exact sound.stepped step spares
  | send known running new unused => exact sound.sent known running new unused
  | arrive policy away => exact sound.arrived policy away
  | hear delivery known calling last brings => exact sound.answered known calling last brings

theorem Reachable.sound (reachable : outpost.Reachable root) : outpost.Sound := by
  induction reachable with
  | refl => exact start_sound
  | tail _ step ih => exact step_sound ih step

end Outpost

end AccountLedger
