import AccountLedger.Proofs.Ensures

/-!
Complete runs of a program, each with the requests that it made and the answers that it was given.
Who answers is left open: every answer of the right type may come.
-/

namespace AccountLedger

/-- A request and the answer to it. -/
structure Exchange (I : Interface) where
  request : I.Request
  answer : I.Answer request

/-- What was exchanged, in its order. -/
abbrev Transcript (I : Interface) : Type := List (Exchange I)

namespace Program

variable {I J : Interface} {α β σ τ : Type}

/-- The program comes to this value when it is answered as the transcript says. -/
inductive Runs : Program I α → Transcript I → α → Prop
  | done (value : α) : Runs (.done value) [] value
  | ask {request : I.Request} {resume : I.Answer request → Program I α}
    {rest : Transcript I} {value : α} (answer : I.Answer request) :
    Runs (resume answer) rest value → Runs (.ask request resume) (⟨request, answer⟩ :: rest) value

/-- What a program ensures of a translation is what its requests ensure when they are
translated. -/
theorem ensures_translate {rule : RequestRule J σ}
    (answer : (request : I.Request) → Program J (I.Answer request)) (program : Program I α)
    (known : σ) (result : α → σ → Prop) :
    (program.translate answer).Ensures rule known result =
      program.Ensures (fun request => (answer request).Ensures rule) known result := by
  induction program generalizing known with
  | done value => rfl
  | ask request resume ih =>
    rw [translate, ensures_bind, Ensures]
    congr 1
    funext value later
    exact ih value later

end Program

namespace RequestRule

variable {I J : Interface} {α σ τ : Type}

/-- Every answer may come, and all that is exchanged is recorded. Each request has to be permitted
after what was recorded before it. -/
def recording (permits : I.Request → Transcript I → Prop) : RequestRule I (Transcript I) :=
  fun request known result =>
    permits request known ∧ ∀ answer, result answer (known ++ [⟨request, answer⟩])

theorem recording_monotone (permits : I.Request → Transcript I → Prop) :
    (recording permits).Monotone := fun _ _ _ _ weaker =>
  And.imp_right fun after answer => weaker _ _ (after answer)

/-- The rule for requests that are answered by programs over another interface, which share a
state. -/
def threaded (rule : RequestRule J σ)
    (answer : (request : I.Request) → StateT τ (Program J) (I.Answer request)) :
    RequestRule I (σ × τ) :=
  fun request known result =>
    ((answer request).run known.2).Ensures rule known.1 fun given later =>
      result given.1 (later, given.2)

theorem threaded_monotone {rule : RequestRule J σ} (monotone : rule.Monotone)
    (answer : (request : I.Request) → StateT τ (Program J) (I.Answer request)) :
    (threaded rule answer).Monotone := fun _ _ _ _ weaker =>
  Program.Ensures.imp monotone fun _ _ => weaker _ _

end RequestRule

namespace Program

variable {I J : Interface} {α σ τ : Type}

theorem ensures_interpret {rule : RequestRule J σ}
    (answer : (request : I.Request) → StateT τ (Program J) (I.Answer request))
    (program : Program I α) (known : σ) (state : τ) (result : α → σ × τ → Prop) :
    ((program.interpret answer).run state).Ensures rule known
        (fun given later => result given.1 (later, given.2)) =
      program.Ensures (RequestRule.threaded rule answer) (known, state) result := by
  induction program generalizing known state with
  | done value => rfl
  | ask request resume ih =>
    show (Program.bind _ _).Ensures rule known _ = _
    rw [ensures_bind]
    show Ensures rule _ _ _ = Ensures rule _ _ _
    congr 1
    funext given later
    exact ih given.1 later given.2

/-- Whatever a program was answered, each of its requests was permitted after what came before it,
and what it ensures holds in the end. -/
theorem Runs.recorded {permits : I.Request → Transcript I → Prop} {program : Program I α}
    {transcript known : Transcript I} {value : α} {result : α → Transcript I → Prop}
    (ran : program.Runs transcript value)
    (ensured : program.Ensures (RequestRule.recording permits) known result) :
    result value (known ++ transcript) ∧
      ∀ before exchange after, transcript = before ++ exchange :: after →
        permits exchange.request (known ++ before) := by
  induction ran generalizing known with
  | done value => simpa using ensured
  | @ask request resume rest value answer ran ih =>
    obtain ⟨permitted, afterwards⟩ := ensured
    obtain ⟨reached, others⟩ := ih (afterwards answer)
    refine ⟨by simpa using reached, fun before exchange after split => ?_⟩
    cases before with
    | nil =>
      obtain ⟨rfl, -⟩ := List.cons.inj split
      simpa using permitted
    | cons first earlier =>
      obtain ⟨rfl, rest⟩ := List.cons.inj split
      simpa using others earlier exchange after rest

end Program

end AccountLedger
