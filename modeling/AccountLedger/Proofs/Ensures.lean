import AccountLedger.Program

/-!
What a program makes sure of, given a rule for every request: what has to be known before it is
made, and what is known after its answer.
-/

namespace AccountLedger

/-- What has to be known before a request for something to be known after it. -/
abbrev RequestRule (I : Interface) (σ : Type) : Type :=
  (request : I.Request) → σ → (I.Answer request → σ → Prop) → Prop

namespace RequestRule

def Monotone (rule : RequestRule I σ) : Prop :=
  ∀ request known (weak strong : I.Answer request → σ → Prop),
    (∀ answer later, strong answer later → weak answer later) →
      rule request known strong → rule request known weak

end RequestRule

namespace Program

/-- Whatever is answered within the rule, the program comes to an end with this known. -/
def Ensures (rule : RequestRule I σ) : Program I α → σ → (α → σ → Prop) → Prop
  | .done value, known, result => result value known
  | .ask request resume, known, result =>
    rule request known fun answer later => (resume answer).Ensures rule later result

variable {I : Interface} {σ α β : Type} {rule : RequestRule I σ}

@[simp]
theorem ensures_done (value : α) (known : σ) (result : α → σ → Prop) :
    (Program.done value : Program I α).Ensures rule known result = result value known := rfl

theorem ensures_bind (program : Program I α) (next : α → Program I β) (known : σ)
    (result : β → σ → Prop) :
    (program.bind next).Ensures rule known result =
      program.Ensures rule known fun value later => (next value).Ensures rule later result := by
  induction program generalizing known with
  | done value => rfl
  | ask request resume ih => simp only [bind, Ensures, ih]

theorem Ensures.imp (monotone : rule.Monotone) {program : Program I α} {known : σ}
    {strong weak : α → σ → Prop} (weaker : ∀ value later, strong value later → weak value later)
    (ensured : program.Ensures rule known strong) : program.Ensures rule known weak := by
  induction program generalizing known with
  | done value => exact weaker value known ensured
  | ask request resume ih => exact monotone _ _ _ _ (fun answer later => ih answer) ensured

/-! ## Programs that may fail -/

section

variable {ε : Type}

/-- The program ends with a value, or fails, with this known in either case. -/
def Settles (rule : RequestRule I σ) (program : ExceptT ε (Program I) α) (known : σ)
    (ok : α → σ → Prop) (failed : ε → σ → Prop) : Prop :=
  Program.Ensures rule program.run known fun outcome later =>
    match outcome with
    | .ok value => ok value later
    | .error failure => failed failure later

variable {failed : ε → σ → Prop}

theorem settles_bind (program : ExceptT ε (Program I) α) (next : α → ExceptT ε (Program I) β)
    (known : σ) (ok : β → σ → Prop) :
    Settles rule (program >>= next) known ok failed =
      Settles rule program known (fun value later => Settles rule (next value) later ok failed)
        failed := by
  show Program.Ensures rule (Program.bind _ _) known _ = _
  rw [ensures_bind]
  unfold Settles
  congr 1
  funext outcome later
  cases outcome <;> rfl

theorem settles_lift (program : Program I α) (known : σ) (ok : α → σ → Prop) :
    Settles rule (ExceptT.lift program : ExceptT ε (Program I) α) known ok failed =
      program.Ensures rule known ok := by
  show Program.Ensures rule (Program.bind _ _) known _ = _
  rw [ensures_bind]
  rfl

theorem Settles.bind {program : ExceptT ε (Program I) α} {next : α → ExceptT ε (Program I) β}
    {known : σ} {ok : β → σ → Prop}
    (first : Settles rule program known
      (fun value later => Settles rule (next value) later ok failed) failed) :
    Settles rule (program >>= next) known ok failed :=
  (settles_bind program next known ok).mpr first

theorem Settles.imp (monotone : rule.Monotone) {program : ExceptT ε (Program I) α} {known : σ}
    {strongOk weakOk : α → σ → Prop} {strongFailed weakFailed : ε → σ → Prop}
    (settles : Settles rule program known strongOk strongFailed)
    (value : ∀ value later, strongOk value later → weakOk value later)
    (failure : ∀ failure later, strongFailed failure later → weakFailed failure later) :
    Settles rule program known weakOk weakFailed := by
  refine Ensures.imp monotone ?_ settles
  rintro (cause | result) later
  · exact failure cause later
  · exact value result later

end

/-! ## Programs that may fail and share a state -/

section

variable {ε τ : Type}

/-- Like `Settles`, for a program with a state, which is kept also when the program fails. -/
def SettlesOn (rule : RequestRule I σ) (program : ExceptT ε (StateT τ (Program I)) α) (state : τ)
    (known : σ) (ok : α → τ → σ → Prop) (failed : ε → τ → σ → Prop) : Prop :=
  Program.Ensures rule (program.run.run state) known fun result later =>
    match result.1 with
    | .ok value => ok value result.2 later
    | .error failure => failed failure result.2 later

namespace SettlesOn

variable {state : τ} {known : σ} {ok : α → τ → σ → Prop} {failed : ε → τ → σ → Prop}

theorem imp (monotone : rule.Monotone) {program : ExceptT ε (StateT τ (Program I)) α}
    {strongOk : α → τ → σ → Prop} {strongFailed : ε → τ → σ → Prop}
    (settles : SettlesOn rule program state known strongOk strongFailed)
    (value : ∀ value state later, strongOk value state later → ok value state later)
    (failure : ∀ failure state later, strongFailed failure state later →
      failed failure state later) :
    SettlesOn rule program state known ok failed := by
  refine Ensures.imp monotone ?_ settles
  rintro ⟨cause | result, state⟩ later
  · exact failure cause state later
  · exact value result state later

theorem bind {program : ExceptT ε (StateT τ (Program I)) α}
    {next : α → ExceptT ε (StateT τ (Program I)) β} {ok : β → τ → σ → Prop}
    (first : SettlesOn rule program state known
      (fun value state later => SettlesOn rule (next value) state later ok failed) failed) :
    SettlesOn rule (program >>= next) state known ok failed := by
  show Program.Ensures rule (Program.bind _ _) known _
  rw [ensures_bind]
  refine cast ?_ first
  unfold SettlesOn
  congr 1
  funext result later
  obtain ⟨failure | value, state⟩ := result
  · rfl
  · rfl

theorem pure {value : α} (holds : ok value state known) :
    SettlesOn rule (Pure.pure value) state known ok failed := holds

theorem throw {failure : ε} (holds : failed failure state known) :
    SettlesOn rule (MonadExcept.throw failure) state known ok failed := holds

theorem get {ok : τ → τ → σ → Prop} (holds : ok state state known) :
    SettlesOn rule MonadState.get state known ok failed := holds

theorem set {ok : PUnit → τ → σ → Prop} {after : τ} (holds : ok ⟨⟩ after known) :
    SettlesOn rule (MonadStateOf.set after) state known ok failed := holds

theorem modify {ok : PUnit → τ → σ → Prop} {change : τ → τ} (holds : ok ⟨⟩ (change state) known) :
    SettlesOn rule (modify change) state known ok failed := holds

theorem ofExcept {outcome : Except ε α} (value : ∀ value, outcome = .ok value → ok value state known)
    (failure : ∀ failure, outcome = .error failure → failed failure state known) :
    SettlesOn rule (ExceptT.mk (Pure.pure outcome)) state known ok failed := by
  cases outcome with
  | ok result => exact value result rfl
  | error cause => exact failure cause rfl

/-- A program without the state leaves it as it is. -/
theorem lift {program : Program I (Except ε α)}
    (ensured : program.Ensures rule known fun outcome later =>
      match outcome with
      | .ok value => ok value state later
      | .error failure => failed failure state later) :
    SettlesOn rule (ExceptT.mk (StateT.lift program)) state known ok failed := by
  show Program.Ensures rule (Program.bind _ _) known _
  rw [ensures_bind]
  exact ensured

end SettlesOn

end

/-! ## Programs that do not ask for some things -/

/-- Whatever is answered, the program asks for nothing of this kind. -/
def Avoids (bad : I.Request → Prop) : Program I α → Prop
  | .done _ => True
  | .ask request resume => ¬ bad request ∧ ∀ answer, (resume answer).Avoids bad

theorem avoids_bind {bad : I.Request → Prop} {program : Program I α} {next : α → Program I β}
    (first : program.Avoids bad) (rest : ∀ value, (next value).Avoids bad) :
    (program.bind next).Avoids bad := by
  induction program with
  | done value => exact rest value
  | ask request resume ih => exact ⟨first.1, fun answer => ih answer (first.2 answer)⟩

theorem avoids_translate {J : Interface} {bad : J.Request → Prop}
    {answer : (request : I.Request) → Program J (I.Answer request)}
    (each : ∀ request, (answer request).Avoids bad) (program : Program I α) :
    (program.translate answer).Avoids bad := by
  induction program with
  | done value => trivial
  | ask request resume ih => exact avoids_bind (each request) ih

end Program

end AccountLedger
