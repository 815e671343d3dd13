/-!
Programs as data: a program is done, or asks its surroundings for something and goes on with the
answer. What it asks for is fixed by an interface; who answers is left open, so that the same
program can run on different stores and its steps can be interleaved with those of others.
-/

namespace AccountLedger

/-- Requests, and the type of the answer to each. -/
structure Interface where
  Request : Type
  Answer : Request → Type

inductive Program (I : Interface) (α : Type) where
  | done (value : α)
  | ask (request : I.Request) (resume : I.Answer request → Program I α)

namespace Program

def bind : Program I α → (α → Program I β) → Program I β
  | .done value, next => next value
  | .ask request resume, next => .ask request fun answer => (resume answer).bind next

theorem bind_done (program : Program I α) : program.bind .done = program := by
  induction program with
  | done value => rfl
  | ask request resume ih => simp only [bind, ih]

theorem bind_assoc (program : Program I α) (first : α → Program I β) (second : β → Program I γ) :
    (program.bind first).bind second = program.bind fun value => (first value).bind second := by
  induction program with
  | done value => rfl
  | ask request resume ih => simp only [bind, ih]

instance : Monad (Program I) where
  pure := .done
  bind := bind

instance : LawfulMonad (Program I) := LawfulMonad.mk' _ bind_done (fun _ _ => rfl) bind_assoc

/-- The program that makes one request. -/
def request (request : I.Request) : Program I (I.Answer request) := .ask request .done

/-- The program with each request answered by a program over another interface. -/
def translate (answer : (request : I.Request) → Program J (I.Answer request)) :
    Program I α → Program J α
  | .done value => .done value
  | .ask request resume => (answer request).bind fun value => (resume value).translate answer

/-- The program with each request answered in a monad. -/
def interpret [Monad m] (answer : (request : I.Request) → m (I.Answer request)) :
    Program I α → m α
  | .done value => pure value
  | .ask request resume => do (resume (← answer request)).interpret answer

section Interpret

variable {I : Interface} {α β : Type} {m : Type → Type} [Monad m] [LawfulMonad m]
  (answer : (request : I.Request) → m (I.Answer request))

theorem interpret_bind (program : Program I α) (next : α → Program I β) :
    (program.bind next).interpret answer =
      program.interpret answer >>= fun value => (next value).interpret answer := by
  induction program with
  | done value => simp only [bind, interpret, pure_bind]
  | ask request resume ih => simp only [bind, interpret, ih, LawfulMonad.bind_assoc]

theorem interpret_map (program : Program I α) (f : α → β) :
    (f <$> program).interpret answer = f <$> program.interpret answer := by
  rw [map_eq_pure_bind, map_eq_pure_bind]
  exact interpret_bind answer program _

/-- Where the surroundings may fail to answer, a program goes on from where its first part ended. -/
theorem interpret_bind_of_some {σ : Type}
    {answer : (request : I.Request) → StateT σ Option (I.Answer request)} {program : Program I α}
    {state later : σ} {value : α} (first : program.interpret answer state = some (value, later))
    (next : α → Program I β) :
    (program.bind next).interpret answer state = (next value).interpret answer later := by
  refine (congrFun (interpret_bind answer program next) state).trans ?_
  show (program.interpret answer state).bind
    (fun result => (next result.1).interpret answer result.2) = _
  rw [first]
  rfl

end Interpret

end Program

end AccountLedger
