import AccountLedger.Program

/-!
Running programs side by side on one thread, with a clock that stands still while anybody can go
on. Tasks run in the order in which they became ready, each until it has to wait; when all of them
wait, the clock moves straight to the next deadline. The task that the caller waits for has its turn
first after the clock has moved, and otherwise when no other is ready.
-/

namespace AccountLedger.Rehearsal

/-- What a step of one task does to the others: it wakes those that wait for a signal, or starts a
new one. -/
inductive Effect (Signal Started : Type) where
  | signal (signal : Signal)
  | start (started : Started)

/-- What a request comes to: an answer, or waiting for a signal or a deadline. -/
inductive Reaction (σ Signal Started Answer : Type) where
  | answered (answer : Answer) (state : σ) (effects : List (Effect Signal Started))
  | waiting (state : σ) (signal : Option Signal) (deadline : Option Nat)

/-- How the surroundings answer requests: given the time and, for a request that has been waiting,
the time it was made. Some results make their task go on with another program. -/
structure Surroundings (I : Interface) (σ Signal ρ : Type) where
  react : Nat → Option Nat → (request : I.Request) → σ →
    Reaction σ Signal (Program I ρ) (I.Answer request)
  continue? : ρ → Option (Program I ρ)

/-- Where a task waits: since when, as how manyth, for which signal and until when. -/
structure Wait (Signal : Type) where
  since : Nat
  order : Nat
  signal : Option Signal
  deadline : Option Nat
  deriving DecidableEq, Repr

structure Task (I : Interface) (Signal ρ : Type) where
  id : Nat
  program : Program I ρ
  wait : Option (Wait Signal)

/-- The task in front is the one that the caller waits for. -/
structure Timeline (I : Interface) (σ Signal ρ : Type) where
  state : σ
  clockMs : Nat
  clockMoved : Bool
  tasks : List (Task I Signal ρ)
  front : Option Nat
  frontReady : Bool
  ready : List Nat
  finished : List (Nat × ρ)
  nextTask : Nat
  nextOrder : Nat

/-- How far a task came in one turn. -/
inductive Turn (I : Interface) (σ Signal ρ : Type) where
  | finished (result : ρ) (state : σ)
  | waits (program : Program I ρ) (since : Nat) (signal : Option Signal) (deadline : Option Nat)
    (state : σ)

/-- Run a program until it is done or has to wait, with the effects in their order. -/
def takeTurn (around : Surroundings I σ Signal ρ) (clockMs : Nat) (since : Option Nat) :
    Program I ρ → σ → Turn I σ Signal ρ × List (Effect Signal (Program I ρ))
  | .done result, state => (.finished result state, [])
  | .ask request resume, state =>
    match around.react clockMs since request state with
    | .answered answer state effects =>
      let (turn, more) := takeTurn around clockMs none (resume answer) state
      (turn, effects ++ more)
    | .waiting state signal deadline =>
      (.waits (.ask request resume) (since.getD clockMs) signal deadline state, [])

namespace Timeline

def start (state : σ) : Timeline I σ Signal ρ :=
  ⟨state, 0, true, [], none, false, [], [], 0, 0⟩

/-- Make tasks ready that are not so already. -/
def wake (line : Timeline I σ Signal ρ) (ids : List Nat) : Timeline I σ Signal ρ :=
  { line with
    frontReady := line.frontReady || line.front.any ids.contains
    ready := line.ready ++
      ids.filter fun id => line.front != some id && !line.ready.contains id }

def addTask (line : Timeline I σ Signal ρ) (program : Program I ρ) : Timeline I σ Signal ρ :=
  { line with
    tasks := line.tasks ++ [⟨line.nextTask, program, none⟩], nextTask := line.nextTask + 1 }

/-- Add a task behind those that are ready. -/
def spawn (line : Timeline I σ Signal ρ) (program : Program I ρ) : Nat × Timeline I σ Signal ρ :=
  (line.nextTask, (line.addTask program).wake [line.nextTask])

/-- Add a task in front of all others. -/
def spawnFront (line : Timeline I σ Signal ρ) (program : Program I ρ) :
    Nat × Timeline I σ Signal ρ :=
  (line.nextTask,
    { line.addTask program with
      front := some line.nextTask, frontReady := true, clockMoved := true })

/-- Whether nobody can go on. -/
def isIdle (line : Timeline I σ Signal ρ) : Bool := line.ready.isEmpty && !line.frontReady

def waitingFor [DecidableEq Signal] (line : Timeline I σ Signal ρ) (signal : Signal) : List Nat :=
  (line.tasks.filter fun task => task.wait.any fun wait => wait.signal == some signal).map (·.id)

def apply [DecidableEq Signal] (line : Timeline I σ Signal ρ)
    (effect : Effect Signal (Program I ρ)) : Timeline I σ Signal ρ :=
  match effect with
  | .signal signal => line.wake (line.waitingFor signal)
  | .start program => (line.spawn program).2

def removeTask (line : Timeline I σ Signal ρ) (id : Nat) : Timeline I σ Signal ρ :=
  { line with tasks := line.tasks.filter fun task => task.id != id
              ready := line.ready.filter fun other => other != id }

def setTask (line : Timeline I σ Signal ρ) (task : Task I Signal ρ) : Timeline I σ Signal ρ :=
  { line with tasks := line.tasks.map fun other => if other.id == task.id then task else other }

/-- Record how far a task came. -/
def conclude (around : Surroundings I σ Signal ρ) (line : Timeline I σ Signal ρ)
    (task : Task I Signal ρ) : Turn I σ Signal ρ → Timeline I σ Signal ρ
  | .finished result state =>
    match around.continue? result with
    | some program =>
      { line.setTask { task with program, wait := none } with
        state, ready := line.ready ++ [task.id] }
    | none =>
      { line.removeTask task.id with state, finished := (task.id, result) :: line.finished }
  | .waits program since signal deadline state =>
    let order := match task.wait with
      | some wait => wait.order
      | none => line.nextOrder
    { line.setTask { task with program, wait := some ⟨since, order, signal, deadline⟩ } with
      state, nextOrder := line.nextOrder + 1 }

/-- Whose turn it is. -/
def next? (line : Timeline I σ Signal ρ) : Option Nat :=
  if line.frontReady && (line.clockMoved || line.ready.isEmpty) then line.front
  else line.ready.head?

/-- Give the next task its turn. -/
def turn [DecidableEq Signal] (around : Surroundings I σ Signal ρ) (line : Timeline I σ Signal ρ) :
    Timeline I σ Signal ρ :=
  match line.next? with
  | none => line
  | some id =>
    let line :=
      { line with clockMoved := false, frontReady := line.frontReady && line.front != some id
                  ready := line.ready.erase id }
    match line.tasks.find? fun task => task.id == id with
    | none => line
    | some task =>
      let (turn, effects) :=
        takeTurn around line.clockMs (task.wait.map (·.since)) task.program line.state
      effects.foldl apply (line.conclude around task turn)

/-- The first deadline that somebody waits for. -/
def nextDeadline? (line : Timeline I σ Signal ρ) : Option Nat :=
  (line.tasks.filterMap fun task => task.wait.bind (·.deadline)).min?

/-- Move the clock to a deadline and wake those who waited for it, in the order of their waiting. -/
def passTo (line : Timeline I σ Signal ρ) (deadline : Nat) : Timeline I σ Signal ρ :=
  let due := line.tasks.filterMap fun task =>
    task.wait.bind fun wait =>
      if wait.deadline = some deadline then some (wait.order, task.id) else none
  let ids := (due.mergeSort fun a b => decide (a.1 ≤ b.1)).map (·.2)
  { line with clockMs := deadline, clockMoved := true }.wake ids

/-- Turns after which a run is given up. -/
def turnLimit : Nat := 1000000000

/-- Let everybody go on who can, without moving the clock. -/
def settleWithin [DecidableEq Signal] (around : Surroundings I σ Signal ρ) :
    Nat → Timeline I σ Signal ρ → Timeline I σ Signal ρ
  | 0, line => line
  | limit + 1, line =>
    if line.isIdle then line else settleWithin around limit (line.turn around)

def settle [DecidableEq Signal] (around : Surroundings I σ Signal ρ)
    (line : Timeline I σ Signal ρ) : Timeline I σ Signal ρ :=
  settleWithin around turnLimit line

def result? (line : Timeline I σ Signal ρ) (id : Nat) : Option ρ := line.finished.lookup id

/-- Go on, moving the clock where needed, until a task is done or all wait for ever. -/
def finishWithin [DecidableEq Signal] (around : Surroundings I σ Signal ρ) (id : Nat) :
    Nat → Timeline I σ Signal ρ → Timeline I σ Signal ρ
  | 0, line => line
  | limit + 1, line =>
    if (line.result? id).isSome then line
    else if line.isIdle then
      match line.nextDeadline? with
      | some deadline => finishWithin around id limit (line.passTo deadline)
      | none => line
    else finishWithin around id limit (line.turn around)

def finish [DecidableEq Signal] (around : Surroundings I σ Signal ρ) (id : Nat)
    (line : Timeline I σ Signal ρ) : Timeline I σ Signal ρ :=
  finishWithin around id turnLimit line

/-- Go on until the clock shows a time. -/
def runUntilWithin [DecidableEq Signal] (around : Surroundings I σ Signal ρ) (target : Nat) :
    Nat → Timeline I σ Signal ρ → Timeline I σ Signal ρ
  | 0, line => line
  | limit + 1, line =>
    if line.isIdle then
      match line.nextDeadline? with
      | some deadline =>
        if deadline ≤ target then runUntilWithin around target limit (line.passTo deadline)
        else { line with clockMs := target }
      | none => { line with clockMs := target }
    else runUntilWithin around target limit (line.turn around)

def runUntil [DecidableEq Signal] (around : Surroundings I σ Signal ρ) (target : Nat)
    (line : Timeline I σ Signal ρ) : Timeline I σ Signal ρ :=
  runUntilWithin around target turnLimit line

/-- Run a program and wait for it; its result, if it comes to one. -/
def perform [DecidableEq Signal] (around : Surroundings I σ Signal ρ) (program : Program I ρ)
    (line : Timeline I σ Signal ρ) : Option ρ × Timeline I σ Signal ρ :=
  let (id, line) := line.spawnFront program
  let line := line.finish around id
  (line.result? id, line)

end Timeline

end AccountLedger.Rehearsal
