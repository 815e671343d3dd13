import AccountLedger.Proofs.Ledger.Schedule

/-!
Calls of the ledger service are serializable: however they are interleaved and wherever they are
dropped, the accounts and the outbox are those that the committed ones leave when they are made one
at a time, and each returns what it returns there.
-/

namespace AccountLedger

/-- A call has returned or was dropped. -/
def Call.HasEnded (call : Call) : Prop :=
  call.stage = .dropped ∨ ∃ outcome, call.returned? = some outcome

namespace Office

variable {office next : Office} {id : Nat} {call : Call}

theorem running_of_returned {outcome : Outcome LedgerError ServiceReply}
    (returned : call.returned? = some outcome) : call.stage = .running (.done outcome) := by
  unfold Call.returned? at returned
  split at returned
  · next running =>
    cases returned
    exact running
  · cases returned

/-- A call returns what it has committed, or a failure after which nothing is left of it. -/
theorem Bears.returned {outcome : Outcome LedgerError ServiceReply} (bears : office.Bears call)
    (returned : call.returned? = some outcome) :
    (∃ unit reply, call.unit = some unit ∧ .committed unit ∈ office.pool.log ∧
      outcome = .ok reply ∧ office.Served unit reply) ∨
    ((∀ unit, call.unit = some unit → .committed unit ∉ office.pool.log) ∧
      ∃ failure, outcome = .error failure ∧ (failure.isBreach = true → office.Breached)) := by
  have done := running_of_returned returned
  cases bears with
  | outside running none phase tape reads work ensures shadow =>
    cases done.symm.trans running
    have ended : Errand.Ended outcome _ := ensures
    simp only [Errand.Ended, phase] at ended
    obtain ⟨failure, rfl, benign⟩ := ended
    refine Or.inr ⟨fun unit own => ?_, failure, rfl, fun breach => ?_⟩
    · cases none.symm.trans own
    · cases benign.symm.trans breach
  | resumed running own activity uncommitted resumes =>
    cases done.symm.trans running
    obtain ⟨errand, same, isOpen, ensures, fits⟩ := resumes
    have ended : Errand.Ended outcome errand := ensures
    refine Or.inr ⟨fun unit mine => ?_, ?_⟩
    · cases own.symm.trans mine
      exact uncommitted
    · cases phase : errand.phase with
      | abandoned =>
        simp only [Errand.Ended, phase] at ended
        obtain ⟨failure, rfl, benign⟩ := ended
        refine ⟨failure, rfl, fun breach => ?_⟩
        cases benign.symm.trans breach
      | rejected error =>
        simp only [Errand.Ended, phase] at ended
        simp only [Errand.Open, phase] at isOpen
        exact ⟨_, ended, fun _ => isOpen.2⟩
      | outside => simp only [Errand.Open, phase] at isOpen
      | committed reply => simp only [Errand.Open, phase] at isOpen
      | working => simp only [Errand.Ended, phase] at ended
      | failing => simp only [Errand.Ended, phase] at ended
  | settled running own activity committed phase ensures served =>
    cases done.symm.trans running
    have ended : Errand.Ended outcome _ := ensures
    simp only [Errand.Ended, phase] at ended
    exact Or.inl ⟨_, _, own, committed, ended, served⟩
  | busy waiting => cases done.symm.trans waiting
  | committing waiting => cases done.symm.trans waiting
  | finishing waiting => cases done.symm.trans waiting
  | dropped dropped => cases done.symm.trans dropped

/-! ## Calls that have ended -/

/-- A call that has ended asks for nothing and waits for nothing. -/
theorem stage_of_ended (ended : call.HasEnded) :
    (∀ request resume, call.stage ≠ .running (.ask request resume)) ∧
      ∀ request resume, call.stage ≠ .waiting request resume := by
  rcases ended with dropped | ⟨outcome, returned⟩
  · rw [dropped]
    exact ⟨fun _ _ => Stage.noConfusion, fun _ _ => Stage.noConfusion⟩
  · rw [running_of_returned returned]
    refine ⟨?_, ?_⟩ <;> intro request resume same <;> cases same

/-- Nothing becomes of a call that has ended. -/
theorem Step.ended (step : office.Step next) (known : office.calls id = some call)
    (ended : call.HasEnded) : next.calls id = some call := by
  have unchanged : ∀ {other new}, other ≠ id → (office.withCall other new).calls id = some call :=
    fun differs => (Function.update_of_ne (Ne.symm differs) _ _).trans known
  obtain ⟨asksNothing, waitsForNothing⟩ := stage_of_ended ended
  have asking : ∀ {other theirs request resume}, office.calls other = some theirs →
      theirs.stage = .running (.ask request resume) → other ≠ id := by
    intro other theirs request resume present running same
    subst same
    cases known.symm.trans present
    exact asksNothing _ _ running
  have awaiting : ∀ {other theirs request resume}, office.calls other = some theirs →
      theirs.stage = .waiting request resume → other ≠ id := by
    intro other theirs request resume present waiting same
    subst same
    cases known.symm.trans present
    exact waitsForNothing _ _ waiting
  cases step with
  | call asked new =>
    apply unchanged
    intro same
    subst same
    cases known.symm.trans new
  | host answer present running => exact unchanged (asking present running)
  | start present running => exact unchanged (asking present running)
  | ask present running own => exact unchanged (asking present running)
  | answer present waiting own busy => exact unchanged (awaiting present waiting)
  | @drop other theirs present unreturned =>
    by_cases same : other = id
    · subst same
      cases known.symm.trans present
      rcases ended with dropped | ⟨outcome, returned⟩
      · have unmoved : ({ call with stage := .dropped } : Call) = call := by rw [← dropped]
        rw [unmoved]
        exact Function.update_self ..
      · cases unreturned.symm.trans returned
    · exact unchanged same
  | _ => exact known

/-- If its unit of work has not committed by then, it never will. -/
theorem Step.ended_uncommitted (sound : office.Sound) (step : office.Step next)
    (known : office.calls id = some call) (ended : call.HasEnded) {unit : UnitId}
    (own : call.unit = some unit) (uncommitted : unit ∉ office.pool.committed) :
    unit ∉ next.pool.committed := by
  rw [Pool.mem_committed] at uncommitted ⊢
  rcases (step_sound sound step).2.2 with ⟨log, _⟩ | ⟨present, mine, waiting, _, _, _, _, log, _, _⟩ |
    ⟨account, log, _⟩
  · rw [log]
    exact uncommitted
  · rw [log]
    intro inside
    refine uncommitted ((List.mem_append.mp inside).resolve_right fun now => ?_)
    cases List.mem_singleton.mp now
    cases sound.settled.registered.unique known present own mine
    cases known.symm.trans present
    exact (stage_of_ended ended).2 _ _ waiting
  · rw [log]
    intro inside
    exact uncommitted ((List.mem_append.mp inside).resolve_right fun now =>
      nomatch List.mem_singleton.mp now)

theorem Reachable.ended (reachable : office.Reachable)
    (run : Relation.ReflTransGen Step office next) (known : office.calls id = some call)
    (ended : call.HasEnded) : next.calls id = some call ∧
      ∀ unit, call.unit = some unit → unit ∉ office.pool.committed →
        unit ∉ next.pool.committed := by
  induction run with
  | refl => exact ⟨known, fun _ _ => (·)⟩
  | tail before step ih =>
    have sound := Reachable.sound (reachable.trans before)
    exact ⟨step.ended ih.1 ended, fun unit own uncommitted =>
      step.ended_uncommitted sound ih.1 ended own (ih.2 unit own uncommitted)⟩

/-- The committed calls, made one at a time in the order of their commits with the ids and clock
readings that each has drawn, come to the same accounts and, deliveries apart, to the same outbox. A
call that has committed returns what it returns there, and any other nothing but a failure; unless
somebody writes past all locks or an id is drawn twice, none of broken locks, revisions or ids. What
has returned or was dropped without a commit is never committed later. -/
theorem Reachable.serializable (reachable : office.Reachable) :
    ∃ serial, office.serial = some serial ∧
      serial.tables.accounts = office.tables.accounts ∧
      serial.tables.staged = office.tables.staged ∧
      serial.outcomes.map (·.1) = office.pool.committed ∧ office.pool.committed.Nodup ∧
      (∀ unit ∈ office.pool.committed, ∃ id call, office.calls id = some call ∧
        call.unit = some unit ∧ office.record unit = some (call.asked, call.tape)) ∧
      (∀ id call outcome, office.calls id = some call → call.returned? = some outcome →
        (∃ unit ∈ office.pool.committed, call.unit = some unit ∧ (unit, outcome) ∈ serial.outcomes ∧
          ∃ reply, outcome = .ok reply) ∨
        (∀ unit, call.unit = some unit → unit ∉ office.pool.committed) ∧
          ∃ failure, outcome = .error failure) ∧
      ((∀ account, .overwritten account ∉ office.pool.log) → office.drawn.Nodup →
        ∀ id call failure, office.calls id = some call → call.returned? = some (.error failure) →
          failure.isBreach = false) ∧
      ∀ later, Relation.ReflTransGen Step office later → ∀ id call, office.calls id = some call →
        call.HasEnded → later.calls id = some call ∧ ∀ unit, call.unit = some unit →
          unit ∉ office.pool.committed → unit ∉ later.pool.committed := by
  have sound := reachable.sound
  obtain ⟨serial, agrees⟩ := sound.settled.serialized.agrees
  refine ⟨serial, agrees.run, agrees.tables.accounts, agrees.tables.staged, agrees.units,
    sound.settled.serialized.once, ?_, ?_, ?_, fun later run id call => reachable.ended run⟩
  · intro unit committed
    obtain ⟨id, owned⟩ := sound.settled.registered.committed (Pool.mem_committed.mp committed)
    obtain ⟨file, filed, own⟩ :=
      Option.bind_eq_some_iff.mp (sound.settled.registered.owner.mp owned)
    obtain ⟨call, known, rfl⟩ := Option.map_eq_some_iff.mp filed
    exact ⟨id, call, known, own, sound.settled.registered.record known own⟩
  · intro id call outcome known returned
    rcases (sound.bears known).returned returned with
      ⟨unit, reply, own, committed, rfl, there, run, served⟩ | ⟨uncommitted, failure, rfl, _⟩
    · cases agrees.run.symm.trans run
      exact Or.inl ⟨unit, Pool.mem_committed.mpr committed, own, served, reply, rfl⟩
    · exact Or.inr ⟨fun unit own => mt Pool.mem_committed.mp (uncommitted unit own), failure, rfl⟩
  · intro untampered nodup id call failure known returned
    rcases (sound.bears known).returned returned with
      ⟨unit, reply, own, committed, absurdly, _⟩ | ⟨_, _, same, breach⟩
    · cases absurdly
    · cases same
      apply Bool.eq_false_iff.mpr
      intro yes
      rcases breach yes with ⟨account, overwritten⟩ | repeated
      · exact untampered account overwritten
      · exact repeated nodup

/-- Two deposits into one account that are made at once return what they return one after the
other. -/
theorem deposits_serial : ∃ office : Office, office.Reachable ∧
    (∀ account, .overwritten account ∉ office.pool.log) ∧ office.drawn.Nodup ∧
    ∃ serial, office.serial = some serial ∧ serial.outcomes.map (·.1) = [⟨0⟩, ⟨1⟩, ⟨2⟩] ∧
      ∀ id, id = 1 ∨ id = 2 → ∃ call reply, office.calls id = some call ∧
        call.returned? = some (.ok reply) ∧ (⟨id⟩, .ok reply) ∈ serial.outcomes := by
  obtain ⟨serial, run, _, _, units, _, _, served, _⟩ := deposited_reachable.serializable
  refine ⟨deposited, deposited_reachable, deposited_untampered, deposited_fresh, serial, run, ?_,
    fun id among => ?_⟩
  · rw [units, Pool.committed, deposited_log]
    rfl
  · obtain ⟨call, reply, known, own, returned⟩ := deposited_returned among
    rcases served id call _ known returned with ⟨unit, _, mine, inside, _⟩ | ⟨_, failure, absurdly⟩
    · cases own.symm.trans mine
      exact ⟨call, reply, known, returned, inside⟩
    · cases absurdly

end Office

end AccountLedger
