import AccountLedger.Proofs.Ledger.Settling

/-!
What holds of an office however its calls are interleaved, and what each step does to the accounts
and the outbox: it leaves them alone, or stores the change of one call that has read the rows as
they are.
-/

namespace AccountLedger

/-- The steps of an operation start no unit of work. -/
theorem Pool.Proceeds.nextUnit {pool next : Pool} {unit : UnitId} (sound : pool.Sound)
    (proceeds : pool.Proceeds unit next) : next.store.nextUnit = pool.store.nextUnit := by
  cases proceeds with
  | stored busy => exact answered_nextUnit (permitted_of_busy sound busy)
  | waiting => rfl
  | locked => rfl

/-- Nobody comes back who is gone. -/
theorem Pool.withActivity_gone {pool : Pool} {unit other : UnitId} {activity : Activity}
    (present : pool.activity unit ≠ .gone) (gone : pool.activity other = .gone) :
    (pool.withActivity unit activity).activity other = .gone := by
  have differs : other ≠ unit := by
    intro same
    subst same
    exact present gone
  exact (Function.update_of_ne differs _ _).trans gone

namespace Office

structure Sound (office : Office) : Prop where
  pool : office.pool.Sound
  bears : ∀ {id call}, office.calls id = some call → office.Bears call
  settled : office.Settled

/-- What a step does to the accounts and the outbox. -/
inductive Effect (office next : Office) : Prop
  | quiet : next.pool.log = office.pool.log → next.tables.Alike office.tables → Effect office next
  | committed {id call errand reply resume} : office.calls id = some call →
    call.unit = some errand.unit → call.stage = .waiting (.commit errand.unit) resume →
    office.Commits call errand reply → office.tables.Fits errand.reads →
    errand.work.Accepted office.tables →
    (office.drawn.Nodup → ∀ entry ∈ errand.work.entries,
      office.tables.outbox.find? entry.id = none) →
    next.pool.log = office.pool.log ++ [.committed errand.unit] →
    next.tables = errand.work.committedTables office.tables → next.Served errand.unit reply →
    Effect office next
  | overwritten (account) : next.pool.log = office.pool.log ++ [.overwritten account] →
    next.tables = office.tables.overwriteAccount account → Effect office next

variable {office next : Office} {unit : UnitId} {id : Nat} {call : Call}

/-! ## The commit -/

section Committing

variable {errand : Errand} {reply : ServiceReply}

/-- The rows that a call has read are stored when its commit is accepted. -/
theorem Commits.fits (sound : office.pool.Sound) (commits : office.Commits call errand reply)
    (accepted : errand.work.Accepted office.tables) : office.tables.Fits errand.reads := by
  intro row member
  obtain ⟨stored, here, current⟩ := sound.covered errand.unit commits.uncommitted row
    (commits.reads ▸ member)
  have found : office.tables.accounts.find? row.id = some stored := here
  obtain ⟨write, written, sameId, expected⟩ := commits.change.read_written row member
  have revision := accepted.writes write written
  rw [sameId, found, expected] at revision
  rcases current with rfl | ⟨older, _⟩
  · exact found
  · exact absurd (Option.some.inj revision) (Int.ne_of_gt older)

/-- Ids drawn by a call that has not committed are not stored. -/
theorem Settled.untraced (settled : office.Settled) (nodup : office.drawn.Nodup)
    (known : office.calls id = some call) (own : call.unit = some unit)
    (uncommitted : .committed unit ∉ office.pool.log) {fresh : Uuid}
    (drew : fresh ∈ call.tape.ids) : ¬ office.Traced fresh := by
  rintro ⟨other, file, committed, record, member⟩
  rw [record_eq] at record
  obtain ⟨owner, owned, rest⟩ := Option.bind_eq_some_iff.mp record
  obtain ⟨theirs, filed, rfl⟩ := Option.map_eq_some_iff.mp rest
  have same : owner = id :=
    settled.apart.apart nodup ⟨theirs, filed, member⟩ ⟨_, file?_of_call known, drew⟩
  subst same
  have units := (settled.registered.owner.mp owned).symm.trans (unitOf_of_call known)
  cases units.trans own
  exact uncommitted committed

/-- Unless locks were passed by or ids repeat, every commit is accepted. -/
theorem Commits.accepted_of_unbreached (sound : office.Sound)
    (commits : office.Commits call errand reply) (known : office.calls id = some call)
    (own : call.unit = some errand.unit) (untampered : ¬ office.pool.Tampered)
    (nodup : office.drawn.Nodup) : errand.work.Accepted office.tables := by
  constructor
  · intro account member
    have drew : account.id ∈ call.tape.ids :=
      commits.tape ▸ commits.change.inserted_drawn account member
    have untraced := sound.settled.untraced nodup known own commits.uncommitted drew
    cases found : office.tables.accounts.find? account.id with
    | none => rfl
    | some stored => exact absurd (sound.settled.provenance.accounts untampered found) untraced
  · intro write member
    obtain ⟨row, read, sameId, revision⟩ := commits.change.expected write member
    obtain ⟨stored, here, current⟩ := sound.pool.covered errand.unit commits.uncommitted row
      (commits.reads ▸ read)
    have found : office.tables.accounts.find? row.id = some stored := here
    rcases current with rfl | ⟨_, tampered⟩
    · rw [← sameId, found, ← revision]
      rfl
    · exact absurd tampered untampered

theorem Commits.entries_unstored (sound : office.Sound)
    (commits : office.Commits call errand reply) (known : office.calls id = some call)
    (own : call.unit = some errand.unit) (nodup : office.drawn.Nodup) :
    ∀ entry ∈ errand.work.entries, office.tables.outbox.find? entry.id = none := by
  intro entry member
  have drew : entry.id ∈ call.tape.ids := commits.tape ▸ commits.change.entry_drawn entry member
  have untraced := sound.settled.untraced nodup known own commits.uncommitted drew
  cases found : office.tables.outbox.find? entry.id with
  | none => rfl
  | some stored => exact absurd (sound.settled.provenance.entries found) untraced

end Committing

/-! ## Steps -/

/-- A step does not touch the unit of work of a call. -/
structure Still (office next : Office) (call : Call) : Prop where
  activity : ∀ unit, call.unit = some unit → next.pool.activity unit = office.pool.activity unit
  standing : ∀ unit, call.unit = some unit → next.pool.standing unit = office.pool.standing unit
  log : ∀ unit, call.unit = some unit → .committed unit ∈ next.pool.log →
    .committed unit ∈ office.pool.log

theorem Still.bears (still : office.Still next call) (extended : office.Extends next)
    (serialized : next.Serialized) (bears : office.Bears call) : next.Bears call := by
  refine bears.frame ⟨still.activity, still.standing, fun unit own => ⟨still.log unit own, ?_⟩,
    extended.breached, fun unit reply => extended.served serialized⟩
  intro inside
  obtain ⟨more, log⟩ := extended.log
  rw [log]
  exact List.mem_append_left _ inside

/-- After a step every call is where it was, or where it knows how to go on. -/
theorem Sound.after (sound : office.Sound) (pool : next.pool.Sound)
    (step : office.Extends next ∧ next.Settled)
    (calls : ∀ {id call}, next.calls id = some call →
      next.Bears call ∨ office.calls id = some call ∧ office.Still next call) : next.Sound := by
  refine ⟨pool, fun known => ?_, step.2⟩
  rcases calls known with bears | ⟨before, still⟩
  · exact bears
  · exact still.bears step.1 step.2.serialized (sound.bears before)

theorem withCall_calls {new : Call} {other : Nat} {theirs : Call}
    (known : (office.withCall id new).calls other = some theirs) :
    other = id ∧ theirs = new ∨ other ≠ id ∧ office.calls other = some theirs := by
  by_cases same : other = id
  · subst same
    exact Or.inl ⟨rfl, Option.some.inj (known.symm.trans (Function.update_self ..))⟩
  · exact Or.inr ⟨same, (Function.update_of_ne same _ _).symm.trans known⟩

/-- What one unit of work is doing changes; it belongs to nobody else. -/
theorem Sound.still_withActivity (sound : office.Sound) {activity : Activity}
    (known : office.calls id = some call) (own : call.unit = some unit) {other : Nat}
    {theirs : Call} (differs : other ≠ id) (present : office.calls other = some theirs)
    (pool : next.pool = office.pool.withActivity unit activity) : office.Still next theirs := by
  refine ⟨?_, ?_, ?_⟩
  · rintro unit' their
    have apart : unit' ≠ unit := by
      intro equal
      subst equal
      exact differs (sound.settled.registered.unique present known their own)
    rw [pool]
    exact Function.update_of_ne apart _ _
  · intro unit' _
    rw [pool]
    rfl
  · intro unit' _ inside
    rw [pool] at inside
    exact inside

/-- A call that asks for something, is answered or is dropped changes what its unit of work does. -/
theorem Sound.acted (sound : office.Sound) {new : Call} {activity : Activity}
    (known : office.calls id = some call) (own : call.unit = some unit)
    (file : new.file = call.file) (present : office.pool.activity unit ≠ .gone)
    (result : next = (office.withCall id new).withPool (office.pool.withActivity unit activity))
    (pool : (office.pool.withActivity unit activity).Sound)
    (bears : office.Extends next → next.Serialized → next.Bears new) :
    office.Extends next ∧ next.Sound ∧ office.Effect next := by
  subst result
  have same : office.SameFiles
      ((office.withCall id new).withPool (office.pool.withActivity unit activity)) :=
    ⟨withCall_file?_of_same known file, rfl, rfl, rfl,
      fun other => Pool.withActivity_gone present⟩
  have step := sound.settled.quiet same rfl (Tables.Alike.refl _)
  refine ⟨step.1, sound.after pool step fun {other theirs} changed => ?_, .quiet rfl (.refl _)⟩
  have changedHere : (office.withCall id new).calls other = some theirs := changed
  rcases withCall_calls changedHere with ⟨_, rfl⟩ | ⟨differs, before⟩
  · exact Or.inl (bears step.1 step.2.serialized)
  · exact Or.inr ⟨before, sound.still_withActivity known own differs before rfl⟩

theorem Sound.still_proceeded (sound : office.Sound) {pool : Pool}
    (proceeds : office.pool.Proceeds unit pool) (known : office.calls id = some call)
    (own : call.unit = some unit)
    (log : ∀ other, other ≠ unit → .committed other ∈ pool.log → .committed other ∈ office.pool.log)
    {other : Nat} {theirs : Call} (differs : other ≠ id)
    (present : office.calls other = some theirs) : office.Still (office.withPool pool) theirs := by
  have apart : ∀ unit', theirs.unit = some unit' → unit' ≠ unit := by
    intro unit' their equal
    subst equal
    exact differs (sound.settled.registered.unique present known their own)
  exact ⟨fun unit' their => (proceeds.others sound.pool (apart unit' their)).1,
    fun unit' their => (proceeds.others sound.pool (apart unit' their)).2,
    fun unit' their => log unit' (apart unit' their)⟩

/-- Whoever has not gone is the unit of work of a call. -/
theorem Sound.call_of_active (sound : office.Sound) (active : office.pool.activity unit ≠ .gone) :
    ∃ id call, office.calls id = some call ∧ call.unit = some unit := by
  obtain ⟨id, owned⟩ := sound.settled.registered.active active
  obtain ⟨file, filed, own⟩ :=
    Option.bind_eq_some_iff.mp (sound.settled.registered.owner.mp owned)
  obtain ⟨call, known, rfl⟩ := Option.map_eq_some_iff.mp filed
  exact ⟨id, call, known, own⟩

/-- A unit of work comes on with an operation. -/
theorem Sound.proceeded (sound : office.Sound) {pool : Pool}
    (proceeds : office.pool.Proceeds unit pool) :
    office.Extends (office.withPool pool) ∧ (office.withPool pool).Sound ∧
      office.Effect (office.withPool pool) := by
  obtain ⟨request, rest, busy⟩ := proceeds.busy
  have active : office.pool.activity unit ≠ .gone := by simp [busy]
  obtain ⟨id, call, known, own⟩ := sound.call_of_active active
  have poolSound := Pool.proceeds_sound sound.pool proceeds
  have same : office.SameFiles (office.withPool pool) := by
    refine ⟨rfl, rfl, rfl, proceeds.nextUnit sound.pool, fun other gone => ?_⟩
    have differs : other ≠ unit := by
      intro equal
      subst equal
      exact active gone
    exact (proceeds.others sound.pool differs).1.trans gone
  -- the call whose unit of work it is, and all others
  have everybody : (∀ other, other ≠ unit → .committed other ∈ pool.log →
        .committed other ∈ office.pool.log) → (office.withPool pool).Bears call →
      ∀ {other theirs}, office.calls other = some theirs → (office.withPool pool).Bears theirs ∨
        office.calls other = some theirs ∧ office.Still (office.withPool pool) theirs := by
    intro log bears other theirs present
    by_cases isThis : other = id
    · subst isThis
      cases known.symm.trans present
      exact Or.inl bears
    · exact Or.inr ⟨present, sound.still_proceeded proceeds known own log isThis present⟩
  rcases (sound.bears known).proceeded sound.pool own proceeds with
    ⟨tables, log, bears⟩ | ⟨errand, reply, resume, rfl, waiting, _, commits, result⟩
  · have alike : (office.withPool pool).tables.Alike office.tables := .of_eq tables
    have step := sound.settled.quiet same log alike
    refine ⟨step.1, sound.after poolSound step (everybody (fun _ _ => (log ▸ ·)) ?_),
      .quiet log alike⟩
    exact bears _ rfl step.1.breached fun unit reply => step.1.served step.2.serialized
  · rcases result with ⟨accepted, tables, log, bears⟩ | ⟨notAccepted, tables, log, bears⟩
    · have fits := commits.fits sound.pool accepted
      obtain ⟨extended, settled, served⟩ := sound.settled.committed same commits
        (sound.settled.registered.record known own) fits accepted log tables
      refine ⟨extended, sound.after poolSound ⟨extended, settled⟩ (everybody ?_ (bears _ rfl served)),
        .committed known own waiting commits fits accepted
          (commits.entries_unstored sound known own) log tables
          served⟩
      intro other differs inside
      rw [log] at inside
      rcases List.mem_append.mp inside with before | now
      · exact before
      · cases List.mem_singleton.mp now
        exact absurd rfl differs
    · have alike : (office.withPool pool).tables.Alike office.tables := .of_eq tables
      have step := sound.settled.quiet same log alike
      have breached : office.Breached := by
        by_contra unbreached
        obtain ⟨untampered, unrepeated⟩ := not_or.mp unbreached
        exact notAccepted
          (commits.accepted_of_unbreached sound known own untampered (not_not.mp unrepeated))
      refine ⟨step.1, sound.after poolSound step (everybody (fun _ _ => (log ▸ ·)) ?_),
        .quiet log alike⟩
      exact bears _ rfl (step.1.breached breached)

theorem withCall_self (known : office.calls id = some call) : office.withCall id call = office := by
  unfold withCall
  rw [← known, Function.update_eq_self]

theorem Sound.dropped (sound : office.Sound) (known : office.calls id = some call) :
    let next := (office.withCall id { call with stage := .dropped }).withPool
      (call.cutOff office.pool)
    office.Extends next ∧ next.Sound ∧ office.Effect next := by
  intro next
  have bears : next.Bears { call with stage := .dropped } := Bears.cutOff rfl
  have still : call.cutOff office.pool = office.pool →
      office.Extends next ∧ next.Sound ∧ office.Effect next := by
    intro unchanged
    have pool : next.pool = office.pool := unchanged
    have same : office.SameFiles next := by
      refine ⟨withCall_file?_of_same known rfl, rfl, rfl, ?_, ?_⟩ <;> rw [pool]
      exact fun _ => (·)
    have log : next.pool.log = office.pool.log := by rw [pool]
    have alike : next.tables.Alike office.tables := .of_eq (congrArg Pool.tables pool)
    have step := sound.settled.quiet same log alike
    refine ⟨step.1, sound.after (pool ▸ sound.pool) step fun {other theirs} changed => ?_,
      .quiet log alike⟩
    rcases withCall_calls changed with ⟨_, rfl⟩ | ⟨_, before⟩
    · exact Or.inl bears
    · refine Or.inr ⟨before, ?_, ?_, ?_⟩ <;> intro unit _ <;> rw [pool]
      exact (·)
  cases own : call.unit with
  | none => exact still (cutOff_none own)
  | some unit =>
    rcases @cutOff_some call office.pool unit own with ⟨_, unchanged⟩ | ⟨present, cut⟩
    · exact still unchanged
    · refine @Sound.acted office next unit id call sound { call with stage := .dropped } _ known own
        rfl present ?_ (Pool.cutOff_sound sound.pool present) fun _ _ => bears
      show (office.withCall id { call with stage := .dropped }).withPool _ = _
      rw [cut]
      rfl

/-- What a dropped call has left behind comes to its end. -/
theorem Sound.tidied {request : UnitRequest} {answer : request.Answer} (sound : office.Sound)
    (known : office.calls id = some call) (dropped : call.stage = .dropped)
    (own : call.unit = some unit)
    (busy : office.pool.activity unit = .busy request (.done answer)) :
    let next := office.withPool (office.pool.concluded unit request)
    office.Extends next ∧ next.Sound ∧ office.Effect next := by
  intro next
  have gone : next.pool.activity unit = .gone := by
    cases sound.bears known with
    | dropped _ units =>
      rcases units unit own with gone | ⟨prog, activity, _⟩
      · cases gone.symm.trans busy
      · cases activity.symm.trans busy
        exact Function.update_self ..
    | outside running => cases dropped.symm.trans running
    | resumed running => cases dropped.symm.trans running
    | settled running => cases dropped.symm.trans running
    | busy waiting => cases dropped.symm.trans waiting
    | committing waiting => cases dropped.symm.trans waiting
    | finishing waiting => cases dropped.symm.trans waiting
  refine @Sound.acted office next unit id call sound call _ known own rfl (by simp [busy]) ?_
    (Pool.concluded_sound sound.pool busy) fun _ _ => .dropped dropped fun other mine => ?_
  · rw [withCall_self known]
    rfl
  · cases own.symm.trans mine
    exact Or.inl gone

theorem start_sound : start.Sound :=
  ⟨Pool.start_sound, fun absurdly => (nomatch absurdly), start_settled⟩

theorem step_sound (sound : office.Sound) (step : office.Step next) :
    office.Extends next ∧ next.Sound ∧ office.Effect next := by
  have quiet : ∀ {next : Office}, next.pool.log = office.pool.log →
      next.pool.tables = office.pool.tables → office.Effect next :=
    fun log tables => .quiet log (.of_eq tables)
  cases step with
  | @call id asked new =>
    have step := sound.settled.called asked new
    refine ⟨step.1, sound.after sound.pool step fun {other theirs} known => ?_, quiet rfl rfl⟩
    rcases withCall_calls known with ⟨_, rfl⟩ | ⟨_, before⟩
    · exact Or.inl (@Bears.outside _ _ Errand.start _ rfl rfl rfl rfl rfl rfl
        (LedgerAction.program_ensures asked) (Errand.ShadowOutside.start asked))
    · exact Or.inr ⟨before, fun _ _ => rfl, fun _ _ => rfl, fun _ _ => (·)⟩
  | @host id call request resume answer known running =>
    have bears := (sound.bears known).hosted running answer
    have step := @Settled.hosted office _ id call request answer
      { call with stage := .running (resume answer)
                  tape := call.tape.after request answer } resume sound.settled
      (sound.bears known) known running rfl rfl rfl rfl
    refine ⟨step.1, sound.after sound.pool step fun {other theirs} changed => ?_, quiet rfl rfl⟩
    rcases withCall_calls changed with ⟨_, rfl⟩ | ⟨_, before⟩
    · refine Or.inl (Still.bears ?_ step.1 step.2.serialized bears)
      exact ⟨fun _ _ => rfl, fun _ _ => rfl, fun _ _ => (·)⟩
    · exact Or.inr ⟨before, fun _ _ => rfl, fun _ _ => rfl, fun _ _ => (·)⟩
  | @start id call resume known running =>
    obtain ⟨none, bears⟩ := @Bears.started office
      (office.started id { call with stage := .running (resume (.ok office.pool.nextUnit)) }) call
      resume (sound.bears known) sound.pool running sound.settled.registered.uncommitted rfl
    have step := @Settled.started office id call
      { call with stage := .running (resume (.ok office.pool.nextUnit)) } sound.settled known none
      rfl
    refine ⟨step.1, sound.after (Pool.started_sound sound.pool) step fun {other theirs} changed => ?_,
      quiet rfl rfl⟩
    rcases withCall_calls changed with ⟨_, rfl⟩ | ⟨_, before⟩
    · exact Or.inl bears
    · refine Or.inr ⟨before, ?_, ?_, fun _ _ => (·)⟩
      · intro unit own
        have differs : unit ≠ office.pool.nextUnit := by
          intro equal
          subst equal
          have owned := sound.settled.registered.owner.mpr ((unitOf_of_call before).trans own)
          cases sound.settled.registered.unowned.symm.trans owned
        exact Function.update_of_ne differs _ _
      · intro unit own
        exact Pool.started_standing sound.pool unit
  | @ask id call unit request resume known running own =>
    obtain ⟨hasUnit, idle, _⟩ := (sound.bears known).asking running own
    exact @Sound.acted office _ unit id call sound { call with stage := .waiting request resume } _
      known hasUnit rfl (by simp [idle]) rfl (Pool.asked_sound sound.pool idle own)
      fun _ _ => (sound.bears known).asked sound.pool running own rfl
  | proceed proceeds => exact sound.proceeded proceeds
  | @answer id call unit request resume answer known waiting own busy =>
    exact @Sound.acted office _ unit id call sound { call with stage := .running (resume answer) } _
      known ((sound.bears known).waits waiting own) rfl (by simp [busy]) rfl
      (Pool.concluded_sound sound.pool busy)
      fun extended serialized => (sound.bears known).answered waiting own busy rfl
        extended.breached fun unit reply => extended.served serialized
  | @drop id call known unreturned => exact sound.dropped known
  | @tidy id call unit request answer known dropped own busy =>
    exact sound.tidied known dropped own busy
  | table request =>
    have same : office.SameFiles (office.withPool (office.pool.tabled request)) :=
      ⟨rfl, rfl, rfl, rfl, fun _ => (·)⟩
    have alike := office.pool.tables.answer_alike request
    have step := sound.settled.quiet same rfl alike
    refine ⟨step.1, sound.after (Pool.tabled_sound sound.pool request) step fun {_ _} known => ?_,
      .quiet rfl alike⟩
    exact Or.inr ⟨known, fun _ _ => rfl, fun _ _ => rfl, fun _ _ => (·)⟩
  | overwrite account =>
    have same : office.SameFiles (office.withPool (office.pool.overwritten account)) :=
      ⟨rfl, rfl, rfl, rfl, fun _ => (·)⟩
    have step := @Settled.overwritten office _ sound.settled same account rfl rfl
    refine ⟨step.1, sound.after (Pool.overwritten_sound sound.pool account) step
      fun {_ _} known => Or.inr ⟨known, fun _ _ => rfl, fun _ _ => rfl, fun _ _ inside => ?_⟩,
      .overwritten account rfl rfl⟩
    exact (List.mem_append.mp inside).resolve_right fun absurdly =>
      nomatch List.mem_singleton.mp absurdly

/-! ## Runs -/

theorem Reachable.sound (reachable : office.Reachable) : office.Sound := by
  induction reachable with
  | refl => exact start_sound
  | tail _ step ih => exact (step_sound ih step).2.1

theorem ReachableWith.reachable {good : Office → Prop} (reachable : office.ReachableWith good) :
    office.Reachable := by
  induction reachable with
  | refl => exact .refl
  | tail _ step ih => exact ih.tail step.1

end Office

end AccountLedger
