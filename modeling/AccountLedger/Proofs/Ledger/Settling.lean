import AccountLedger.Proofs.Ledger.Register

/-!
Every kind of step keeps the calls and their units of work apart and agrees with the calls made one
at a time.
-/

namespace AccountLedger

namespace Office

variable {office next : Office} {unit : UnitId} {id : Nat} {call : Call}

theorem Registered.of_same (registered : office.Registered) (units : next.unitOf = office.unitOf)
    (owner : next.owner = office.owner)
    (nextUnit : next.pool.store.nextUnit = office.pool.store.nextUnit)
    (active : ∀ unit, office.pool.activity unit = .gone → next.pool.activity unit = .gone)
    (log : ∀ unit, .committed unit ∈ next.pool.log → ∃ id, office.owner unit = some id) :
    next.Registered := by
  refine ⟨?_, ?_, ?_, ?_⟩
  · intro unit id
    rw [owner, units]
    exact registered.owner
  · intro unit id owned
    rw [owner] at owned
    rw [nextUnit]
    exact registered.young owned
  · intro unit present
    rw [owner]
    exact registered.active (mt (active unit) present)
  · intro unit committed
    rw [owner]
    exact log unit committed

theorem Serialized.of_same (serialized : office.Serialized) (extended : office.Extends next)
    (log : next.pool.log = office.pool.log) (tables : next.tables.Alike office.tables) :
    next.Serialized := by
  have committed : next.pool.committed = office.pool.committed := by
    rw [Pool.committed, log]
    rfl
  obtain ⟨serial, agrees⟩ := serialized.agrees
  refine ⟨⟨serial, ?_, agrees.tables.trans tables.symm, ?_, agrees.replies⟩, ?_⟩
  · have same := extended.serial (log.trans (List.append_nil _).symm)
    rw [same, agrees.run]
    rfl
  · rw [committed]
    exact agrees.units
  · rw [committed]
    exact serialized.once

theorem Apart.imp (apart : office.Apart) (drawn : next.drawn = office.drawn)
    (drew : ∀ {id fresh}, next.Drew id fresh → office.Drew id fresh) : next.Apart := by
  refine ⟨fun known => ?_, fun nodup => fun one two => ?_⟩
  · rw [drawn]
    exact apart.drawn (drew known)
  · rw [drawn] at nodup
    exact apart.apart nodup (drew one) (drew two)

theorem Provenance.of_same (provenance : office.Provenance) (extended : office.Extends next)
    (tables : next.tables.Alike office.tables) : next.Provenance := by
  refine ⟨fun untampered => fun found => ?_, fun found => ?_⟩
  · rw [tables.accounts] at found
    refine extended.traced (provenance.accounts (fun ⟨account, member⟩ => untampered ?_) found)
    obtain ⟨more, log⟩ := extended.log
    exact ⟨account, log ▸ List.mem_append_left _ member⟩
  · obtain ⟨twin, there, _⟩ := tables.entry found
    exact extended.traced (provenance.entries there)

/-! ## Steps on which nothing is drawn -/

/-- A step on which all calls keep what they have drawn and their units of work. -/
structure SameFiles (office next : Office) : Prop where
  file : next.file? = office.file?
  owner : next.owner = office.owner
  drawn : next.drawn = office.drawn
  nextUnit : next.pool.store.nextUnit = office.pool.store.nextUnit
  active : ∀ unit, office.pool.activity unit = .gone → next.pool.activity unit = .gone

theorem SameFiles.record (same : office.SameFiles next) : next.record = office.record := by
  funext unit
  rw [record_eq, record_eq, same.owner, same.file]

theorem SameFiles.extends (same : office.SameFiles next) {more : List PoolEvent}
    (log : next.pool.log = office.pool.log ++ more) : office.Extends next :=
  ⟨⟨more, log⟩, ⟨[], same.drawn.trans (List.append_nil _).symm⟩,
    fun unit _ => congrFun same.record unit⟩

theorem SameFiles.unitOf (same : office.SameFiles next) : next.unitOf = office.unitOf := by
  funext id
  unfold Office.unitOf
  rw [same.file]

theorem SameFiles.drew (same : office.SameFiles next) {id : Nat} {fresh : Uuid}
    (drew : next.Drew id fresh) : office.Drew id fresh := by
  unfold Drew at drew
  rw [same.file] at drew
  exact drew

/-- Nothing happens but that somebody comes on, or something is delivered. -/
theorem Settled.quiet (settled : office.Settled) (same : office.SameFiles next)
    (log : next.pool.log = office.pool.log) (tables : next.tables.Alike office.tables) :
    office.Extends next ∧ next.Settled := by
  have extended := same.extends (log.trans (List.append_nil _).symm)
  refine ⟨extended, ?_, settled.serialized.of_same extended log tables,
    settled.apart.imp same.drawn same.drew, settled.provenance.of_same extended tables⟩
  apply settled.registered.of_same same.unitOf same.owner same.nextUnit same.active
  intro unit committed
  rw [log] at committed
  exact settled.registered.committed committed

theorem Settled.overwritten (settled : office.Settled) (same : office.SameFiles next)
    {account : Account} (log : next.pool.log = office.pool.log ++ [.overwritten account])
    (tables : next.tables = office.tables.overwriteAccount account) :
    office.Extends next ∧ next.Settled := by
  have extended := same.extends log
  have committed : next.pool.committed = office.pool.committed := by
    rw [Pool.committed, log, List.filterMap_append]
    exact List.append_nil _
  have units : ∀ unit, .committed unit ∈ next.pool.log → .committed unit ∈ office.pool.log := by
    intro unit
    rw [← Pool.mem_committed, ← Pool.mem_committed, committed]
    exact id
  obtain ⟨serial, agrees⟩ := settled.serialized.agrees
  refine ⟨extended, ?_, ⟨⟨⟨serial.tables.overwriteAccount account, serial.outcomes⟩, ?_, ?_, ?_,
    agrees.replies⟩, ?_⟩, settled.apart.imp same.drawn same.drew, ?_, ?_⟩
  · exact settled.registered.of_same same.unitOf same.owner same.nextUnit same.active
      fun unit inside => settled.registered.committed (units unit inside)
  · rw [extended.serial log, agrees.run]
    rfl
  · rw [tables]
    exact agrees.tables.overwritten account
  · rw [committed]
    exact agrees.units
  · rw [committed]
    exact settled.serialized.once
  · intro untampered
    refine absurd ⟨account, ?_⟩ untampered
    rw [log]
    exact List.mem_append_right _ List.mem_cons_self
  · intro fresh entry found
    rw [tables] at found
    exact extended.traced (settled.provenance.entries found)

/-! ## The commit -/

/-- What a commit stores has ids that were drawn for it, or were stored before. -/
theorem Commits.put_traced {errand : Errand} {reply : ServiceReply} {fresh : Uuid}
    (commits : office.Commits call errand reply) {account : Account}
    (found : (errand.work.committedTables office.tables).accounts.find? fresh = some account)
    (accepted : errand.work.Accepted office.tables) :
    (∃ stored, office.tables.accounts.find? fresh = some stored) ∨ fresh ∈ call.tape.ids := by
  by_cases inserted : fresh ∈ errand.work.inserted.map (·.id)
  · obtain ⟨account, member, rfl⟩ := List.mem_map.mp inserted
    rw [← commits.tape]
    exact Or.inr (commits.change.inserted_drawn account member)
  · by_cases written : ∃ write ∈ errand.work.writes, write.account.id = fresh
    · obtain ⟨write, member, rfl⟩ := written
      obtain ⟨stored, present, _⟩ := Option.map_eq_some_iff.mp (accepted.writes write member)
      exact Or.inl ⟨stored, present⟩
    · rw [UnitOfWork.committedTables_find? inserted fun write member same =>
        written ⟨write, member, same⟩] at found
      exact Or.inl ⟨account, found⟩

section Committing

variable {errand : Errand} {reply : ServiceReply}

/-- The call of a commit goes the same way in its turn. -/
theorem Agrees.committed {serial : Serial} (agrees : office.Agrees serial)
    (extended : office.Extends next) (commits : office.Commits call errand reply)
    (record : next.record errand.unit = some (call.asked, call.tape))
    (fits : office.tables.Fits errand.reads) (accepted : errand.work.Accepted office.tables)
    (log : next.pool.log = office.pool.log ++ [.committed errand.unit])
    (tables : next.tables = errand.work.committedTables office.tables) :
    next.Agrees ⟨errand.work.committedTables serial.tables,
      serial.outcomes ++ [(errand.unit, .ok reply)]⟩ := by
  have committed : next.pool.committed = office.pool.committed ++ [errand.unit] := by
    rw [Pool.committed, log, List.filterMap_append]
    rfl
  have fitsThere : serial.tables.Fits errand.reads := by
    unfold Tables.Fits
    rw [agrees.tables.accounts]
    exact fits
  have acceptedThere : errand.work.Accepted serial.tables := by
    constructor
    · rw [agrees.tables.accounts]
      exact accepted.inserted
    · rw [agrees.tables.accounts]
      exact accepted.writes
  refine ⟨?_, ?_, ?_, ?_⟩
  · rw [extended.serial log, agrees.run]
    show (Serial.next next.record serial (.committed errand.unit)).bind some = _
    rw [Serial.next, record]
    show ((call.asked.alone errand.unit call.tape serial.tables).bind _).bind some = _
    rw [commits.alone serial.tables fitsThere acceptedThere]
    rfl
  · rw [tables]
    exact agrees.tables.committed errand.work
  · rw [committed, List.map_append, agrees.units]
    rfl
  · intro outcome member
    rcases List.mem_append.mp member with before | now
    · exact agrees.replies outcome before
    · cases List.mem_singleton.mp now
      exact ⟨reply, rfl⟩

theorem Provenance.committed (provenance : office.Provenance) (extended : office.Extends next)
    (commits : office.Commits call errand reply)
    (traced : ∀ fresh ∈ call.tape.ids, next.Traced fresh)
    (accepted : errand.work.Accepted office.tables)
    (log : next.pool.log = office.pool.log ++ [.committed errand.unit])
    (tables : next.tables = errand.work.committedTables office.tables) : next.Provenance := by
  constructor
  · intro untampered fresh account found
    rw [tables] at found
    rcases commits.put_traced found accepted with ⟨stored, before⟩ | drawn
    · refine extended.traced (provenance.accounts ?_ before)
      rintro ⟨account, overwritten⟩
      exact untampered ⟨account, log ▸ List.mem_append_left _ overwritten⟩
    · exact traced fresh drawn
  · intro fresh entry found
    rw [tables] at found
    by_cases staged : fresh ∈ errand.work.entries.map OutboxEntry.id
    · obtain ⟨entry, member, rfl⟩ := List.mem_map.mp staged
      exact traced _ (commits.tape ▸ commits.change.entry_drawn entry member)
    · have before : office.tables.outbox.find? fresh = some entry :=
        (Table.putAll_find?_of_not_mem staged).symm.trans found
      exact extended.traced (provenance.entries before)

/-- The commit of a call that has read the stored rows comes next in the calls one at a time. -/
theorem Settled.committed (settled : office.Settled) (same : office.SameFiles next)
    (commits : office.Commits call errand reply)
    (record : office.record errand.unit = some (call.asked, call.tape))
    (fits : office.tables.Fits errand.reads) (accepted : errand.work.Accepted office.tables)
    (log : next.pool.log = office.pool.log ++ [.committed errand.unit])
    (tables : next.tables = errand.work.committedTables office.tables) :
    office.Extends next ∧ next.Settled ∧ next.Served errand.unit reply := by
  have extended := same.extends log
  have sameRecord : next.record errand.unit = some (call.asked, call.tape) :=
    (congrFun same.record _).trans record
  have inLog : .committed errand.unit ∈ next.pool.log := by
    rw [log]
    exact List.mem_append_right _ List.mem_cons_self
  obtain ⟨serial, agrees⟩ := settled.serialized.agrees
  have after := agrees.committed extended commits sameRecord fits accepted log tables
  have registered : next.Registered := by
    apply settled.registered.of_same same.unitOf same.owner same.nextUnit same.active
    intro unit inside
    rw [log] at inside
    rcases List.mem_append.mp inside with before | now
    · exact settled.registered.committed before
    · cases List.mem_singleton.mp now
      rw [record_eq] at record
      obtain ⟨id, owned, _⟩ := Option.bind_eq_some_iff.mp record
      exact ⟨id, owned⟩
  have once : next.pool.committed.Nodup := by
    rw [← after.units, List.map_append, agrees.units]
    refine List.nodup_append.mpr ⟨settled.serialized.once, List.nodup_singleton _, ?_⟩
    intro unit before _ now equal
    subst equal
    cases List.mem_singleton.mp now
    exact commits.uncommitted (Pool.mem_committed.mp before)
  exact ⟨extended, ⟨registered, ⟨⟨_, after⟩, once⟩, settled.apart.imp same.drawn same.drew,
    settled.provenance.committed extended commits
      (fun _ member => ⟨errand.unit, _, inLog, sameRecord, member⟩) accepted log tables⟩,
    _, after.run, List.mem_append_right _ List.mem_cons_self⟩

end Committing

/-! ## Steps of one call -/

theorem record_withCall_of_ne (new : Call) (differs : office.owner unit ≠ some id) :
    (office.withCall id new).record unit = office.record unit := by
  rw [record_eq, record_eq, withCall_file?]
  show (office.owner unit).bind _ = _
  cases owned : office.owner unit with
  | none => rfl
  | some other =>
    have apart : other ≠ id := fun same => differs (same ▸ owned)
    simp [Function.update_of_ne apart]

theorem unitOf_withCall {new : Call} (same : new.unit = office.unitOf id) :
    (office.withCall id new).unitOf = office.unitOf := by
  funext other
  show ((office.withCall id new).file? other).bind _ = _
  rw [withCall_file?]
  by_cases isThis : other = id
  · subst isThis
    rw [Function.update_self]
    exact same
  · rw [Function.update_of_ne isThis]
    rfl

/-- What a call has drawn after a step of one. -/
theorem drew_withCall {new : Call} {other : Nat} {fresh : Uuid}
    (drew : (office.withCall id new).Drew other fresh) :
    other = id ∧ fresh ∈ new.tape.ids ∨ other ≠ id ∧ office.Drew other fresh := by
  obtain ⟨file, known, member⟩ := drew
  rw [withCall_file?] at known
  by_cases isThis : other = id
  · subst isThis
    rw [Function.update_self] at known
    cases known
    exact Or.inl ⟨rfl, member⟩
  · rw [Function.update_of_ne isThis] at known
    exact Or.inr ⟨isThis, file, known, member⟩

theorem Settled.called (settled : office.Settled) (asked : ServiceCall)
    (new : office.calls id = none) :
    office.Extends (office.withCall id (Call.begun asked)) ∧
      (office.withCall id (Call.begun asked)).Settled := by
  have unknown : office.unitOf id = none := by
    rw [unitOf, file?, new]
    rfl
  have unowned : ∀ unit, office.owner unit ≠ some id := by
    intro unit owned
    cases unknown.symm.trans (settled.registered.owner.mp owned)
  have extended : office.Extends (office.withCall id (Call.begun asked)) :=
    ⟨⟨[], (List.append_nil _).symm⟩, ⟨[], (List.append_nil _).symm⟩,
      fun unit _ => record_withCall_of_ne _ (unowned unit)⟩
  refine ⟨extended, ?_, settled.serialized.of_same extended rfl (Tables.Alike.refl _),
    settled.apart.imp rfl ?_, settled.provenance.of_same extended (Tables.Alike.refl _)⟩
  · exact settled.registered.of_same (unitOf_withCall unknown.symm) rfl rfl (fun _ gone => gone)
      fun unit => settled.registered.committed
  · intro other fresh drew
    rcases drew_withCall drew with ⟨_, absurdly⟩ | ⟨_, before⟩
    · cases absurdly
    · exact before

theorem Tape.after_ids (tape : Tape) (request : HostRequest) (answer : request.Answer) :
    (tape.after request answer).ids = tape.ids ++ request.drawn answer := by
  cases request <;> simp [Tape.after, Tape.drawn, Tape.told, HostRequest.drawn]

section Hosting

variable {request : HostRequest} {answer : request.Answer} {new : Call}

/-- What is drawn once a call has an answer of the host was drawn before, or is in the answer. -/
theorem drew_hosted (known : office.calls id = some call)
    (tape : new.tape = call.tape.after request answer) {other : Nat} {fresh : Uuid}
    (drew : (office.withCall id new).Drew other fresh) :
    office.Drew other fresh ∨ other = id ∧ fresh ∈ request.drawn answer := by
  rcases drew_withCall drew with ⟨rfl, member⟩ | ⟨_, before⟩
  · rw [tape, Tape.after_ids] at member
    rcases List.mem_append.mp member with before | now
    · exact Or.inl ⟨_, file?_of_call known, before⟩
    · exact Or.inr ⟨rfl, now⟩
  · exact Or.inl before

/-- A call that has committed draws nothing more: only a delivery is still asked for. -/
theorem Settled.hosted_record {resume : request.Answer → Script} (settled : office.Settled)
    (bears : office.Bears call) (known : office.calls id = some call)
    (running : call.stage = .running (.ask (.host request) resume)) (asked : new.asked = call.asked)
    (unit : new.unit = call.unit) (tape : new.tape = call.tape.after request answer)
    {other : UnitId} (committed : .committed other ∈ office.pool.log) :
    (office.withCall id new).record other = office.record other := by
  by_cases owned : office.owner other = some id
  · have own : call.unit = some other :=
      (unitOf_of_call known).symm.trans (settled.registered.owner.mp owned)
    by_cases delivery : ∃ entry, request = .dispatch entry
    · obtain ⟨entry, rfl⟩ := delivery
      have same : new.file = call.file := by
        simp only [Call.file, asked, unit, tape]
        rfl
      rw [record_eq, record_eq, withCall_file?_of_same known same]
      rfl
    · refine absurd committed (bears.uncommitted running (fun entry same => ?_) other own)
      cases same
      exact delivery ⟨entry, rfl⟩
  · exact record_withCall_of_ne new owned

theorem Apart.hosted (apart : office.Apart) (known : office.calls id = some call)
    (tape : new.tape = call.tape.after request answer) :
    Apart { office.withCall id new with drawn := office.drawn ++ request.drawn answer } := by
  constructor
  · intro other fresh drew
    rcases drew_hosted known tape drew with before | ⟨_, now⟩
    · exact List.mem_append_left _ (apart.drawn before)
    · exact List.mem_append_right _ now
  · intro nodup first second fresh one two
    obtain ⟨before, _, disjoint⟩ := List.nodup_append.mp nodup
    rcases drew_hosted known tape one with old | ⟨rfl, now⟩
    · rcases drew_hosted known tape two with same | ⟨rfl, now⟩
      · exact apart.apart before old same
      · exact absurd rfl (disjoint fresh (apart.drawn old) fresh now)
    · rcases drew_hosted known tape two with old | ⟨rfl, _⟩
      · exact absurd rfl (disjoint fresh (apart.drawn old) fresh now)
      · rfl

/-- What a call draws from the host is its own. -/
theorem Settled.hosted {resume : request.Answer → Script} (settled : office.Settled)
    (bears : office.Bears call) (known : office.calls id = some call)
    (running : call.stage = .running (.ask (.host request) resume)) (asked : new.asked = call.asked)
    (unit : new.unit = call.unit) (tape : new.tape = call.tape.after request answer)
    (result : next = { office.withCall id new with
      drawn := office.drawn ++ request.drawn answer }) :
    office.Extends next ∧ next.Settled := by
  subst result
  have sameUnit : new.unit = office.unitOf id := unit.trans (unitOf_of_call known).symm
  have extended : office.Extends { office.withCall id new with
      drawn := office.drawn ++ request.drawn answer } :=
    ⟨⟨[], (List.append_nil _).symm⟩, ⟨_, rfl⟩, fun other committed =>
      settled.hosted_record bears known running asked unit tape committed⟩
  refine ⟨extended, ?_, settled.serialized.of_same extended rfl (Tables.Alike.refl _),
    settled.apart.hosted known tape, settled.provenance.of_same extended (Tables.Alike.refl _)⟩
  exact settled.registered.of_same (unitOf_withCall sameUnit) rfl rfl (fun _ gone => gone)
    fun unit => settled.registered.committed

end Hosting

section Starting

variable {new : Call}

theorem started_owner_of_ne {other : UnitId} (differs : other ≠ office.pool.nextUnit) :
    (office.started id new).owner other = office.owner other :=
  Function.update_of_ne differs _ _

theorem started_unitOf :
    (office.started id new).unitOf =
      Function.update office.unitOf id (some office.pool.nextUnit) := by
  funext other
  show ((office.withCall id { new with unit := some office.pool.nextUnit }).file? other).bind _ = _
  rw [withCall_file?]
  by_cases isThis : other = id
  · subst isThis
    rw [Function.update_self, Function.update_self]
    rfl
  · rw [Function.update_of_ne isThis, Function.update_of_ne isThis]
    rfl

theorem Registered.started_extends (registered : office.Registered)
    (unknown : office.unitOf id = none) : office.Extends (office.started id new) := by
  refine ⟨⟨[], (List.append_nil _).symm⟩, ⟨[], (List.append_nil _).symm⟩, ?_⟩
  intro other committed
  have differs : other ≠ office.pool.nextUnit := by
    intro equal
    subst equal
    exact registered.uncommitted committed
  have foreign : office.owner other ≠ some id := by
    intro owned
    cases unknown.symm.trans (registered.owner.mp owned)
  rw [← record_withCall_of_ne { new with unit := some office.pool.nextUnit } foreign, record_eq,
    record_eq, started_owner_of_ne differs]
  rfl

/-- The new unit of work belongs to the call that has started it. -/
theorem Registered.started_owner (registered : office.Registered)
    (unknown : office.unitOf id = none) {unit : UnitId} {other : Nat} :
    (office.started id new).owner unit = some other ↔
      (office.started id new).unitOf other = some unit := by
  rw [started_unitOf]
  by_cases isNew : unit = office.pool.nextUnit
  · subst isNew
    have owner : (office.started id new).owner office.pool.nextUnit = some id :=
      Function.update_self ..
    rw [owner]
    by_cases isThis : other = id
    · subst isThis
      rw [Function.update_self]
      exact ⟨fun _ => rfl, fun _ => rfl⟩
    · rw [Function.update_of_ne isThis, ← registered.owner, registered.unowned]
      exact ⟨fun same => absurd (Option.some.inj same).symm isThis, fun same => (nomatch same)⟩
  · rw [started_owner_of_ne isNew, registered.owner]
    by_cases isThis : other = id
    · subst isThis
      rw [Function.update_self, unknown]
      exact ⟨fun same => (nomatch same), fun same => absurd (Option.some.inj same).symm isNew⟩
    · rw [Function.update_of_ne isThis]

theorem Registered.started (registered : office.Registered) (unknown : office.unitOf id = none) :
    (office.started id new).Registered := by
  refine ⟨registered.started_owner unknown, ?_, ?_, ?_⟩
  · intro unit other owned
    show unit.number < office.pool.store.nextUnit + 1
    by_cases isNew : unit = office.pool.nextUnit
    · subst isNew
      exact Nat.lt_succ_self _
    · rw [started_owner_of_ne isNew] at owned
      exact Nat.lt_succ_of_lt (registered.young owned)
  · intro unit present
    by_cases isNew : unit = office.pool.nextUnit
    · subst isNew
      exact ⟨id, Function.update_self ..⟩
    · rw [started_owner_of_ne isNew]
      apply registered.active
      intro gone
      exact present ((Function.update_of_ne isNew _ _).trans gone)
  · intro unit committed
    have isOld : unit ≠ office.pool.nextUnit := by
      intro equal
      subst equal
      exact registered.uncommitted committed
    rw [started_owner_of_ne isOld]
    exact registered.committed committed

/-- A unit of work is started for a call that has none. -/
theorem Settled.started (settled : office.Settled) (known : office.calls id = some call)
    (none : call.unit = none) (tape : new.tape = call.tape) :
    office.Extends (office.started id new) ∧ (office.started id new).Settled := by
  have unknown : office.unitOf id = Option.none := (unitOf_of_call known).trans none
  have extended : office.Extends (office.started id new) :=
    settled.registered.started_extends unknown
  refine ⟨extended, settled.registered.started unknown,
    settled.serialized.of_same extended rfl (Tables.Alike.refl _), settled.apart.imp rfl ?_,
    settled.provenance.of_same extended (Tables.Alike.refl _)⟩
  intro other fresh drew
  have drewHere : (office.withCall id { new with unit := some office.pool.nextUnit }).Drew other
      fresh := drew
  rcases drew_withCall drewHere with ⟨rfl, member⟩ | ⟨_, before⟩
  · refine ⟨_, file?_of_call known, ?_⟩
    show fresh ∈ call.tape.ids
    rw [← tape]
    exact member
  · exact before

end Starting

end Office

end AccountLedger
