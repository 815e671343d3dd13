import AccountLedger.Proofs.Database.Remembering

/-!
The lock protocol of units of work that are database transactions, whatever they are asked for and
whatever the server answers: rows are newly locked in ascending order, only rows that are locked or
were inserted are updated, and every wait for a row is bounded by the timeout of its own call.
-/

namespace AccountLedger

open Program (SettlesOn)

namespace UnitRequest

/-- What may be sent while a unit of work does what it is asked for. -/
def Permits (asked : UnitRequest) : DatabaseRequest → Transcript database → Prop
  | .run (some unit) (.lockAccount id), known =>
    (id ∉ touched unit known → ∀ other ∈ touched unit known, other.value < id.value) ∧
      ∃ order timeoutMs, asked = .lock unit order timeoutMs ∧ id ∈ order.ids ∧
        lastTimeout? unit known = some timeoutMs
  | .run (some unit) (.updateAccount account), known => account.id ∈ touched unit known
  | _, _ => True

/-- How a request is followed along what it exchanges with the server. -/
abbrev followed (asked : UnitRequest) : RequestRule database (Transcript database) :=
  RequestRule.recording asked.Permits

end UnitRequest

namespace UnitAction

open UnitRequest (followed)

section

variable {permits : DatabaseRequest → Transcript database → Prop} {α : Type}
  {unit : UnitId} {units : OpenUnits} {known : Transcript database}
  {failed : LedgerError → OpenUnits → Transcript database → Prop}

theorem send_settles {statement : Statement} {wrap : DatabaseError → LedgerError}
    {ok : StatementResult → OpenUnits → Transcript database → Prop}
    (permitted : permits (.run (some unit) statement) known)
    (sent : ∀ result, ok result units (known ++ [⟨.run (some unit) statement, .ok result⟩]))
    (failure : ∀ error, failed (wrap error) units
      (known ++ [⟨.run (some unit) statement, .error error⟩])) :
    SettlesOn (RequestRule.recording permits) (send unit statement wrap) units known ok failed := by
  refine SettlesOn.lift ⟨permitted, fun answer => ?_⟩
  rcases answer with error | result
  · exact failure error
  · exact sent result

end

variable {asked : UnitRequest} {unit : UnitId} {units : OpenUnits} {known : Transcript database}

/-- Everything is remembered, whether the step fails or not. -/
abbrev Keeping {α : Type} (_ : α) (units : OpenUnits) (known : Transcript database) : Prop :=
  units.Remember known

theorem setLockTimeout_settles {timeoutMs : Nat} (remember : units.Remember known)
    {ok : Unit → OpenUnits → Transcript database → Prop}
    (timed : ∀ later transcript, later.Remember transcript →
      touched unit transcript = touched unit known →
      lastTimeout? unit transcript = some timeoutMs → ok () later transcript) :
    SettlesOn (followed asked) (setLockTimeout unit timeoutMs) units known ok Keeping := by
  refine SettlesOn.bind (remembered_settles ?_)
  by_cases different : (units.get unit).lockTimeoutMs ≠ some timeoutMs
  · rw [if_pos different]
    refine SettlesOn.bind (send_settles trivial (fun result => ?_) fun error => ?_)
    · refine remember_settles (timed _ _ (remember.timed ?_ ?_ ?_) ?_ ?_)
      · simp [Exchange.timeout?]
      · intro other differs
        simp [Exchange.timeout?, Ne.symm differs]
      · exact fun _ => rfl
      · simp [touched, Exchange.touched?, Exchange.locked?, Exchange.inserted?]
      · simp [lastTimeout?_concat, Exchange.timeout?]
    · exact remember.passed (fun _ => rfl) fun _ => rfl
  · rw [if_neg different]
    refine SettlesOn.pure (timed units known remember rfl ?_)
    rw [← (remember unit).2]
    exact not_not.mp different

/-- A row that is there is locked from here on, also if it cannot be read. -/
theorem lockRow_settles {timeoutMs : Nat} {id : Uuid} (remember : units.Remember known)
    (permitted : asked.Permits (.run (some unit) (.lockAccount id)) known)
    {ok : Account → OpenUnits → Transcript database → Prop}
    (locked : ∀ account later exchange, later.Remember (known ++ [exchange]) →
      exchange.touched? unit = some id → exchange.timeout? unit = none →
      ok account later (known ++ [exchange])) :
    SettlesOn (followed asked) (lockRow unit timeoutMs id) units known ok Keeping := by
  refine SettlesOn.bind (send_settles permitted (fun result => ?_) fun error => ?_)
  rotate_left
  · exact remember.passed (fun _ => rfl) fun _ => rfl
  cases found : result.rows.head? with
  | none =>
    have empty : result.rows = [] := List.head?_eq_none_iff.mp found
    refine SettlesOn.throw (remember.passed (fun other => ?_) fun _ => rfl)
    simp [Exchange.touched?, Exchange.locked?, Exchange.inserted?, empty]
  | some row =>
    have present : result.rows ≠ [] := by
      intro empty
      rw [empty] at found
      cases found
    have touches : Exchange.touched? unit ⟨.run (some unit) (.lockAccount id), .ok result⟩ =
        some id := by
      simp [Exchange.touched?, Exchange.locked?, present]
    have own : ∀ other, other ≠ unit →
        Exchange.touched? other ⟨.run (some unit) (.lockAccount id), .ok result⟩ = none := by
      intro other differs
      simp [Exchange.touched?, Exchange.locked?, Exchange.inserted?, Ne.symm differs]
    refine SettlesOn.bind (remembered_settles ?_)
    have read : ∀ later : OpenUnits,
        later.Remember (known ++ [⟨.run (some unit) (.lockAccount id), .ok result⟩]) →
        SettlesOn (followed asked) (ExceptT.mk (pure (Account.ofRow row))) later
          (known ++ [⟨.run (some unit) (.lockAccount id), .ok result⟩]) ok Keeping :=
      fun later kept => SettlesOn.ofExcept
        (fun account _ => locked account later _ kept touches rfl) fun _ _ => kept
    by_cases held : (units.get unit).held.contains id = true
    · rw [if_neg (by simp [held])]
      exact read units (remember.heldAgain touches own (fun _ => rfl) held)
    · rw [if_pos (by simp [held])]
      refine SettlesOn.bind (SettlesOn.bind (remembered_settles (remember_settles ?_)))
      exact read _ (remember.held touches own fun _ => rfl)

/-- Rows are locked one after another. Those that are new lie above all that is held, and since
the order ascends this still holds of the rest after each of them. -/
theorem lockRows_settles {order : LockOrder} {timeoutMs : Nat} {ids : List Uuid}
    (inside : ∀ id ∈ ids, id ∈ order.ids)
    (ascending : ids.Pairwise fun a b => a.value < b.value)
    (above : ∀ id ∈ ids, id ∉ touched unit known → ∀ other ∈ touched unit known,
      other.value < id.value)
    (timed : lastTimeout? unit known = some timeoutMs) (remember : units.Remember known) :
    SettlesOn (followed (.lock unit order timeoutMs)) (ids.mapM (lockRow unit timeoutMs)) units known
      Keeping Keeping := by
  induction ids generalizing units known with
  | nil => exact remember
  | cons id rest ih =>
    obtain ⟨below, restAscending⟩ := List.pairwise_cons.mp ascending
    rw [List.mapM_cons]
    refine SettlesOn.bind (lockRow_settles remember ?_ fun account later exchange kept touches
      untimed => ?_)
    · exact ⟨above id List.mem_cons_self, order, timeoutMs, rfl, inside id List.mem_cons_self, timed⟩
    · refine SettlesOn.bind (SettlesOn.imp (RequestRule.recording_monotone _)
        (ih (fun other member => inside other (List.mem_cons_of_mem _ member)) restAscending ?_ ?_ kept)
        (fun rows later transcript kept => kept) fun error later transcript kept => kept)
      · intro next member fresh other known
        rw [mem_touched_concat, not_or] at fresh
        rcases mem_touched_concat.mp known with earlier | new
        · exact above next (List.mem_cons_of_mem _ member) fresh.1 other earlier
        · rw [touches, Option.some.injEq] at new
          exact new ▸ below next member
      · rw [lastTimeout?_concat, untimed, timed]
        rfl

theorem lockDatabaseRows_settles (order : LockOrder) (timeoutMs : Nat)
    (remember : units.Remember known) :
    SettlesOn (followed (.lock unit order timeoutMs)) (lockDatabaseRows unit order timeoutMs) units
      known Keeping Keeping := by
  refine SettlesOn.bind (remembered_settles ?_)
  refine SettlesOn.bind (SettlesOn.ofExcept (fun permitted granted => ?_) fun _ _ => remember)
  refine SettlesOn.bind (setLockTimeout_settles remember
    fun later transcript kept same timed => ?_)
  refine lockRows_settles (fun id member => member) order.ascending ?_ timed kept
  intro id member fresh other inside
  rw [same] at fresh inside
  rw [← (remember unit).1] at fresh inside
  refine HeldLocks.permit_above granted other inside id ?_
  rw [HeldLocks.permit_ids granted]
  exact HeldLocks.mem_fresh.mpr ⟨member, fresh⟩

theorem insertRow_settles (account : Account) (remember : units.Remember known) :
    SettlesOn (followed (.insert unit account)) (insertRow unit account) units known Keeping
      Keeping := by
  refine SettlesOn.bind (send_settles trivial (fun result => ?_) fun error => ?_)
  · refine SettlesOn.bind (remembered_settles (remember_settles ?_))
    refine remember.held (by simp [Exchange.touched?, Exchange.locked?, Exchange.inserted?]) ?_
      fun _ => rfl
    intro other differs
    simp [Exchange.touched?, Exchange.locked?, Exchange.inserted?, Ne.symm differs]
  · exact remember.passed (fun _ => rfl) fun _ => rfl

theorem saveRow_settles (account : Account) (remember : units.Remember known) :
    SettlesOn (followed (.save unit account)) (saveRow unit account) units known Keeping
      Keeping := by
  refine SettlesOn.bind (remembered_settles ?_)
  by_cases held : (units.get unit).held.contains account.id = true
  · rw [if_neg (by simp [held])]
    have locked : account.id ∈ touched unit known :=
      ((remember unit).1 _).mp (HeldLocks.contains_iff.mp held)
    refine SettlesOn.bind (send_settles locked (fun result => ?_) fun error => ?_)
    · have written : units.Remember
          (known ++ [⟨.run (some unit) (.updateAccount account), .ok result⟩]) :=
        remember.passed (fun _ => rfl) fun _ => rfl
      by_cases missed : result.affected = 0
      · rw [if_pos missed]
        refine SettlesOn.bind (send_settles trivial (fun found => ?_) fun error => ?_)
        · have looked : units.Remember
              (known ++ [⟨.run (some unit) (.updateAccount account), .ok result⟩] ++
                [⟨.run (some unit) (.readRevision account.id), .ok found⟩]) :=
            written.passed (fun _ => rfl) fun _ => rfl
          exact SettlesOn.bind (SettlesOn.ofExcept (fun _ _ => SettlesOn.throw looked) fun _ _ => looked)
        · exact written.passed (fun _ => rfl) fun _ => rfl
      · rw [if_neg missed]
        exact written
    · exact remember.passed (fun _ => rfl) fun _ => rfl
  · rw [if_pos (by simp [held])]
    exact SettlesOn.bind (SettlesOn.throw remember)

theorem insertEntry_settles (entry : OutboxEntry) (remember : units.Remember known) :
    SettlesOn (followed (.stage unit entry)) (insertEntry unit entry) units known Keeping
      Keeping := by
  refine SettlesOn.bind (send_settles trivial (fun result => ?_) fun error => ?_)
  · exact remember.passed (fun _ => rfl) fun _ => rfl
  · exact remember.passed (fun _ => rfl) fun _ => rfl

end UnitAction

namespace UnitRequest

open UnitAction

variable {units : OpenUnits} {known : Transcript database}

/-- What a unit of work does keeps to the protocol, and it remembers what it has done. -/
theorem inDatabase_followed (asked : UnitRequest) (remember : units.Remember known) :
    (asked.inDatabase.run units).Ensures asked.followed known fun result later =>
      result.2.Remember later := by
  have ended : ∀ {α : Type} {action : UnitAction α},
      SettlesOn asked.followed action units known Keeping Keeping →
      (action.run.run units).Ensures asked.followed known fun result later =>
        result.2.Remember later := by
    intro α action settles
    refine Program.Ensures.imp (RequestRule.recording_monotone _) ?_ settles
    rintro ⟨error | value, later⟩ transcript kept
    · exact kept
    · exact kept
  cases asked with
  | start =>
    refine ⟨trivial, fun answer => ?_⟩
    rcases answer with error | begun
    · exact ⟨trivial, fun _ => (remember.passed (fun _ => rfl) fun _ => rfl).passed (fun _ => rfl)
        fun _ => rfl⟩
    · exact remember.passed (fun _ => rfl) fun _ => rfl
  | lock unit order timeoutMs => exact ended (lockDatabaseRows_settles order timeoutMs remember)
  | insert unit account => exact ended (insertRow_settles account remember)
  | save unit account => exact ended (saveRow_settles account remember)
  | stage unit entry => exact ended (insertEntry_settles entry remember)
  | commit unit =>
    refine ⟨trivial, fun answer => ?_⟩
    rcases answer with error | done
    · exact ⟨trivial, fun _ => (remember.passed (fun _ => rfl) fun _ => rfl).passed (fun _ => rfl)
        fun _ => rfl⟩
    · exact remember.passed (fun _ => rfl) fun _ => rfl
  | abandon unit => exact ⟨trivial, fun _ => remember.passed (fun _ => rfl) fun _ => rfl⟩

end UnitRequest

/-! ## Any number of requests, one after another -/

/-- Requests to the units of work of one process, one after another, each with what was exchanged
with the server for it. A request that fails is followed by whatever comes next. -/
inductive Served : List (UnitRequest × Transcript database) → OpenUnits → Prop
  | nothing : Served [] OpenUnits.none
  | next {history : List (UnitRequest × Transcript database)} {units later : OpenUnits}
    {request : UnitRequest} {transcript : Transcript database} {answer : request.Answer} :
    Served history units → (request.inDatabase.run units).Runs transcript (answer, later) →
    Served (history ++ [(request, transcript)]) later

/-- All that was exchanged with the server. -/
def exchanged (history : List (UnitRequest × Transcript database)) : Transcript database :=
  history.flatMap (·.2)

/-- The rows that are newly locked, in the order in which they are locked, after what was exchanged
before. -/
def newLocks (unit : UnitId) (before : Transcript database) : Transcript database → List Uuid
  | [] => []
  | exchange :: rest =>
    ((exchange.locked? unit).filter fun id => id ∉ touched unit before).toList ++
      newLocks unit (before ++ [exchange]) rest

theorem newLocks_ascending {unit : UnitId} {rest : Transcript database} (before : Transcript database)
    (above : ∀ earlier exchange later, rest = earlier ++ exchange :: later →
      ∀ id, exchange.locked? unit = some id → id ∉ touched unit (before ++ earlier) →
        ∀ other ∈ touched unit (before ++ earlier), other.value < id.value) :
    (newLocks unit before rest).Pairwise (fun a b => a.value < b.value) ∧
      ∀ id ∈ newLocks unit before rest, ∀ other ∈ touched unit before, other.value < id.value := by
  induction rest generalizing before with
  | nil => exact ⟨List.Pairwise.nil, fun id member => nomatch member⟩
  | cons exchange rest ih =>
    obtain ⟨ascending, higher⟩ := ih (before ++ [exchange]) fun earlier next later split => by
      simpa using above (exchange :: earlier) next later (by rw [split, List.cons_append])
    have kept : ∀ id ∈ newLocks unit (before ++ [exchange]) rest, ∀ other ∈ touched unit before,
        other.value < id.value := fun id member other known =>
      higher id member other (mem_touched_concat.mpr (Or.inl known))
    rw [newLocks]
    cases locks : (exchange.locked? unit).filter fun id => id ∉ touched unit before with
    | none => exact ⟨ascending, kept⟩
    | some first =>
      obtain ⟨locked, fresh⟩ := Option.filter_eq_some_iff.mp locks
      have touches : exchange.touched? unit = some first := by simp [Exchange.touched?, locked]
      refine ⟨List.pairwise_cons.mpr ⟨fun id member => ?_, ascending⟩, fun id member => ?_⟩
      · exact higher id member first (mem_touched_concat.mpr (Or.inr touches))
      · rcases List.mem_cons.mp member with rfl | member
        · simpa using above [] exchange rest rfl id locked (by simpa using fresh)
        · exact kept id member

namespace Served

variable {history : List (UnitRequest × Transcript database)} {units : OpenUnits}

theorem remember (served : Served history units) : units.Remember (exchanged history) := by
  induction served with
  | nothing => exact OpenUnits.none_remember
  | @next history units later request transcript answer served ran ih =>
    have reached := (ran.recorded (request.inDatabase_followed ih)).1
    simpa [exchanged] using reached

/-- Everything that was sent for a request was permitted. -/
theorem permitted (served : Served history units) {earlier later : List (UnitRequest × Transcript database)}
    {request : UnitRequest} {before after : Transcript database} {exchange : Exchange database}
    (split : history = earlier ++ (request, before ++ exchange :: after) :: later) :
    request.Permits exchange.request (exchanged earlier ++ before) := by
  induction served generalizing later with
  | nothing => simp at split
  | @next history units final asked transcript answer served ran ih =>
    rcases List.eq_nil_or_concat later with rfl | ⟨rest, last, rfl⟩
    · obtain ⟨rfl, same⟩ := List.append_inj' split rfl
      obtain ⟨rfl, rfl⟩ := Prod.mk.inj (List.cons.inj same).1
      exact (ran.recorded (asked.inDatabase_followed served.remember)).2 before exchange after rfl
    · rw [List.concat_eq_append, ← List.cons_append, ← List.append_assoc] at split
      exact ih (List.append_inj' split rfl).1

theorem permitted_exchanged (served : Served history units) {before after : Transcript database}
    {exchange : Exchange database} (split : exchanged history = before ++ exchange :: after) :
    ∃ request : UnitRequest, request.Permits exchange.request before := by
  induction served generalizing after with
  | nothing => simp [exchanged] at split
  | @next history units final asked transcript answer served ran ih =>
    have joined : exchanged history ++ transcript = before ++ exchange :: after := by
      simpa [exchanged] using split
    rcases List.append_eq_append_iff.mp joined with ⟨sent, rfl, same⟩ | ⟨rest, known, same⟩
    · exact ⟨asked, (ran.recorded (asked.inDatabase_followed served.remember)).2 sent exchange after
        same⟩
    · cases rest with
      | nil =>
        rw [List.append_nil] at known
        have permitted := (ran.recorded (asked.inDatabase_followed served.remember)).2 [] exchange
          after (by simpa using same.symm)
        exact ⟨asked, by simpa [known] using permitted⟩
      | cons first rest =>
        obtain ⟨rfl, -⟩ := List.cons.inj same
        exact ih known

/-- The lock protocol: new locks ascend and lie above everything that was locked or inserted before
them, an update is of a row that was locked or inserted before, and a row is locked under the
timeout that its own call asks for. -/
theorem protocol (served : Served history units) (unit : UnitId) :
    (newLocks unit [] (exchanged history)).Pairwise (fun a b => a.value < b.value) ∧
    (∀ before exchange after, exchanged history = before ++ exchange :: after →
      (∀ id, exchange.locked? unit = some id → id ∉ touched unit before →
        ∀ other ∈ touched unit before, other.value < id.value) ∧
      ∀ account, exchange.request = .run (some unit) (.updateAccount account) →
        account.id ∈ touched unit before) ∧
    ∀ earlier request before exchange after later id,
      history = earlier ++ (request, before ++ exchange :: after) :: later →
      exchange.request = .run (some unit) (.lockAccount id) →
      ∃ order timeoutMs, request = .lock unit order timeoutMs ∧ id ∈ order.ids ∧
        lastTimeout? unit (exchanged earlier ++ before) = some timeoutMs := by
  have above : ∀ before exchange after, exchanged history = before ++ exchange :: after →
      ∀ id, exchange.locked? unit = some id → id ∉ touched unit before →
        ∀ other ∈ touched unit before, other.value < id.value := by
    intro before exchange after split id locked
    obtain ⟨request, permitted⟩ := served.permitted_exchanged split
    rw [Exchange.locked?_request locked] at permitted
    exact permitted.1
  refine ⟨(newLocks_ascending [] above).1, fun before exchange after split => ⟨?_, ?_⟩, ?_⟩
  · exact above before exchange after split
  · intro account updated
    obtain ⟨request, permitted⟩ := served.permitted_exchanged split
    rw [updated] at permitted
    exact permitted
  · intro earlier request before exchange after later id split locking
    have permitted := served.permitted split
    rw [locking] at permitted
    exact permitted.2

/-- A transaction in which the first row could not be read and a change of the timeout failed. -/
def interrupted : List (UnitRequest × Transcript database) :=
  let unit : UnitId := ⟨0⟩
  let present : Except DatabaseError StatementResult := .ok ⟨[[]], 1⟩
  [(.start, [⟨.begin unit, Except.ok ()⟩]),
    (.lock unit (LockOrder.single (Uuid.ofNat 1)) 500,
      [⟨.run (some unit) (.setLockTimeout 500), present⟩,
        ⟨.run (some unit) (.lockAccount (Uuid.ofNat 1)), present⟩]),
    (.lock unit (LockOrder.single (Uuid.ofNat 2)) 700,
      [⟨.run (some unit) (.setLockTimeout 700), Except.error DatabaseError.poolTimedOut⟩]),
    (.lock unit (LockOrder.single (Uuid.ofNat 2)) 500,
      [⟨.run (some unit) (.lockAccount (Uuid.ofNat 2)), present⟩])]

theorem interrupted_served :
    Served interrupted ⟨1, ⟨[(0, ⟨⟨[Uuid.ofNat 1, Uuid.ofNat 2]⟩, some 500⟩)]⟩⟩ := by
  have opened : (UnitRequest.start.inDatabase.run OpenUnits.none).Runs
      [⟨.begin ⟨0⟩, Except.ok ()⟩] (Except.ok ⟨0⟩, ⟨1, ⟨[]⟩⟩) := .ask _ (.done _)
  have begun : Served (interrupted.take 1) ⟨1, ⟨[]⟩⟩ := .next .nothing opened
  have unreadable : Served (interrupted.take 2) ⟨1, ⟨[(0, ⟨⟨[Uuid.ofNat 1]⟩, some 500⟩)]⟩⟩ :=
    .next begun (.ask _ (.ask _ (.done _)))
  have refused : Served (interrupted.take 3) ⟨1, ⟨[(0, ⟨⟨[Uuid.ofNat 1]⟩, some 500⟩)]⟩⟩ :=
    .next unreadable (.ask _ (.done _))
  exact .next refused (.ask _ (.done _))

theorem interrupted_protocol :
    newLocks ⟨0⟩ [] (exchanged interrupted) = [Uuid.ofNat 1, Uuid.ofNat 2] ∧
      (newLocks ⟨0⟩ [] (exchanged interrupted)).Pairwise (fun a b => a.value < b.value) :=
  ⟨by decide, (interrupted_served.protocol ⟨0⟩).1⟩

end Served

end AccountLedger
