import AccountLedger.Memory.Store
import AccountLedger.Proofs.Memory.Commit
import AccountLedger.Proofs.Transaction.Records
import Mathlib.Data.Option.Basic

/-!
How a store finds the records that were inserted. A reference number or key leads to the id that it
was inserted with, once and for all. Under the id there is the record that was inserted last: an id
that is in use is not refused, and then what leads to the earlier record leads to the later one.
-/

namespace AccountLedger

namespace TransactionRecord

/-- The record that was inserted last under an id. -/
def latest? (inserted : List TransactionRecord) (id : Uuid) : Option TransactionRecord :=
  inserted.reverse.find? fun record => record.id = id

variable {inserted : List TransactionRecord} {record : TransactionRecord} {id : Uuid}

theorem latest?_concat (inserted : List TransactionRecord) (record : TransactionRecord)
    (id : Uuid) :
    latest? (inserted ++ [record]) id =
      if record.id = id then some record else latest? inserted id := by
  by_cases same : record.id = id <;> simp [latest?, same]

theorem mem_of_latest? (found : latest? inserted id = some record) :
    record ∈ inserted ∧ record.id = id :=
  ⟨List.mem_reverse.mp (List.mem_of_find?_eq_some found), by simpa using List.find?_some found⟩

theorem latest?_of_last {early late : List TransactionRecord}
    (last : record.id ∉ late.map (·.id)) :
    latest? (early ++ record :: late) record.id = some record := by
  have later : late.reverse.find? (fun other => other.id = record.id) = none := by
    refine List.find?_eq_none.mpr fun other inside => ?_
    have differs : other.id ≠ record.id :=
      fun same => last (List.mem_map.mpr ⟨other, List.mem_reverse.mp inside, same⟩)
    simpa using differs
  simp [latest?, List.find?_append, later]

theorem latest?_of_mem (member : record ∈ inserted) :
    ∃ latest, latest? inserted record.id = some latest := by
  refine Option.isSome_iff_exists.mp (List.find?_isSome.mpr ⟨record, List.mem_reverse.mpr member, ?_⟩)
  simp

end TransactionRecord

open TransactionRecord (latest? latest?_concat mem_of_latest? latest?_of_last latest?_of_mem)

/-- Each name leads to the id of the record that was inserted with it. -/
def Leads (name? : TransactionRecord → Option String) (inserted : List TransactionRecord)
    (index : Table String Uuid) : Prop :=
  ∀ name id, index.find? name = some id ↔
    ∃ record ∈ inserted, name? record = some name ∧ record.id = id

section Leads

variable {name? : TransactionRecord → Option String} {inserted : List TransactionRecord}
  {index after : Table String Uuid} {record : TransactionRecord}

theorem leads_nil : Leads name? [] .empty := fun name id => by simp

/-- A name that leads nowhere is given to one more record. -/
theorem Leads.concat (leads : Leads name? inserted index)
    (free : ∀ name, name? record = some name → index.find? name = none)
    (led : ∀ name, after.find? name =
      if name? record = some name then some record.id else index.find? name) :
    Leads name? (inserted ++ [record]) after := by
  intro name id
  rw [led]
  by_cases named : name? record = some name
  · rw [if_pos named]
    constructor
    · intro same
      exact ⟨record, by simp, named, Option.some.inj same⟩
    · rintro ⟨other, member, alsoNamed, rfl⟩
      rcases List.mem_append.mp member with earlier | last
      · have led := (leads name other.id).mpr ⟨other, earlier, alsoNamed, rfl⟩
        cases (free name named).symm.trans led
      · rw [List.mem_singleton.mp last]
  · rw [if_neg named, leads]
    constructor
    · rintro ⟨other, member, rest⟩
      exact ⟨other, List.mem_append_left _ member, rest⟩
    · rintro ⟨other, member, alsoNamed, same⟩
      rcases List.mem_append.mp member with earlier | last
      · exact ⟨other, earlier, alsoNamed, same⟩
      · exact absurd (List.mem_singleton.mp last ▸ alsoNamed) named

end Leads

/-- Where the records are that were inserted so far. -/
structure Kept (inserted : List TransactionRecord) (tables : Tables) : Prop where
  records : ∀ id, Option.Rel TransactionRecord.SameTerms (latest? inserted id)
    (tables.records.find? id)
  references : Leads (fun record => some record.reference) inserted tables.references
  keys : Leads (·.idempotencyKey) inserted tables.keys

namespace Kept

variable {inserted : List TransactionRecord} {tables : Tables} {record now : TransactionRecord}
  {id : Uuid}

theorem empty (records : tables.records = .empty) (references : tables.references = .empty)
    (keys : tables.keys = .empty) : Kept [] tables := by
  refine ⟨fun id => ?_, references ▸ leads_nil, keys ▸ leads_nil⟩
  rw [records]
  exact .none

theorem concat (kept : Kept inserted tables)
    (reference : tables.references.find? record.reference = none)
    (key : ∀ key, record.idempotencyKey = some key → tables.keys.find? key = none) :
    Kept (inserted ++ [record]) (tables.withRecord record) := by
  refine ⟨fun id => ?_, kept.references.concat (fun name same => ?_) fun name => ?_,
    kept.keys.concat key (tables.withRecord_keys record)⟩
  · rw [latest?_concat, Tables.withRecord_find?]
    split
    · exact .some (.refl record)
    · exact kept.records id
  · rwa [← Option.some.inj same]
  · show (tables.references.put _ _).find? name = _
    simp

/-- A stored record is one that was inserted last under its id. -/
theorem found (kept : Kept inserted tables) (found : tables.records.find? id = some now) :
    ∃ record ∈ inserted, record.id = id ∧ record.SameTerms now := by
  have related := kept.records id
  rw [found] at related
  generalize last : latest? inserted id = latest at related
  cases related with
  | some terms =>
    obtain ⟨member, same⟩ := mem_of_latest? last
    exact ⟨_, member, same, terms⟩

theorem found_id (kept : Kept inserted tables) (found : tables.records.find? id = some now) :
    now.id = id := by
  obtain ⟨record, _, same, terms⟩ := kept.found found
  exact terms.id.trans same

/-- What was inserted is stored, or something else under its id. -/
theorem stored (kept : Kept inserted tables) (member : record ∈ inserted) :
    ∃ now, tables.records.find? record.id = some now := by
  have related := kept.records record.id
  obtain ⟨latest, last⟩ := latest?_of_mem member
  rw [last] at related
  cases found : tables.records.find? record.id with
  | some now => exact ⟨now, rfl⟩
  | none =>
    rw [found] at related
    cases related

/-- An id is in use after a record was inserted with it, and only then. -/
theorem stored_iff (kept : Kept inserted tables) (id : Uuid) :
    (tables.records.find? id).isSome ↔ ∃ record ∈ inserted, record.id = id := by
  constructor
  · intro some
    obtain ⟨now, present⟩ := Option.isSome_iff_exists.mp some
    obtain ⟨record, member, same, _⟩ := kept.found present
    exact ⟨record, member, same⟩
  · rintro ⟨record, member, rfl⟩
    exact Option.isSome_iff_exists.mpr (kept.stored member)

/-- The names of a stored record lead to it. -/
theorem led {name? : TransactionRecord → Option String} {index : Table String Uuid} {name : String}
    (kept : Kept inserted tables) (leads : Leads name? inserted index)
    (fixed : ∀ {one two : TransactionRecord}, one.SameTerms two → name? two = name? one)
    (present : tables.records.find? id = some now) (named : name? now = some name) :
    index.find? name = some id := by
  obtain ⟨record, member, same, terms⟩ := kept.found present
  exact (leads name id).mpr ⟨record, member, (fixed terms).symm.trans named, same⟩

/-- No name leads to two records. -/
theorem unique {name? : TransactionRecord → Option String} {index : Table String Uuid}
    {name : String} {other : Uuid} {theirs : TransactionRecord} (kept : Kept inserted tables)
    (leads : Leads name? inserted index)
    (fixed : ∀ {one two : TransactionRecord}, one.SameTerms two → name? two = name? one)
    (present : tables.records.find? id = some now) (named : name? now = some name)
    (alsoPresent : tables.records.find? other = some theirs) (alsoNamed : name? theirs = some name) :
    id = other :=
  Option.some.inj
    ((kept.led leads fixed present named).symm.trans (kept.led leads fixed alsoPresent alsoNamed))

theorem terms_of_last {early late : List TransactionRecord}
    (kept : Kept (early ++ record :: late) tables) (last : record.id ∉ late.map (·.id))
    (present : tables.records.find? record.id = some now) : record.SameTerms now := by
  have related := kept.records record.id
  rw [latest?_of_last last, present] at related
  cases related with
  | some terms => exact terms

/-- A name that leads somewhere leads to a stored record. -/
theorem leads_stored {name? : TransactionRecord → Option String} {index : Table String Uuid}
    (kept : Kept inserted tables) (leads : Leads name? inserted index) (name : String) :
    (index.find? name).bind tables.records.find? = none ↔ index.find? name = none := by
  cases found : index.find? name with
  | none => simp
  | some id =>
    obtain ⟨record, member, _, rfl⟩ := (leads name id).mp found
    obtain ⟨now, present⟩ := kept.stored member
    simp [present]

/-- An update goes to the record with its id, wherever it is looked up. -/
theorem revised_find? (kept : Kept inserted tables)
    (present : tables.records.find? record.id = some now) (id : Uuid) :
    (tables.records.put record.id (record.revise now)).find? id =
      (tables.records.find? id).map record.revise := by
  rw [Table.find?_put]
  split
  · next same =>
    rw [← same, present]
    rfl
  · next differs =>
    cases found : tables.records.find? id with
    | none => rfl
    | some other =>
      have unmeant : other.id ≠ record.id := kept.found_id found ▸ Ne.symm differs
      simp [TransactionRecord.revise, unmeant]

theorem updated (kept : Kept inserted tables)
    (present : tables.records.find? record.id = some now) :
    Kept inserted
      { tables with records := tables.records.put record.id (record.revise now) } := by
  refine ⟨fun id => ?_, kept.references, kept.keys⟩
  have related := kept.records id
  show Option.Rel _ _ ((tables.records.put _ _).find? id)
  rw [kept.revised_find? present]
  generalize latest? inserted id = latest, tables.records.find? id = stored at related
  cases related with
  | some terms => exact .some (terms.trans (record.revise_terms _))
  | none => exact .none

theorem same {after : Tables} (kept : Kept inserted tables) (records : after.records = tables.records)
    (references : after.references = tables.references) (keys : after.keys = tables.keys) :
    Kept (inserted ++ []) after := by
  rw [List.append_nil]
  exact ⟨records ▸ kept.records, references ▸ kept.references, keys ▸ kept.keys⟩

end Kept

/-- The record that was inserted, if the answer says so. -/
def StoreRequest.inserted? : (request : StoreRequest) → request.Answer → Option TransactionRecord
  | .table (.insertRecord record), .ok () => some record
  | _, _ => none

/-- What a store without records comes to, with the records that it has accepted. -/
inductive MemoryStore.Filed : List TransactionRecord → MemoryStore → Prop
  | start {store} : store.tables.records = .empty → store.tables.references = .empty →
    store.tables.keys = .empty → Filed [] store
  | call {inserted store} (request : StoreRequest) : Filed inserted store →
    Filed (inserted ++ (request.inserted? (store.answer request).1).toList)
      (store.answer request).2

namespace Kept

variable {inserted : List TransactionRecord} {store : MemoryStore}

/-- No request loses a record or the way to it. -/
theorem request (kept : Kept inserted store.tables) (request : StoreRequest) :
    Kept (inserted ++ (request.inserted? (store.answer request).1).toList)
      (store.answer request).2.tables := by
  cases request with
  | apply unit =>
    cases outcome : (store.unit unit).apply store.tables with
    | error error =>
      simp only [MemoryStore.answer, outcome]
      exact kept.same rfl rfl rfl
    | ok tables =>
      simp only [MemoryStore.answer, outcome, UnitOfWork.apply_ok outcome]
      exact kept.same rfl rfl rfl
  | table asked =>
    cases asked with
    | insertRecord record =>
      show Kept (inserted ++ (StoreRequest.inserted? (.table (.insertRecord record))
        (store.tables.insertRecord record).1).toList) (store.tables.insertRecord record).2
      have inserts := store.tables.insertRecord_inserts record
      generalize store.tables.insertRecord record = result at inserts
      cases inserts with
      | stored reference key => exact kept.concat reference key
      | takenReference => exact kept.same rfl rfl rfl
      | takenKey => exact kept.same rfl rfl rfl
    | updateRecord record =>
      show Kept (inserted ++ []) (store.tables.updateRecord record).2
      rw [List.append_nil]
      cases found : store.tables.records.find? record.id with
      | none =>
        simp only [Tables.updateRecord, found]
        exact kept
      | some stored =>
        rw [Tables.updateRecord_revises found (kept.found_id found)]
        exact kept.updated found
    | recordAttempt id status time =>
      show Kept (inserted ++ []) (store.tables.recordAttempt id status time).2
      unfold Tables.recordAttempt
      split <;> exact kept.same rfl rfl rfl
    | _ => exact kept.same rfl rfl rfl
  | _ => exact kept.same rfl rfl rfl

end Kept

namespace MemoryStore

variable {inserted : List TransactionRecord} {store : MemoryStore}

theorem Filed.kept (filed : Filed inserted store) : Kept inserted store.tables := by
  induction filed with
  | start records references keys => exact .empty records references keys
  | call request _ ih => exact ih.request request

theorem Filed.inserts (filed : Filed inserted store) {record : TransactionRecord}
    {answer : Except TransactionStoreError Unit} {after : MemoryStore}
    (asked : store.answer (.table (.insertRecord record)) = (answer, after)) :
    (answer = .ok () ↔ store.tables.findByReference record.reference = none ∧
      ∀ key, record.idempotencyKey = some key → store.tables.findByKey key = none) ∧
    (answer ≠ .ok () → after = store) := by
  have reference := filed.kept.leads_stored filed.kept.references record.reference
  have keys := filed.kept.leads_stored filed.kept.keys
  have outcome : ((store.tables.insertRecord record).1,
      { store with tables := (store.tables.insertRecord record).2 }) = (answer, after) := asked
  have inserts := store.tables.insertRecord_inserts record
  unfold Tables.findByReference Tables.findByKey
  rw [reference]
  simp only [keys]
  generalize store.tables.insertRecord record = result at inserts outcome
  cases inserts with
  | stored free unused =>
    cases outcome
    exact ⟨⟨fun _ => ⟨free, unused⟩, fun _ => rfl⟩, fun failed => absurd rfl failed⟩
  | takenReference taken =>
    cases outcome
    refine ⟨⟨fun accepted => ?_, fun free => ?_⟩, fun _ => rfl⟩
    · cases accepted
    · cases taken.symm.trans free.1
  | takenKey keyed taken =>
    cases outcome
    refine ⟨⟨fun accepted => ?_, fun free => ?_⟩, fun _ => rfl⟩
    · cases accepted
    · cases taken.symm.trans (free.2 _ keyed)

theorem Filed.updates (filed : Filed inserted store) {record : TransactionRecord}
    {answer : Except TransactionStoreError Unit} {after : MemoryStore}
    (asked : store.answer (.table (.updateRecord record)) = (answer, after)) :
    (answer = .ok () ↔ ∃ earlier ∈ inserted, earlier.id = record.id) ∧
    (answer ≠ .ok () → after = store) ∧
    (answer = .ok () →
      (∀ reference, after.tables.findByReference reference =
        (store.tables.findByReference reference).map record.revise) ∧
      ∀ key, after.tables.findByKey key = (store.tables.findByKey key).map record.revise) := by
  have outcome : ((store.tables.updateRecord record).1,
      { store with tables := (store.tables.updateRecord record).2 }) = (answer, after) := asked
  have inUse := filed.kept.stored_iff record.id
  cases found : store.tables.records.find? record.id with
  | none =>
    simp only [Tables.updateRecord, found] at outcome
    cases outcome
    rw [found] at inUse
    have unused : ¬ ∃ earlier ∈ inserted, earlier.id = record.id := fun earlier => by
      simpa using inUse.mpr earlier
    refine ⟨⟨fun accepted => ?_, fun earlier => absurd earlier unused⟩, fun _ => rfl,
      fun accepted => ?_⟩
    · cases accepted
    · cases accepted
  | some stored =>
    rw [Tables.updateRecord_revises found (filed.kept.found_id found)] at outcome
    cases outcome
    rw [found] at inUse
    refine ⟨⟨fun _ => inUse.mp rfl, fun _ => rfl⟩, fun failed => absurd rfl failed,
      fun _ => ⟨fun reference => ?_, fun key => ?_⟩⟩
    · show (store.tables.references.find? reference).bind _ = _
      simp only [filed.kept.revised_find? found, Tables.findByReference]
      cases store.tables.references.find? reference <;> rfl
    · show (store.tables.keys.find? key).bind _ = _
      simp only [filed.kept.revised_find? found, Tables.findByKey]
      cases store.tables.keys.find? key <;> rfl

/-- No two stored records have one reference number or one key. Whatever was inserted, its reference
number leads to a record with its id, and so does its key, to the same one; it is what was inserted,
but for what updates change, unless something else was inserted under its id later. A record can be
inserted just when nothing is found under its reference number and its key, and updated when one was
inserted under its id. What fails changes nothing, and an update shows in the record that it is for,
however that is looked up, and in no other. -/
theorem Filed.lookups (filed : Filed inserted store) :
    (∀ id other now theirs, store.tables.records.find? id = some now →
      store.tables.records.find? other = some theirs → id ≠ other →
      now.reference ≠ theirs.reference ∧
        ∀ key, now.idempotencyKey = some key → theirs.idempotencyKey ≠ some key) ∧
    (∀ early record late, inserted = early ++ record :: late → ∃ now, now.id = record.id ∧
      (record.id ∉ late.map (·.id) → record.SameTerms now) ∧
      store.tables.findByReference record.reference = some now ∧
      ∀ key, record.idempotencyKey = some key → store.tables.findByKey key = some now) ∧
    (∀ record (answer : Except TransactionStoreError Unit) after,
      store.answer (.table (.insertRecord record)) = (answer, after) →
      (answer = .ok () ↔ store.tables.findByReference record.reference = none ∧
        ∀ key, record.idempotencyKey = some key → store.tables.findByKey key = none) ∧
      (answer ≠ .ok () → after = store)) ∧
    ∀ record (answer : Except TransactionStoreError Unit) after,
      store.answer (.table (.updateRecord record)) = (answer, after) →
      (answer = .ok () ↔ ∃ earlier ∈ inserted, earlier.id = record.id) ∧
      (answer ≠ .ok () → after = store) ∧
      (answer = .ok () →
        (∀ reference, after.tables.findByReference reference =
          (store.tables.findByReference reference).map record.revise) ∧
        ∀ key, after.tables.findByKey key =
          (store.tables.findByKey key).map record.revise) := by
  have kept := filed.kept
  refine ⟨fun id other now theirs found alsoFound differs => ⟨fun same => ?_, fun key named also => ?_⟩,
    fun early record late split => ?_, fun _ _ _ => filed.inserts, fun _ _ _ => filed.updates⟩
  · exact differs (kept.unique kept.references (fun terms => congrArg some terms.reference) found
      (congrArg some same) alsoFound rfl)
  · exact differs (kept.unique kept.keys (·.idempotencyKey) found named alsoFound also)
  · subst split
    have member : record ∈ early ++ record :: late := by simp
    obtain ⟨now, present⟩ := kept.stored member
    have led := (kept.references record.reference record.id).mpr ⟨record, member, rfl, rfl⟩
    refine ⟨now, kept.found_id present, fun last => kept.terms_of_last last present, ?_,
      fun key named => ?_⟩
    · rw [Tables.findByReference, led, Option.bind_some, present]
    · have alsoLed := (kept.keys key record.id).mpr ⟨record, member, named, rfl⟩
      rw [Tables.findByKey, alsoLed, Option.bind_some, present]

/-- A record with a key is inserted and updated. -/
theorem Filed.lookups_updated :
    let record : TransactionRecord :=
      { id := .nil, account := .nil, target := none, amount := ⟨Amount.maximum, by decide⟩
        kind := .deposit, reference := "TXN", status := .pending, failureReason := none
        idempotencyKey := some "key", attempts := 0, createdAt := ⟨0, 0⟩, updatedAt := ⟨0, 0⟩ }
    ∃ store, Filed [record] store ∧ ∃ now, record.SameTerms now ∧
      store.tables.findByReference "TXN" = some now ∧ store.tables.findByKey "key" = some now := by
  intro record
  have begun : Filed [] .empty := .start rfl rfl rfl
  have inserted : Filed [record] _ := .call (.table (.insertRecord record)) begun
  have filed : Filed [record] _ :=
    .call (.table (.updateRecord { record with status := .success })) inserted
  obtain ⟨_, shows, _⟩ := filed.lookups
  obtain ⟨now, _, terms, found, keyed⟩ := shows [] record [] rfl
  exact ⟨_, filed, now, terms List.not_mem_nil, found, keyed "key" rfl⟩

/-- Two records are inserted with one id, and the reference number of the first leads to the second,
which has another one. -/
theorem Filed.repeated_id_hides : ∃ (first second : TransactionRecord) (store : MemoryStore),
    Filed [first, second] store ∧ first.reference ≠ second.reference ∧
      store.tables.findByReference first.reference = some second := by
  let record (reference : String) : TransactionRecord :=
    { id := .nil, account := .nil, target := none, amount := ⟨Amount.maximum, by decide⟩
      kind := .deposit, reference, status := .pending, failureReason := none
      idempotencyKey := none, attempts := 0, createdAt := ⟨0, 0⟩, updatedAt := ⟨0, 0⟩ }
  have begun : Filed [] .empty := .start rfl rfl rfl
  have first : Filed [record "TXN-1"] _ := .call (.table (.insertRecord (record "TXN-1"))) begun
  have second : Filed [record "TXN-1", record "TXN-2"] _ :=
    .call (.table (.insertRecord (record "TXN-2"))) first
  exact ⟨_, _, _, second, by decide, rfl⟩

end MemoryStore

end AccountLedger
