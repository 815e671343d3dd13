import AccountLedger.Memory.Tables

/-!
Stored transaction records: each is found under its id, its reference number and its key, and what
it was recorded with stays as long as it is stored.
-/

namespace AccountLedger

namespace TransactionRecord

/-- What stays of a record as long as it is stored. -/
structure SameTerms (record other : TransactionRecord) : Prop where
  id : other.id = record.id
  account : other.account = record.account
  target : other.target = record.target
  amount : other.amount = record.amount
  kind : other.kind = record.kind
  reference : other.reference = record.reference
  idempotencyKey : other.idempotencyKey = record.idempotencyKey
  createdAt : other.createdAt = record.createdAt

variable {record other third : TransactionRecord}

theorem SameTerms.refl (record : TransactionRecord) : record.SameTerms record :=
  ⟨rfl, rfl, rfl, rfl, rfl, rfl, rfl, rfl⟩

theorem SameTerms.symm (same : record.SameTerms other) : other.SameTerms record :=
  ⟨same.id.symm, same.account.symm, same.target.symm, same.amount.symm, same.kind.symm,
    same.reference.symm, same.idempotencyKey.symm, same.createdAt.symm⟩

theorem SameTerms.trans (one : record.SameTerms other) (two : other.SameTerms third) :
    record.SameTerms third :=
  ⟨two.id.trans one.id, two.account.trans one.account, two.target.trans one.target,
    two.amount.trans one.amount, two.kind.trans one.kind, two.reference.trans one.reference,
    two.idempotencyKey.trans one.idempotencyKey, two.createdAt.trans one.createdAt⟩

theorem succeeded_terms (record : TransactionRecord) (attempts : Int) (now : Timestamp) :
    record.SameTerms (record.succeeded attempts now) := ⟨rfl, rfl, rfl, rfl, rfl, rfl, rfl, rfl⟩

theorem failed_terms (record : TransactionRecord) (attempts : Int) (reason : String)
    (now : Timestamp) : record.SameTerms (record.failed attempts reason now) :=
  ⟨rfl, rfl, rfl, rfl, rfl, rfl, rfl, rfl⟩

/-- What an update makes of a stored record, which is left alone if it is not the one meant. -/
def revise (update stored : TransactionRecord) : TransactionRecord :=
  if stored.id = update.id then
    { stored with status := update.status, failureReason := update.failureReason
                  attempts := update.attempts, updatedAt := update.updatedAt }
  else stored

theorem revise_terms (update stored : TransactionRecord) :
    stored.SameTerms (update.revise stored) := by
  unfold revise
  split
  · exact ⟨rfl, rfl, rfl, rfl, rfl, rfl, rfl, rfl⟩
  · exact .refl stored

theorem revise_of_terms (same : record.SameTerms other) : other.revise record = other := by
  cases record
  cases other
  cases same
  simp_all [revise]

end TransactionRecord

namespace Tables

variable {tables : Tables} {record stored : TransactionRecord} {id : Uuid} {key : String}

/-- The tables with one more record. -/
def withRecord (tables : Tables) (record : TransactionRecord) : Tables :=
  { tables with
    keys := match record.idempotencyKey with
      | some key => tables.keys.put key record.id
      | none => tables.keys
    references := tables.references.put record.reference record.id
    records := tables.records.put record.id record }

/-- What inserting a record comes to. -/
inductive Inserts (tables : Tables) (record : TransactionRecord) :
    Except TransactionStoreError Unit × Tables → Prop
  | stored : tables.references.find? record.reference = none →
    (∀ key, record.idempotencyKey = some key → tables.keys.find? key = none) →
    Inserts tables record (.ok (), tables.withRecord record)
  | takenReference {id : Uuid} : tables.references.find? record.reference = some id →
    Inserts tables record (.error (.duplicateReference record.reference), tables)
  | takenKey {key : String} {id : Uuid} : record.idempotencyKey = some key → tables.keys.find? key = some id →
    Inserts tables record (.error (.duplicateIdempotencyKey key), tables)

theorem insertRecord_inserts (tables : Tables) (record : TransactionRecord) :
    tables.Inserts record (tables.insertRecord record) := by
  unfold insertRecord
  split
  · next taken =>
    obtain ⟨id, found⟩ := Option.isSome_iff_exists.mp taken
    exact .takenReference found
  · next free =>
    have unused : tables.references.find? record.reference = none := by simpa using free
    split
    · next key inUse =>
      obtain ⟨keyed, taken⟩ := Option.filter_eq_some_iff.mp inUse
      obtain ⟨id, found⟩ := Option.isSome_iff_exists.mp taken
      exact .takenKey keyed found
    · next notInUse =>
      refine .stored unused fun key keyed => ?_
      have absent := Option.filter_eq_none_iff.mp notInUse key keyed
      simpa using absent

/-- An update changes what may change of the record. -/
theorem updateRecord_revises (found : tables.records.find? record.id = some stored)
    (own : stored.id = record.id) :
    tables.updateRecord record = (.ok (),
      { tables with records := tables.records.put record.id (record.revise stored) }) := by
  simp only [updateRecord, found, TransactionRecord.revise, if_pos own]

/-- A record with the same terms takes the place of the one stored. -/
theorem updateRecord_of_terms (found : tables.records.find? record.id = some stored)
    (same : stored.SameTerms record) :
    tables.updateRecord record =
      (.ok (), { tables with records := tables.records.put record.id record }) := by
  rw [updateRecord_revises found same.id.symm, TransactionRecord.revise_of_terms same]

/-- Every record is found under its id, its reference number and its key, and no key leads to
another. -/
structure Indexed (tables : Tables) : Prop where
  ids : ∀ {id record}, tables.records.find? id = some record → record.id = id
  references : ∀ {id record}, tables.records.find? id = some record →
    tables.references.find? record.reference = some id
  keys : ∀ {id record key}, tables.records.find? id = some record →
    record.idempotencyKey = some key → tables.keys.find? key = some id
  keyed : ∀ {key id}, tables.keys.find? key = some id →
    ∃ record, tables.records.find? id = some record ∧ record.idempotencyKey = some key

theorem empty_indexed : empty.Indexed := by
  refine ⟨?_, ?_, ?_, ?_⟩
  · intro id record absurdly
    cases absurdly
  · intro id record absurdly
    cases absurdly
  · intro id record key absurdly
    cases absurdly
  · intro key id absurdly
    cases absurdly

/-- No two records have one key. -/
theorem Indexed.unique (indexed : tables.Indexed) {other : Uuid} {theirs : TransactionRecord}
    (found : tables.records.find? id = some record) (keyed : record.idempotencyKey = some key)
    (alsoFound : tables.records.find? other = some theirs)
    (alsoKeyed : theirs.idempotencyKey = some key) : id = other :=
  Option.some.inj ((indexed.keys found keyed).symm.trans (indexed.keys alsoFound alsoKeyed))

theorem Indexed.findByKey (indexed : tables.Indexed) :
    tables.findByKey key = some record ↔
      tables.records.find? record.id = some record ∧ record.idempotencyKey = some key := by
  unfold Tables.findByKey
  rw [Option.bind_eq_some_iff]
  constructor
  · rintro ⟨id, led, found⟩
    obtain ⟨other, present, keyed⟩ := indexed.keyed led
    cases found.symm.trans present
    exact ⟨indexed.ids found ▸ found, keyed⟩
  · rintro ⟨found, keyed⟩
    exact ⟨record.id, indexed.keys found keyed, found⟩

theorem withRecord_find? (tables : Tables) (record : TransactionRecord) (id : Uuid) :
    (tables.withRecord record).records.find? id =
      if record.id = id then some record else tables.records.find? id :=
  Table.find?_put _ _ _ _

theorem withRecord_keys (tables : Tables) (record : TransactionRecord) (key : String) :
    (tables.withRecord record).keys.find? key =
      if record.idempotencyKey = some key then some record.id else tables.keys.find? key := by
  unfold withRecord
  cases given : record.idempotencyKey <;> simp

/-- A new record that no reference or key forbids fits in. -/
theorem Indexed.withRecord (indexed : tables.Indexed)
    (new : tables.records.find? record.id = none)
    (reference : tables.references.find? record.reference = none)
    (unused : ∀ key, record.idempotencyKey = some key → tables.keys.find? key = none) :
    (tables.withRecord record).Indexed := by
  have split : ∀ {id found}, (tables.withRecord record).records.find? id = some found →
      record.id = id ∧ found = record ∨ record.id ≠ id ∧ tables.records.find? id = some found := by
    intro id found here
    rw [withRecord_find?] at here
    split at here
    · next same => exact Or.inl ⟨same, (Option.some.inj here).symm⟩
    · next differs => exact Or.inr ⟨differs, here⟩
  refine ⟨?_, ?_, ?_, ?_⟩
  · intro id found here
    rcases split here with ⟨same, rfl⟩ | ⟨_, before⟩
    · exact same
    · exact indexed.ids before
  · intro id found here
    show (tables.references.put _ _).find? _ = _
    rw [Table.find?_put]
    rcases split here with ⟨rfl, rfl⟩ | ⟨_, before⟩
    · rw [if_pos rfl]
    · have led := indexed.references before
      rw [if_neg, led]
      intro same
      cases (same ▸ reference).symm.trans led
  · intro id found key here keyed
    rw [withRecord_keys]
    rcases split here with ⟨rfl, rfl⟩ | ⟨_, before⟩
    · rw [if_pos keyed]
    · have led := indexed.keys before keyed
      rw [if_neg, led]
      intro same
      cases (unused key same).symm.trans led
  · intro key id led
    rw [withRecord_keys] at led
    rw [withRecord_find?]
    split at led
    · next keyed =>
      cases led
      exact ⟨record, if_pos rfl, keyed⟩
    · obtain ⟨found, before, keyed⟩ := indexed.keyed led
      refine ⟨found, ?_, keyed⟩
      rw [if_neg, before]
      intro same
      cases new.symm.trans (same ▸ before)

/-- A record may be stored again with the same terms. -/
theorem Indexed.updated (indexed : tables.Indexed)
    (found : tables.records.find? record.id = some stored) (same : stored.SameTerms record) :
    { tables with records := tables.records.put record.id record }.Indexed := by
  have back : ∀ {id now}, (tables.records.put record.id record).find? id = some now →
      ∃ before, tables.records.find? id = some before ∧ before.SameTerms now := by
    intro id now here
    rw [Table.find?_put] at here
    split at here
    · next this =>
      cases here
      exact ⟨stored, this ▸ found, same⟩
    · exact ⟨now, here, .refl now⟩
  refine ⟨?_, ?_, ?_, ?_⟩
  · intro id now here
    obtain ⟨before, present, terms⟩ := back here
    exact terms.id.trans (indexed.ids present)
  · intro id now here
    obtain ⟨before, present, terms⟩ := back here
    rw [terms.reference]
    exact indexed.references present
  · intro id now key here keyed
    obtain ⟨before, present, terms⟩ := back here
    exact indexed.keys present (terms.idempotencyKey.symm.trans keyed)
  · intro key id led
    obtain ⟨before, present, keyed⟩ := indexed.keyed led
    show ∃ now, (tables.records.put record.id record).find? id = some now ∧ _
    rw [Table.find?_put]
    split
    · next this =>
      cases found.symm.trans (this ▸ present)
      exact ⟨record, rfl, same.idempotencyKey.trans keyed⟩
    · exact ⟨before, present, keyed⟩

end Tables

end AccountLedger
