import AccountLedger.Outbox.Entry
import AccountLedger.Proofs.Json.Record
import AccountLedger.Proofs.Json.Text
import AccountLedger.Proofs.Timestamp.Text

/-!
The payload of an event is read back as the event. So consumers that decode the payload of an outbox
entry have the event, and find in it the kind, the aggregate and the topic that the entry was filed
under.
-/

namespace AccountLedger

namespace LedgerEvent

/-- When an event has happened. -/
def time : LedgerEvent → Timestamp
  | .accountOpened _ _ _ time => time
  | .accountClosed _ time => time
  | .fundsDeposited _ _ _ time => time
  | .fundsWithdrawn _ _ _ time => time
  | .fundsTransferred _ _ _ _ time => time

theorem timestamp_timeJson {time : Timestamp} (civil : time.Civil) :
    Decoder.timestamp (timeJson time) = .ok time := by
  simp [Decoder.timestamp, Decoder.parsed, timeJson, toString, Timestamp.read?_toText civil]

/-- All members of events are strings. -/
theorem members_string (event : LedgerEvent) :
    ∀ member ∈ event.members, ∃ text, member.2 = .string text := by
  cases event <;> simp [members, idJson, timeJson, Decimal.toJson]

/-- All members of the object that an event is written as, its kind first. -/
def allMembers (event : LedgerEvent) : List (String × Json) :=
  ("type", .string event.kind) :: event.members

theorem allMembers_string (event : LedgerEvent) :
    ∀ member ∈ event.allMembers, ∃ text, member.2 = .string text := by
  intro member inside
  rcases List.mem_cons.mp inside with rfl | described
  · exact ⟨event.kind, rfl⟩
  · exact event.members_string member described

theorem allMembers_readsBack (event : LedgerEvent) :
    ∀ member ∈ event.allMembers, member.2.ReadsBack := by
  intro member inside
  obtain ⟨text, string⟩ := event.allMembers_string member inside
  exact string ▸ Json.readsBack_string text

/-- No member that describes the event has the name of its kind. -/
theorem type_not_mem (event : LedgerEvent) : "type" ∉ event.members.map Prod.fst := by
  cases event <;> simp [members]

theorem isHoldable_toJson (event : LedgerEvent) : event.toJson.isHoldable Json.maxDepth = true := by
  cases event <;>
    simp [toJson, Json.record, members, idJson, timeJson, Decimal.toJson, Json.isHoldable,
      Json.membersAreHoldable, Json.maxDepth]

theorem takeKind_toJson (event : LedgerEvent) :
    takeKind ((("type", Json.string event.kind) :: event.members).map
        fun (name, value) => (some name, value)) =
      some (event.kind, event.members.map fun (name, value) => (some name, value)) := by
  cases event <;> simp [takeKind, members]

open RecordDecoder in
/-- The members of every kind of event are what its decoder reads. -/
theorem reads_members (event : LedgerEvent) (civil : event.time.Civil) :
    ∃ decoder, decoders.lookup event.kind = some decoder ∧ Reads decoder event.members event := by
  have id : ∀ {name : String} (id : Uuid),
      Reads (required name Decoder.uuid) [(name, idJson id)] id :=
    fun id => reads_required (Decoder.uuid_string id)
  have money : ∀ {name : String} (value : Decimal),
      Reads (required name Decoder.decimal) [(name, value.toJson)] value :=
    fun value => reads_required (Decoder.decimal_toJson value)
  have text : ∀ {name text : String},
      Reads (required name Decoder.string) [(name, .string text)] text := reads_required rfl
  have time : ∀ {name : String},
      Reads (required name Decoder.timestamp) [(name, timeJson event.time)] event.time :=
    reads_required (timestamp_timeJson civil)
  cases event with
  | accountOpened account owner currency opened =>
    exact ⟨_, rfl, ((((id account).map).seq (id owner)).seq text).seq time⟩
  | accountClosed account closed =>
    exact ⟨_, rfl, ((id account).map).seq time⟩
  | fundsDeposited account amount after happened =>
    exact ⟨_, rfl, ((((id account).map).seq (money amount)).seq (money after)).seq time⟩
  | fundsWithdrawn account amount after happened =>
    exact ⟨_, rfl, ((((id account).map).seq (money amount)).seq (money after)).seq time⟩
  | fundsTransferred transfer source target amount happened =>
    exact ⟨_, rfl,
      (((((id transfer).map).seq (id source)).seq (id target)).seq (money amount)).seq time⟩

theorem members_nodup (event : LedgerEvent) : (event.members.map Prod.fst).Nodup := by
  cases event <;> simp [members]

theorem decodeKind_members (event : LedgerEvent) (civil : event.time.Civil) :
    decodeKind event.kind (Json.record event.members) = .ok event := by
  obtain ⟨decoder, found, reads⟩ := event.reads_members civil
  rw [decodeKind, found]
  exact reads.decode event.members_nodup

theorem decode_toJson (event : LedgerEvent) (civil : event.time.Civil) :
    decode event.toJson = .ok event := by
  have object : event.toJson = .object ((("type", Json.string event.kind) :: event.members).map
      fun (name, value) => (some name, value)) := rfl
  have holdable := event.isHoldable_toJson
  rw [object] at holdable ⊢
  simp only [decode, holdable, if_true, event.takeKind_toJson]
  exact event.decodeKind_members civil

/-- Decoding undoes the payload. -/
theorem run_payload (event : LedgerEvent) (civil : event.time.Civil) :
    Decoder.run decode event.payload.toList = .ok event :=
  (Json.readsBack_record (List.cons_ne_nil _ _) event.allMembers_readsBack).run_text
    (event.decode_toJson civil)

/-- The kind is read from the payload without knowing the other members. -/
theorem run_kind (event : LedgerEvent) :
    Decoder.run (RecordDecoder.required "type" Decoder.string).decode event.payload.toList =
      .ok event.kind := by
  have reads : RecordDecoder.Reads (RecordDecoder.required "type" Decoder.string)
      [("type", .string event.kind)] event.kind := RecordDecoder.reads_required rfl
  have others : event.members.filter (fun member => ["type"].contains member.1) = [] := by
    rw [List.filter_eq_nil_iff]
    intro member inside named
    have same : member.1 = "type" := by simpa using named
    exact event.type_not_mem (same ▸ List.mem_map_of_mem inside)
  refine (Json.readsBack_record (List.cons_ne_nil _ _) event.allMembers_readsBack).run_text
    (reads.decode_among ?_ ?_ ?_)
  · exact List.nodup_cons.mpr ⟨event.type_not_mem, event.members_nodup⟩
  · show List.filter _ (_ :: event.members) = _
    rw [List.filter_cons_of_pos (by simp)]
    exact congrArg _ others
  · intro member inside
    obtain ⟨text, string⟩ := event.allMembers_string member inside
    exact Or.inr (string ▸ rfl)

end LedgerEvent

namespace OutboxEntry

/-- The payload of an entry decodes to its event, with decimals of the same scale. The entry has the
kind that the payload is tagged with, and the aggregate and the topic of the decoded event; and no
other event has this payload. -/
theorem ofEvent_decodes (id : Uuid) (event : LedgerEvent) (now : Timestamp)
    (civil : event.time.Civil) :
    (∃ decoded,
      Decoder.run LedgerEvent.decode (ofEvent id event now).payload.toList = .ok decoded ∧
      decoded = event ∧ (ofEvent id event now).eventKind = decoded.kind ∧
      (ofEvent id event now).aggregate = decoded.aggregate ∧
      (ofEvent id event now).topic = decoded.topic) ∧
    Decoder.run (RecordDecoder.required "type" Decoder.string).decode
      (ofEvent id event now).payload.toList = .ok (ofEvent id event now).eventKind ∧
    ∀ (otherId : Uuid) (other : LedgerEvent) (later : Timestamp), other.time.Civil →
      (ofEvent otherId other later).payload = (ofEvent id event now).payload → other = event := by
  have decoded := event.run_payload civil
  refine ⟨⟨event, decoded, rfl, rfl, rfl, rfl⟩, event.run_kind, ?_⟩
  intro otherId other later otherCivil same
  have otherDecoded := other.run_payload otherCivil
  rw [show other.payload = event.payload from same, decoded] at otherDecoded
  exact (Except.ok.inj otherDecoded).symm

/-- A currency of a quote, a backslash, a control character and letters beyond ASCII, and a time
with nanoseconds. -/
theorem ofEvent_decodes_escaped :
    let event := LedgerEvent.accountOpened (Uuid.ofNat 1) (Uuid.ofNat 2) "\"\\\x01é€"
      ⟨-1, 123456789⟩
    event.time.Civil ∧
      Decoder.run LedgerEvent.decode (ofEvent .nil event ⟨0, 0⟩).payload.toList = .ok event := by
  intro event
  have civil : event.time.Civil := ⟨by decide, by decide⟩
  obtain ⟨⟨decoded, run, same, _⟩, _⟩ := ofEvent_decodes .nil event ⟨0, 0⟩ civil
  rw [same] at run
  exact ⟨civil, run⟩

end OutboxEntry

end AccountLedger
