import AccountLedger.Amount
import AccountLedger.Proofs.Text.Decimal
import AccountLedger.Proofs.Text.Uuid
import Mathlib.Data.List.Nodup
import Mathlib.Data.List.Forall2

/-!
Ids and decimals are decoded from their JSON forms, and record decoders read an object that has
their fields among its members.
-/

namespace AccountLedger

namespace Decoder

theorem uuid_string (id : Uuid) : uuid (.string (toString id)) = .ok id := by
  simp [uuid, parsed, toString, Uuid.read?_toText]

theorem decimal_toJson (value : Decimal) : decimal value.toJson = .ok value := by
  simp [decimal, Decimal.toJson, toString, Decimal.read_toText]

end Decoder

namespace RecordDecoder

variable {α β : Type} {record : RecordDecoder α} {members : List (String × Json)} {value : α}

/-- A field takes this member. -/
def Takes (field : RecordField) (member : String × Json) : Prop :=
  field.name = member.1 ∧ field.check member.2 = .ok ()

/-- The decoder takes these members in turn and makes this value of them. -/
structure Reads (record : RecordDecoder α) (members : List (String × Json)) (value : α) : Prop where
  takes : List.Forall₂ Takes record.fields members
  build : ∀ found, (∀ member ∈ members, found.lookup member.1 = some member.2) →
    record.build found = .ok value

theorem reads_required {name : String} {decode : Decoder α} {json : Json}
    (decoded : decode json = .ok value) : Reads (required name decode) [(name, json)] value := by
  refine ⟨.cons ⟨rfl, ?_⟩ .nil, fun found here => ?_⟩
  · simp [checkWith, decoded, Except.map]
  · have looked : found.lookup name = some json := here _ List.mem_cons_self
    simp [required, looked, decoded]

/-- A member that may be null is read as it is there. -/
theorem reads_nullable {name : String} {decode : Decoder α} {json : Json} {value : Option α}
    (decoded : Decoder.option decode json = .ok value) :
    Reads (nullable name decode) [(name, json)] value := by
  refine ⟨.cons ⟨rfl, ?_⟩ .nil, fun found here => ?_⟩
  · simp [checkWith, decoded, Except.map]
  · have looked : found.lookup name = some json := here _ List.mem_cons_self
    simp [nullable, optionalWith, looked, decoded]

theorem Reads.seq {function : RecordDecoder (α → β)} {f : α → β}
    {others : List (String × Json)} (first : Reads function members f)
    (second : Reads record others value) :
    Reads (function <*> record) (members ++ others) (f value) := by
  refine ⟨List.rel_append first.takes second.takes, fun found here => ?_⟩
  have head := first.build found fun member inside => here _ (List.mem_append_left _ inside)
  have tail := second.build found fun member inside => here _ (List.mem_append_right _ inside)
  show (do
    let g ← function.build found
    let a ← record.build found
    return g a) = _
  rw [head, tail]
  rfl

theorem Reads.map {f : α → β} (reads : Reads record members value) :
    Reads (f <$> record) members (f value) := by
  refine ⟨reads.takes, fun found here => ?_⟩
  show (do
    let a ← record.build found
    return f a) = _
  rw [reads.build found here]
  rfl

/-- A member that the field of its name accepts, or that no field names and that is skipped. -/
def Passes (fields : List RecordField) (member : String × Json) : Prop :=
  match fields.find? (fun field => field.name == member.1) with
  | some field => field.check member.2 = .ok ()
  | none => member.2.isWhole = true

section Collect

variable {fields : List RecordField} {found : List (String × Json)} {name : String} {json : Json}
  {rest : List (Option String × Json)}

theorem collect_skipped (unnamed : fields.find? (fun field => field.name == name) = none)
    (whole : json.isWhole = true) :
    collect fields found ((some name, json) :: rest) = collect fields found rest := by
  rw [collect, unnamed]
  simp only [whole, if_true]

theorem collect_taken {field : RecordField}
    (named : fields.find? (fun field => field.name == name) = some field)
    (checked : field.check json = .ok ()) (fresh : found.lookup name = none) :
    collect fields found ((some name, json) :: rest) =
      collect fields ((name, json) :: found) rest := by
  rw [collect, named]
  simp only [fresh, checked, Option.isSome_none]
  rfl

/-- Members that a field names are collected. -/
theorem collect_ok (passes : ∀ member ∈ members, Passes fields member)
    (fresh : ∀ member ∈ members, found.lookup member.1 = none)
    (distinct : (members.map Prod.fst).Nodup) :
    collect fields found (members.map fun (name, value) => (some name, value)) =
      .ok ((members.filter fun member => fields.any (·.name == member.1)).reverse ++ found) := by
  induction members generalizing found with
  | nil => simp [collect]
  | cons member members ih =>
    obtain ⟨name, json⟩ := member
    have passed := passes _ List.mem_cons_self
    have later : ∀ member ∈ members, Passes fields member := fun member inside =>
      passes member (.tail _ inside)
    have apart := List.nodup_cons.mp distinct
    rw [List.map_cons]
    simp only [Passes] at passed
    cases finds : fields.find? fun field => field.name == name with
    | none =>
      have unnamed : fields.any (·.name == name) = false := by
        simpa [List.find?_eq_none] using finds
      rw [finds] at passed
      rw [collect_skipped finds passed, List.filter_cons_of_neg (by simp [unnamed])]
      exact ih later (fun member inside => fresh _ (.tail _ inside)) apart.2
    | some field =>
      have same : field.name = name := by simpa using List.find?_some finds
      have named : fields.any (·.name == name) = true :=
        List.any_eq_true.mpr ⟨field, List.mem_of_find?_eq_some finds, beq_iff_eq.mpr same⟩
      have fresher : ∀ member ∈ members, ((name, json) :: found).lookup member.1 = none := by
        intro member inside
        have other : member.1 ≠ name := fun equal =>
          apart.1 (List.mem_map.mpr ⟨member, inside, equal⟩)
        simp [List.lookup_cons, beq_false_of_ne other, fresh _ (.tail _ inside)]
      rw [finds] at passed
      rw [collect_taken finds passed (fresh _ List.mem_cons_self),
        List.filter_cons_of_pos (by simp [named]), List.reverse_cons, List.append_assoc]
      exact ih later fresher apart.2

end Collect

/-- Each field is found by its name. -/
theorem find?_takes {fields : List RecordField} (takes : List.Forall₂ Takes fields members)
    (distinct : (members.map Prod.fst).Nodup) : ∀ member ∈ members, ∃ field,
      fields.find? (fun field => field.name == member.1) = some field ∧
        field.check member.2 = .ok () := by
  induction takes with
  | nil => simp
  | @cons field first fields members taken _ ih =>
    have apart := List.nodup_cons.mp distinct
    intro member inside
    rcases List.mem_cons.mp inside with rfl | later
    · exact ⟨field, by simp [taken.1], taken.2⟩
    · have other : field.name ≠ member.1 := by
        rw [taken.1]
        intro same
        exact apart.1 (same ▸ List.mem_map_of_mem later)
      rw [List.find?_cons_of_neg (by simpa using other)]
      exact ih apart.2 member later

theorem lookup_of_mem (distinct : (members.map Prod.fst).Nodup) :
    ∀ member ∈ members, members.lookup member.1 = some member.2 := by
  induction members with
  | nil => simp
  | cons first members ih =>
    have apart := List.nodup_cons.mp distinct
    intro member inside
    rcases List.mem_cons.mp inside with rfl | later
    · exact List.lookup_cons_self
    · have other : member.1 ≠ first.1 := fun same =>
        apart.1 (same ▸ List.mem_map_of_mem later)
      obtain ⟨name, json⟩ := first
      simp [List.lookup_cons, beq_false_of_ne other, ih apart.2 member later]

/-- The fields have the names of what they take. -/
theorem any_takes {fields : List RecordField} (takes : List.Forall₂ Takes fields members)
    (name : String) : fields.any (·.name == name) = (members.map Prod.fst).contains name := by
  induction takes with
  | nil => rfl
  | cons taken _ ih =>
    rw [List.any_cons, List.map_cons, List.contains_cons, ih, taken.1, Bool.beq_comm]

variable {taken : List (String × Json)}

/-- A record is read from among the members of an object, if the others are JSON. -/
theorem Reads.decode_among (reads : Reads record taken value)
    (distinct : (members.map Prod.fst).Nodup)
    (among : members.filter (fun member => (taken.map Prod.fst).contains member.1) = taken)
    (others : ∀ member ∈ members, member ∈ taken ∨ member.2.isWhole = true) :
    record.decode (Json.record members) = .ok value := by
  have named := any_takes reads.takes
  have within : (taken.map Prod.fst).Nodup := by
    rw [← among]
    exact distinct.sublist (List.filter_sublist.map _)
  have passes : ∀ member ∈ members, Passes record.fields member := by
    intro member inside
    by_cases known : (taken.map Prod.fst).contains member.1 = true
    · have own : member ∈ taken := among ▸ List.mem_filter.mpr ⟨inside, known⟩
      obtain ⟨field, finds, checked⟩ := find?_takes reads.takes within member own
      simp [Passes, finds, checked]
    · have foreign : member ∉ taken := fun own =>
        known (List.contains_iff_mem.mpr (List.mem_map_of_mem own))
      have finds : record.fields.find? (fun field => field.name == member.1) = none := by
        have unnamed := (named member.1).trans (eq_false_of_ne_true known)
        simpa [List.find?_eq_none] using unnamed
      simpa [Passes, finds] using (others member inside).resolve_left foreign
  have collected := @collect_ok members record.fields [] passes (by simp) distinct
  simp only [named, among, List.append_nil] at collected
  have backwards : (taken.reverse.map Prod.fst).Nodup := by
    simpa [List.map_reverse] using within
  have built := reads.build taken.reverse fun member inside =>
    lookup_of_mem backwards member (List.mem_reverse.mpr inside)
  show (do record.build (← collect record.fields [] _)) = _
  rw [collected]
  exact built

/-- A record of members with different names is read. -/
theorem Reads.decode (reads : Reads record members value)
    (distinct : (members.map Prod.fst).Nodup) :
    record.decode (Json.record members) = .ok value :=
  reads.decode_among distinct
    (List.filter_eq_self.mpr fun _ inside => List.contains_iff_mem.mpr (List.mem_map_of_mem inside))
    fun _ inside => .inl inside

end RecordDecoder

end AccountLedger
