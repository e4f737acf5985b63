import GatewayTelemetry.Decoder
import GatewayTelemetry.Proofs.Json.OneLine
import GatewayTelemetry.Proofs.Json.Reordered

/-!
# Records are written without loss

Both texts of a record are read back as one object, which has a member for each thing that the
record says: of telemetry, the defined readings. The compact text tells records apart by what they
say, and by the order in which the readings were first set.
-/

namespace GatewayTelemetry

open Json (Value)

/-! ## Telemetry -/

theorem Reading.text?_eq_some_iff {reading : Reading} {text : String} :
    reading.text? = some text ↔ reading = .text text := by
  cases reading with
  | text value => simp [text?]
  | undefined => simp [text?]

namespace Telemetry

/-- The members of an object are the defined readings of a telemetry. -/
def IsShownBy (telemetry : Telemetry) (value : Value) : Prop :=
  ∃ members, value = .object members ∧
    ∀ name, members.lookup name = (telemetry.text? name).map .string

variable (telemetry : Telemetry)

theorem mem_defined_iff {name text : String} :
    (name, text) ∈ telemetry.defined ↔ (name, .text text) ∈ telemetry.fields := by
  rw [defined, List.mem_filterMap]
  constructor
  · rintro ⟨⟨other, reading⟩, present, shown⟩
    obtain ⟨found, defined, same⟩ := Option.map_eq_some_iff.mp shown
    obtain ⟨rfl, rfl⟩ := Prod.mk.inj same
    rw [Reading.text?_eq_some_iff] at defined
    exact defined ▸ present
  · intro present
    exact ⟨(name, .text text), present, rfl⟩

theorem names_defined :
    (telemetry.defined.map Prod.fst).Sublist (telemetry.fields.map Prod.fst) := by
  rw [defined]
  induction telemetry.fields with
  | nil => exact .slnil
  | cons field fields ih =>
      obtain ⟨name, reading⟩ := field
      cases reading with
      | text value => exact ih.cons_cons name
      | undefined => exact ih.cons name

theorem nodup_names_defined : (telemetry.defined.map Prod.fst).Nodup :=
  telemetry.distinct.sublist telemetry.names_defined

/-- The defined readings are those that have a text. -/
theorem lookup_defined (name : String) : telemetry.defined.lookup name = telemetry.text? name := by
  refine Option.ext fun text => ?_
  rw [Json.Members.lookup_eq_some_iff_mem telemetry.nodup_names_defined, mem_defined_iff,
    ← Json.Members.lookup_eq_some_iff_mem telemetry.distinct, text?, Option.bind_eq_some_iff, get?]
  simp only [Reading.text?_eq_some_iff, exists_eq_right]

theorem hasIntegers_toJson : telemetry.toJson.HasIntegers :=
  Value.membersHaveIntegers_iff.mpr (List.forall_mem_map.mpr fun _ _ => trivial)

theorem nesting_toJson_le : telemetry.toJson.nesting ≤ 1 :=
  Nat.succ_le_succ (Value.membersNesting_le_iff.mpr
    (List.forall_mem_map.mpr fun _ _ => Nat.le_refl 0))

theorem member?_toJson (name : String) :
    telemetry.toJson.member? name = (telemetry.text? name).map .string := by
  rw [toJson, Value.member?, Json.Members.lookup_map, lookup_defined]

theorem isShownBy_normalize : telemetry.IsShownBy telemetry.toJson.normalize := by
  refine ⟨_, rfl, fun name => ?_⟩
  have distinct : ((telemetry.defined.map fun field =>
      (field.1, Value.string field.2)).map Prod.fst).Nodup := by
    rw [List.map_map]
    exact telemetry.nodup_names_defined
  have found := Value.member?_normalize distinct name
  rw [← toJson, member?_toJson, Option.map_map] at found
  exact found

theorem toJson_eq_iff {other : Telemetry} :
    telemetry.toJson = other.toJson ↔ telemetry.defined = other.defined := by
  have injective : Function.Injective fun field : String × String =>
      (field.1, Value.string field.2) := by
    rintro ⟨name, text⟩ ⟨otherName, otherText⟩ same
    simpa using same
  rw [toJson, toJson, Value.object.injEq, injective.list_map.eq_iff]

end Telemetry

/-! ## Records -/

namespace Record

/-- An object has a member for each thing that a record says, and no other member. -/
structure IsShownBy (record : Record) (value : Value) : Prop where
  deviceName : value.member? "deviceName" = some (.string record.descriptor.name)
  deviceType : value.member? "deviceType" = some (.string record.descriptor.deviceType)
  attributes : value.member? "attributes" =
    some (.object (record.serial.toList.map fun serial => ("sn", .string serial)))
  telemetry : Option.Rel Telemetry.IsShownBy record.telemetry (value.member? "telemetry")
  /-- There are no other members. -/
  only : ∀ name, (value.member? name).isSome →
    name ∈ ["deviceName", "deviceType", "attributes", "telemetry"]

/-! ### Members that may be left out -/

theorem name_of_mem_optional {α : Type} {name : String} {value : Option α}
    {toJson : α → Value} {member : String × Value} (among : member ∈ optional name value toJson) :
    member.1 = name := by
  cases value with
  | none => exact absurd among List.not_mem_nil
  | some value => rw [List.mem_singleton.mp among]

theorem optional_inj {α : Type} {name : String} {value other : Option α} {toJson : α → Value} :
    optional name value toJson = optional name other toJson ↔
      value.map toJson = other.map toJson := by
  cases value with
  | none => cases other <;> simp [optional]
  | some value => cases other <;> simp [optional]

/-! ### The object of a record -/

variable (record : Record)

theorem hasIntegers_toJson : record.toJson.HasIntegers := by
  have attributes : Value.MembersHaveIntegers (optional "sn" record.serial .string) := by
    cases record.serial with
    | none => trivial
    | some serial => exact ⟨trivial, trivial⟩
  refine Value.membersHaveIntegers_iff.mpr (List.forall_mem_append.mpr ⟨?_, ?_⟩)
  · exact Value.membersHaveIntegers_iff.mp ⟨trivial, trivial, attributes, trivial⟩
  · cases record.telemetry with
    | none => simp [optional]
    | some telemetry => simpa [optional] using telemetry.hasIntegers_toJson

theorem nesting_toJson_le : record.toJson.nesting ≤ 2 := by
  refine Nat.succ_le_succ (Value.membersNesting_le_iff.mpr (List.forall_mem_append.mpr ⟨?_, ?_⟩))
  · refine Value.membersNesting_le_iff.mp ?_
    cases record.serial with
    | none => simp [optional, Value.membersNesting, Value.nesting]
    | some serial => simp [optional, Value.membersNesting, Value.nesting]
  · cases record.telemetry with
    | none => simp [optional]
    | some telemetry => simpa [optional] using telemetry.nesting_toJson_le

theorem member?_normalize_toJson (name : String) :
    record.toJson.normalize.member? name = (record.toJson.member? name).map Value.normalize := by
  refine Value.member?_normalize ?_ name
  cases record.telemetry with
  | none => simp [optional]
  | some telemetry => simp [optional]

/-- Put into order, the object of a record shows what the record says. -/
theorem isShownBy_normalize : record.IsShownBy record.toJson.normalize where
  deviceName := by
    rw [member?_normalize_toJson]
    rfl
  deviceType := by
    rw [member?_normalize_toJson]
    rfl
  attributes := by
    rw [member?_normalize_toJson, toJson]
    cases record.serial with
    | none => rfl
    | some serial => rfl
  telemetry := by
    rw [member?_normalize_toJson, toJson]
    cases record.telemetry with
    | none => exact .none
    | some telemetry => exact .some telemetry.isShownBy_normalize
  only := by
    intro name present
    rw [member?_normalize_toJson, Option.isSome_map, toJson, Value.member?,
      List.lookup_isSome_iff] at present
    obtain ⟨member, among, same⟩ := present
    rw [eq_of_beq same]
    rcases List.mem_append.mp among with first | last
    · exact List.mem_append_left ["telemetry"] (List.mem_map_of_mem (f := Prod.fst) first)
    · rw [name_of_mem_optional last]
      exact List.mem_append_right ["deviceName", "deviceType", "attributes"] List.mem_cons_self

theorem parse_compact : Json.parse record.compact = .ok record.toJson.normalize :=
  Json.parse_compact record.hasIntegers_toJson
    (Nat.le_trans record.nesting_toJson_le (by decide))

theorem parse_indented : Json.parse record.indented = .ok record.toJson.normalize :=
  Json.parse_indented record.hasIntegers_toJson
    (Nat.le_trans record.nesting_toJson_le (by decide))

variable {record}

theorem toJson_eq_iff {other : Record} :
    record.toJson = other.toJson ↔
      record.descriptor = other.descriptor ∧ record.serial = other.serial ∧
        record.telemetry.map Telemetry.defined = other.telemetry.map Telemetry.defined := by
  obtain ⟨⟨name, deviceType⟩, serial, telemetry⟩ := record
  obtain ⟨⟨otherName, otherType⟩, otherSerial, otherTelemetry⟩ := other
  have serials : serial.map Value.string = otherSerial.map Value.string ↔ serial = otherSerial :=
    (Option.map_injective fun _ _ same => Value.string.inj same).eq_iff
  have reported : telemetry.map Telemetry.toJson = otherTelemetry.map Telemetry.toJson ↔
      telemetry.map Telemetry.defined = otherTelemetry.map Telemetry.defined := by
    cases telemetry with
    | none => cases otherTelemetry <;> simp
    | some telemetry => cases otherTelemetry <;> simp [Telemetry.toJson_eq_iff]
  simp only [toJson, Value.object.injEq, List.cons_append, List.nil_append, List.cons.injEq,
    Prod.mk.injEq, Value.string.injEq, true_and, optional_inj, serials, reported,
    Descriptor.mk.injEq, and_assoc]

/-- Both texts of a record are read back as one object that shows what the record says, the compact
one is a line, and it is that of another record only if both say the same. -/
theorem compact_lossless (record : Record) :
    record.write = .ok record.compact ∧
      (∃ value, Json.parse record.compact = .ok value ∧ Json.parse record.indented = .ok value ∧
        value.IsNormal ∧ record.IsShownBy value) ∧
      Json.NoControl record.compact.toList ∧
      ∀ other : Record, record.compact = other.compact ↔
        record.descriptor = other.descriptor ∧ record.serial = other.serial ∧
          record.telemetry.map Telemetry.defined = other.telemetry.map Telemetry.defined := by
  refine ⟨rfl, ⟨record.toJson.normalize, record.parse_compact, record.parse_indented,
    record.toJson.isNormal_normalize, record.isShownBy_normalize⟩, ?_, fun other => ?_⟩
  · rw [compact, Value.compact, String.toList_ofList]
    exact record.toJson.noControl_print record.hasIntegers_toJson
  · rw [compact, compact, Json.compact_inj record.hasIntegers_toJson other.hasIntegers_toJson,
      toJson_eq_iff]

end Record
end GatewayTelemetry
