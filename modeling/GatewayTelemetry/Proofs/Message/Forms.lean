import Mathlib.Data.List.Nodup
import GatewayTelemetry.Proofs.Message.Metadata

/-!
# The forms of a message

A message is an object, in which payload and metadata are found by their names and nothing else
matters, or an array of the payload with or without metadata. A payload is a string or an array of
bytes, and metadata is an object. No other value is read as a message.
-/

namespace GatewayTelemetry

open Json

/-! ## Payloads -/

namespace Payload

/-- A string, or an array of integers from 0 to 255. -/
def IsForm : Value → Prop
  | .string _ => True
  | .array items => ∀ item ∈ items, ∃ code : Nat, code ≤ 255 ∧ item = .number (.integer code)
  | _ => False

theorem byte?_eq_some_iff {value : Value} {code : UInt8} :
    byte? value = some code ↔ value = .number (.integer code.toNat) := by
  constructor
  · intro read
    cases value with
    | number found =>
        cases found with
        | integer found =>
            rw [byte?] at read
            split at read
            · next inRange =>
                have low : found.toNat < 256 := by omega
                have same : (UInt8.ofNat found.toNat).toNat = found.toNat :=
                  UInt8.toNat_ofNat_of_lt low
                rw [← Option.some.inj read, same, Int.toNat_of_nonneg inRange.1]
            · cases read
        | float _ => cases read
    | _ => cases read
  · rintro rfl
    exact byte?_toNat code

theorem mapM_byte?_eq_some_iff {items : List Value} {codes : List UInt8} :
    items.mapM byte? = some codes ↔
      items = codes.map fun code => .number (.integer code.toNat) := by
  constructor
  · intro read
    induction items generalizing codes with
    | nil => simpa using read
    | cons item items ih =>
        rw [List.mapM_cons] at read
        obtain ⟨code, first, read⟩ := Option.bind_eq_some_iff.mp read
        obtain ⟨others, rest, read⟩ := Option.bind_eq_some_iff.mp read
        cases read
        rw [byte?_eq_some_iff.mp first, ih rest, List.map_cons]
  · rintro rfl
    exact mapM_byte? codes

theorem ofJson?_eq_some_iff {value : Value} {payload : Payload} :
    ofJson? value = some payload ↔ payload.toJson = value := by
  constructor
  · intro read
    match value, read with
    | .string content, read =>
        cases read
        rfl
    | .array items, read =>
        obtain ⟨codes, bytes, rfl⟩ := Option.map_eq_some_iff.mp read
        rw [toJson, mapM_byte?_eq_some_iff.mp bytes]
  · rintro rfl
    exact ofJson?_toJson payload

theorem isForm_toJson (payload : Payload) : IsForm payload.toJson := by
  cases payload with
  | text content => trivial
  | bytes codes =>
      intro item among
      obtain ⟨code, -, rfl⟩ := List.mem_map.mp among
      exact ⟨code.toNat, Nat.le_of_lt_succ code.toNat_lt, rfl⟩

theorem exists_toJson_of_isForm {value : Value} (isForm : IsForm value) :
    ∃ payload : Payload, payload.toJson = value := by
  match value, isForm with
  | .string content, _ => exact ⟨.text content, rfl⟩
  | .array items, each =>
      suffices bytes : ∃ codes : List UInt8,
          (codes.map fun code => Value.number (.integer code.toNat)) = items by
        obtain ⟨codes, rfl⟩ := bytes
        exact ⟨.bytes codes, rfl⟩
      change ∀ item ∈ items, _ at each
      induction items with
      | nil => exact ⟨[], rfl⟩
      | cons item items ih =>
          obtain ⟨⟨code, low, rfl⟩, others⟩ := List.forall_mem_cons.mp each
          obtain ⟨codes, rfl⟩ := ih others
          have same : (UInt8.ofNat code).toNat = code :=
            UInt8.toNat_ofNat_of_lt (Nat.lt_succ_of_le low)
          exact ⟨UInt8.ofNat code :: codes, by rw [List.map_cons, same]⟩

end Payload

/-! ## Metadata -/

namespace Metadata

/-- Metadata has the topic and the other members of an object. -/
structure Holds (metadata : Metadata) (members : List (String × Value)) : Prop where
  /-- The topic is the text under its name; a value of another kind is none. -/
  topic : ∀ text, metadata.topic = some text ↔ (topicName, .string text) ∈ members
  /-- The others are all the members with other names, which may be put into another order. -/
  extra : (Value.object (others members)).Reordered (.object metadata.extra)

theorem holds_of_ofMembers? {members : List (String × Value)} {metadata : Metadata}
    (distinct : (Value.object members).HasDistinctNames)
    (read : ofMembers? members = some metadata) : metadata.Holds members := by
  refine ⟨(keeps_of_ofMembers? read).topic, ?_⟩
  obtain ⟨-, rfl⟩ := ofMembers?_eq_some_iff.mp read
  apply Value.reordered_normalize (.object (others members))
  constructor
  · exact distinct.1.sublist (List.filter_sublist.map Prod.fst)
  · apply Value.membersHaveDistinctNames_iff.mpr
    intro member among
    exact Value.membersHaveDistinctNames_iff.mp distinct.2 member (mem_others_iff.mp among).1

theorem exists_ofMembers? {members : List (String × Value)}
    (distinct : (members.map Prod.fst).Nodup) : ∃ metadata, ofMembers? members = some metadata := by
  have atMostOne := List.nodup_iff_count_le_one.mp distinct topicName
  exact ⟨_, ofMembers?_eq_some_iff.mpr ⟨atMostOne, rfl⟩⟩

def given? : Option Value → Option Metadata
  | none => some .empty
  | some value => ofValue? value

end Metadata

/-! ## Messages -/

namespace Message

section Parts

variable {α : Type} {read : Value → Option α} {old new : Option α}

/-- A part of a message is set by the value that is found for it; that is refused if the part has
been set before. -/
def Sets (read : Value → Option α) (old new : Option α) : Option Value → Prop
  | none => old = new
  | some value => old = none ∧ ∃ part, read value = some part ∧ some part = new

/-- If names are different, a part is set by the first member or by one of the others. -/
theorem exists_sets_iff (name : String) {member : String × Value}
    {members : List (String × Value)} (distinct : ((member :: members).map Prod.fst).Nodup) :
    (∃ middle, Sets read old middle ([member].lookup name) ∧
        Sets read middle new (members.lookup name)) ↔
      Sets read old new ((member :: members).lookup name) := by
  obtain ⟨first, value⟩ := member
  rw [List.lookup_cons, List.lookup_cons]
  by_cases same : name = first
  · subst same
    have absent : members.lookup name = none := by
      rw [List.map_cons, List.nodup_cons] at distinct
      apply List.lookup_eq_none_iff.mpr
      intro other among
      have present : other.1 ∈ members.map Prod.fst := List.mem_map_of_mem among
      simpa using fun same : name = other.1 => distinct.1 (same ▸ present)
    rw [beq_self_eq_true, absent]
    simp [Sets]
  · rw [beq_false_of_ne same]
    simp [Sets]

theorem sets_none_some_iff {part : α} {found : Option Value} :
    Sets read none (some part) found ↔ ∃ value, found = some value ∧ read value = some part := by
  cases found with
  | none => simp [Sets]
  | some value => simp [Sets]

theorem exists_sets_metadata_iff {found : Option Value} {metadata : Metadata} :
    (∃ metadata?, Sets Metadata.ofValue? none metadata? found ∧
        metadata?.getD .empty = metadata) ↔
      Metadata.given? found = some metadata := by
  cases found with
  | none => simp [Sets, Metadata.given?]
  | some value => simp [Sets, Metadata.given?]

end Parts

theorem add?_eq_some_iff {state next : Draft} {member : String × Value} :
    add? state member = some next ↔
      Sets Payload.ofJson? state.payload? next.payload? ([member].lookup "payload") ∧
        Sets Metadata.ofValue? state.metadata? next.metadata? ([member].lookup "metadata") := by
  obtain ⟨name, value⟩ := member
  obtain ⟨payload?, metadata?⟩ := state
  obtain ⟨nextPayload?, nextMetadata?⟩ := next
  rw [add?, List.lookup_cons, List.lookup_cons]
  by_cases isPayload : name = "payload"
  · subst isPayload
    cases payload? with
    | none => simp [Sets, ← and_assoc]
    | some payload => simp [Sets]
  · have notPayload := beq_false_of_ne (Ne.symm isPayload)
    by_cases isMetadata : name = "metadata"
    · subst isMetadata
      cases metadata? with
      | none => simp [Sets, and_left_comm]
      | some metadata => simp [Sets]
    · have notMetadata := beq_false_of_ne (Ne.symm isMetadata)
      simp [Sets, isPayload, isMetadata, notPayload, notMetadata]

/-- Members with different names set the payload and the metadata by their names. -/
theorem foldlM_add?_eq_some_iff {members : List (String × Value)}
    (distinct : (members.map Prod.fst).Nodup) {state final : Draft} :
    members.foldlM add? state = some final ↔
      Sets Payload.ofJson? state.payload? final.payload? (members.lookup "payload") ∧
        Sets Metadata.ofValue? state.metadata? final.metadata? (members.lookup "metadata") := by
  induction members generalizing state with
  | nil =>
      obtain ⟨payload?, metadata?⟩ := state
      obtain ⟨finalPayload?, finalMetadata?⟩ := final
      simp [Sets]
  | cons member members ih =>
      have rest := (List.nodup_cons.mp distinct).2
      rw [List.foldlM_cons, ← exists_sets_iff "payload" distinct,
        ← exists_sets_iff "metadata" distinct]
      simp only [Option.bind_eq_bind, Option.bind_eq_some_iff, add?_eq_some_iff, ih rest]
      -- What the first member leaves is found for each part on its own.
      constructor
      · rintro ⟨middle, ⟨payload, metadata⟩, laterPayload, laterMetadata⟩
        exact ⟨⟨_, payload, laterPayload⟩, _, metadata, laterMetadata⟩
      · rintro ⟨⟨payload?, payload, laterPayload⟩, metadata?, metadata, laterMetadata⟩
        exact ⟨⟨payload?, metadata?⟩, ⟨payload, metadata⟩, laterPayload, laterMetadata⟩

/-- A value has a payload and perhaps metadata: an object under these names, and an array of nothing
else. -/
inductive HasParts : Value → Value → Option Value → Prop
  | named {members : List (String × Value)} {payload : Value}
      (found : members.lookup "payload" = some payload) :
      HasParts (.object members) payload (members.lookup "metadata")
  | alone (payload : Value) : HasParts (.array [payload]) payload none
  | pair (payload metadata : Value) : HasParts (.array [payload, metadata]) payload (some metadata)

theorem ofValue?_object_eq_some_iff {members : List (String × Value)}
    (distinct : (members.map Prod.fst).Nodup) {message : Message} :
    ofValue? (.object members) = some message ↔
      ∃ payload, members.lookup "payload" = some payload ∧
        Payload.ofJson? payload = some message.payload ∧
        Metadata.given? (members.lookup "metadata") = some message.metadata := by
  rw [ofValue?, Option.bind_eq_some_iff]
  simp only [foldlM_add?_eq_some_iff distinct, Option.map_eq_some_iff]
  constructor
  · rintro ⟨state, ⟨setsPayload, setsMetadata⟩, payload, isSet, rfl⟩
    rw [isSet, sets_none_some_iff] at setsPayload
    obtain ⟨value, found, read⟩ := setsPayload
    exact ⟨value, found, read, exists_sets_metadata_iff.mp ⟨_, setsMetadata, rfl⟩⟩
  · rintro ⟨value, found, read, given⟩
    obtain ⟨metadata?, setsMetadata, same⟩ := exists_sets_metadata_iff.mpr given
    exact ⟨⟨some message.payload, metadata?⟩,
      ⟨sets_none_some_iff.mpr ⟨value, found, read⟩, setsMetadata⟩, _, rfl, by rw [same]⟩

theorem ofValue?_eq_some_iff {value : Value} (distinct : value.HasDistinctNames)
    {message : Message} :
    ofValue? value = some message ↔ ∃ payload metadata?, HasParts value payload metadata? ∧
      Payload.ofJson? payload = some message.payload ∧
      Metadata.given? metadata? = some message.metadata := by
  constructor
  · intro read
    match value, distinct, read with
    | .object members, distinct, read =>
        obtain ⟨payload, found, parts⟩ := (ofValue?_object_eq_some_iff distinct.1).mp read
        exact ⟨payload, _, .named found, parts⟩
    | .array [payload], _, read =>
        obtain ⟨content, readPayload, same⟩ := Option.bind_eq_some_iff.mp read
        cases same
        exact ⟨payload, none, .alone payload, readPayload, rfl⟩
    | .array [payload, metadata], _, read =>
        obtain ⟨content, readPayload, rest⟩ := Option.bind_eq_some_iff.mp read
        obtain ⟨given, readMetadata, rfl⟩ := Option.map_eq_some_iff.mp rest
        exact ⟨payload, some metadata, .pair payload metadata, readPayload, readMetadata⟩
    | .array (payload :: metadata :: other :: items), _, read =>
        obtain ⟨content, -, rest⟩ := Option.bind_eq_some_iff.mp read
        exact nomatch rest
  · obtain ⟨content, metadata⟩ := message
    rintro ⟨payload, metadata?, parts, read, given⟩
    cases parts with
    | named found =>
        exact (ofValue?_object_eq_some_iff distinct.1).mpr ⟨payload, found, read, given⟩
    | alone =>
        have same : Metadata.empty = metadata := Option.some.inj given
        simp [ofValue?, withItems?, read, same]
    | pair _ metadata =>
        rw [Metadata.given?] at given
        simp [ofValue?, withItems?, read, given]

/-! ## Forms -/

/-- A value with a payload, whose metadata is an object if there is any. -/
def IsForm (value : Value) : Prop :=
  ∃ payload metadata?, HasParts value payload metadata? ∧ Payload.IsForm payload ∧
    ∀ metadata, metadata? = some metadata → ∃ members, metadata = .object members

/-- A message has the payload and the metadata that a value has. -/
structure Holds (message : Message) (payload : Value) (metadata? : Option Value) : Prop where
  payload : message.payload.toJson = payload
  /-- Without metadata there is neither a topic nor any other member. -/
  absent : metadata? = none → message.metadata = .empty
  present : ∀ members, metadata? = some (.object members) → message.metadata.Holds members

theorem HasParts.hasDistinctNames {value payload : Value} {metadata? : Option Value}
    (parts : HasParts value payload metadata?) (distinct : value.HasDistinctNames) :
    ∀ metadata, metadata? = some metadata → metadata.HasDistinctNames := by
  intro metadata given
  cases parts with
  | named found =>
      have among := (Members.lookup_eq_some_iff_mem distinct.1).mp given
      exact Value.membersHaveDistinctNames_iff.mp distinct.2 _ among
  | alone => exact nomatch given
  | pair _ other =>
      cases given
      exact distinct.2.1

theorem exists_given?_iff {metadata? : Option Value}
    (distinct : ∀ metadata, metadata? = some metadata → metadata.HasDistinctNames) :
    (∃ metadata, Metadata.given? metadata? = some metadata) ↔
      ∀ metadata, metadata? = some metadata → ∃ members, metadata = .object members := by
  cases metadata? with
  | none => exact iff_of_true ⟨_, rfl⟩ nofun
  | some value =>
      constructor
      · rintro ⟨metadata, read⟩ _ same
        cases same
        match value, read with
        | .object members, _ => exact ⟨members, rfl⟩
      · intro isObject
        obtain ⟨members, rfl⟩ := isObject value rfl
        exact Metadata.exists_ofMembers? (distinct _ rfl).1

theorem holds_of_given? {message : Message} {metadata? : Option Value}
    (distinct : ∀ metadata, metadata? = some metadata → metadata.HasDistinctNames)
    (given : Metadata.given? metadata? = some message.metadata) :
    message.Holds message.payload.toJson metadata? := by
  constructor
  · rfl
  · rintro rfl
    exact (Option.some.inj given).symm
  · rintro members rfl
    exact Metadata.holds_of_ofMembers? (distinct _ rfl) given

/-- The text of a value with different names and integers for numbers is read as a message exactly
if the value has the form of one, and the message has the payload and the metadata of the value. -/
theorem parse_compact_form {value : Value} (integers : value.HasIntegers)
    (distinct : value.HasDistinctNames) (inside : value.nesting ≤ depthLimit) :
    ((∃ message, parse value.compact = .ok message) ↔ IsForm value) ∧
      ∀ message, parse value.compact = .ok message →
        ∃ payload metadata?, HasParts value payload metadata? ∧
          message.Holds payload metadata? := by
  have gives := gives_read value integers inside []
  rw [List.append_nil] at gives
  have parsed {message : Message} : parse value.compact = .ok message ↔ _ :=
    (document_eq_ok_iff gives).trans (ofValue?_eq_some_iff distinct)
  constructor
  · constructor
    · rintro ⟨message, read⟩
      obtain ⟨payload, metadata?, parts, isPayload, given⟩ := parsed.mp read
      have isForm := message.payload.isForm_toJson
      rw [Payload.ofJson?_eq_some_iff.mp isPayload] at isForm
      exact ⟨payload, metadata?, parts, isForm,
        (exists_given?_iff (parts.hasDistinctNames distinct)).mp ⟨_, given⟩⟩
    · rintro ⟨payload, metadata?, parts, isForm, isObject⟩
      obtain ⟨content, same⟩ := Payload.exists_toJson_of_isForm isForm
      obtain ⟨metadata, given⟩ :=
        (exists_given?_iff (parts.hasDistinctNames distinct)).mpr isObject
      exact ⟨⟨content, metadata⟩, parsed.mpr
        ⟨payload, metadata?, parts, Payload.ofJson?_eq_some_iff.mpr same, given⟩⟩
  · intro message read
    obtain ⟨payload, metadata?, parts, isPayload, given⟩ := parsed.mp read
    obtain rfl := Payload.ofJson?_eq_some_iff.mp isPayload
    exact ⟨_, metadata?, parts, holds_of_given? (parts.hasDistinctNames distinct) given⟩

/-- An object with bytes for a payload, metadata whose topic is no text, and another member. -/
def byteForm : Value :=
  .object
    [("note", .array [.null]),
      ("metadata", .object [("b", .null), (Metadata.topicName, .number (.integer 7))]),
      ("payload", .array [.number (.integer 0), .number (.integer 255)])]

/-- An array with a number for a payload that is no byte. -/
def wideForm : Value :=
  .array [.array [.number (.integer 256)]]

/-- The bytes are read, without a topic and with the other member of the metadata; a number that is
no byte is refused. -/
theorem parse_compact_form_bytes :
    (byteForm.HasIntegers ∧ byteForm.HasDistinctNames ∧ byteForm.nesting ≤ depthLimit) ∧
      (∃ message, parse byteForm.compact = .ok message ∧ message.payload = .bytes [0, 255] ∧
        message.metadata.topic = none ∧
        (Value.object [("b", .null)]).Reordered (.object message.metadata.extra)) ∧
      ¬∃ message, parse wideForm.compact = .ok message := by
  have integers : byteForm.HasIntegers := by
    simp [byteForm, Value.HasIntegers, Value.MembersHaveIntegers, Value.ItemsHaveIntegers,
      Number.IsInteger64]
  have distinct : byteForm.HasDistinctNames := by
    simp [byteForm, Value.HasDistinctNames, Value.MembersHaveDistinctNames,
      Value.ItemsHaveDistinctNames, Metadata.topicName]
  have wide : wideForm.HasIntegers := by
    simp [wideForm, Value.HasIntegers, Value.ItemsHaveIntegers, Number.IsInteger64]
  obtain ⟨accepts, holds⟩ := parse_compact_form integers distinct (by decide)
  have isForm : IsForm byteForm := by
    refine ⟨_, _, .named rfl, ?_, fun metadata given => ?_⟩
    · exact List.forall_mem_cons.mpr
        ⟨⟨0, by omega, rfl⟩, List.forall_mem_singleton.mpr ⟨255, by omega, rfl⟩⟩
    · exact ⟨_, (Option.some.inj given).symm⟩
  obtain ⟨message, read⟩ := accepts.mpr isForm
  obtain ⟨payload, metadata?, parts, same, -, present⟩ := holds message read
  cases parts with
  | named found =>
      cases found
      obtain ⟨topic, extra⟩ := present _ rfl
      refine ⟨⟨integers, distinct, by decide⟩, ⟨message, read, ?_, ?_, extra⟩, ?_⟩
      · exact Option.some.inj ((Payload.ofJson?_eq_some_iff.mpr same).symm.trans rfl)
      · apply Option.eq_none_iff_forall_ne_some.mpr
        intro text isText
        simpa [Metadata.topicName] using (topic text).mp isText
      · rw [(parse_compact_form wide ⟨⟨trivial, trivial⟩, trivial⟩ (by decide)).1]
        rintro ⟨payload, metadata?, parts, bytes, -⟩
        cases parts
        obtain ⟨code, low, same⟩ := bytes _ List.mem_cons_self
        cases same
        exact absurd low (by decide)

end Message
end GatewayTelemetry
