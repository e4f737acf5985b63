import GatewayTelemetry.Decoder
import GatewayTelemetry.Proofs.Message.RoundTrip
import GatewayTelemetry.Proofs.Text.ByteOrder

/-!
# Metadata documents

A topic may not be given twice, while another member may be: its last value counts. Any other object
is read, and written in one way, from which the same metadata is read. What is no object is refused.
-/

namespace GatewayTelemetry

open Json

namespace Metadata

variable {members : List (String × Value)}

/-! ## What is kept -/

/-- What metadata keeps of the members of a document. -/
structure Keeps (metadata : Metadata) (members : List (String × Value)) : Prop where
  /-- The topic is the text under its name; a value of another kind is none. -/
  topic : ∀ text, metadata.topic = some text ↔ (topicName, .string text) ∈ members
  noTopic : metadata.get? topicName = none
  /-- Under another name there is what the last member with the name holds. -/
  last : ∀ name, name ≠ topicName →
    metadata.get? name = (members.reverse.lookup name).map Value.normalize

theorem mem_others_iff {member : String × Value} :
    member ∈ others members ↔ member ∈ members ∧ member.1 ≠ topicName := by
  simp [others]

theorem lookup_others {name : String} (other : name ≠ topicName) :
    (others members).lookup name = members.lookup name := by
  induction members with
  | nil => rfl
  | cons member members ih =>
      rw [others, List.filter_cons]
      split
      · rw [List.lookup_cons, List.lookup_cons, ← others, ih]
      · next drop =>
          have same : member.1 = topicName := by simpa using drop
          rw [← others, ih, List.lookup_cons, same, beq_false_of_ne other]

theorem lookup_topicName_iff (atMostOne : (members.map Prod.fst).count topicName ≤ 1)
    {found : Value} : members.lookup topicName = some found ↔ (topicName, found) ∈ members := by
  constructor
  · intro first
    obtain ⟨front, back, rfl, -⟩ := List.lookup_eq_some_iff.mp first
    exact List.mem_append_right front List.mem_cons_self
  · intro among
    obtain ⟨front, back, rfl⟩ := List.append_of_mem among
    refine List.lookup_eq_some_iff.mpr ⟨front, back, rfl, fun member before => ?_⟩
    have absent : topicName ∉ front.map Prod.fst := by
      rw [List.map_append, List.count_append, List.map_cons, List.count_cons_self] at atMostOne
      exact List.count_eq_zero.mp (by omega)
    simpa using fun same : topicName = member.1 => absent (same ▸ List.mem_map_of_mem before)

theorem keeps_of_ofMembers? {metadata : Metadata} (read : ofMembers? members = some metadata) :
    metadata.Keeps members := by
  obtain ⟨atMostOne, rfl⟩ := ofMembers?_eq_some_iff.mp read
  constructor
  · intro text
    rw [Option.bind_eq_some_iff, ← lookup_topicName_iff atMostOne]
    constructor
    · rintro ⟨found, first, isText⟩
      rw [first, Value.text?_eq_some_iff.mp isText]
    · exact fun first => ⟨.string text, first, rfl⟩
  · exact if_pos rfl
  · intro name other
    rw [get?, if_neg other, Members.lookup_ofList_eq_reverse, Value.normalizeMembers_eq_map,
      ← List.map_reverse, Members.lookup_map, others, ← List.filter_reverse, ← others,
      lookup_others other]

/-! ## Writing -/

theorem exists_of_mem_ofList {member : String × Value}
    (among : member ∈ Members.ofList (Value.normalizeMembers (others members))) :
    ∃ found, (member.1, found) ∈ members ∧ member.1 ≠ topicName ∧
      member.2 = found.normalize := by
  rw [Value.normalizeMembers_eq_map] at among
  obtain ⟨source, present, rfl⟩ := List.mem_map.mp (Members.mem_of_mem_ofList among)
  obtain ⟨present, other⟩ := mem_others_iff.mp present
  exact ⟨source.2, present, other, rfl⟩

theorem fitsIn_of_ofMembers? {metadata : Metadata} {depth : Nat}
    (integers : Value.MembersHaveIntegers members) (inside : Value.membersNesting members ≤ depth)
    (read : ofMembers? members = some metadata) : metadata.FitsIn depth := by
  obtain ⟨-, rfl⟩ := ofMembers?_eq_some_iff.mp read
  constructor
  · intro member among
    obtain ⟨found, -, other, -⟩ := exists_of_mem_ofList among
    exact other
  · exact Members.isSorted_ofList _
  · intro member among
    obtain ⟨found, -, -, same⟩ := exists_of_mem_ofList among
    rw [same]
    exact Value.isNormal_normalize found
  · intro member among
    obtain ⟨found, present, -, same⟩ := exists_of_mem_ofList among
    rw [same]
    exact Value.hasIntegers_normalize found (Value.membersHaveIntegers_iff.mp integers _ present)
  · intro member among
    obtain ⟨found, present, -, same⟩ := exists_of_mem_ofList among
    rw [same]
    exact Nat.le_trans (Value.nesting_normalize_le found)
      (Value.membersNesting_le_iff.mp inside _ present)

/-- Metadata has one written form: the topic, if there is one, and then the other members in the
order of the bytes of their names. The same metadata is read from it. -/
structure IsWrittenBack (metadata : Metadata) : Prop where
  /-- What is written is read again, so writing that gives the same text. -/
  again : ofJson metadata.toJson.compact = .ok metadata
  ordered : ∃ behind, metadata.toJson =
      .object ((metadata.topic.toList.map fun topic => (topicName, .string topic)) ++ behind) ∧
    (∀ member ∈ behind, member.1 ≠ topicName) ∧
    (∀ name, name ≠ topicName → behind.lookup name = metadata.get? name) ∧
    (behind.map fun member => Text.bytes member.1).Pairwise (· < ·)

theorem isWrittenBack {metadata : Metadata} (fits : metadata.FitsIn (depthLimit - 1)) :
    metadata.IsWrittenBack := by
  constructor
  · rw [ofJson, parse_compact fits]
    rfl
  · refine ⟨metadata.extra, ?_, fits.noTopic, fun name other => (if_neg other).symm, ?_⟩
    · rw [toJson]
      cases metadata.topic with
      | none => rfl
      | some topic => rfl
    · have sorted := List.pairwise_map.mp fits.sorted
      exact List.pairwise_map.mpr (sorted.imp Text.bytes_lt_of_lt)

/-! ## Documents -/

theorem ofJson_eq_ok_iff {text : String} {metadata : Metadata} :
    ofJson text = .ok metadata ↔ parse text = .ok metadata := by
  rw [ofJson]
  cases parse text with
  | ok other =>
      constructor
      · intro read
        cases read
        rfl
      · intro read
        cases read
        rfl
  | error cause =>
      constructor
      · intro read
        cases read
      · intro read
        cases read

theorem ofJson_eq_error_iff {text : String} :
    (∃ cause, ofJson text = .error (.metadata cause)) ↔ ∃ cause, parse text = .error cause := by
  rw [ofJson]
  cases parse text with
  | ok metadata =>
      constructor
      · rintro ⟨cause, refused⟩
        cases refused
      · rintro ⟨cause, refused⟩
        cases refused
  | error cause => exact iff_of_true ⟨cause, rfl⟩ ⟨cause, rfl⟩

/-- A document that is no object holds no metadata. -/
theorem ofJson_eq_error_of_noBrace {text : String}
    (noBrace : ∀ rest, skipSpace text.toList ≠ '\x7b' :: rest) :
    ∃ cause, ofJson text = .error (.metadata cause) :=
  ofJson_eq_error_iff.mpr (document_eq_error (read_eq_error _ noBrace))

/-- What is read of a whole document is what its value stands for. -/
theorem gives_read_compact {value : Value} (integers : value.HasIntegers)
    (inside : value.nesting ≤ depthLimit) :
    Gives (ofValue? value) [] (read (depthLimit - 1) value.print) := by
  have inside : value.nesting ≤ depthLimit - 1 + 1 := inside
  have gives := gives_read value integers inside []
  rwa [List.append_nil] at gives

/-- The members of a document with integers for numbers may come in any order and under repeated
names: it is refused if the topic is given more than once, and otherwise read, with the last value
under each other name. What is read is written in one way, and read again from that. Any document
that is no object is refused. -/
theorem ofJson_lastWins :
    (∀ members, Value.MembersHaveIntegers members →
      (Value.object members).nesting ≤ depthLimit →
        ((∃ cause, ofJson (Value.object members).compact = .error (.metadata cause)) ↔
          1 < (members.map Prod.fst).count topicName) ∧
        ((members.map Prod.fst).count topicName ≤ 1 →
          ∃ metadata, ofJson (Value.object members).compact = .ok metadata ∧
            metadata.Keeps members ∧ metadata.IsWrittenBack)) ∧
      (∀ text : String, (∀ rest, skipSpace text.toList ≠ '\x7b' :: rest) →
        ∃ cause, ofJson text = .error (.metadata cause)) ∧
      ∀ text value, Json.parse text = .ok value → (∀ members, value ≠ .object members) →
        ∃ cause, ofJson text = .error (.metadata cause) := by
  refine ⟨fun members integers inside => ?_, fun text => ofJson_eq_error_of_noBrace,
    fun text value parsed noObject => ofJson_eq_error_of_noBrace fun rest brace => ?_⟩
  · have gives := gives_read_compact (show (Value.object members).HasIntegers from integers) inside
    rw [ofJson_eq_error_iff]
    constructor
    · rw [← ofMembers?_eq_none_iff]
      exact document_eq_error_iff gives
    · intro atMostOne
      have read := ofMembers?_eq_some_iff.mpr ⟨atMostOne, rfl⟩
      have fits := fitsIn_of_ofMembers? integers (Nat.le_of_succ_le_succ inside) read
      exact ⟨_, ofJson_eq_ok_iff.mpr ((document_eq_ok_iff gives).mpr read),
        keeps_of_ofMembers? read, isWrittenBack fits⟩
  · obtain ⟨members, same⟩ := exists_object_of_parse brace parsed
    exact noObject members same

/-- Members with a topic between two of one name, and another member before them. -/
def mixedMembers : List (String × Value) :=
  [("qos", .number (.integer 1)), ("b", .null), (topicName, .string "topic"),
    ("b", .object [("z", .null), ("a", .array []), ("z", .boolean true)])]

/-- The last of two members counts, and the members inside it are put into order; a second topic is
refused, and so is an array. -/
theorem ofJson_lastWins_mixedMembers :
    (Value.MembersHaveIntegers mixedMembers ∧ (Value.object mixedMembers).nesting ≤ depthLimit ∧
        (mixedMembers.map Prod.fst).count topicName ≤ 1) ∧
      (∃ metadata, ofJson (Value.object mixedMembers).compact = .ok metadata ∧
        metadata.topic = some "topic" ∧
        metadata.get? "b" = some (.object [("a", .array []), ("z", .boolean true)]) ∧
        ofJson metadata.toJson.compact = .ok metadata) ∧
      (∃ cause, ofJson (Value.object (mixedMembers ++ [(topicName, .null)])).compact =
        .error (.metadata cause)) ∧
      (∃ cause, ofJson " not json" = .error (.metadata cause)) ∧
      Json.parse "[]" = .ok (.array []) ∧ ∃ cause, ofJson "[]" = .error (.metadata cause) := by
  have each : ∀ member ∈ mixedMembers, member.2.HasIntegers := by
    simp [mixedMembers, Value.HasIntegers, Value.MembersHaveIntegers, Value.ItemsHaveIntegers,
      Number.IsInteger64]
  have integers := Value.membersHaveIntegers_iff.mpr each
  have more : Value.MembersHaveIntegers (mixedMembers ++ [(topicName, .null)]) :=
    Value.membersHaveIntegers_iff.mpr
      (List.forall_mem_append.mpr ⟨each, by simp [Value.HasIntegers]⟩)
  obtain ⟨objects, noBraces, values⟩ := ofJson_lastWins
  obtain ⟨-, reads⟩ := objects mixedMembers integers (by decide)
  obtain ⟨metadata, read, keeps, written⟩ := reads (by decide)
  have parsed : Json.parse "[]" = .ok (.array []) := rfl
  refine ⟨⟨integers, by decide, by decide⟩, ⟨metadata, read, ?_, ?_, written.again⟩, ?_, ?_,
    parsed, ?_⟩
  · exact (keeps.topic "topic").mpr (by simp [mixedMembers])
  · rw [keeps.last "b" (by decide)]
    rfl
  · exact (objects _ more (by decide)).1.mpr (by decide)
  · apply noBraces
    have front : skipSpace " not json".toList = 'n' :: "ot json".toList := rfl
    rw [front]
    simp
  · refine values "[]" _ parsed fun members same => ?_
    cases same

end Metadata
end GatewayTelemetry
