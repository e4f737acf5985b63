import GatewayTelemetry.Proofs.Decoder.Stages
import GatewayTelemetry.Proofs.Message.RoundTrip
import GatewayTelemetry.Proofs.Telemetry.Extraction
import GatewayTelemetry.Proofs.Topic.Builtin

/-!
# Nothing is lost between a gateway and its record

What a gateway reports in known keys, on a topic of its own, comes out in the record of the built-in
decoder: the serial from the topic, and one telemetry member for each reading, in the order in which
they were sent, under the label of its key.
-/

namespace GatewayTelemetry

open Json (Value)

inductive Uplink where
  | environment (readings : List (String × String))
  | locks (states : List String)
  | powerUsage (readings : List (String × String))
  | powerAlarm (code : String)
  | screenAlarm (code : String)

namespace Uplink

/-- All keys, states and codes are known, and keys and values can be told apart. -/
def IsValid : Uplink → Prop
  | .environment readings => Readings .environment readings
  | .locks states => ∀ state ∈ states, state ∈ Table.lock.keys
  | .powerUsage readings => Readings .power readings
  | .powerAlarm code => code ∈ Table.alarm.keys
  | .screenAlarm code => code ∈ Table.alarm.keys

def category : Uplink → Category
  | .environment _ => .environment
  | .locks _ => .lockStatus
  | .powerUsage _ => .powerUsage
  | .powerAlarm _ => .powerAlarm
  | .screenAlarm _ => .screenAlarm

def topic (serial : String) : Uplink → String
  | .environment _ => "data/" ++ serial ++ "/environment"
  | .locks _ => "status/" ++ serial ++ "/lock"
  | .powerUsage _ => "data/" ++ serial ++ "/power"
  | .powerAlarm _ => "alarm/" ++ serial ++ "/power"
  | .screenAlarm _ => "alarm/" ++ serial ++ "/screen"

def payload : Uplink → Value
  | .environment readings =>
    .object [("data", .object [("value", .string (Extraction.joined readings))])]
  | .locks states => .object [("locks", .array (states.map Extraction.lockEntry))]
  | .powerUsage readings =>
    .object [("data", .object [("powerValue", .string (Extraction.joined readings))])]
  | .powerAlarm code => .object [("alarmType", .string code)]
  | .screenAlarm code => .object [("data", .object [("value", .string code)])]

def metadata (serial : String) (uplink : Uplink) : Value :=
  .object [("topicName", .string (uplink.topic serial))]

def labelled (table : Table) (readings : List (String × String)) : List (String × String) :=
  readings.map fun reading => ((table.lookup reading.1).text, reading.2)

def telemetry : Uplink → List (String × String)
  | .environment readings => labelled .environment readings
  | .locks states => states.zipIdx.map fun lock =>
    ("门锁" ++ toString (lock.2 + 1) ++ "状态", (Table.lock.lookup lock.1).text)
  | .powerUsage readings => labelled .power readings
  | .powerAlarm code => [("报警类型", (Table.alarm.lookup code).text)]
  | .screenAlarm code => [("报警类型", (Table.alarm.lookup code).text)]

def record (serial : String) (uplink : Uplink) : Value :=
  .object [
    ("deviceName", .string "英飞拓智能网关"),
    ("deviceType", .string "V2831"),
    ("attributes", .object [("sn", .string serial)]),
    ("telemetry", .object (uplink.telemetry.map fun reading => (reading.1, .string reading.2)))]

/-! ## Stages of decoding -/

theorem topic_eq (serial : String) (uplink : Uplink) :
    uplink.topic serial = uplink.category.topic serial := by
  refine String.toList_inj.mp ?_
  cases uplink <;> simp [topic, category, Category.topic, Category.firstWord, Category.lastWord]

theorem hasIntegers_payload (uplink : Uplink) : uplink.payload.HasIntegers := by
  cases uplink with
  | locks states =>
      refine ⟨?_, trivial⟩
      induction states with
      | nil => trivial
      | cons state states ih => exact ⟨⟨trivial, trivial⟩, ih⟩
  | environment readings => exact ⟨⟨trivial, trivial⟩, trivial⟩
  | powerUsage readings => exact ⟨⟨trivial, trivial⟩, trivial⟩
  | powerAlarm code => exact ⟨trivial, trivial⟩
  | screenAlarm code => exact ⟨⟨trivial, trivial⟩, trivial⟩

theorem itemsNesting_locks (states : List String) :
    Value.itemsNesting (states.map Extraction.lockEntry) ≤ 1 := by
  induction states with
  | nil => exact Nat.zero_le 1
  | cons state states ih => exact Nat.max_le.mpr ⟨Nat.le_refl 1, ih⟩

theorem nesting_payload_le (uplink : Uplink) : uplink.payload.nesting ≤ 3 := by
  cases uplink with
  | locks states =>
      have inside := itemsNesting_locks states
      simp only [payload, Value.nesting, Value.membersNesting]
      omega
  | environment readings => simp [payload, Value.nesting, Value.membersNesting]
  | powerUsage readings => simp [payload, Value.nesting, Value.membersNesting]
  | powerAlarm code => simp [payload, Value.nesting, Value.membersNesting]
  | screenAlarm code => simp [payload, Value.nesting, Value.membersNesting]

theorem isNormal_object {name : String} {value : Value} (normal : value.IsNormal) :
    Value.IsNormal (.object [(name, value)]) :=
  ⟨Json.Members.isSorted_singleton _, normal, trivial⟩

theorem isNormal_payload (uplink : Uplink) : uplink.payload.IsNormal := by
  cases uplink with
  | locks states =>
      refine isNormal_object ?_
      induction states with
      | nil => trivial
      | cons state states ih => exact ⟨isNormal_object trivial, ih⟩
  | environment readings => exact isNormal_object (isNormal_object trivial)
  | powerUsage readings => exact isNormal_object (isNormal_object trivial)
  | powerAlarm code => exact isNormal_object trivial
  | screenAlarm code => exact isNormal_object (isNormal_object trivial)

theorem parse_payload (uplink : Uplink) : Json.parse uplink.payload.compact = .ok uplink.payload :=
  Json.parse_compact_of_isNormal uplink.hasIntegers_payload
    (Nat.le_trans uplink.nesting_payload_le (by decide)) uplink.isNormal_payload

theorem ofJson_metadata (serial : String) (uplink : Uplink) :
    Metadata.ofJson (uplink.metadata serial).compact = .ok (.ofTopic (uplink.topic serial)) := by
  have read := Metadata.parse_compact (Metadata.fitsIn_nil (Json.depthLimit - 1)
    (some (uplink.topic serial)))
  exact congrArg (Except.mapError DecodeError.metadata) read

/-- The readings are extracted in order, under their labels. -/
theorem extract_payload {uplink : Uplink} (valid : uplink.IsValid) :
    ∃ telemetry, (Extraction.extract uplink.category uplink.payload).value = .ok telemetry ∧
      telemetry.fields = uplink.telemetry.map fun reading => (reading.1, .text reading.2) := by
  cases uplink with
  | environment readings =>
      refine ⟨_, rfl, ?_⟩
      rw [Extraction.fields_keyValues Table.isRegular_environment valid, telemetry, labelled,
        List.map_map]
      rfl
  | locks states =>
      obtain ⟨found, extracted, fields⟩ := Extraction.value_locks valid
      refine ⟨found, extracted, ?_⟩
      rw [fields, telemetry, List.map_map]
      refine List.map_congr_left fun lock _ => ?_
      rw [lockFieldName, Function.comp, Nat.toString_eq_ofList_toDigits]
  | powerUsage readings =>
      refine ⟨_, rfl, ?_⟩
      rw [Extraction.fields_keyValues Table.isRegular_power valid, telemetry, labelled,
        List.map_map]
      rfl
  | powerAlarm code => exact ⟨_, rfl, Extraction.fields_alarm .powerAlarm valid⟩
  | screenAlarm code => exact ⟨_, rfl, Extraction.fields_alarm .screenAlarm valid⟩

theorem toJson_of_fields {telemetry : Telemetry} {readings : List (String × String)}
    (fields : telemetry.fields = readings.map fun reading => (reading.1, .text reading.2)) :
    telemetry.toJson = .object (readings.map fun reading => (reading.1, .string reading.2)) := by
  have defined : telemetry.defined = readings := by
    rw [Telemetry.defined, fields, List.filterMap_map]
    exact List.filterMap_some
  rw [Telemetry.toJson, defined]

/-! ## Decoding -/

/-- The built-in decoder makes the record of a report from its payload and its metadata. -/
theorem decodeTexts_uplink {uplink : Uplink} (valid : uplink.IsValid) {serial : String}
    (filled : serial ≠ "") (noSlash : '/' ∉ serial.toList) (noFeed : '\n' ∉ serial.toList) :
    Decoder.gateway.decodeTexts uplink.payload.compact (uplink.metadata serial).compact =
      .ok (uplink.record serial).compact := by
  obtain ⟨found, extracted, fields⟩ := extract_payload valid
  have routed : Router.gateway.route? (uplink.topic serial) = some ⟨serial, uplink.category⟩ := by
    rw [topic_eq]
    exact Router.route?_topic uplink.category filled noSlash noFeed
  have parsed : Payload.decode (.text uplink.payload.compact) = .ok uplink.payload :=
    congrArg (Except.mapError DecodeError.payload) uplink.parse_payload
  have sent : (Metadata.ofTopic (uplink.topic serial)).topic = some (uplink.topic serial) := rfl
  have decoded := Decoder.decode_of_route .gateway parsed sent routed extracted
  rw [Decoder.decodeTexts_of_metadata (ofJson_metadata serial uplink) decoded]
  have written : (Record.mk .gateway (some serial) (some found)).toJson = uplink.record serial := by
    rw [Record.toJson, record, ← toJson_of_fields fields]
    rfl
  exact congrArg (fun value => Except.ok (Value.compact value)) written

/-- A report with characters that are escaped, and with a value that is empty. -/
def sampleUplink : Uplink :=
  .environment [("PM2.5", "\"低\\"), ("barometric pressure", "")]

theorem decodeTexts_uplink_sampleUplink :
    sampleUplink.IsValid ∧
      Decoder.gateway.decodeTexts sampleUplink.payload.compact
          (sampleUplink.metadata "门\t1").compact =
        .ok (sampleUplink.record "门\t1").compact := by
  have valid : sampleUplink.IsValid := ⟨by decide, by decide, by decide, by decide, by decide⟩
  exact ⟨valid, decodeTexts_uplink valid (by decide) (by decide) (by decide)⟩

end Uplink
end GatewayTelemetry
