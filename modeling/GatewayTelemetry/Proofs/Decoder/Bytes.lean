import GatewayTelemetry.Proofs.Bytes.Readings
import GatewayTelemetry.Proofs.Decoder.Stages
import GatewayTelemetry.Proofs.Telemetry.Slices

/-!
# Payloads sent as bytes

A payload that is sent as the UTF-8 bytes of a text is decoded as the text is: it fails with the
same cause, or it gives a record of the same device and the same fields. Only the texts of readings
that stand in pairs can differ, by characters that are not ASCII and come out as their bytes.
-/

namespace GatewayTelemetry

open Json (Value)

/-- Errors that find the same part of a message at fault, however a JSON error is worded. -/
inductive DecodeError.SameCause : DecodeError → DecodeError → Prop
  | payload (cause other : Json.Error) : SameCause (.payload cause) (.payload other)
  | noReadings (category : Category) : SameCause (.noReadings category) (.noReadings category)
  | wrongReadings (category : Category) (expected : SliceKind) :
      SameCause (.wrongReadings category expected) (.wrongReadings category expected)

/-! ## Payloads -/

namespace Payload

/-- The bytes of a text are read as its characters, spread over their bytes. -/
theorem toList_textOfBytes_toUTF8 (text : String) :
    (textOfBytes text.toUTF8.data.toList).toList = spread text.toList := by
  have codes : text.toUTF8.data.toList = text.toList.flatMap String.utf8EncodeChar := by
    rw [String.toUTF8_eq_toByteArray, ← String.utf8Encode_toList, List.utf8Encode,
      List.toList_data_toByteArray]
  rw [textOfBytes, String.toList_ofList, codes, List.map_flatMap]
  rfl

example : textOfBytes "温".toUTF8.data.toList = "æ¸©" := by
  decide

theorem textOfBytes_toUTF8_of_onlyAscii {text : String} (ascii : OnlyAscii text.toList) :
    textOfBytes text.toUTF8.data.toList = text := by
  rw [← String.toList_inj, toList_textOfBytes_toUTF8, spread_of_onlyAscii ascii]

theorem agree_decode (text : String) :
    Agree DecodeError.SameCause Value.Indistinct (decode (.text text))
      (decode (.bytes text.toUTF8.data.toList)) :=
  Agree.mapError (Json.alike_parse (toList_textOfBytes_toUTF8 text)) fun cause other _ =>
    .payload cause other

end Payload

/-! ## Extraction -/

/-- Whether the readings of a category stand in pairs of keys and values. -/
def Category.hasPairs : Category → Bool
  | .environment => true
  | .powerUsage => true
  | _ => false

theorem Category.onlyAscii_slicePath (category : Category) :
    ∀ name ∈ category.slicePath, OnlyAscii name.toList := by
  cases category <;> decide

namespace Extraction

theorem follow_indistinct {path : List String}
    (ascii : ∀ name ∈ path, OnlyAscii name.toList) {value other : Value}
    (same : value.Indistinct other) :
    Option.Rel Value.Indistinct (follow path value) (follow path other) := by
  induction path generalizing value other with
  | nil => exact .some same
  | cons name path ih =>
      have member := same.member? name (ascii name List.mem_cons_self)
      exact Json.rel_bind member fun _ _ memberSame =>
        ih (fun later among => ascii later (List.mem_cons_of_mem name among)) memberSame

variable {payload other : Value} (category : Category) (same : payload.Indistinct other)

include same

theorem agree_slice :
    Agree DecodeError.SameCause Value.Indistinct (slice category payload)
      (slice category other) := by
  have found := follow_indistinct category.onlyAscii_slicePath same
  unfold slice
  generalize follow category.slicePath payload = first at found
  generalize follow category.slicePath other = second at found
  cases found with
  | none => exact .refused (.noReadings category)
  | some valueSame => exact .read valueSame

theorem agree_textSlice :
    Agree DecodeError.SameCause (fun text other => Json.Respelled text.toList other.toList)
      (textSlice category payload) (textSlice category other) := by
  refine (agree_slice category same).bind fun value later valueSame => ?_
  cases valueSame.sameKind with
  | string textSame => exact .read textSame
  | _ => exact .refused (.wrongReadings category .text)

theorem agree_listSlice :
    Agree DecodeError.SameCause (List.Forall₂ Value.Indistinct) (listSlice category payload)
      (listSlice category other) := by
  refine (agree_slice category same).bind fun value later valueSame => ?_
  cases valueSame.sameKind with
  | array itemsSame => exact .read itemsSame
  | _ => exact .refused (.wrongReadings category .sequence)

omit same

/-- Telemetry of the same fields, which is the same if it is not made of pairs. -/
structure Corresponding (category : Category) (telemetry other : Telemetry) : Prop where
  respelled : telemetry.Respelled other
  same : category.hasPairs = false → telemetry = other

theorem Corresponding.refl (category : Category) (telemetry : Telemetry) :
    Corresponding category telemetry telemetry :=
  ⟨.refl telemetry, fun _ => rfl⟩

include same

theorem agree_keyValues {table : Table} (ascii : table.HasAsciiKeys)
    (pairs : category.hasPairs = true) :
    Agree DecodeError.SameCause (Corresponding category)
      (withSlice (textSlice category payload) fun text =>
        (keyValues table category text).map .ok).value
      (withSlice (textSlice category other) fun text =>
        (keyValues table category text).map .ok).value := by
  rw [value_withSlice, value_withSlice]
  refine (agree_textSlice category same).bind fun text later textSame => ?_
  refine .read ⟨respelled_keyValues ascii category textSame, fun noPairs => ?_⟩
  rw [pairs] at noPairs
  cases noPairs

theorem agree_locks :
    Agree DecodeError.SameCause (Corresponding category)
      (withSlice (listSlice category payload) locks).value
      (withSlice (listSlice category other) locks).value := by
  rw [value_withSlice, value_withSlice]
  refine (agree_listSlice category same).bind fun items later itemsSame => ?_
  rw [value_locks_indistinct itemsSame]
  unfold locks
  dsimp only
  split
  · exact .refused (.wrongReadings .lockStatus .lockEntries)
  · exact .read (.refl category _)

theorem agree_alarm :
    Agree DecodeError.SameCause (Corresponding category)
      (withSlice (textSlice category payload) fun code => (alarm category code).map .ok).value
      (withSlice (textSlice category other) fun code => (alarm category code).map .ok).value := by
  rw [value_withSlice, value_withSlice]
  refine (agree_textSlice category same).bind fun code later codeSame => ?_
  rw [Traced.value_map, Traced.value_map, value_alarm_respelled category codeSame]
  exact .read (.refl category _)

theorem agree_extract :
    Agree DecodeError.SameCause (Corresponding category) (extract category payload).value
      (extract category other).value := by
  cases category with
  | environment => exact agree_keyValues .environment same Table.hasAsciiKeys_environment rfl
  | lockStatus => exact agree_locks .lockStatus same
  | powerUsage => exact agree_keyValues .powerUsage same Table.hasAsciiKeys_power rfl
  | powerAlarm => exact agree_alarm .powerAlarm same
  | screenAlarm => exact agree_alarm .screenAlarm same

end Extraction

/-! ## Records -/

/-- Records of the same device with the same fields. Unless the category has pairs, they have the
same readings; and of pairs, the same ones are undefined. -/
structure Record.Corresponding (category : Option Category) (record other : Record) : Prop where
  descriptor : record.descriptor = other.descriptor
  serial : record.serial = other.serial
  telemetry : Option.Rel Telemetry.Respelled record.telemetry other.telemetry
  same : (∀ found ∈ category, found.hasPairs = false) → record.telemetry = other.telemetry

namespace Decoder

/-- The category of the messages with some metadata, if there is a route for them. -/
def category? (decoder : Decoder) (metadata : Metadata) : Option Category :=
  (metadata.topic.bind decoder.router.route?).map Route.category

/-- Along each route, a payload and its bytes are decoded to records that correspond. -/
theorem agree_decodeRoute (decoder : Decoder) (topic : Option String) {data other : Value}
    (same : data.Indistinct other) (route? : Option Route) :
    Agree DecodeError.SameCause (Record.Corresponding (route?.map Route.category))
      (decoder.decodeRoute topic data route?).value
      (decoder.decodeRoute topic other route?).value := by
  cases route? with
  | none => exact .read ⟨rfl, rfl, .none, fun _ => rfl⟩
  | some route =>
      rw [value_decodeRoute_some, value_decodeRoute_some]
      refine (Extraction.agree_extract route.category same).map fun telemetry later found => ?_
      exact ⟨rfl, rfl, .some found.respelled, fun noPairs =>
        congrArg some (found.same (noPairs route.category rfl))⟩

/-- A text and its bytes are decoded to records that correspond, or fail with the same cause. If the
text is ASCII, the outcome is the same. -/
theorem decode_bytes_toUTF8 (decoder : Decoder) (metadata : Metadata) (text : String) :
    Agree DecodeError.SameCause (Record.Corresponding (decoder.category? metadata))
        (decoder.decode (.text text) metadata)
        (decoder.decode (.bytes text.toUTF8.data.toList) metadata) ∧
      (OnlyAscii text.toList →
        decoder.decode (.bytes text.toUTF8.data.toList) metadata =
          decoder.decode (.text text) metadata) := by
  constructor
  · rw [decode_eq, decode_eq]
    exact (Payload.agree_decode text).bind fun data other same =>
      decoder.agree_decodeRoute metadata.topic same _
  · intro ascii
    have parsed : Payload.decode (.bytes text.toUTF8.data.toList) = Payload.decode (.text text) :=
      congrArg (fun read => (Json.parse read).mapError DecodeError.payload)
        (Payload.textOfBytes_toUTF8_of_onlyAscii ascii)
    rw [decode_eq, decode_eq, parsed]

def sampleLocks : String :=
  "\x7b\"locks\": [\x7b\"value\": \"unlock\"\x7d]\x7d"

def sampleDegrees : String :=
  "\x7b\"data\": \x7b\"value\": \"Temp=20°\"\x7d\x7d"

/-- The text of one field of what the gateway makes of a payload. -/
def fieldText? (payload : Payload) (topic name : String) : Option String := do
  let record ← (gateway.decode payload (.ofTopic topic)).toOption
  let telemetry ← record.telemetry
  telemetry.text? name

/-- A payload of ASCII characters is decoded alike on both ways; one with a degree sign is decoded
to the same field, which has another text if it was sent as bytes. -/
theorem decode_bytes_toUTF8_sampleLocks :
    (OnlyAscii sampleLocks.toList ∧
      gateway.decode (.bytes sampleLocks.toUTF8.data.toList) (.ofTopic "status/7/lock") =
        gateway.decode (.text sampleLocks) (.ofTopic "status/7/lock")) ∧
      Agree DecodeError.SameCause
        (Record.Corresponding (gateway.category? (.ofTopic "data/7/environment")))
        (gateway.decode (.text sampleDegrees) (.ofTopic "data/7/environment"))
        (gateway.decode (.bytes sampleDegrees.toUTF8.data.toList)
          (.ofTopic "data/7/environment")) ∧
      fieldText? (.text sampleDegrees) "data/7/environment" "温度" = some "20°" ∧
      fieldText? (.bytes sampleDegrees.toUTF8.data.toList) "data/7/environment" "温度" =
        some "20Â°" := by
  have ascii : OnlyAscii sampleLocks.toList := by decide
  have locks := decode_bytes_toUTF8 gateway (.ofTopic "status/7/lock") sampleLocks
  have degrees := decode_bytes_toUTF8 gateway (.ofTopic "data/7/environment") sampleDegrees
  exact ⟨⟨ascii, locks.2 ascii⟩, degrees.1, by decide +kernel, by decide +kernel⟩

end Decoder
end GatewayTelemetry
