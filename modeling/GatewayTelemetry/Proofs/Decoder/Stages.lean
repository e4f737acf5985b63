import GatewayTelemetry.Decoder

/-!
# Decoding in stages

Apart from the events that are noted on the way, a message is decoded in stages: the payload is
parsed, the topic is routed, and the readings are extracted along the route. Where a message is
given by texts, the metadata is read before that and the record is written after it.
-/

namespace GatewayTelemetry

open Json (Value)

namespace Decoder

variable (decoder : Decoder)

theorem value_routeTopic (topic : Option String) :
    (decoder.routeTopic topic).value = topic.bind decoder.router.route? := by
  cases topic <;> rfl

/-- A message is decoded by parsing its payload, and extracting along the route of its topic. -/
theorem decode_eq (payload : Payload) (metadata : Metadata) :
    decoder.decode payload metadata = payload.decode >>= fun data =>
      (decoder.decodeRoute metadata.topic data
        (metadata.topic.bind decoder.router.route?)).value := by
  rw [decode, decodeTraced]
  cases payload.decode with
  | error error => rfl
  | ok data =>
      dsimp only
      rw [Traced.value_andThen, value_routeTopic]
      rfl

theorem value_decodeRoute_some (topic : Option String) (data : Value) (route : Route) :
    (decoder.decodeRoute topic data (some route)).value =
      (Extraction.extract route.category data).value.map fun telemetry =>
        ⟨decoder.descriptor, some route.serial, some telemetry⟩ := by
  rw [decodeRoute, Traced.value_andThen]
  cases (Extraction.extract route.category data).value <;> rfl

theorem decode_of_route {payload : Payload} {metadata : Metadata} {data : Value}
    {topic : String} {route : Route} {telemetry : Telemetry} (parsed : payload.decode = .ok data)
    (sent : metadata.topic = some topic) (routed : decoder.router.route? topic = some route)
    (extracted : (Extraction.extract route.category data).value = .ok telemetry) :
    decoder.decode payload metadata =
      .ok ⟨decoder.descriptor, some route.serial, some telemetry⟩ := by
  have found : metadata.topic.bind decoder.router.route? = some route := by
    rw [sent]
    exact routed
  have along := decoder.value_decodeRoute_some metadata.topic data route
  rw [extracted] at along
  rw [decode_eq, parsed, found]
  exact along

/-- Texts are decoded by reading the metadata, decoding the payload with it, and writing the
record. -/
theorem decodeTexts_eq (payload text : String) :
    decoder.decodeTexts payload text = Metadata.ofJson text >>= fun metadata =>
      (decoder.decode (.text payload) metadata).map Record.compact := by
  rw [decodeTexts, decodeTextsTraced]
  cases Metadata.ofJson text with
  | error error => rfl
  | ok metadata =>
      dsimp only
      rw [Traced.value_map, ← decode]
      rfl

theorem decodeTexts_of_metadata {decoder : Decoder} {payload text : String} {metadata : Metadata}
    {record : Record} (read : Metadata.ofJson text = .ok metadata)
    (decoded : decoder.decode (.text payload) metadata = .ok record) :
    decoder.decodeTexts payload text = .ok record.compact := by
  rw [decodeTexts_eq, read]
  exact congrArg (Except.map Record.compact) decoded

variable {decoder} {payload text : String}

theorem decodeTexts_of_metadata_error {cause : Json.Error}
    (refused : Metadata.parse text = .error cause) :
    decoder.decodeTexts payload text = .error (.metadata cause) := by
  rw [decodeTexts_eq, Metadata.ofJson, refused]
  rfl

variable {metadata : Metadata} (read : Metadata.parse text = .ok metadata)

include read

theorem decodeTexts_of_payload_error {cause : Json.Error}
    (refused : Json.parse payload = .error cause) :
    decoder.decodeTexts payload text = .error (.payload cause) := by
  rw [decodeTexts_eq, Metadata.ofJson, read]
  change (decoder.decode (.text payload) metadata).map Record.compact = .error (.payload cause)
  rw [decode_eq, Payload.decode, Payload.toText, refused]
  rfl

/-- If metadata and payload can be read, the route of the topic decides. -/
theorem decodeTexts_of_parsed {data : Value} (parsed : Json.parse payload = .ok data) :
    decoder.decodeTexts payload text = (decoder.decodeRoute metadata.topic data
      (metadata.topic.bind decoder.router.route?)).value.map Record.compact := by
  rw [decodeTexts_eq, Metadata.ofJson, read]
  change (decoder.decode (.text payload) metadata).map Record.compact = _
  rw [decode_eq, Payload.decode, Payload.toText, parsed]
  rfl

end Decoder
end GatewayTelemetry
