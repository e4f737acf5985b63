import GatewayTelemetry.Proofs.Decoder.Stages
import GatewayTelemetry.Proofs.Message.RoundTrip
import GatewayTelemetry.Proofs.Record.Lossless
import GatewayTelemetry.Proofs.Telemetry.Slices
import GatewayTelemetry.Proofs.Topic.Builtin

/-!
# What comes out of a message

A message fails at its metadata, else at its payload, else at the readings of the category of the
first rule that captures a serial. Where no rule captures one it does not fail, whatever stands in
the payload, and whatever is decoded is written.
-/

namespace GatewayTelemetry

open Json (Value)

/-! ## Records of a device -/

/-- A value names a device, and shows a serial and telemetry or neither. -/
structure Descriptor.IsShownWith (descriptor : Descriptor) (serial? : Option String)
    (value : Value) : Prop where
  deviceName : value.member? "deviceName" = some (.string descriptor.name)
  deviceType : value.member? "deviceType" = some (.string descriptor.deviceType)
  serial : (value.member? "attributes").bind (Value.member? "sn") = serial?.map .string
  /-- There is telemetry if there is a serial. -/
  telemetry : (value.member? "telemetry").isSome = serial?.isSome

theorem Record.IsShownBy.isShownWith {record : Record} {value : Value}
    (shown : record.IsShownBy value) (together : record.telemetry.isSome = record.serial.isSome) :
    record.descriptor.IsShownWith record.serial value where
  deviceName := shown.deviceName
  deviceType := shown.deviceType
  serial := by
    rw [shown.attributes]
    cases record.serial with
    | none => rfl
    | some serial => rfl
  telemetry := by
    have related := shown.telemetry
    rw [← together]
    generalize record.telemetry = reported at related
    generalize value.member? "telemetry" = member at related
    cases related with
    | none => rfl
    | some same => rfl

namespace Decoder

/-- A rule captures a serial from the topic of a message, and no rule before it captures one. -/
def Captures (decoder : Decoder) (metadata : Metadata) (rule : Rule) (serial : String) : Prop :=
  ∃ topic, metadata.topic = some topic ∧ decoder.router.FirstCapture topic rule serial

variable {decoder : Decoder} {payload text : String}

theorem Captures.ne_empty {metadata : Metadata} {rule : Rule} {serial : String}
    (captures : decoder.Captures metadata rule serial) : serial ≠ "" := by
  obtain ⟨topic, -, first⟩ := captures
  exact Rule.ne_empty_of_capture? first.captured

/-- The route of a message is that of the first rule that captures a serial. -/
theorem route_eq_some_iff {metadata : Metadata} {route : Route} :
    metadata.topic.bind decoder.router.route? = some route ↔
      ∃ rule, decoder.Captures metadata rule route.serial ∧ rule.category = route.category := by
  rw [Option.bind_eq_some_iff]
  constructor
  · rintro ⟨topic, sent, found⟩
    obtain ⟨rule, first, same⟩ := Router.route?_eq_some_iff.mp found
    exact ⟨rule, ⟨topic, sent, first⟩, same⟩
  · rintro ⟨rule, ⟨topic, sent, first⟩, same⟩
    exact ⟨topic, sent, Router.route?_eq_some_iff.mpr ⟨rule, first, same⟩⟩

theorem route_eq_none_iff {metadata : Metadata} :
    metadata.topic.bind decoder.router.route? = none ↔
      ∀ rule serial, ¬decoder.Captures metadata rule serial := by
  rw [Option.eq_none_iff_forall_ne_some]
  constructor
  · intro unrouted rule serial captures
    exact unrouted ⟨serial, rule.category⟩ (route_eq_some_iff.mpr ⟨rule, captures, rfl⟩)
  · intro free route routed
    obtain ⟨rule, captures, -⟩ := route_eq_some_iff.mp routed
    exact free rule route.serial captures

/-- How the texts of a message are decoded, one case for each stage at which it can end. -/
inductive Outcome (decoder : Decoder) (payload text : String) : Except DecodeError String → Prop
  | metadata {cause : Json.Error} (refused : Metadata.parse text = .error cause) :
      Outcome decoder payload text (.error (.metadata cause))
  | payload {metadata : Metadata} {cause : Json.Error} (read : Metadata.parse text = .ok metadata)
      (refused : Json.parse payload = .error cause) :
      Outcome decoder payload text (.error (.payload cause))
  | readings {metadata : Metadata} {data : Value} {rule : Rule} {serial : String}
      {error : DecodeError} (read : Metadata.parse text = .ok metadata)
      (parsed : Json.parse payload = .ok data) (captures : decoder.Captures metadata rule serial)
      (refused : (Extraction.extract rule.category data).value = .error error) :
      Outcome decoder payload text (.error error)
  | routed {metadata : Metadata} {data : Value} {rule : Rule} {serial : String}
      {telemetry : Telemetry} (read : Metadata.parse text = .ok metadata)
      (parsed : Json.parse payload = .ok data) (captures : decoder.Captures metadata rule serial)
      (extracted : (Extraction.extract rule.category data).value = .ok telemetry) :
      Outcome decoder payload text
        (.ok (Record.compact ⟨decoder.descriptor, some serial, some telemetry⟩))
  | unrouted {metadata : Metadata} {data : Value} (read : Metadata.parse text = .ok metadata)
      (parsed : Json.parse payload = .ok data)
      (free : ∀ rule serial, ¬decoder.Captures metadata rule serial) :
      Outcome decoder payload text (.ok (Record.compact ⟨decoder.descriptor, none, none⟩))

theorem outcome_decodeTexts (decoder : Decoder) (payload text : String) :
    Outcome decoder payload text (decoder.decodeTexts payload text) := by
  -- One case for each stage: a stage is come to only if the one before it succeeds.
  cases read : Metadata.parse text with
  | error cause =>
      rw [decodeTexts_of_metadata_error read]
      exact .metadata read
  | ok metadata =>
      cases parsed : Json.parse payload with
      | error cause =>
          rw [decodeTexts_of_payload_error read parsed]
          exact .payload read parsed
      | ok data =>
          rw [decodeTexts_of_parsed read parsed]
          cases routed : metadata.topic.bind decoder.router.route? with
          | none => exact .unrouted read parsed (route_eq_none_iff.mp routed)
          | some route =>
              obtain ⟨rule, captures, same⟩ := route_eq_some_iff.mp routed
              rw [value_decodeRoute_some, ← same]
              cases extracted : (Extraction.extract rule.category data).value with
              | error error => exact .readings read parsed captures extracted
              | ok telemetry => exact .routed read parsed captures extracted

/-- A failure has one of three causes, of which the earlier ones come first. -/
theorem cause_of_error {error : DecodeError}
    (refused : decoder.decodeTexts payload text = .error error) :
    (∃ cause, error = .metadata cause ∧ Metadata.parse text = .error cause) ∨
      (∃ cause, error = .payload cause ∧ Json.parse payload = .error cause) ∨
        ∃ category, error = .noReadings category ∨
          ∃ expected, error = .wrongReadings category expected := by
  have outcome := outcome_decodeTexts decoder payload text
  rw [refused] at outcome
  cases outcome with
  | metadata unread => exact .inl ⟨_, rfl, unread⟩
  | payload read unparsed => exact .inr (.inl ⟨_, rfl, unparsed⟩)
  | readings read parsed captures unusable =>
      exact .inr (.inr ⟨_, (Extraction.isAtReadings_extract unusable).fault⟩)

theorem error_metadata_iff {cause : Json.Error} :
    decoder.decodeTexts payload text = .error (.metadata cause) ↔
      Metadata.parse text = .error cause := by
  refine ⟨fun refused => ?_, decodeTexts_of_metadata_error⟩
  rcases cause_of_error refused with ⟨_, same, unread⟩ | ⟨_, other, -⟩ | ⟨_, other | ⟨_, other⟩⟩
  · cases same
    exact unread
  all_goals cases other

theorem error_payload_iff {metadata : Metadata} (read : Metadata.parse text = .ok metadata)
    {cause : Json.Error} :
    decoder.decodeTexts payload text = .error (.payload cause) ↔
      Json.parse payload = .error cause := by
  refine ⟨fun refused => ?_, decodeTexts_of_payload_error read⟩
  rcases cause_of_error refused with
    ⟨_, other, -⟩ | ⟨_, same, unparsed⟩ | ⟨_, other | ⟨_, other⟩⟩
  · cases other
  · cases same
    exact unparsed
  all_goals cases other

/-- A message comes out as a text that names the device, with a serial and telemetry or neither. -/
def Writes (decoder : Decoder) (serial? : Option String)
    (result : Except DecodeError String) : Prop :=
  ∃ written value, result = .ok written ∧ Json.parse written = .ok value ∧
    decoder.descriptor.IsShownWith serial? value

theorem writes_compact (decoder : Decoder) {serial? : Option String} {telemetry : Option Telemetry}
    (together : telemetry.isSome = serial?.isSome) :
    decoder.Writes serial? (.ok (Record.compact ⟨decoder.descriptor, serial?, telemetry⟩)) :=
  have shown := Record.isShownBy_normalize ⟨decoder.descriptor, serial?, telemetry⟩
  ⟨_, _, rfl, Record.parse_compact _, shown.isShownWith together⟩

/-- The first rule that captures a serial decides whether a payload that is parsed can be at fault;
without such a rule it cannot. -/
theorem extracts_or_writes {metadata : Metadata} {data : Value}
    (read : Metadata.parse text = .ok metadata) (parsed : Json.parse payload = .ok data) :
    (∃ rule serial, decoder.Captures metadata rule serial ∧ serial ≠ "" ∧
        ((∃ error, (Extraction.extract rule.category data).value = .error error ∧
            error.IsAtReadings rule.category ∧
            decoder.decodeTexts payload text = .error error) ∨
          ∃ telemetry, (Extraction.extract rule.category data).value = .ok telemetry ∧
            decoder.Writes (some serial) (decoder.decodeTexts payload text))) ∨
      (∀ rule serial, ¬decoder.Captures metadata rule serial) ∧
        decoder.Writes none (decoder.decodeTexts payload text) := by
  have outcome := outcome_decodeTexts decoder payload text
  generalize decoder.decodeTexts payload text = result at outcome ⊢
  cases outcome with
  | metadata refused =>
      rw [read] at refused
      cases refused
  | payload _ refused =>
      rw [parsed] at refused
      cases refused
  -- In the other outcomes, metadata and payload were read to the same values.
  | readings again parsedAgain captures refused =>
      obtain rfl := Except.ok.inj (read.symm.trans again)
      obtain rfl := Except.ok.inj (parsed.symm.trans parsedAgain)
      refine .inl ⟨_, _, captures, captures.ne_empty, .inl ⟨_, refused, ?_, rfl⟩⟩
      exact Extraction.isAtReadings_extract refused
  | routed again parsedAgain captures extracted =>
      obtain rfl := Except.ok.inj (read.symm.trans again)
      obtain rfl := Except.ok.inj (parsed.symm.trans parsedAgain)
      refine .inl ⟨_, _, captures, captures.ne_empty, .inr ⟨_, extracted, ?_⟩⟩
      exact decoder.writes_compact rfl
  | unrouted again _ free =>
      obtain rfl := Except.ok.inj (read.symm.trans again)
      exact .inr ⟨free, decoder.writes_compact rfl⟩

/-- Metadata that cannot be read is the first cause of failure, then a payload that cannot be
parsed. After that, only the readings of the category of the first rule that captures a serial can
be at fault. In all other cases a text is written, with serial and telemetry if a rule captures. -/
theorem decodeTexts_precedence (decoder : Decoder) (payload text : String) :
    (∀ cause, decoder.decodeTexts payload text = .error (.metadata cause) ↔
        Metadata.parse text = .error cause) ∧
      (∀ metadata, Metadata.parse text = .ok metadata →
        (∀ cause, decoder.decodeTexts payload text = .error (.payload cause) ↔
            Json.parse payload = .error cause) ∧
          ∀ data, Json.parse payload = .ok data →
            (∃ rule serial, decoder.Captures metadata rule serial ∧ serial ≠ "" ∧
                ((∃ error, (Extraction.extract rule.category data).value = .error error ∧
                    error.IsAtReadings rule.category ∧
                    decoder.decodeTexts payload text = .error error) ∨
                  ∃ telemetry, (Extraction.extract rule.category data).value = .ok telemetry ∧
                    decoder.Writes (some serial) (decoder.decodeTexts payload text))) ∨
              (∀ rule serial, ¬decoder.Captures metadata rule serial) ∧
                decoder.Writes none (decoder.decodeTexts payload text)) ∧
      (∀ cause, decoder.decodeTexts payload text ≠ .error (.json cause)) ∧
      ∀ detail, decoder.decodeTexts payload text ≠ .error (.unwritable detail) := by
  refine ⟨fun cause => error_metadata_iff, fun metadata read => ⟨fun cause =>
    error_payload_iff read, fun data parsed => ?_⟩, fun cause refused => ?_,
    fun detail refused => ?_⟩
  · exact extracts_or_writes read parsed
  · rcases cause_of_error refused with ⟨_, other, -⟩ | ⟨_, other, -⟩ | ⟨_, other | ⟨_, other⟩⟩
    all_goals cases other
  · rcases cause_of_error refused with ⟨_, other, -⟩ | ⟨_, other, -⟩ | ⟨_, other | ⟨_, other⟩⟩
    all_goals cases other

def nullLock : Value :=
  .object [("locks", .array [.null])]

/-- What is sent about locks by the device with serial 7. -/
def lockMetadata : Metadata :=
  .ofTopic (Category.lockStatus.topic "7")

/-- On the topic of a lock, the readings of the category of locks are at fault. -/
theorem decodeTexts_precedence_nullLock :
    (Metadata.parse lockMetadata.toJson.compact = .ok lockMetadata ∧
        Json.parse nullLock.compact = .ok nullLock) ∧
      ∃ error, error.IsAtReadings .lockStatus ∧
        gateway.decodeTexts nullLock.compact lockMetadata.toJson.compact = .error error := by
  have read : Metadata.parse lockMetadata.toJson.compact = .ok lockMetadata :=
    Metadata.parse_compact (Metadata.fitsIn_nil (Json.depthLimit - 1) _)
  have parsed : Json.parse nullLock.compact = .ok nullLock :=
    Json.parse_compact_of_isNormal ⟨⟨trivial, trivial⟩, trivial⟩ (by decide)
      ⟨Json.Members.isSorted_singleton _, ⟨trivial, trivial⟩, trivial⟩
  have routed : lockMetadata.topic.bind gateway.router.route? = some ⟨"7", .lockStatus⟩ :=
    Router.route?_topic .lockStatus (by decide) (by decide) (by decide)
  refine ⟨⟨read, parsed⟩, ?_⟩
  rcases (decodeTexts_precedence gateway _ _).2.1 lockMetadata read |>.2 nullLock parsed with
    ⟨rule, serial, captures, -, atFault⟩ | ⟨free, -⟩
  · have again : lockMetadata.topic.bind gateway.router.route? = some ⟨serial, rule.category⟩ :=
      route_eq_some_iff.mpr ⟨rule, captures, rfl⟩
    obtain ⟨-, same⟩ := Route.mk.inj (Option.some.inj (routed.symm.trans again))
    rw [← same] at atFault
    rcases atFault with ⟨error, -, atReadings, refused⟩ | ⟨telemetry, extracted, -⟩
    · exact ⟨error, atReadings, refused⟩
    · cases extracted
  · rw [← route_eq_none_iff, routed] at free
    cases free

end Decoder
end GatewayTelemetry
