import GatewayTelemetry.Message
import GatewayTelemetry.Record
import GatewayTelemetry.Telemetry.Extraction
import GatewayTelemetry.Topic.Router

/-!
# Decoding messages

A decoder has the descriptor of a gateway model and a router. It reads the payload of a message,
routes its topic, extracts the readings of the route's category, and puts descriptor, serial and
telemetry together into a record. Without a route the record has the descriptor alone.
-/

namespace GatewayTelemetry

/-- A gateway model with the rules for its topics. -/
structure Decoder where
  descriptor : Descriptor
  router : Router
  deriving Inhabited

def Payload.decode (payload : Payload) : Except DecodeError Json.Value :=
  (Json.parse payload.toText).mapError .payload

def Metadata.ofJson (text : String) : Except DecodeError Metadata :=
  (Metadata.parse text).mapError .metadata

def Record.write (record : Record) : Except DecodeError String :=
  .ok record.compact

namespace Decoder

/-- The decoder of the gateway model with the built-in rules. -/
def gateway : Decoder where
  descriptor := .gateway
  router := .gateway

def routeTopic (decoder : Decoder) : Option String → Traced (Option Route)
  | some topic => decoder.router.routeTraced topic
  | none => .silent none

def decodeRoute (decoder : Decoder) (topic : Option String) (data : Json.Value) :
    Option Route → Traced (Except DecodeError Record)
  | none => ⟨.ok ⟨decoder.descriptor, none, none⟩, [.unrouted topic]⟩
  | some route =>
    (Extraction.extract route.category data).andThen fun
      | .error error => .silent (.error error)
      | .ok telemetry =>
        ⟨.ok ⟨decoder.descriptor, some route.serial, some telemetry⟩,
          [.decoded route.category route.serial telemetry.size]⟩

/-- Decode a message, with the events on the way. -/
def decodeTraced (decoder : Decoder) (payload : Payload) (metadata : Metadata) :
    Traced (Except DecodeError Record) :=
  match payload.decode with
  | .error error => .silent (.error error)
  | .ok data =>
    (decoder.routeTopic metadata.topic).andThen (decoder.decodeRoute metadata.topic data)

def decode (decoder : Decoder) (payload : Payload) (metadata : Metadata) :
    Except DecodeError Record :=
  (decoder.decodeTraced payload metadata).value

def decodeMessage (decoder : Decoder) (message : Message) : Except DecodeError Record :=
  decoder.decode message.payload message.metadata

/-- Decode a payload text with metadata given as a JSON document, and write the record. The
metadata is read first. -/
def decodeTextsTraced (decoder : Decoder) (payload metadata : String) :
    Traced (Except DecodeError String) :=
  match Metadata.ofJson metadata with
  | .error error => .silent (.error error)
  | .ok metadata =>
    (decoder.decodeTraced (.text payload) metadata).map fun decoded => decoded.bind Record.write

/-- The JSON text of the record of a payload text with metadata given as a JSON document. -/
def decodeTexts (decoder : Decoder) (payload metadata : String) : Except DecodeError String :=
  (decoder.decodeTextsTraced payload metadata).value

end Decoder

/-- What a gateway's profile says of its model and its rules; either may be left to the built-in
ones. -/
structure Profile where
  descriptor? : Option Descriptor
  /-- The rules; none of them stands for the built-in ones. -/
  rules : List Rule
  deriving Inhabited

namespace Profile

def empty : Profile :=
  ⟨none, []⟩

def withDescriptor (profile : Profile) (descriptor : Descriptor) : Profile :=
  { profile with descriptor? := some descriptor }

def addRule (profile : Profile) (rule : Rule) : Profile :=
  { profile with rules := profile.rules ++ [rule] }

def decoder (profile : Profile) : Decoder where
  descriptor := profile.descriptor?.getD .gateway
  router := if profile.rules.isEmpty then .gateway else ⟨profile.rules⟩

end Profile
end GatewayTelemetry
