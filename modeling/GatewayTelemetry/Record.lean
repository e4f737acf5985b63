import GatewayTelemetry.Json.Typed
import GatewayTelemetry.Telemetry.Basic

/-!
# Records

A record is the result of decoding one message: which device reported, under which serial, and
what. Without a rule for the message's topic there is neither serial nor telemetry, and the record
names the device alone.
-/

namespace GatewayTelemetry

structure Descriptor where
  name : String
  deviceType : String
  deriving DecidableEq, Inhabited

namespace Descriptor

/-- The gateway model for which the built-in rules are made. -/
def gateway : Descriptor where
  name := "英飞拓智能网关"
  deviceType := "V2831"

def toJson (descriptor : Descriptor) : Json.Value :=
  .object [("name", .string descriptor.name), ("device_type", .string descriptor.deviceType)]

open Json

structure Draft where
  name? : Option String
  deviceType? : Option String

def readMember (name : String) (known : Option String) : Reader String := fun text =>
  match known with
  | some _ => .error (.inObject (.repeatedMember name) text)
  | none => do
    let text ← colon text
    expectString "a string" text

/-- Read a member of a descriptor, from behind its name; other members are passed over. -/
def readField (state : Draft) (name : String) : Reader Draft := fun text =>
  if name = "name" then do
    let (value, rest) ← readMember name state.name? text
    .ok ({ state with name? := some value }, rest)
  else if name = "device_type" then do
    let (value, rest) ← readMember name state.deviceType? text
    .ok ({ state with deviceType? := some value }, rest)
  else do
    let text ← colon text
    let rest ← skip text
    .ok (state, rest)

def readObject : Reader Descriptor := fun text => do
  let (state, rest) ← fields readField (text.length + 1) true ⟨none, none⟩ text
  match state.name?, state.deviceType? with
  | some name, some deviceType => .ok (⟨name, deviceType⟩, rest)
  | none, _ => .error (.here (.missingMember "name") rest)
  | some _, none => .error (.here (.missingMember "device_type") rest)

/-- Read a descriptor as an array of its two texts, from behind its opening bracket. -/
def readList : Reader Descriptor := fun text => do
  let tooShort := fun count => Reason.wrongLength count "struct DeviceDescriptor with 2 elements"
  let (found, text) ← nextItem true text
  if found then
    let (name, text) ← expectString "a string" text
    let (found, text) ← nextItem false text
    if found then
      let (deviceType, text) ← expectString "a string" text
      let rest ← endOfList text
      .ok (⟨name, deviceType⟩, rest)
    else .error (.here (tooShort 1) text)
  else .error (.here (tooShort 0) text)

/-- Read a descriptor: an object with both members, or an array of both texts. -/
def read : Reader Descriptor := fun text =>
  match skipSpace text with
  | '\x7b' :: rest => readObject rest
  | '[' :: rest => readList rest
  | rest => wrongKind "struct DeviceDescriptor" rest

def parse (text : String) : Except Error Descriptor :=
  document read text

end Descriptor

/-- The result of decoding one message. -/
structure Record where
  descriptor : Descriptor
  serial : Option String
  telemetry : Option Telemetry

namespace Record

/-- A member that is left out when it has no value. -/
def optional {α : Type} (name : String) (value : Option α) (toJson : α → Json.Value) :
    List (String × Json.Value) :=
  match value with
  | some value => [(name, toJson value)]
  | none => []

def toJson (record : Record) : Json.Value :=
  .object
    ([("deviceName", .string record.descriptor.name),
      ("deviceType", .string record.descriptor.deviceType),
      ("attributes", .object (optional "sn" record.serial .string))] ++
      optional "telemetry" record.telemetry Telemetry.toJson)

def compact (record : Record) : String :=
  record.toJson.compact

def indented (record : Record) : String :=
  record.toJson.indented

end Record
end GatewayTelemetry
