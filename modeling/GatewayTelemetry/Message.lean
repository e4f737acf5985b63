import GatewayTelemetry.Json.Typed

/-!
# Messages

A message is a payload with metadata. The payload is a text, or a list of bytes, each of which
stands for the character with its code. Metadata is a JSON object, of which only the topic is
understood; a topic that is not a text counts as absent, and other members are kept.
-/

namespace GatewayTelemetry

open Json

inductive Payload where
  | text (value : String)
  | bytes (codes : List UInt8)
  deriving DecidableEq, Inhabited

namespace Payload

/-- The text whose characters have the given codes. -/
def textOfBytes (codes : List UInt8) : String :=
  String.ofList (codes.map fun code => Char.ofNat code.toNat)

def toText : Payload → String
  | .text value => value
  | .bytes codes => textOfBytes codes

def toJson : Payload → Value
  | .text value => .string value
  | .bytes codes => .array (codes.map fun code => .number (.integer code.toNat))

/-- The byte that a JSON value stands for: an integer from 0 to 255. -/
def byte? : Value → Option UInt8
  | .number (.integer value) =>
    if 0 ≤ value ∧ value ≤ 255 then some (UInt8.ofNat value.toNat) else none
  | _ => none

/-- The payload that a JSON value stands for: a string, or an array of bytes. -/
def ofJson? : Value → Option Payload
  | .string value => some (.text value)
  | .array items => (items.mapM byte?).map .bytes
  | _ => none

end Payload

structure Metadata where
  topic : Option String
  /-- All other members, sorted by name. -/
  extra : Members Value
  deriving Inhabited

namespace Metadata

def topicName : String :=
  "topicName"

def empty : Metadata :=
  ⟨none, []⟩

def ofTopic (topic : String) : Metadata :=
  ⟨some topic, []⟩

def get? (metadata : Metadata) (name : String) : Option Value :=
  if name = topicName then none else metadata.extra.lookup name

/-- The JSON object of metadata: the topic first, then the other members by name. -/
def toJson (metadata : Metadata) : Value :=
  .object
    ((match metadata.topic with
      | some topic => [(topicName, .string topic)]
      | none => []) ++ metadata.extra)

structure Draft where
  /-- Whether the topic has been read, and the topic if it is a text. -/
  topic? : Option (Option String)
  extra : Members Value

/-- Read a member of metadata, from behind its name; arrays and objects nest up to a depth. -/
def readField (depth : Nat) (state : Draft) (name : String) : Reader Draft := fun text =>
  if name = topicName then
    match state.topic? with
    | some _ => .error (.inObject (.repeatedMember name) text)
    | none => do
      let text ← colon text
      let (found, rest) ← value depth text
      .ok ({ state with topic? := some found.text? }, rest)
  else do
    let text ← colon text
    let (found, rest) ← value depth text
    .ok ({ state with extra := state.extra.insert name found.normalize }, rest)

/-- Read metadata, an object, in whose members arrays and objects nest up to a depth. -/
def read (depth : Nat) : Reader Metadata := fun text =>
  match skipSpace text with
  | '\x7b' :: rest => do
    let (state, rest) ← fields (readField depth) (rest.length + 1) true ⟨none, []⟩ rest
    .ok (⟨state.topic?.join, state.extra⟩, rest)
  | rest => wrongKind "struct Metadata" rest

def parse (text : String) : Except Error Metadata :=
  document (read (depthLimit - 1)) text

end Metadata

structure Message where
  payload : Payload
  metadata : Metadata
  deriving Inhabited

namespace Message

def toJson (message : Message) : Value :=
  .object [("payload", message.payload.toJson), ("metadata", message.metadata.toJson)]

/-- The number of arrays and objects that may be open inside a message. -/
def innerDepth : Nat :=
  depthLimit - 1

structure Draft where
  payload? : Option Payload
  metadata? : Option Metadata

def readPayload (refuse : Reason → List Char → Fault) : Reader Payload := fun text => do
  let (found, rest) ← value innerDepth text
  match Payload.ofJson? found with
  | some payload => .ok (payload, rest)
  | none => .error (refuse (.noForm "Payload") rest)

def readMetadata : Reader Metadata :=
  Metadata.read (innerDepth - 1)

/-- Read a member of a message, from behind its name; other members are passed over. -/
def readField (state : Draft) (name : String) : Reader Draft := fun text =>
  if name = "payload" then
    match state.payload? with
    | some _ => .error (.inObject (.repeatedMember name) text)
    | none => do
      let text ← colon text
      let (payload, rest) ← readPayload .inObject text
      .ok ({ state with payload? := some payload }, rest)
  else if name = "metadata" then
    match state.metadata? with
    | some _ => .error (.inObject (.repeatedMember name) text)
    | none => do
      let text ← colon text
      let (metadata, rest) ← readMetadata text
      .ok ({ state with metadata? := some metadata }, rest)
  else do
    let text ← colon text
    let rest ← skip text
    .ok (state, rest)

def readObject : Reader Message := fun text => do
  let (state, rest) ← fields readField (text.length + 1) true ⟨none, none⟩ text
  match state.payload? with
  | some payload => .ok (⟨payload, state.metadata?.getD .empty⟩, rest)
  | none => .error (.here (.missingMember "payload") rest)

/-- Read a message as an array of payload and metadata, from behind its opening bracket. -/
def readList : Reader Message := fun text => do
  let (found, text) ← nextItem true text
  if found then
    let (payload, text) ← readPayload .inList text
    let (found, text) ← nextItem false text
    if found then
      let (metadata, text) ← readMetadata text
      let rest ← endOfList text
      .ok (⟨payload, metadata⟩, rest)
    else .ok (⟨payload, .empty⟩, text)
  else .error (.here (.wrongLength 0 "struct RawMessage with 2 elements") text)

/-- Read a message: an object with a payload, or an array that starts with one; metadata may be
absent. -/
def read : Reader Message := fun text =>
  match skipSpace text with
  | '\x7b' :: rest => readObject rest
  | '[' :: rest => readList rest
  | rest => wrongKind "struct RawMessage" rest

def parse (text : String) : Except Error Message :=
  document read text

end Message
end GatewayTelemetry
