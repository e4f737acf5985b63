import GatewayTelemetry.DecodeError
import GatewayTelemetry.Event

/-!
# Extracting telemetry

Each category has its readings in one place of the payload, and a shape for them: pairs of keys
and values in a text, a list of lock states, or one alarm code. Each reading gets the label of its
key. A key without a label is kept under the name `undefined`, and a lock or alarm without one is
kept as an undefined reading.
-/

namespace GatewayTelemetry
namespace Extraction

/-! ## Pairs of keys and values -/

structure Pair where
  key : String
  /-- The reading; undefined if the pair has no equals sign. -/
  reading : Reading

/-- Read a pair: the key ends at the first equals sign, the value at the second. -/
def Pair.ofToken (token : List Char) : Pair :=
  match token.splitOn '=' with
  | [] => ⟨"", .undefined⟩
  | [key] => ⟨String.ofList key, .undefined⟩
  | key :: value :: _ => ⟨String.ofList key, .text (String.ofList value)⟩

def pairs (text : String) : List Pair :=
  (text.toList.splitOn ',').map Pair.ofToken

def pairEvents (table : Table) (category : Category) (pair : Pair) : List Event :=
  let label := table.lookup pair.key
  (if label.isKnown then [] else [.unmappedKey category pair.key]) ++
    [.labelled category pair.key label pair.reading]

/-- Telemetry of pairs of keys and values; the last reading under a label counts. -/
def keyValues (table : Table) (category : Category) (text : String) : Traced Telemetry where
  value := .ofList ((pairs text).map fun pair => ((table.lookup pair.key).text, pair.reading))
  events := (pairs text).flatMap (pairEvents table category)

/-! ## Lock states -/

/-- The label of a lock, which has its state as a text under `value`. -/
def lockLabel (lock : Json.Value) : Label :=
  match (lock.member? "value").bind Json.Value.text? with
  | some state => Table.lock.lookup state
  | none => .undefined

def lockEvents (lock : Json.Value × Nat) : List Event :=
  if (lockLabel lock.1).isKnown then [] else [.unmappedLock lock.2 lock.1]

/-- Telemetry of locks, a field for each; there is no telemetry if one of them is
`null`, and nothing is noted from that one on. -/
def locks (entries : List Json.Value) : Traced (Except DecodeError Telemetry) where
  value :=
    if entries.any Json.Value.isNull then .error (.wrongReadings .lockStatus .lockEntries)
    else
      .ok (.ofList (entries.zipIdx.map fun lock =>
        (lockFieldName lock.2, .ofLabel (lockLabel lock.1))))
  events := (entries.takeWhile fun lock => !lock.isNull).zipIdx.flatMap lockEvents

/-! ## Alarm codes -/

def alarm (category : Category) (code : String) : Traced Telemetry :=
  let label := Table.alarm.lookup code
  { value := Telemetry.empty.insert alarmFieldName (.ofLabel label)
    events := if label.isKnown then [] else [.unmappedCode category code] }

/-! ## Payloads -/

def follow : List String → Json.Value → Option Json.Value
  | [], value => some value
  | name :: path, value => (value.member? name).bind (follow path)

def slice (category : Category) (payload : Json.Value) : Except DecodeError Json.Value :=
  match follow category.slicePath payload with
  | some value => .ok value
  | none => .error (.noReadings category)

def textSlice (category : Category) (payload : Json.Value) : Except DecodeError String := do
  let value ← slice category payload
  match value with
  | .string text => .ok text
  | _ => .error (.wrongReadings category .text)

def listSlice (category : Category) (payload : Json.Value) :
    Except DecodeError (List Json.Value) := do
  let value ← slice category payload
  match value with
  | .array items => .ok items
  | _ => .error (.wrongReadings category .sequence)

def withSlice {α : Type} (readings : Except DecodeError α)
    (next : α → Traced (Except DecodeError Telemetry)) : Traced (Except DecodeError Telemetry) :=
  match readings with
  | .ok readings => next readings
  | .error error => .silent (.error error)

def extract (category : Category) (payload : Json.Value) :
    Traced (Except DecodeError Telemetry) :=
  match category with
  | .environment =>
    withSlice (textSlice category payload) fun text =>
      (keyValues .environment category text).map .ok
  | .lockStatus => withSlice (listSlice category payload) locks
  | .powerUsage =>
    withSlice (textSlice category payload) fun text => (keyValues .power category text).map .ok
  | .powerAlarm => withSlice (textSlice category payload) fun code => (alarm category code).map .ok
  | .screenAlarm =>
    withSlice (textSlice category payload) fun code => (alarm category code).map .ok

end Extraction
end GatewayTelemetry
