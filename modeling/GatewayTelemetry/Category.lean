import GatewayTelemetry.Json.Typed

/-!
# Categories of messages

Each category of gateway message has an identifier in documents, a title in texts for people, the
topic pattern of its built-in rule, and the path of the part of a payload that holds its readings.
-/

namespace GatewayTelemetry

/-- What a gateway message reports. -/
inductive Category where
  | environment
  | lockStatus
  | powerUsage
  | powerAlarm
  | screenAlarm
  deriving DecidableEq, Inhabited

namespace Category

def all : List Category :=
  [.environment, .lockStatus, .powerUsage, .powerAlarm, .screenAlarm]

def identifier : Category → String
  | .environment => "environment"
  | .lockStatus => "lock_status"
  | .powerUsage => "power_usage"
  | .powerAlarm => "power_alarm"
  | .screenAlarm => "screen_alarm"

def title : Category → String
  | .environment => "environment"
  | .lockStatus => "lock"
  | .powerUsage => "power"
  | .powerAlarm => "power alarm"
  | .screenAlarm => "screen alarm"

/-- The topic pattern of the built-in rule; its one group captures the serial. -/
def builtinPattern : Category → String
  | .environment => "data/(.+)/environment"
  | .lockStatus => "status/(.+)/lock"
  | .powerUsage => "data/(.+)/power"
  | .powerAlarm => "alarm/(.+)/power"
  | .screenAlarm => "alarm/(.+)/screen"

/-- The names of the nested members that lead to the readings in a payload. -/
def slicePath : Category → List String
  | .environment => ["data", "value"]
  | .lockStatus => ["locks"]
  | .powerUsage => ["data", "powerValue"]
  | .powerAlarm => ["alarmType"]
  | .screenAlarm => ["data", "value"]

def ofIdentifier? (name : String) : Option Category :=
  all.find? fun category => category.identifier == name

@[simp]
theorem ofIdentifier?_identifier (category : Category) :
    ofIdentifier? category.identifier = some category := by
  cases category <;> rfl

theorem mem_all (category : Category) : category ∈ all := by
  cases category <;> decide

open Json

/-- The category with an identifier that was read, with the text behind the identifier. -/
def ofName (name : String) (rest : List Char) : Except Fault Category :=
  match ofIdentifier? name with
  | some category => .ok category
  | none => .error (.here (.unknownName name (all.map identifier)) rest)

def readContent (text : List Char) : Except Fault (List Char) :=
  match skipSpace text with
  | 'n' :: rest => expectWord ['u', 'l', 'l'] rest
  | rest => wrongKind "unit" rest

/-- Read a category from behind an opening brace: the only member of the object has the identifier
as its name and `null` as its value. -/
def readObject : Reader Category := fun text => do
  let (found, rest) ← nextName true text
  match found with
  | none => .error (.here .noValue rest)
  | some name =>
    let category ← ofName name rest
    let rest ← colon rest
    let rest ← readContent rest
    match skipSpace rest with
    | [] => .error (.here .endInObject [])
    | '\x7d' :: rest => .ok (category, rest)
    | rest => .error (.here .noValue rest)

/-- Read a category: its identifier as a string, or an object with the identifier as a name. -/
def read : Reader Category := fun text =>
  match skipSpace text with
  | [] => .error (.next .endInValue [])
  | '"' :: rest => do
    let (name, rest) ← string rest
    let category ← ofName name rest
    .ok (category, rest)
  | '\x7b' :: rest => readObject rest
  | rest => .error (.next .noValue rest)

def parse (text : String) : Except Error Category :=
  document read text

end Category
end GatewayTelemetry
