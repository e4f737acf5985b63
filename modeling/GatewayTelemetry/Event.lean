import GatewayTelemetry.Category
import GatewayTelemetry.Telemetry.Basic

/-!
# The log of a decoder

A decoder notes what it did as events, in the order in which it did it. A traced value is a value
with the events that led to it.
-/

namespace GatewayTelemetry

inductive Level where
  | trace
  | debug
  | warn
  deriving DecidableEq, Inhabited

def Level.name : Level → String
  | .trace => "TRACE"
  | .debug => "DEBUG"
  | .warn => "WARN"

inductive Event where
  /-- A rule's text is no pattern, so the rule matches nothing. -/
  | ruleDisabled (pattern : String) (category : Category)
  | ruleMatched (topic : String) (index : Nat) (pattern : String) (category : Category)
      (serial : String)
  | ruleSkipped (topic : String) (index : Nat) (pattern : String)
  | unmatched (topic : String)
  | decoded (category : Category) (serial : String) (size : Nat)
  | unrouted (topic : Option String)
  | unmappedKey (category : Category) (key : String)
  | labelled (category : Category) (key : String) (label : Label) (reading : Reading)
  | unmappedLock (index : Nat) (lock : Json.Value)
  | unmappedCode (category : Category) (code : String)

namespace Event

def level : Event → Level
  | .ruleDisabled .. => .warn
  | .ruleMatched .. => .debug
  | .ruleSkipped .. => .trace
  | .unmatched .. => .debug
  | .decoded .. => .debug
  | .unrouted .. => .debug
  | .unmappedKey .. => .warn
  | .labelled .. => .trace
  | .unmappedLock .. => .warn
  | .unmappedCode .. => .warn

def showReading : Reading → String
  | .text value => "Text(" ++ Text.quoted value ++ ")"
  | .undefined => "Undefined"

def showTopic : Option String → String
  | some topic => "Some(" ++ Text.quoted topic ++ ")"
  | none => "None"

def named (text : String) : String :=
  "'" ++ text ++ "'"

def showRule (index : Nat) (pattern : String) : String :=
  "rule #" ++ toString index ++ " " ++ named pattern

def message : Event → String
  | .ruleDisabled pattern category =>
    "Topic pattern " ++ named pattern ++ " for " ++ category.title ++
      " does not compile, rule disabled"
  | .ruleMatched topic index pattern category serial =>
    "Topic " ++ named topic ++ " matched " ++ showRule index pattern ++
      " (" ++ category.title ++ "), serial " ++ named serial
  | .ruleSkipped topic index pattern =>
    "Topic " ++ named topic ++ " skipped " ++ showRule index pattern
  | .unmatched topic => "Topic " ++ named topic ++ " matched no rule"
  | .decoded category serial size =>
    "Decoded " ++ category.title ++ " uplink from " ++ named serial ++ ": " ++
      toString size ++ " fields"
  | .unrouted topic => "No topic rule for " ++ showTopic topic ++ ", descriptor only"
  | .unmappedKey category key => "Unmapped " ++ category.title ++ " key " ++ named key
  | .labelled category key label reading =>
    category.title ++ ": " ++ key ++ " -> " ++ label.text ++ " = " ++ showReading reading
  | .unmappedLock index lock =>
    "Unmapped lock state at index " ++ toString index ++ ": " ++ lock.compact
  | .unmappedCode category code => "Unmapped " ++ category.title ++ " code " ++ named code

def line (event : Event) : String :=
  event.level.name ++ " " ++ event.message

end Event

structure Traced (α : Type) where
  value : α
  events : List Event

namespace Traced

def silent {α : Type} (value : α) : Traced α :=
  ⟨value, []⟩

/-- Go on from a traced value, noting the events of both. -/
def andThen {α β : Type} (first : Traced α) (next : α → Traced β) : Traced β :=
  let second := next first.value
  ⟨second.value, first.events ++ second.events⟩

def map {α β : Type} (change : α → β) (traced : Traced α) : Traced β :=
  ⟨change traced.value, traced.events⟩

variable {α β : Type}

@[simp]
theorem value_silent (value : α) : (silent value).value = value :=
  rfl

@[simp]
theorem events_silent (value : α) : (silent value).events = [] :=
  rfl

@[simp]
theorem value_andThen (first : Traced α) (next : α → Traced β) :
    (first.andThen next).value = (next first.value).value :=
  rfl

@[simp]
theorem events_andThen (first : Traced α) (next : α → Traced β) :
    (first.andThen next).events = first.events ++ (next first.value).events :=
  rfl

@[simp]
theorem value_map (change : α → β) (traced : Traced α) :
    (traced.map change).value = change traced.value :=
  rfl

@[simp]
theorem events_map (change : α → β) (traced : Traced α) :
    (traced.map change).events = traced.events :=
  rfl

end Traced
end GatewayTelemetry
