import GatewayTelemetry.Event
import GatewayTelemetry.Pattern.Property
import GatewayTelemetry.Pattern.Search

/-!
# Topic rules

A rule says which category the messages on certain topics have. It matches a topic if its pattern
is found in it and the first group of that match captured a text that is not empty; this text is
the serial of the device. A rule whose text is no pattern, or one that is too large, matches
nothing. Which characters have the properties that a pattern names is for a table to say.
-/

namespace GatewayTelemetry

/-- A pattern for topics and the category of their messages. -/
structure Rule where
  pattern : String
  category : Category
  /-- The properties of characters that the pattern may name. -/
  properties : Unicode.Properties
  compiled : Option Pattern.Automaton
  compiled_eq : compiled = Pattern.compile? properties pattern

namespace Rule

def ofPattern (pattern : String) (category : Category)
    (properties : Unicode.Properties := Pattern.standardProperties) : Rule where
  pattern
  category
  properties
  compiled := Pattern.compile? properties pattern
  compiled_eq := rfl

instance : Inhabited Rule := ⟨ofPattern "" default⟩

def isActive (rule : Rule) : Bool :=
  rule.compiled.isSome

def events (rule : Rule) : List Event :=
  if rule.isActive then [] else [.ruleDisabled rule.pattern rule.category]

def capture? (rule : Rule) (topic : String) : Option String :=
  (rule.compiled.bind fun automaton => automaton.capture? 1 topic).filter fun serial =>
    !serial.isEmpty

theorem ne_empty_of_capture? {rule : Rule} {topic serial : String}
    (captured : rule.capture? topic = some serial) : serial ≠ "" := by
  simpa using (Option.filter_eq_some_iff.mp captured).2

end Rule
end GatewayTelemetry
