import GatewayTelemetry.Unicode.CodeRange

/-!
# Properties of characters

Characters have properties, and properties have names. Which names there are and which characters
have the properties is what a table says.
-/

namespace GatewayTelemetry
namespace Unicode

/-- A table of the properties of characters. -/
structure Properties where
  /-- The code points of the characters with the property that a name stands for. -/
  find? : List Char → Option (List CodeRange)

end Unicode
end GatewayTelemetry
