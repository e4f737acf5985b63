/-!
# Hexadecimal digits

Digits are written in lower case and read in either case.
-/

namespace GatewayTelemetry
namespace Text

def hexValue? (c : Char) : Option Nat :=
  if c.isDigit then some (c.toNat - '0'.toNat)
  else if 'a' ≤ c ∧ c ≤ 'f' then some (c.toNat - 'a'.toNat + 10)
  else if 'A' ≤ c ∧ c ≤ 'F' then some (c.toNat - 'A'.toNat + 10)
  else none

/-- The digit that is written for a value is read back as that value. -/
theorem hexValue?_digitChar {value : Nat} (small : value < 16) :
    hexValue? value.digitChar = some value := by
  have each : ∀ value ∈ List.range 16, hexValue? value.digitChar = some value := by decide
  exact each value (List.mem_range.mpr small)

end Text
end GatewayTelemetry
