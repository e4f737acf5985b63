/-!
# Rounding a quotient to an integer

The quotient of two natural numbers is rounded to the nearest natural number; a quotient halfway
between two goes to the even one.
-/

namespace GatewayTelemetry
namespace Decimal

/-- The natural number nearest to `numerator / denominator`, ties to even. -/
def roundDiv (numerator denominator : Nat) : Nat :=
  let floor := numerator / denominator
  let twice := 2 * (numerator % denominator)
  if twice < denominator then floor
  else if denominator < twice then floor + 1
  else floor + floor % 2

end Decimal
end GatewayTelemetry
