/-!
# Ranges of code points
-/

namespace GatewayTelemetry
namespace Unicode

structure CodeRange where
  low : Nat
  high : Nat
  deriving DecidableEq

namespace CodeRange

def contains (range : CodeRange) (code : Nat) : Bool :=
  range.low ≤ code && code ≤ range.high

def anyContains (ranges : List CodeRange) (code : Nat) : Bool :=
  ranges.any (·.contains code)

end CodeRange

end Unicode
end GatewayTelemetry
