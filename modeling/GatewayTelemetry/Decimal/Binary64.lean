import GatewayTelemetry.Decimal.Rounding

/-!
# Finite binary64 numbers as integers

The magnitude of a finite binary64 number is `significand * 2 ^ (exponent - 1074)`, with both
parts natural numbers read off the bit pattern.
-/

namespace GatewayTelemetry
namespace Decimal

/-- The exact magnitude of a finite binary64 number, `significand * 2 ^ (exponent - 1074)`. -/
structure Binary64 where
  /-- Integer significand, below `2 ^ 53`. -/
  significand : Nat
  /-- Power of two over the least positive number. -/
  exponent : Nat

namespace Binary64

/-- The magnitude written in a bit pattern; the sign bit plays no part. -/
def ofBits (bits : UInt64) : Binary64 :=
  let fraction := bits.toNat % (1 <<< 52)
  let biased := bits.toNat / (1 <<< 52) % (1 <<< 11)
  if biased = 0 then ⟨fraction, 0⟩ else ⟨(1 <<< 52) + fraction, biased - 1⟩

/-- The magnitude rounded to the nearest natural number, ties to even. -/
def round (magnitude : Binary64) : Nat :=
  roundDiv (magnitude.significand <<< magnitude.exponent) (1 <<< 1074)

/-- The next smaller number is only half as far away as the next larger one: the significand is
the least of its binade, and the binade below is finer. -/
def isBinadeStart (magnitude : Binary64) : Bool :=
  magnitude.significand == 1 <<< 52 && magnitude.exponent != 0

end Binary64

def isNegative (bits : UInt64) : Bool :=
  UInt64.size / 2 ≤ bits.toNat

end Decimal
end GatewayTelemetry
