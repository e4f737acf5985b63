import GatewayTelemetry.Decimal.Binary64

/-!
# The fewest digits that read back

A finite binary64 number stands for every real number that rounds to it. Its shortest decimal is
the one with the fewest significant digits among those reals; of several with equally many digits
it is the nearest to the number, and of two equally near the one with an even last digit.

For each number of digits only the two neighbours of the number on the decimal grid of that many
digits can be nearest, so those two are tested, in exact natural number arithmetic.
-/

namespace GatewayTelemetry
namespace Decimal

/-- The real numbers that round to a binary64 number: from `low / scale` to `high / scale`, the
two ends included exactly when the significand is even. -/
structure RoundingRange where
  low : Nat
  centre : Nat
  high : Nat
  /-- Common denominator. -/
  scale : Nat
  /-- Whether the ends round to the number as well. -/
  closed : Bool

namespace RoundingRange

/-- The range of a magnitude reaches half way to the neighbours on both sides. -/
def ofMagnitude (magnitude : Binary64) : RoundingRange :=
  let unit := 1 <<< magnitude.exponent
  let quarters := 4 * magnitude.significand
  { low := (quarters - if magnitude.isBinadeStart then 1 else 2) * unit
    centre := quarters * unit
    high := (quarters + 2) * unit
    scale := 1 <<< 1076
    closed := magnitude.significand % 2 == 0 }

def timesTen (range : RoundingRange) (power : Int) : RoundingRange :=
  let up := Nat.pow 10 power.toNat
  { range with
    low := range.low * up
    centre := range.centre * up
    high := range.high * up
    scale := range.scale * Nat.pow 10 (-power).toNat }

def contains (range : RoundingRange) (n : Nat) : Bool :=
  let point := n * range.scale
  if range.closed then range.low ≤ point && point ≤ range.high
  else range.low < point && point < range.high

/-- The natural number in the range that is nearest to its centre, if one of the two natural
numbers around the centre is in the range. -/
def nearest? (range : RoundingRange) : Option Nat :=
  let below := range.centre / range.scale
  let above := below + 1
  match range.contains below, range.contains above with
  | false, false => none
  | true, false => some below
  | false, true => some above
  | true, true => some (roundDiv range.centre range.scale)

def leadingPower (range : RoundingRange) : Int :=
  if range.scale ≤ range.centre then
    (Nat.toDigits 10 (range.centre / range.scale)).length - 1
  else
    let inverse := (range.scale + range.centre - 1) / range.centre
    let places := (Nat.toDigits 10 (inverse - 1)).length
    0 - (places : Int)

end RoundingRange

/-- A decimal in scientific form: the digits, the first of them not zero and standing for the
given power of ten. -/
structure Scientific where
  digits : List Char
  /-- Power of ten of the first digit. -/
  power : Int

def dropTrailingZeros (digits : List Char) : List Char :=
  (digits.reverse.dropWhile (· == '0')).reverse

/-- The decimal with the given integer as its digits, counted in units of a power of ten. -/
def Scientific.ofUnits (count : Nat) (unit : Int) : Scientific :=
  let digits := Nat.toDigits 10 count
  { digits := dropTrailingZeros digits
    power := unit + digits.length - 1 }

/-- The first hit on the grids of `places`, `places + 1`, … digits; the last grid tried is
taken whether it has a hit or not. -/
def firstHit (range : RoundingRange) (leading : Int) : Nat → Nat → Scientific
  | 0, places =>
    let unit := leading - (places : Int) + 1
    let grid := range.timesTen (-unit)
    .ofUnits (grid.centre / grid.scale) unit
  | more + 1, places =>
    let unit := leading - (places : Int) + 1
    match (range.timesTen (-unit)).nearest? with
    | some count => .ofUnits count unit
    | none => firstHit range leading more (places + 1)

/-- The shortest decimal of a magnitude other than zero; seventeen digits always suffice. -/
def shortest (magnitude : Binary64) : Scientific :=
  let range := RoundingRange.ofMagnitude magnitude
  firstHit range range.leadingPower 17 1

end Decimal
end GatewayTelemetry
