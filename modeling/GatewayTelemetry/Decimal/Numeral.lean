/-!
# Numerals

A numeral is an optional plus sign and at least one ASCII digit. It stands for a natural number,
which has to be below `2 ^ 64`; zeros in front do not matter.
-/

namespace GatewayTelemetry
namespace Decimal

def numeralLimit : Nat :=
  UInt64.size - 1

def unsignedPart : List Char → List Char
  | '+' :: digits => digits
  | digits => digits

/-- The number that digits stand for behind those already read. There is none as soon as something
else than a digit comes or the number gets too large, whatever may come after that. -/
def readDigits (value : Nat) : List Char → Option Nat
  | [] => some value
  | c :: digits =>
    let grown := value * 10 + (c.toNat - '0'.toNat)
    if c.isDigit ∧ grown ≤ numeralLimit then readDigits grown digits else none

def numeral? (text : String) : Option Nat :=
  match unsignedPart text.toList with
  | [] => none
  | c :: digits => readDigits 0 (c :: digits)

end Decimal
end GatewayTelemetry
