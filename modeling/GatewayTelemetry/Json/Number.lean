import GatewayTelemetry.Json.Error

/-!
# Reading numbers

A numeral without point and exponent is an integer where the 64-bit ranges hold it: from
`-2 ^ 63` to `-1`, and from `0` to `2 ^ 64 - 1`. Every other numeral is a binary64 number.

A binary64 number is computed from a significand below `2 ^ 64` and a power of ten. Digits go into
the significand as long as they fit; the first one that does not fit ends that part of the
numeral. The result is rounded at each step, so it need not be the number nearest to the decimal.
-/

namespace GatewayTelemetry
namespace Json

def digitValue (c : Char) : Nat :=
  c.toNat - '0'.toNat

/-- Append digits to a significand while it stays below `2 ^ 64`; the new significand, and the
number of digits appended. -/
def gather (significand : Nat) : List Char → Nat × Nat
  | [] => (significand, 0)
  | c :: digits =>
    let grown := significand * 10 + digitValue c
    if grown < UInt64.size then
      let (final, count) := gather grown digits
      (final, count + 1)
    else (significand, 0)

def powerOfTen (power : Nat) : Float :=
  Float.ofScientific 1 false power

/-- Multiply a binary64 number by a power of ten, dividing by `1e308` as long as the power is
below `-308`. There is none if the result is too large. -/
def scale (value : Float) (power : Int) : Option Float :=
  if 308 < power then
    if value == 0 then some value else none
  else if 0 ≤ power then
    let product := value * powerOfTen power.toNat
    if product.isInf then none else some product
  else if -308 ≤ power then some (value / powerOfTen (-power).toNat)
  else if value == 0 then some value
  else scale (value / powerOfTen 308) (power + 308)
termination_by (-power).toNat
decreasing_by omega

def signed (negative : Bool) (value : Float) : Float :=
  if negative then -value else value

def scaled (negative : Bool) (significand : Nat) (power : Int) : Reader Number := fun rest =>
  match scale significand.toUInt64.toFloat power with
  | some value => .ok (.float (signed negative value), rest)
  | none => .error (.here .numberRange rest)

/-- The greatest exponent that is read in full. -/
def exponentLimit : Nat :=
  0x7fffffff

/-- Read exponent digits up to the first one that exceeds the limit. -/
def exponentDigits (value : Nat) : List Char → Nat × List Char
  | [] => (value, [])
  | c :: text =>
    if c.isDigit then
      let grown := value * 10 + digitValue c
      if exponentLimit < grown then (grown, text) else exponentDigits grown text
    else (value, c :: text)

/-- Read the digits of an exponent, of which there has to be one, and finish the number. -/
def exponentValue (negative : Bool) (significand : Nat) (power : Int) (lowers : Bool) :
    Reader Number
  | [] => .error (.here .endInValue [])
  | c :: text =>
    if c.isDigit then
      let (value, rest) := exponentDigits 0 (c :: text)
      if exponentLimit < value then
        if lowers || significand == 0 then
          .ok (.float (signed negative 0), rest.dropWhile Char.isDigit)
        else .error (.here .numberRange rest)
      else scaled negative significand (if lowers then power - value else power + value) rest
    else .error (.next .malformedNumber (c :: text))

def exponent (negative : Bool) (significand : Nat) (power : Int) : Reader Number
  | '+' :: text => exponentValue negative significand power false text
  | '-' :: text => exponentValue negative significand power true text
  | text => exponentValue negative significand power false text

def afterFraction (negative : Bool) (significand : Nat) (power : Int) : Reader Number
  | 'e' :: text => exponent negative significand power text
  | 'E' :: text => exponent negative significand power text
  | text => scaled negative significand power text

def fraction (negative : Bool) (significand : Nat) (power : Int) : Reader Number := fun text =>
  let digits := text.takeWhile Char.isDigit
  let rest := text.dropWhile Char.isDigit
  if digits.isEmpty then
    .error (.next (if text.isEmpty then .endInValue else .malformedNumber) text)
  else
    let (final, count) := gather significand digits
    afterFraction negative final (power - count) rest

/-- The number that an integer numeral below `2 ^ 64` stands for. -/
def integral (negative : Bool) (magnitude : Nat) : Number :=
  if negative then
    if 1 ≤ magnitude ∧ magnitude ≤ UInt64.size / 2 then .integer (-(magnitude : Int))
    else .float (-magnitude.toUInt64.toFloat)
  else .integer magnitude

/-- Read what follows the integer part; `dropped` of its digits did not fit the significand. -/
def afterInteger (negative : Bool) (significand dropped : Nat) : Reader Number
  | '.' :: text => fraction negative significand dropped text
  | 'e' :: text => exponent negative significand dropped text
  | 'E' :: text => exponent negative significand dropped text
  | text =>
    if dropped = 0 then .ok (integral negative significand, text)
    else scaled negative significand dropped text

def number (negative : Bool) : Reader Number
  | [] => .error (.here .endInValue [])
  | c :: text =>
    if c.isDigit then
      let digits := c :: text.takeWhile Char.isDigit
      let rest := text.dropWhile Char.isDigit
      if c = '0' ∧ 1 < digits.length then .error (.next .malformedNumber text)
      else
        let (significand, count) := gather 0 digits
        afterInteger negative significand (digits.length - count) rest
    else .error (.next .malformedNumber (c :: text))

end Json
end GatewayTelemetry
