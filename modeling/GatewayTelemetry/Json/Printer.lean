import GatewayTelemetry.Decimal.Shortest
import GatewayTelemetry.Json.Value

/-!
# Writing JSON

The compact text of a value has no blanks; the indented text puts each item and member on a line
of its own. Both write the members of an object in the order in which the value has them.

In a string only quotation marks, backslashes and the characters below U+0020 are escaped. A
binary64 number is written with the fewest digits that read back: positionally, always with a
point, when its leading digit stands for a power of ten from -5 to 15, and with an exponent
otherwise.
-/

namespace GatewayTelemetry
namespace Json

def escape (c : Char) : List Char :=
  if c = '"' then ['\\', '"']
  else if c = '\\' then ['\\', '\\']
  else if c = '\x08' then ['\\', 'b']
  else if c = '\x0c' then ['\\', 'f']
  else if c = '\n' then ['\\', 'n']
  else if c = '\r' then ['\\', 'r']
  else if c = '\t' then ['\\', 't']
  else if c.toNat < 0x20 then
    ['\\', 'u', '0', '0', Nat.digitChar (c.toNat / 16), Nat.digitChar (c.toNat % 16)]
  else [c]

def quote (text : String) : List Char :=
  '"' :: text.toList.flatMap escape ++ ['"']

/-- A decimal in positional notation, always with a point. -/
def positional (decimal : Decimal.Scientific) : List Char :=
  if decimal.power < 0 then
    '0' :: '.' :: List.replicate ((-decimal.power).toNat - 1) '0' ++ decimal.digits
  else
    let places := decimal.power.toNat + 1
    let whole := decimal.digits.take places
    let fraction := decimal.digits.drop places
    whole ++ List.replicate (places - whole.length) '0' ++ '.' ::
      (if fraction.isEmpty then ['0'] else fraction)

/-- A decimal with a power of ten after the digits; a positive power has a sign. -/
def exponential (decimal : Decimal.Scientific) : List Char :=
  let mantissa :=
    match decimal.digits with
    | first :: second :: rest => first :: '.' :: second :: rest
    | digits => digits
  let sign := if decimal.power < 0 then '-' else '+'
  mantissa ++ 'e' :: sign :: Nat.toDigits 10 decimal.power.natAbs

def floatText (value : Float) : List Char :=
  let bits := value.toBits
  let magnitude := Decimal.Binary64.ofBits bits
  let unsigned :=
    if magnitude.significand = 0 then ['0', '.', '0']
    else
      let decimal := Decimal.shortest magnitude
      if -5 ≤ decimal.power ∧ decimal.power ≤ 15 then positional decimal
      else exponential decimal
  if Decimal.isNegative bits then '-' :: unsigned else unsigned

def integerText : Int → List Char
  | .ofNat n => Nat.toDigits 10 n
  | .negSucc n => '-' :: Nat.toDigits 10 (n + 1)

def Number.print : Number → List Char
  | .integer value => integerText value
  | .float value => floatText value

namespace Value

mutual

def print : Value → List Char
  | .null => ['n', 'u', 'l', 'l']
  | .boolean true => ['t', 'r', 'u', 'e']
  | .boolean false => ['f', 'a', 'l', 's', 'e']
  | .number numeral => numeral.print
  | .string text => quote text
  | .array items => '[' :: printItems items ++ [']']
  | .object members => '\x7b' :: printMembers members ++ ['\x7d']

def printItems : List Value → List Char
  | [] => []
  | [item] => item.print
  | item :: items => item.print ++ ',' :: printItems items

def printMembers : List (String × Value) → List Char
  | [] => []
  | [(name, value)] => quote name ++ ':' :: value.print
  | (name, value) :: members => quote name ++ ':' :: value.print ++ ',' :: printMembers members

end

def newLine (level : Nat) : List Char :=
  '\n' :: List.replicate (2 * level) ' '

mutual

/-- The characters of the indented text, for a value that stands at a level of nesting. -/
def printIndented (level : Nat) : Value → List Char
  | .array [] => ['[', ']']
  | .array items => '[' :: printIndentedItems (level + 1) items ++ newLine level ++ [']']
  | .object [] => ['\x7b', '\x7d']
  | .object members =>
    '\x7b' :: printIndentedMembers (level + 1) members ++ newLine level ++ ['\x7d']
  | value => value.print

def printIndentedItems (level : Nat) : List Value → List Char
  | [] => []
  | [item] => newLine level ++ printIndented level item
  | item :: items =>
    newLine level ++ printIndented level item ++ ',' :: printIndentedItems level items

def printIndentedMembers (level : Nat) : List (String × Value) → List Char
  | [] => []
  | [(name, value)] =>
    newLine level ++ quote name ++ ':' :: ' ' :: printIndented level value
  | (name, value) :: members =>
    newLine level ++ quote name ++ ':' :: ' ' :: printIndented level value ++
      ',' :: printIndentedMembers level members

end

def compact (value : Value) : String :=
  String.ofList value.print

def indented (value : Value) : String :=
  String.ofList (value.printIndented 0)

end Value
end Json
end GatewayTelemetry
