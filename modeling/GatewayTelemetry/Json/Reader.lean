import GatewayTelemetry.Json.Number
import GatewayTelemetry.Text.Hex

/-!
# Reading JSON

The reader of values consumes a value and leaves the rest of the text. How deep arrays and objects
may nest is an argument: each array or object that is open takes one level, and closing it gives
the level back, so siblings do not add up.

The members of an object are read in the order in which they stand. `Json.parse` reads a whole
document and gives the normalized value.
-/

namespace GatewayTelemetry
namespace Json

/-- The blanks of the format: space, tab, line feed and carriage return. -/
def isSpace (c : Char) : Bool :=
  c == ' ' || c == '\n' || c == '\t' || c == '\r'

def skipSpace (text : List Char) : List Char :=
  text.dropWhile isSpace

/-! ## Words -/

def expectWord : List Char → List Char → Except Fault (List Char)
  | [], text => .ok text
  | _ :: _, [] => .error (.here .endInValue [])
  | expected :: word, c :: text =>
    if c = expected then expectWord word text else .error (.next .unknownWord (c :: text))

/-! ## Strings -/

/-- Read the four hexadecimal digits of an escape. Four bytes are consumed whatever they are;
with fewer left, all are. -/
def hexEscape (text : List Char) : Except Fault (Nat × List Char) :=
  if byteCount text < 4 then .error (.here .endInString [])
  else
    match text with
    | a :: b :: c :: d :: rest =>
      match Text.hexValue? a, Text.hexValue? b, Text.hexValue? c, Text.hexValue? d with
      | some a, some b, some c, some d => .ok (((a * 16 + b) * 16 + c) * 16 + d, rest)
      | _, _, _, _ => .error ⟨.unknownEscape, text, 4⟩
    | _ => .error ⟨.unknownEscape, text, 4⟩

/-- A code unit that is the first half of a surrogate pair. -/
def isHighSurrogate (unit : Nat) : Bool :=
  0xD800 ≤ unit && unit ≤ 0xDBFF

/-- A code unit that is the second half of a surrogate pair. -/
def isLowSurrogate (unit : Nat) : Bool :=
  0xDC00 ≤ unit && unit ≤ 0xDFFF

def pairedChar (high low : Nat) : Char :=
  Char.ofNat (0x10000 + (high - 0xD800) * 0x400 + (low - 0xDC00))

/-- Read the second half of a surrogate pair, an escape of its own. -/
def secondHalf (high : Nat) : List Char → Except Fault (Char × List Char)
  | [] => .error (.here .endInString [])
  | '\\' :: [] => .error (.here .endInString [])
  | '\\' :: 'u' :: text => do
    let (low, rest) ← hexEscape text
    if isLowSurrogate low then .ok (pairedChar high low, rest)
    else .error (.here .loneSurrogate rest)
  | '\\' :: text => .error (.next .brokenPair text)
  | text => .error (.next .brokenPair text)

/-- Read the digits of a `\u` escape, and its second half if it is a surrogate. -/
def unicodeEscape (text : List Char) : Except Fault (Char × List Char) := do
  let (unit, rest) ← hexEscape text
  if isLowSurrogate unit then .error (.here .loneSurrogate rest)
  else if isHighSurrogate unit then secondHalf unit rest
  else .ok (Char.ofNat unit, rest)

def escapedChar? (c : Char) : Option Char :=
  if c = '"' then some '"'
  else if c = '\\' then some '\\'
  else if c = '/' then some '/'
  else if c = 'b' then some '\x08'
  else if c = 'f' then some '\x0c'
  else if c = 'n' then some '\n'
  else if c = 'r' then some '\r'
  else if c = 't' then some '\t'
  else none

def escapeSequence : List Char → Except Fault (Char × List Char)
  | [] => .error (.here .endInString [])
  | c :: text =>
    if c = 'u' then unicodeEscape text
    else
      match escapedChar? c with
      | some plain => .ok (plain, text)
      | none => .error (.next .unknownEscape (c :: text))

/-- Read string contents through the closing quotation mark; the first argument bounds the number
of characters. -/
def contents : Nat → List Char → Except Fault (List Char × List Char)
  | _, [] => .error (.here .endInString [])
  | 0, text => .error (.here .endInString text)
  | bound + 1, c :: text =>
    if c = '"' then .ok ([], text)
    else if c = '\\' then do
      let (plain, text) ← escapeSequence text
      let (chars, rest) ← contents bound text
      .ok (plain :: chars, rest)
    else if c.toNat < 0x20 then .error (.next .controlCharacter (c :: text))
    else do
      let (chars, rest) ← contents bound text
      .ok (c :: chars, rest)

def string (text : List Char) : Except Fault (String × List Char) := do
  let (chars, rest) ← contents text.length text
  .ok (String.ofList chars, rest)

/-! ## Scalars -/

/-- Read a value that is neither an array nor an object, at its first character. -/
def scalar : Reader Value
  | [] => .error (.next .endInValue [])
  | c :: text =>
    if c = 'n' then do
      let rest ← expectWord ['u', 'l', 'l'] text
      .ok (.null, rest)
    else if c = 't' then do
      let rest ← expectWord ['r', 'u', 'e'] text
      .ok (.boolean true, rest)
    else if c = 'f' then do
      let rest ← expectWord ['a', 'l', 's', 'e'] text
      .ok (.boolean false, rest)
    else if c = '"' then do
      let (chars, rest) ← string text
      .ok (.string chars, rest)
    else if c = '-' then do
      let (numeral, rest) ← number true text
      .ok (.number numeral, rest)
    else if c.isDigit then do
      let (numeral, rest) ← number false (c :: text)
      .ok (.number numeral, rest)
    else .error (.next .noValue (c :: text))

/-! ## Arrays -/

/-- Go to the next item of an array, which is the first one or comes after an item; the answer is
whether there is one, and the closing bracket is consumed if there is none. -/
def nextItem (first : Bool) (text : List Char) : Except Fault (Bool × List Char) :=
  match skipSpace text with
  | [] => .error (.next .endInList [])
  | c :: rest =>
    if c = ']' then .ok (false, rest)
    else if first then .ok (true, c :: rest)
    else if c = ',' then
      match skipSpace rest with
      | [] => .error (.next .endInValue [])
      | d :: rest =>
        if d = ']' then .error (.next .trailingComma (d :: rest)) else .ok (true, d :: rest)
    else .error (.next .noListEnd (c :: rest))

def items {α : Type} (item : Reader α) : Nat → Bool → Reader (List α)
  | 0, _, text => .error (.next .endInList text)
  | bound + 1, first, text => do
    let (found, text) ← nextItem first text
    if found then
      let (head, text) ← item text
      let (tail, text) ← items item bound false text
      .ok (head :: tail, text)
    else .ok ([], text)

/-! ## Objects -/

/-- Go to the next member of an object, which is the first one or comes after a member, and read
its name; the closing brace is consumed if there is none. -/
def nextName (first : Bool) (text : List Char) : Except Fault (Option String × List Char) :=
  match skipSpace text with
  | [] => .error (.next .endInObject [])
  | c :: rest =>
    if c = '\x7d' then .ok (none, rest)
    else if first then
      if c = '"' then do
        let (name, rest) ← string rest
        .ok (some name, rest)
      else .error (.next .nameNotText (c :: rest))
    else if c = ',' then
      match skipSpace rest with
      | [] => .error (.next .endInValue [])
      | d :: rest =>
        if d = '"' then do
          let (name, rest) ← string rest
          .ok (some name, rest)
        else if d = '\x7d' then .error (.next .trailingComma (d :: rest))
        else .error (.next .nameNotText (d :: rest))
    else .error (.next .noObjectEnd (c :: rest))

def colon (text : List Char) : Except Fault (List Char) :=
  match skipSpace text with
  | [] => .error (.next .endInObject [])
  | c :: rest => if c = ':' then .ok rest else .error (.next .noColon (c :: rest))

def members {α : Type} (item : Reader α) : Nat → Bool → Reader (List (String × α))
  | 0, _, text => .error (.next .endInObject text)
  | bound + 1, first, text => do
    let (found, text) ← nextName first text
    match found with
    | none => .ok ([], text)
    | some name =>
      let text ← colon text
      let (head, text) ← item text
      let (tail, text) ← members item bound false text
      .ok ((name, head) :: tail, text)

/-! ## Values and documents -/

/-- Read a value in which at most `depth` arrays and objects are open at once. -/
def value : Nat → Reader Value
  | 0, text =>
    match skipSpace text with
    | [] => scalar []
    | c :: text =>
      if c = '[' ∨ c = '\x7b' then .error (.next .tooDeep (c :: text)) else scalar (c :: text)
  | depth + 1, text =>
    match skipSpace text with
    | [] => scalar []
    | c :: text =>
      if c = '[' then do
        let (list, rest) ← items (value depth) (text.length + 1) true text
        .ok (.array list, rest)
      else if c = '\x7b' then do
        let (list, rest) ← members (value depth) (text.length + 1) true text
        .ok (.object list, rest)
      else scalar (c :: text)

def depthLimit : Nat :=
  127

def document {α : Type} (reader : Reader α) (text : String) : Except Error α :=
  let read : Except Fault α := do
    let (result, rest) ← reader text.toList
    match skipSpace rest with
    | [] => .ok result
    | rest => .error (.next .trailingText rest)
  read.mapError (Fault.toError text.toList)

def parse (text : String) : Except Error Value :=
  (document (value depthLimit) text).map Value.normalize

end Json
end GatewayTelemetry
