import GatewayTelemetry.Json.Reader

/-!
# Skipping values

A value that nobody asks for is passed over by a scanner that is looser than the reader: numbers
have no range, surrogates need no partner, and arrays and objects may nest without limit. After a
comma the scanner expects the next item or member at once.
-/

namespace GatewayTelemetry
namespace Json
namespace Skip

def escapeSequence : List Char → Except Fault (List Char)
  | [] => .error (.here .endInString [])
  | c :: text =>
    if c = 'u' then do
      let (_, rest) ← hexEscape text
      .ok rest
    else
      match escapedChar? c with
      | some _ => .ok text
      | none => .error (.next .unknownEscape (c :: text))

/-- The text after a string, from behind its opening quotation mark; the first argument bounds
the number of characters. -/
def string : Nat → List Char → Except Fault (List Char)
  | _, [] => .error (.here .endInString [])
  | 0, text => .error (.here .endInString text)
  | bound + 1, c :: text =>
    if c = '"' then .ok text
    else if c = '\\' then do
      let text ← escapeSequence text
      string bound text
    else if c.toNat < 0x20 then .error (.here .controlCharacter (c :: text))
    else string bound text

def exponentValue : List Char → Except Fault (List Char)
  | [] => .error (.here .malformedNumber [])
  | c :: text =>
    if c.isDigit then .ok (text.dropWhile Char.isDigit)
    else .error (.next .malformedNumber (c :: text))

def exponent : List Char → Except Fault (List Char)
  | '+' :: text => exponentValue text
  | '-' :: text => exponentValue text
  | text => exponentValue text

def afterFraction : List Char → Except Fault (List Char)
  | 'e' :: text => exponent text
  | 'E' :: text => exponent text
  | text => .ok text

def afterInteger : List Char → Except Fault (List Char)
  | '.' :: c :: text =>
    if c.isDigit then afterFraction (text.dropWhile Char.isDigit)
    else .error (.next .malformedNumber (c :: text))
  | '.' :: [] => .error (.next .malformedNumber [])
  | text => afterFraction text

def number : List Char → Except Fault (List Char)
  | [] => .error (.here .malformedNumber [])
  | '0' :: text =>
    match text with
    | [] => .ok []
    | c :: rest =>
      if c.isDigit then .error (.next .malformedNumber (c :: rest)) else afterInteger (c :: rest)
  | c :: text =>
    if c.isDigit then afterInteger (text.dropWhile Char.isDigit)
    else .error (.next .malformedNumber (c :: text))

/-- The text after a value that is neither an array nor an object, from its first character. -/
def scalar : List Char → Except Fault (List Char)
  | [] => .error (.next .endInValue [])
  | c :: text =>
    if c = 'n' then expectWord ['u', 'l', 'l'] text
    else if c = 't' then expectWord ['r', 'u', 'e'] text
    else if c = 'f' then expectWord ['a', 'l', 's', 'e'] text
    else if c = '"' then string text.length text
    else if c = '-' then number text
    else if c.isDigit then number (c :: text)
    else .error (.next .noValue (c :: text))

def items (item : List Char → Except Fault (List Char)) : Nat → List Char →
    Except Fault (List Char)
  | 0, text => .error (.next .endInList text)
  | bound + 1, text =>
    match skipSpace text with
    | [] => .error (.next .endInList [])
    | c :: rest =>
      if c = ']' then .ok rest
      else if c = ',' then do
        let rest ← item rest
        items item bound rest
      else .error (.next .noListEnd (c :: rest))

def array (item : List Char → Except Fault (List Char)) (text : List Char) :
    Except Fault (List Char) :=
  match skipSpace text with
  | [] => .error (.next .endInList [])
  | c :: rest =>
    if c = ']' then .ok rest
    else do
      let rest ← item (c :: rest)
      items item text.length rest

def member (item : List Char → Except Fault (List Char)) (text : List Char) :
    Except Fault (List Char) :=
  match skipSpace text with
  | [] => .error (.next .endInObject [])
  | c :: rest =>
    if c = '"' then do
      let rest ← string rest.length rest
      let rest ← colon rest
      item rest
    else .error (.next .nameNotText (c :: rest))

def members (item : List Char → Except Fault (List Char)) : Nat → List Char →
    Except Fault (List Char)
  | 0, text => .error (.next .endInObject text)
  | bound + 1, text =>
    match skipSpace text with
    | [] => .error (.next .endInObject [])
    | c :: rest =>
      if c = '\x7d' then .ok rest
      else if c = ',' then do
        let rest ← member item rest
        members item bound rest
      else .error (.next .noObjectEnd (c :: rest))

def object (item : List Char → Except Fault (List Char)) (text : List Char) :
    Except Fault (List Char) :=
  match skipSpace text with
  | [] => .error (.next .endInObject [])
  | c :: rest =>
    if c = '\x7d' then .ok rest
    else do
      let rest ← member item (c :: rest)
      members item text.length rest

/-- The text after a value in which at most the given number of arrays and objects is open at
once. -/
def value : Nat → List Char → Except Fault (List Char)
  | 0, text => scalar (skipSpace text)
  | depth + 1, text =>
    match skipSpace text with
    | [] => scalar []
    | c :: text =>
      if c = '[' then array (value depth) text
      else if c = '\x7b' then object (value depth) text
      else scalar (c :: text)

end Skip

/-- The text after a value of any depth: no more arrays and objects can be open than there are
characters. -/
def skip (text : List Char) : Except Fault (List Char) :=
  Skip.value text.length text

end Json
end GatewayTelemetry
