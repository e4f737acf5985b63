import GatewayTelemetry.Json.Printer
import GatewayTelemetry.Text.Quoted

/-!
# Why a JSON text is refused

A reader that refuses a text gives a fault: the reason, the text that it had not consumed, and
how many bytes of that text count as read. An error is a reason with the line and the column that
follow from the fault. Lines count from one; the column is the number of bytes on the line up to
the position. Positions are in bytes of the UTF-8 text.
-/

namespace GatewayTelemetry
namespace Json

inductive Kind where
  | null
  | boolean (value : Bool)
  | number (value : Number)
  | string (text : String)
  | sequence
  | map

def Value.kind : Value → Kind
  | .null => .null
  | .boolean value => .boolean value
  | .number value => .number value
  | .string text => .string text
  | .array _ => .sequence
  | .object _ => .map

def Kind.describe : Kind → String
  | .null => "null"
  | .boolean true => "boolean `true`"
  | .boolean false => "boolean `false`"
  | .number (.integer value) => "integer `" ++ String.ofList (integerText value) ++ "`"
  | .number (.float value) => "floating point `" ++ String.ofList (floatText value) ++ "`"
  | .string text => "string " ++ Text.quoted text
  | .sequence => "sequence"
  | .map => "map"

inductive Reason where
  | endInValue
  | endInString
  | endInList
  | endInObject
  /-- A word that starts like `null`, `true` or `false` goes on otherwise. -/
  | unknownWord
  | noValue
  | noColon
  | noListEnd
  | noObjectEnd
  | trailingComma
  | trailingText
  | nameNotText
  /-- A number lacks a digit, or has a leading zero. -/
  | malformedNumber
  | numberRange
  | controlCharacter
  | unknownEscape
  | loneSurrogate
  /-- The first half of a surrogate pair is not followed by an escape. -/
  | brokenPair
  | tooDeep
  | wrongKind (found : Kind) (expected : String)
  | missingMember (name : String)
  | repeatedMember (name : String)
  | wrongLength (count : Nat) (expected : String)
  | unknownName (name : String) (known : List String)
  | noForm (structureName : String)

def Reason.message : Reason → String
  | .endInValue => "EOF while parsing a value"
  | .endInString => "EOF while parsing a string"
  | .endInList => "EOF while parsing a list"
  | .endInObject => "EOF while parsing an object"
  | .unknownWord => "expected ident"
  | .noValue => "expected value"
  | .noColon => "expected `:`"
  | .noListEnd => "expected `,` or `]`"
  | .noObjectEnd => "expected `,` or `\x7d`"
  | .trailingComma => "trailing comma"
  | .trailingText => "trailing characters"
  | .nameNotText => "key must be a string"
  | .malformedNumber => "invalid number"
  | .numberRange => "number out of range"
  | .controlCharacter =>
    "control character (\\u0000-\\u001F) found while parsing a string"
  | .unknownEscape => "invalid escape"
  | .loneSurrogate => "lone leading surrogate in hex escape"
  | .brokenPair => "unexpected end of hex escape"
  | .tooDeep => "recursion limit exceeded"
  | .wrongKind found expected => "invalid type: " ++ found.describe ++ ", expected " ++ expected
  | .missingMember name => "missing field `" ++ name ++ "`"
  | .repeatedMember name => "duplicate field `" ++ name ++ "`"
  | .wrongLength count expected =>
    "invalid length " ++ toString count ++ ", expected " ++ expected
  | .unknownName name known =>
    "unknown variant `" ++ name ++ "`, expected one of " ++
      ", ".intercalate (known.map fun each => "`" ++ each ++ "`")
  | .noForm structureName =>
    "data did not match any variant of untagged enum " ++ structureName

structure Error where
  reason : Reason
  line : Nat
  /-- Bytes on that line up to the position. -/
  column : Nat

def Error.message (error : Error) : String :=
  error.reason.message ++ " at line " ++ toString error.line ++
    " column " ++ toString error.column

def byteCount (text : List Char) : Nat :=
  text.foldr (fun c count => c.utf8Size + count) 0

/-- A reason, the text not consumed when it was met, and how many bytes of that text count as
read. -/
structure Fault where
  reason : Reason
  rest : List Char
  /-- Bytes of `rest` that count as read; only the bytes there are count. -/
  ahead : Nat

def Fault.here (reason : Reason) (rest : List Char) : Fault :=
  ⟨reason, rest, 0⟩

/-- A fault at the next byte, which counts as read. -/
def Fault.next (reason : Reason) (rest : List Char) : Fault :=
  ⟨reason, rest, 1⟩

/-- Line and column after the first `bytes` bytes of a text, from a line and column before it. -/
def position : List Char → Nat → Nat → Nat → Nat × Nat
  | [], _, line, column => (line, column)
  | c :: text, bytes, line, column =>
    if bytes = 0 then (line, column)
    else if c = '\n' then position text (bytes - 1) (line + 1) 0
    else position text (bytes - c.utf8Size) line (column + min bytes c.utf8Size)

/-- The error that a fault is in the whole text. -/
def Fault.toError (text : List Char) (fault : Fault) : Error :=
  let (line, column) :=
    position text (byteCount text - byteCount fault.rest + fault.ahead) 1 0
  ⟨fault.reason, line, column⟩

abbrev Reader (α : Type) :=
  List Char → Except Fault (α × List Char)

end Json
end GatewayTelemetry
