import GatewayTelemetry.Unicode.Word

/-!
# Assertions in patterns

An assertion is a condition on the place between two characters. It looks at the character before
the place and at the one after it, of which there is none at the ends of the text.
-/

namespace GatewayTelemetry
namespace Pattern

inductive WordEdge where
  | boundary
  | inside
  | start
  | finish
  | startHalf
  | finishHalf
  deriving DecidableEq, Inhabited

inductive Assertion where
  | textStart
  | textEnd
  /-- A line starts; it may also do so after a carriage return. -/
  | lineStart (afterReturn : Bool)
  /-- A line ends; it may also do so before a carriage return. -/
  | lineEnd (beforeReturn : Bool)
  /-- A condition on words, which may be those of ASCII. -/
  | word (edge : WordEdge) (isAscii : Bool)
  deriving DecidableEq, Inhabited

def isAsciiWord (c : Char) : Bool :=
  c.isAlphanum || c == '_'

/-- Whether a place is such an edge, given whether a word character is before and after it. -/
def WordEdge.holds (edge : WordEdge) (before after : Bool) : Bool :=
  match edge with
  | .boundary => before != after
  | .inside => before == after
  | .start => !before && after
  | .finish => before && !after
  | .startHalf => !before
  | .finishHalf => !after

/-- Whether an assertion holds between the character before a place and the one after it. Where
carriage returns count, one before a line feed belongs to the same line end. -/
def Assertion.holds (assertion : Assertion) (before after : Option Char) : Bool :=
  match assertion with
  | .textStart => before.isNone
  | .textEnd => after.isNone
  | .lineStart false => before.isNone || before == some '\n'
  | .lineStart true =>
    before.isNone || before == some '\n' || (before == some '\r' && after != some '\n')
  | .lineEnd false => after.isNone || after == some '\n'
  | .lineEnd true =>
    after.isNone || after == some '\r' || (after == some '\n' && before != some '\r')
  | .word edge isAscii =>
    let isWord := if isAscii then isAsciiWord else Unicode.isWord
    edge.holds (before.any isWord) (after.any isWord)

end Pattern
end GatewayTelemetry
