import GatewayTelemetry.Pattern.Basic
import GatewayTelemetry.Text.Blank

/-!
# Flags in patterns

Flags change what the pieces of a pattern mean. Where the flag for Unicode is off, letters and sets
are those of ASCII, and nothing may be written that could match a part of another character.
-/

namespace GatewayTelemetry
namespace Pattern

structure Flags where
  ignoreCase : Bool
  /-- Line ends count as ends for `^` and `$`. -/
  multiLine : Bool
  dotAll : Bool
  /-- Repetitions prefer fewer rounds, and lazy ones more. -/
  swapGreed : Bool
  spaced : Bool
  unicode : Bool
  returns : Bool
  deriving DecidableEq, Inhabited

/-- The flags in force at the start of a pattern: the one for Unicode. -/
def Flags.initial : Flags :=
  ⟨false, false, false, false, false, true, false⟩

/-- The text after blanks and comments; a comment runs from `#` to the end of its line. -/
def skipComments (inComment : Bool) : List Char → List Char
  | [] => []
  | c :: text =>
    if inComment then skipComments (c != '\n') text
    else if c = '#' then skipComments true text
    else if Text.isBlank c then skipComments false text
    else c :: text

namespace Flags

def skip (flags : Flags) (text : List Char) : List Char :=
  if flags.spaced then skipComments false text else text

def change (flags : Flags) (letter : Char) (on : Bool) : Option Flags :=
  if letter = 'i' then some { flags with ignoreCase := on }
  else if letter = 'm' then some { flags with multiLine := on }
  else if letter = 's' then some { flags with dotAll := on }
  else if letter = 'U' then some { flags with swapGreed := on }
  else if letter = 'x' then some { flags with spaced := on }
  else if letter = 'u' then some { flags with unicode := on }
  else if letter = 'R' then some { flags with returns := on }
  else none

/-! ## Sets -/

def withCase (flags : Flags) (set : CharSet) : CharSet :=
  if ¬flags.ignoreCase then set
  else if flags.unicode then set.anyCase
  else set.anyAsciiCase

/-- The characters that are not in a set; without Unicode there is no such set. -/
def complement? (flags : Flags) (set : CharSet) : Option CharSet :=
  if flags.unicode then some set.complement else none

/-- A set in the cases that the flags ask for, or the characters that are not in it. -/
def finish? (flags : Flags) (negated : Bool) (set : CharSet) : Option CharSet :=
  if negated then flags.complement? (flags.withCase set) else some (flags.withCase set)

/-- The set of a character that is listed in a set; without Unicode it has to be one of ASCII. -/
def listed? (flags : Flags) (c : Char) : Option CharSet :=
  if flags.unicode ∨ c.toNat < 0x80 then some (.single c) else none

def digit (flags : Flags) : CharSet :=
  if flags.unicode then .digit else .asciiDigit

def space (flags : Flags) : CharSet :=
  if flags.unicode then .space else .asciiSpace

def word (flags : Flags) : CharSet :=
  if flags.unicode then .word else .asciiWord

/-! ## Pieces -/

def ofSet (flags : Flags) (set : CharSet) : Pattern :=
  Pattern.ofSet set (!flags.unicode)

def letter (flags : Flags) (c : Char) : Pattern :=
  flags.ofSet (flags.withCase (.single c))

/-- The pattern of a point; without Unicode there is none. -/
def point? (flags : Flags) : Option Pattern :=
  if ¬flags.unicode then none
  else if flags.dotAll then some (flags.ofSet (.except []))
  else if flags.returns then some (flags.ofSet (.except ['\r', '\n']))
  else some (flags.ofSet (.except ['\n']))

def start (flags : Flags) : Assertion :=
  if flags.multiLine then .lineStart flags.returns else .textStart

def finish (flags : Flags) : Assertion :=
  if flags.multiLine then .lineEnd flags.returns else .textEnd

def edge (flags : Flags) (edge : WordEdge) : Assertion :=
  .word edge (!flags.unicode)

/-- A repetition, which is greedy unless it is lazy, or the other way round. -/
def rounds (flags : Flags) (least : Nat) (most : Option Nat) (isLazy : Bool) (body : Pattern) :
    Pattern :=
  Pattern.rounds least most (isLazy == flags.swapGreed) body

end Flags

end Pattern
end GatewayTelemetry
