import GatewayTelemetry.Pattern.Flags
import GatewayTelemetry.Text.Hex
import GatewayTelemetry.Unicode.Property

/-!
# Escapes in patterns

An escape is a backslash and what follows it. It stands for a character, a set of characters or an
assertion. Which characters have a property with some name is looked up in a table.
-/

namespace GatewayTelemetry
namespace Pattern

inductive Escape where
  | char (c : Char)
  | set (set : CharSet)
  | assertion (assertion : Assertion)

/-- The character with a code point, unless it is a surrogate or too large. -/
def charOfCode? (code : Nat) : Option Char :=
  if code.isValidChar then some (Char.ofNat code) else none

def fixedHex (flags : Flags) : Nat → Nat → List Char → Option (Nat × List Char)
  | 0, code, text => some (code, text)
  | count + 1, code, text =>
    match flags.skip text with
    | [] => none
    | c :: rest => do
      let digit ← Text.hexValue? c
      fixedHex flags count (code * 16 + digit) rest

def bracedHex (flags : Flags) : Nat → Nat → List Char → Option (Nat × List Char)
  | 0, _, _ => none
  | bound + 1, code, text =>
    match flags.skip text with
    | [] => none
    | c :: rest =>
      if c = '\x7d' then some (code, rest)
      else do
        let digit ← Text.hexValue? c
        bracedHex flags bound (code * 16 + digit) rest

/-- Read the code point of an escape whose letter asks for a number of digits; there may be any
number of them, one at least, between braces. Without Unicode, two digits without braces are a
byte, which has to be one of ASCII. -/
def codePoint (flags : Flags) (count : Nat) (text : List Char) : Option (Escape × List Char) := do
  let (code, rest) ←
    match flags.skip text with
    | '\x7b' :: rest =>
      match flags.skip rest with
      | '\x7d' :: _ => none
      | rest => bracedHex flags (rest.length + 1) 0 rest
    | text =>
      (fixedHex flags count 0 text).filter fun (code, _) =>
        flags.unicode || count != 2 || code < 0x80
  let c ← charOfCode? code
  some (.char c, rest)

def namedEdge? (name : List Char) : Option WordEdge :=
  if name = "start".toList then some .start
  else if name = "end".toList then some .finish
  else if name = "start-half".toList then some .startHalf
  else if name = "end-half".toList then some .finishHalf
  else none

def isEdgeNamePart (c : Char) : Bool :=
  c.isAlpha || c == '-'

def edgeName (flags : Flags) : Nat → List Char → List Char → Option (WordEdge × List Char)
  | 0, _, _ => none
  | bound + 1, name, text =>
    match text with
    | [] => none
    | c :: rest =>
      if isEdgeNamePart c then edgeName flags bound (name ++ [c]) (flags.skip rest)
      else if c = '\x7d' then (namedEdge? name).map (·, rest)
      else none

/-- Read what follows `\b`: a name between braces makes a special edge; a brace before anything but
a letter or hyphen is left for a repetition. -/
def boundary (flags : Flags) (text : List Char) : Option (Escape × List Char) :=
  match text with
  | '\x7b' :: rest =>
    match flags.skip rest with
    | [] => none
    | c :: rest =>
      if isEdgeNamePart c then do
        let (edge, after) ← edgeName flags (rest.length + 2) [] (c :: rest)
        some (.assertion (flags.edge edge), after)
      else some (.assertion (flags.edge .boundary), text)
  | _ => some (.assertion (flags.edge .boundary), text)

/-- What a letter after a backslash stands for. Signs of ASCII stand for themselves. -/
def letterEscape? (flags : Flags) (c : Char) : Option Escape :=
  if c = 'd' then some (.set flags.digit)
  else if c = 'D' then (flags.complement? flags.digit).map .set
  else if c = 's' then some (.set flags.space)
  else if c = 'S' then (flags.complement? flags.space).map .set
  else if c = 'w' then some (.set flags.word)
  else if c = 'W' then (flags.complement? flags.word).map .set
  else if c = 'a' then some (.char '\x07')
  else if c = 'f' then some (.char '\x0c')
  else if c = 't' then some (.char '\t')
  else if c = 'n' then some (.char '\n')
  else if c = 'r' then some (.char '\r')
  else if c = 'v' then some (.char '\x0b')
  else if c = 'A' then some (.assertion .textStart)
  else if c = 'z' then some (.assertion .textEnd)
  else if c = 'B' then some (.assertion (flags.edge .inside))
  else if c = '<' then some (.assertion (flags.edge .start))
  else if c = '>' then some (.assertion (flags.edge .finish))
  else if c.toNat < 0x80 ∧ ¬c.isAlphanum then some (.char c)
  else none

/-- Read the name of a property through the closing brace; the bound is on its length. -/
def bracedName (flags : Flags) : Nat → List Char → List Char → Option (List Char × List Char)
  | 0, _, _ => none
  | bound + 1, name, text =>
    match flags.skip text with
    | [] => none
    | c :: rest =>
      if c = '\x7d' then some (name, rest) else bracedName flags bound (name ++ [c]) rest

/-- Read the name of a property, which is one character or stands between braces. -/
def propertyName (flags : Flags) (text : List Char) : Option (List Char × List Char) :=
  match flags.skip text with
  | [] => none
  | c :: rest =>
    if c = '\x7b' then bracedName flags (rest.length + 1) [] rest
    else if c = '\\' then none
    else some ([c], rest)

/-- Read what follows `\p` or, where the other characters are meant, `\P`; without Unicode there are
no properties. -/
def property (properties : Unicode.Properties) (flags : Flags) (negated : Bool)
    (text : List Char) : Option (Escape × List Char) := do
  let (name, rest) ← propertyName flags text
  let ranges ← properties.find? name
  if flags.unicode then
    let set ← flags.finish? negated (.ofCodes ranges)
    some (.set set, rest)
  else none

def escape (properties : Unicode.Properties) (flags : Flags) :
    List Char → Option (Escape × List Char)
  | [] => none
  | c :: text =>
    if c = 'x' then codePoint flags 2 text
    else if c = 'u' then codePoint flags 4 text
    else if c = 'U' then codePoint flags 8 text
    else if c = 'b' then boundary flags text
    else if c = 'p' then property properties flags false text
    else if c = 'P' then property properties flags true text
    else (letterEscape? flags c).map (·, text)

def Escape.toPattern (flags : Flags) : Escape → Pattern
  | .char c => flags.letter c
  | .set chars => flags.ofSet chars
  | .assertion condition => .assert condition

end Pattern
end GatewayTelemetry
