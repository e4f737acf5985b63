import GatewayTelemetry.Text.Blank
import GatewayTelemetry.Unicode.CodeRange
import GatewayTelemetry.Unicode.Fold
import GatewayTelemetry.Unicode.Word

/-!
# Sets of characters

A set of characters is a list of ranges of code points in ascending order, with a gap between any
two of them and without surrogates. So each set is written in one way: two sets that hold the same
characters are equal.
-/

namespace GatewayTelemetry
namespace Pattern

open Unicode (CodeRange)

structure CharSet where
  ranges : List CodeRange
  deriving DecidableEq, Inhabited

namespace CharSet

def hasCode (set : CharSet) (code : Nat) : Bool :=
  CodeRange.anyContains set.ranges code

def contains (set : CharSet) (c : Char) : Bool :=
  set.hasCode c.toNat

def empty : CharSet :=
  ⟨[]⟩

/-- Put a range among ranges, joining it with those that it meets. -/
def insertRange (range : CodeRange) : List CodeRange → List CodeRange
  | [] => [range]
  | first :: rest =>
    if range.high + 1 < first.low then range :: first :: rest
    else if first.high + 1 < range.low then first :: insertRange range rest
    else insertRange ⟨min first.low range.low, max first.high range.high⟩ rest

def ofRanges (ranges : List CodeRange) : CharSet :=
  ⟨ranges.foldl (fun placed range => insertRange range placed) []⟩

/-- The parts of a range before and after the surrogates. -/
def scalarParts (range : CodeRange) : List CodeRange :=
  (if range.low < 0xd800 then [⟨range.low, min range.high 0xd7ff⟩] else [])
    ++ (if 0xdfff < range.high then [⟨max range.low 0xe000, range.high⟩] else [])

/-- The set of the characters in ranges of any kind. Ranges that run backwards hold nothing. -/
def ofCodes (ranges : List CodeRange) : CharSet :=
  ofRanges ((ranges.filter fun range => range.low ≤ range.high).flatMap scalarParts)

def range (low high : Char) : CharSet :=
  ofRanges (scalarParts ⟨low.toNat, high.toNat⟩)

def single (c : Char) : CharSet :=
  ⟨[⟨c.toNat, c.toNat⟩]⟩

def ofList (chars : List Char) : CharSet :=
  ofRanges (chars.map fun c => ⟨c.toNat, c.toNat⟩)

def union (left right : CharSet) : CharSet :=
  ⟨right.ranges.foldl (fun placed range => insertRange range placed) left.ranges⟩

/-- The ranges between ranges, from a code point on. -/
def gaps (start : Nat) : List CodeRange → List CodeRange
  | [] => if start ≤ 0x10ffff then [⟨start, 0x10ffff⟩] else []
  | first :: rest =>
    if start < first.low then ⟨start, first.low - 1⟩ :: gaps (first.high + 1) rest
    else gaps (first.high + 1) rest

def complement (set : CharSet) : CharSet :=
  ⟨(gaps 0 set.ranges).flatMap scalarParts⟩

def inter (left right : CharSet) : CharSet :=
  (left.complement.union right.complement).complement

def minus (left right : CharSet) : CharSet :=
  left.inter right.complement

def symmetricDifference (left right : CharSet) : CharSet :=
  (left.minus right).union (right.minus left)

def single? (set : CharSet) : Option Char :=
  match set.ranges with
  | [range] =>
    if range.low = range.high ∧ range.low.isValidChar then some (Char.ofNat range.low) else none
  | _ => none

def isBelow (set : CharSet) (code : Nat) : Bool :=
  set.ranges.all (·.high < code)

/-! ## Letter cases -/

def insertCode (set : CharSet) (code : Nat) : CharSet :=
  if set.hasCode code then set else ⟨insertRange ⟨code, code⟩ set.ranges⟩

/-- A set with all letters added that fold to the same letter as one in it. First the letters are
added that members fold to, then those that fold to members. -/
def closeUnder (foldings : List (Nat × Nat)) (set : CharSet) : CharSet :=
  let folded := foldings.foldl
    (fun found (code, target) => if set.hasCode code then found.insertCode target else found) set
  foldings.foldl
    (fun found (code, target) => if folded.hasCode target then found.insertCode code else found)
    folded

def anyCase (set : CharSet) : CharSet :=
  set.closeUnder Unicode.foldings

def anyAsciiCase (set : CharSet) : CharSet :=
  set.closeUnder (Unicode.foldings.filter fun (code, _) => code < 0x80)

/-! ## Named sets -/

def asciiDigit : CharSet :=
  range '0' '9'

def asciiLetter : CharSet :=
  ofRanges [⟨0x41, 0x5a⟩, ⟨0x61, 0x7a⟩]

def asciiSpace : CharSet :=
  ofRanges [⟨0x9, 0xd⟩, ⟨0x20, 0x20⟩]

def asciiWord : CharSet :=
  asciiLetter.union (asciiDigit.union (single '_'))

def digit : CharSet :=
  ⟨Unicode.digits⟩

def space : CharSet :=
  ofList Text.blanks

def word : CharSet :=
  ofRanges (Unicode.letters ++ Unicode.digits ++ Unicode.wordSigns)

def except (chars : List Char) : CharSet :=
  (ofList chars).complement

end CharSet

end Pattern
end GatewayTelemetry
