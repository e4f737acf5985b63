import GatewayTelemetry.Pattern.CharSet

/-!
# Characters as ranges of bytes

In UTF-8 the characters of a set are finitely many shapes, each a short list of byte ranges: a
character has a shape if each of its bytes is in the range at its place. The shapes of a range of
code points are those that come from cutting it where leading digits to the base 64 change.
-/

namespace GatewayTelemetry
namespace Pattern

open Unicode (CodeRange)

structure ByteRange where
  low : Nat
  high : Nat
  deriving DecidableEq

/-- The byte ranges at the places of a character. -/
abbrev ByteShape :=
  List ByteRange

namespace ByteShape

def continuation : ByteRange :=
  ⟨0x80, 0xbf⟩

def after (byte : Nat) (shape : ByteShape) : ByteShape :=
  ⟨byte, byte⟩ :: shape

/-- The shapes of the numbers from one through another, written with one digit to the base 64 more
than stated. The first byte is the leading digit plus a mark, the others are continuations. -/
def ofDigits (mark : Nat) : Nat → Nat → Nat → List ByteShape
  | 0, low, high => [[⟨mark + low, mark + high⟩]]
  | count + 1, low, high =>
    let size := 1 <<< (6 * (count + 1))
    let first := low / size
    let last := high / size
    if first = last then
      (ofDigits 0x80 count (low % size) (high % size)).map (after (mark + first))
    else
      let isWhole := low % size = 0
      let isFull := high % size = size - 1
      let start := if isWhole then first else first + 1
      let finish := if isFull then last + 1 else last
      (if isWhole then []
        else (ofDigits 0x80 count (low % size) (size - 1)).map (after (mark + first)))
      ++ (if start < finish then
        [⟨mark + start, mark + finish - 1⟩ :: List.replicate (count + 1) continuation] else [])
      ++ (if isFull then []
        else (ofDigits 0x80 count 0 (high % size)).map (after (mark + last)))

/-- The shapes of the code points of a range that have a number of bytes after the first. -/
def ofLength (range : CodeRange) (mark count least most : Nat) : List ByteShape :=
  if max range.low least ≤ min range.high most then
    ofDigits mark count (max range.low least) (min range.high most)
  else []

def ofRange (range : CodeRange) : List ByteShape :=
  ofLength range 0 0 0 0x7f ++ ofLength range 0xc0 1 0x80 0x7ff
    ++ ofLength range 0xe0 2 0x800 0xffff ++ ofLength range 0xf0 3 0x10000 0x10ffff

def ofSet (set : CharSet) : List ByteShape :=
  set.ranges.flatMap ofRange

/-- Shapes in ascending order, put together by their first range. -/
def byFirst (shapes : List ByteShape) : List (ByteRange × List ByteShape) :=
  shapes.foldr
    (fun shape groups =>
      match shape, groups with
      | [], groups => groups
      | first :: rest, (range, rests) :: others =>
        if first = range then (range, rest :: rests) :: others
        else (first, [rest]) :: (range, rests) :: others
      | first :: rest, [] => [(first, [rest])])
    []

end ByteShape

end Pattern
end GatewayTelemetry
