import GatewayTelemetry.Pattern.Basic
import GatewayTelemetry.Pattern.ByteRange

/-!
# The size of patterns

A pattern is matched by automata over bytes: one that reads a text forwards and notes what groups
capture, and one that reads it backwards and does not. Counted repetitions are written out in them,
so a short pattern may need large ones. A pattern is accepted only if neither automaton takes more
memory than there is a limit for. The memory is reckoned from the pattern alone: each state has a
size of its own, and each choice of a state adds to it.
-/

namespace GatewayTelemetry
namespace Pattern

inductive Direction where
  | forwards
  | backwards
  deriving DecidableEq

namespace Footprint

def state : Nat :=
  32

/-- The size of a state that chooses between other states. -/
def fork (count : Nat) : Nat :=
  state + 4 * count

def reader (count : Nat) : Nat :=
  state + 8 * count

def sum (sizes : List Nat) : Nat :=
  sizes.foldr (· + ·) 0

/-! ## Sets -/

/-- What may follow the states in which an automaton has read part of a shape, itself included;
the bound is on the number of bytes. -/
def futures : Nat → List ByteShape → List (List ByteShape)
  | 0, _ => []
  | bound + 1, shapes =>
    match ByteShape.byFirst shapes with
    | [] => []
    | groups => shapes :: groups.flatMap fun (_, rests) => futures bound rests

/-- The number of different starts of shapes; the bound is on the number of bytes. -/
def starts : Nat → List ByteShape → Nat
  | 0, _ => 0
  | bound + 1, shapes =>
    sum ((ByteShape.byFirst shapes).map fun (_, rests) => starts bound rests + 1)

/-- The size of the states for a set. Forwards, states before the same bytes are one; backwards,
states after the same bytes are. -/
def ofSet (direction : Direction) (set : CharSet) : Nat :=
  if set.isBelow 0x80 then state + reader set.ranges.length
  else
    let shapes := ByteShape.ofSet set
    match direction with
    | .forwards =>
      state + sum ((futures 4 shapes).eraseDups.map fun future =>
        reader (ByteShape.byFirst future).length)
    | .backwards => state + fork shapes.length + state * starts 4 shapes

/-! ## Literals -/

def bytes (direction : Direction) (text : List Char) : List UInt8 :=
  let bytes := text.flatMap String.utf8EncodeChar
  match direction with
  | .forwards => bytes
  | .backwards => bytes.reverse

/-- The size of the states that read one of several texts from where all of them start. Texts that
start with the same byte share a state, unless a text that ends there stands between them. The
bound is on the length of the texts. -/
def branches : Nat → List (List UInt8) → Nat
  | 0, _ => 0
  | bound + 1, texts =>
    if texts.all List.isEmpty then 0
    else
      let chunks := (texts.dropWhile List.isEmpty).splitOnP List.isEmpty
      let ends := chunks.length - 1 + (if texts.head?.any List.isEmpty then 1 else 0)
      let chunks := chunks.filter (!·.isEmpty)
      let readers := chunks.map fun chunk =>
        let firsts := (chunk.filterMap List.head?).eraseDups
        (if firsts.length = 1 then state else reader firsts.length)
          + sum (firsts.map fun first =>
              branches bound ((chunk.filter (·.head? = some first)).map List.tail))
      sum readers + (if chunks.length + ends = 1 then 0 else fork (chunks.length + ends))

def ofTexts (direction : Direction) (texts : List (List Char)) : Nat :=
  let texts := texts.map (bytes direction)
  state + branches ((texts.map List.length).foldl max 0 + 1) texts

/-! ## Patterns -/

/-- The size of the states for a repetition of a pattern, given the size for one round and whether
each round reads something. -/
def ofRounds (round : Nat) (alwaysReads : Bool) : Nat → Option Nat → Nat
  | 0, some 1 => fork 2 + round + state
  | 0, none => if alwaysReads then round + fork 2 else round + fork 2 + fork 2 + state
  | least + 1, none => (least + 1) * round + fork 2
  | least, some most =>
    if least = most then least * round
    else (if least = 0 then state else least * round) + state + (most - least) * (fork 2 + round)

inductive Measure where
  /-- A pattern whose states have a size; it may be a literal. -/
  | plain (size : Nat) (text : Option (List Char))
  /-- A choice between options, for which the sizes of states and forks add up to a number; the
  options may all be literals. -/
  | choice (size : Nat) (texts : Option (List (List Char)))

namespace Measure

def ofSize (size : Nat) : Measure :=
  .plain size none

def size (direction : Direction) : Measure → Nat
  | .plain size _ => size
  | .choice _ (some texts) => ofTexts direction texts
  | .choice size none => state + state + size

/-- What a pattern adds to a choice that has its options as the last ones. -/
def asOptions : Measure → Nat
  | .plain size _ => 4 + size
  | .choice size _ => size

/-- The literals between which a pattern chooses, if it chooses between literals only. -/
def texts? : Measure → Option (List (List Char))
  | .plain _ text => text.map ([·])
  | .choice _ texts => texts

def either (direction : Direction) (first others : Measure) : Measure :=
  .choice (4 + first.size direction + others.asOptions) do
    let texts ← first.texts?
    let others ← others.texts?
    some (texts ++ others)

end Measure

/-- What the size of a pattern is reckoned from. Only forwards are there states for groups. -/
def measure (direction : Direction) : Pattern → Measure
  | .empty => .ofSize state
  | .literal text => .plain (state * sum (text.map Char.utf8Size)) text
  | .one set _ => .ofSize (ofSet direction set)
  | .assert _ => .ofSize state
  | .concat first second =>
    .ofSize ((measure direction first).size direction + (measure direction second).size direction)
  | .alternative first second =>
    .either direction (measure direction first) (measure direction second)
  | .group _ body =>
    .ofSize ((measure direction body).size direction
      + (if direction = .forwards then 2 * state else 0))
  | .repeated least most _ body =>
    .ofSize (ofRounds ((measure direction body).size direction) body.alwaysReads least most)

/-- Whether a pattern can match only where the text starts. -/
def startsText : Pattern → Bool
  | .assert assertion => assertion = .textStart
  | .concat first second =>
    startsText first || (first.matchesOnlyEmpty && startsText second)
  | .alternative first second => startsText first && startsText second
  | .group _ body => startsText body
  | .repeated least _ _ body => least != 0 && startsText body
  | _ => false

/-- Whether a pattern can match only where the text ends. -/
def endsText : Pattern → Bool
  | .assert assertion => assertion = .textEnd
  | .concat first second => endsText second || (second.matchesOnlyEmpty && endsText first)
  | .alternative first second => endsText first && endsText second
  | .group _ body => endsText body
  | .repeated least _ _ body => least != 0 && endsText body
  | _ => false

def skipping (isAnchored : Bool) : Nat :=
  if isAnchored then state else fork 2 + state + reader 1

/-- The size of the automaton for a pattern. Forwards, the match as a whole is captured. -/
def total (direction : Direction) (pattern : Pattern) : Nat :=
  let size := (measure direction pattern).size direction + state
  match direction with
  | .forwards => skipping (startsText pattern) + size + 2 * state
  | .backwards => skipping (endsText pattern) + size

/-- The size that the automata for a pattern may have: ten mebibytes. -/
def limit : Nat :=
  10 * 0x100000

end Footprint

def isWithinLimit (pattern : Pattern) : Bool :=
  Footprint.total .forwards pattern ≤ Footprint.limit
    && Footprint.total .backwards pattern ≤ Footprint.limit

end Pattern
end GatewayTelemetry
