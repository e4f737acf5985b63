import GatewayTelemetry.Pattern.Assertion
import GatewayTelemetry.Pattern.CharSet

/-!
# Topic patterns

A pattern is a regular expression with capturing groups, assertions about the place between two
characters, and repetitions that prefer more or fewer rounds. Which flags were in force where a
piece of a pattern was written is resolved in the tree: a letter that matches all its cases is a
set, and a point that excludes line feeds is the complement of one. A set that was written where
Unicode is off matches what the same set matches elsewhere, but the two are not the same pattern.

Patterns are put together by functions that keep them in a normal form: neighbouring literals are
joined, options that are single characters become a set, and what all options of a choice start
with stands before the choice. The last rule also settles preference: in a choice between options
with a common start, ways through the start are preferred over the order of the options.
-/

namespace GatewayTelemetry

inductive Pattern where
  | empty
  | literal (text : List Char)
  /-- One character of a set, which may be one of ASCII. -/
  | one (set : Pattern.CharSet) (isAscii : Bool)
  | assert (assertion : Pattern.Assertion)
  | concat (first second : Pattern)
  /-- Either pattern; the first is preferred. -/
  | alternative (first second : Pattern)
  | group (number : Nat) (body : Pattern)
  /-- A pattern at least and at most so many times; more rounds are preferred if it is greedy. -/
  | repeated (least : Nat) (most : Option Nat) (greedy : Bool) (body : Pattern)
  deriving DecidableEq, Inhabited

namespace Pattern

/-- One character of a set; a set of one character is that character, and there is only one set
without characters. -/
def ofSet (set : CharSet) (isAscii : Bool) : Pattern :=
  match set.single? with
  | some c => .literal [c]
  | none => .one set (isAscii || set = .empty)

/-! ## Sequences -/

def parts : Pattern → List Pattern
  | .empty => []
  | .concat first second => first.parts ++ second.parts
  | pattern => [pattern]

def ofParts : List Pattern → Pattern
  | [] => .empty
  | [only] => only
  | first :: rest => .concat first (ofParts rest)

/-- A pattern before others; two literals become one. -/
def joinLiteral (first : Pattern) (rest : List Pattern) : List Pattern :=
  match first, rest with
  | .literal left, .literal right :: rest => .literal (left ++ right) :: rest
  | first, rest => first :: rest

def sequence (patterns : List Pattern) : Pattern :=
  ofParts ((patterns.flatMap parts).foldr joinLiteral [])

/-! ## Choices -/

def options : Pattern → List Pattern
  | .alternative first second => first.options ++ second.options
  | pattern => [pattern]

/-- Either of several patterns, as they are; none of them matches if there is none. -/
def ofOptions : List Pattern → Pattern
  | [] => .one .empty true
  | [only] => only
  | first :: rest => .alternative first (ofOptions rest)

def letterSet? : Pattern → Option CharSet
  | .literal [c] => some (.single c)
  | _ => none

def oneSet? : Pattern → Option CharSet
  | .one set _ => some set
  | _ => none

def unionOf? (set? : Pattern → Option CharSet) : List Pattern → Option CharSet
  | [] => some .empty
  | first :: rest => do
    let set ← set? first
    let others ← unionOf? set? rest
    some (set.union others)

/-- The set that a choice between single characters or between sets comes to. -/
def mergedSet? (options : List Pattern) : Option CharSet :=
  (unionOf? letterSet? options).or (unionOf? oneSet? options)

def commonStart : List Pattern → List Pattern → List Pattern
  | left :: lefts, right :: rights => if left = right then left :: commonStart lefts rights else []
  | _, _ => []

def isConcat : Pattern → Bool
  | .concat _ _ => true
  | _ => false

/-- What all options start with, and what is left of each. -/
def factored? (options : List Pattern) : Option (List Pattern × List Pattern) :=
  match options.map parts with
  | [] => none
  | first :: others =>
    let shared := others.foldl commonStart first
    if options.all isConcat ∧ shared ≠ [] then
      some (shared, options.map fun option => ofParts (option.parts.drop shared.length))
    else none

/-- Either of several patterns, single characters being put into a set, which is none of ASCII. -/
def merged (options : List Pattern) : Pattern :=
  match mergedSet? options with
  | some set => ofSet set false
  | none => ofOptions options

/-- Either of several patterns; an earlier one is preferred. What is left of the options after a
common start has no common start again. -/
def choice (patterns : List Pattern) : Pattern :=
  match patterns.flatMap options with
  | [only] => only
  | options =>
    match factored? options with
    | some (shared, remainders) =>
      sequence (shared ++ [merged (remainders.flatMap Pattern.options)])
    | none => merged options

/-! ## Repetitions -/

/-- Whether a pattern is built of nothing that matches more than the empty text. -/
def matchesOnlyEmpty : Pattern → Bool
  | .empty => true
  | .literal _ => false
  | .one _ _ => false
  | .assert _ => true
  | .concat first second => first.matchesOnlyEmpty && second.matchesOnlyEmpty
  | .alternative first second => first.matchesOnlyEmpty && second.matchesOnlyEmpty
  | .group _ body => body.matchesOnlyEmpty
  | .repeated _ most _ body => most.isSome && body.matchesOnlyEmpty

/-- The length of the shortest match, if every piece can match at all. -/
def shortest? : Pattern → Option Nat
  | .empty => some 0
  | .literal text => some text.length
  | .one set _ => if set = .empty then none else some 1
  | .assert _ => some 0
  | .concat first second => do
    let length ← first.shortest?
    let rest ← second.shortest?
    some (length + rest)
  | .alternative first second => do
    let length ← first.shortest?
    let other ← second.shortest?
    some (min length other)
  | .group _ body => body.shortest?
  | .repeated least _ _ body => body.shortest?.map (· * least)

def alwaysReads (pattern : Pattern) : Bool :=
  pattern.shortest?.any (0 < ·)

/-- A pattern a number of times. No rounds are the empty text, one round is the pattern itself, and
one round of what matches only the empty text is as good as many. -/
def rounds (least : Nat) (most : Option Nat) (greedy : Bool) (body : Pattern) : Pattern :=
  let (least, most) :=
    if body.matchesOnlyEmpty then (min least 1, some ((most.map (min · 1)).getD 1))
    else (least, most)
  if least = 0 ∧ most = some 0 then .empty
  else if least = 1 ∧ most = some 1 then body
  else .repeated least most greedy body

end Pattern
end GatewayTelemetry
