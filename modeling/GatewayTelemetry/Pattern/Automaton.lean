import GatewayTelemetry.Pattern.Basic

/-!
# Automata of patterns

An automaton has numbered states. In a state it reads a character, checks an assertion, notes where
a group starts or ends, chooses between two states, or accepts. A pattern is made into states from
its end to its start, so that each piece is given the state that follows it.

A counted repetition is written out, round by round. A repetition without upper limit has a state
that chooses between another round and what follows. Whether there is a first round at all is
chosen in the same state if every round reads something; else it is chosen in a state of its own,
since the first round may come back to the place where it started.
-/

namespace GatewayTelemetry
namespace Pattern

/-- What an automaton does in a state, and the state that follows. -/
inductive State where
  | accept
  | read (set : CharSet) (next : Nat)
  | check (assertion : Assertion) (next : Nat)
  | openGroup (number next : Nat)
  | closeGroup (number next : Nat)
  /-- Two states may follow; the first is preferred. -/
  | fork (first second : Nat)
  deriving DecidableEq, Inhabited

structure Automaton where
  states : Array State
  start : Nat
  deriving DecidableEq, Inhabited

/-- Adds the states of a piece of a pattern, given the state that follows the piece, and tells in
which state the piece starts. -/
abbrev Layout :=
  Nat → Array State → Nat × Array State

namespace Layout

def single (state : Nat → State) : Layout := fun next states =>
  (states.size, states.push (state next))

def andThen (first second : Layout) : Layout := fun next states =>
  let (middle, states) := second next states
  first middle states

def literal : List Char → Layout
  | [] => fun next states => (next, states)
  | c :: rest => (single (.read (.single c))).andThen (literal rest)

def choose (greedy : Bool) (entry next : Nat) : State :=
  if greedy then .fork entry next else .fork next entry

/-- Either of two pieces; the first is preferred. -/
def either (first second : Layout) : Layout := fun next states =>
  let (right, states) := second next states
  let (left, states) := first next states
  single (fun _ => .fork left right) next states

def times (body : Layout) : Nat → Layout
  | 0 => fun next states => (next, states)
  | count + 1 => body.andThen (times body count)

def upTo (greedy : Bool) (body : Layout) : Nat → Layout
  | 0 => fun next states => (next, states)
  | count + 1 => fun next states =>
    let (rest, states) := upTo greedy body count next states
    let (entry, states) := body rest states
    single (choose greedy entry) next states

/-- Rounds without upper limit: the state in which a round starts, and the number of the state that
follows a round and chooses between another one and the end. -/
def loop (greedy : Bool) (body : Layout) (next : Nat) (states : Array State) :
    (Nat × Nat) × Array State :=
  let again := states.size
  let (entry, states) := body again (states.push .accept)
  ((entry, again), states.setIfInBounds again (choose greedy entry next))

def onceOrMore (greedy : Bool) (body : Layout) : Layout := fun next states =>
  let ((entry, _), states) := loop greedy body next states
  (entry, states)

/-- Any number of rounds, each of which reads something or may not. -/
def anyTimes (greedy alwaysReads : Bool) (body : Layout) : Layout := fun next states =>
  let ((entry, again), states) := loop greedy body next states
  if alwaysReads then (again, states) else single (choose greedy entry) next states

def rounds (least : Nat) (most : Option Nat) (greedy alwaysReads : Bool) (body : Layout) :
    Layout :=
  match least, most with
  | 0, none => anyTimes greedy alwaysReads body
  | least + 1, none => (times body least).andThen (onceOrMore greedy body)
  | least, some most => (times body least).andThen (upTo greedy body (most - least))

end Layout

def layout : Pattern → Layout
  | .empty => fun next states => (next, states)
  | .literal text => .literal text
  | .one set _ => .single (.read set)
  | .assert assertion => .single (.check assertion)
  | .concat first second => first.layout.andThen second.layout
  | .alternative first second => .either first.layout second.layout
  | .group number body =>
    ((Layout.single (.openGroup number)).andThen body.layout).andThen (.single (.closeGroup number))
  | .repeated least most greedy body => .rounds least most greedy body.alwaysReads body.layout

def toAutomaton (pattern : Pattern) : Automaton :=
  let (start, states) := pattern.layout 0 #[.accept]
  ⟨states, start⟩

end Pattern
end GatewayTelemetry
