import GatewayTelemetry.Exploration
import GatewayTelemetry.Pattern.Automaton
import GatewayTelemetry.Pattern.Footprint
import GatewayTelemetry.Pattern.Reader

/-!
# Searching a text for a pattern

The search explores the ways of an automaton through a text: first from the start of the text, then
from the place after the first character, and so on; from each place the preferred way first. The
first way that comes to acceptance is the match. So the match starts at the leftmost possible place,
and among the ways to match there it is the most preferred one, except that no way comes to a state
at a place where the search was in that state before. This also keeps repetitions from going round
without reading anything.
-/

namespace GatewayTelemetry
namespace Pattern

/-- A part of a text, given by the text from its start on. -/
structure Span where
  rest : List Char
  length : Nat
  deriving DecidableEq

def Span.text (span : Span) : List Char :=
  span.rest.take span.length

structure Place where
  position : Nat
  before : Option Char
  rest : List Char
  deriving DecidableEq

namespace Place

/-- The place after the next character, which is given with the text that follows it. -/
def advance (place : Place) (c : Char) (rest : List Char) : Place :=
  ⟨place.position + 1, some c, rest⟩

def upTo (place later : Place) : Span :=
  ⟨place.rest, later.position - place.position⟩

/-- All places of a text, from left to right, given how much of the text came before and the last
character of it. -/
def allFrom (position : Nat) (before : Option Char) : List Char → List Place
  | [] => [⟨position, before, []⟩]
  | c :: rest => ⟨position, before, c :: rest⟩ :: allFrom (position + 1) (some c) rest

end Place

/-- An automaton's stop on its way through a text. -/
structure Stop where
  state : Nat
  place : Place
  /-- Where groups started, with their numbers, the latest first. -/
  opened : List (Nat × Place)
  /-- Captured parts with the numbers of their groups, the latest first. -/
  captured : List (Nat × Span)
  deriving DecidableEq

def Stop.capture? (stop : Stop) (number : Nat) : Option (List Char) :=
  (stop.captured.lookup number).map Span.text

namespace Automaton

/-- What an automaton does at a stop; nothing if there is no such state. -/
def stateAt? (automaton : Automaton) (stop : Stop) : Option State :=
  automaton.states[stop.state]?

def accepts (automaton : Automaton) (stop : Stop) : Bool :=
  automaton.stateAt? stop == some .accept

/-- The stops that may follow a stop, the preferred one first. -/
def next (automaton : Automaton) (stop : Stop) : List Stop :=
  match automaton.stateAt? stop with
  | none => []
  | some .accept => []
  | some (.read set next) =>
    match stop.place.rest with
    | [] => []
    | c :: rest =>
      if set.contains c then [{ stop with state := next, place := stop.place.advance c rest }]
      else []
  | some (.check assertion next) =>
    if assertion.holds stop.place.before stop.place.rest.head? then [{ stop with state := next }]
    else []
  | some (.openGroup number next) =>
    [{ stop with state := next, opened := (number, stop.place) :: stop.opened }]
  | some (.closeGroup number next) =>
    match stop.opened.lookup number with
    | none => [{ stop with state := next }]
    | some place =>
      [{ stop with state := next, captured := (number, place.upTo stop.place) :: stop.captured }]
  | some (.fork first second) => [{ stop with state := first }, { stop with state := second }]

/-- The number that tells a stop from those in other states or at other places. -/
def key (automaton : Automaton) (stop : Stop) : Nat :=
  stop.place.position * automaton.states.size + stop.state

/-- The stop at the end of the first match in a text. Each stop has two followers at most, so no
more stops than twice the number of all stops and those at which the search starts are waiting. -/
def search? (automaton : Automaton) (text : List Char) : Option Stop :=
  let places := Place.allFrom 0 none text
  let stops := places.length * automaton.states.size
  Exploration.firstGoal? automaton.key automaton.accepts automaton.next
    (2 * stops + places.length + 1) ∅
    (places.map fun place => ⟨automaton.start, place, [], []⟩)

def capture? (automaton : Automaton) (number : Nat) (text : String) : Option String :=
  ((automaton.search? text.toList).bind (·.capture? number)).map String.ofList

end Automaton

/-- The automaton of the pattern that a text spells out, if it spells out one within limits. -/
def compile? (properties : Unicode.Properties) (text : String) : Option Automaton :=
  ((parse? properties text).filter isWithinLimit).map toAutomaton

end Pattern
end GatewayTelemetry
