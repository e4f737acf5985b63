import Mathlib.Logic.Relation
import GatewayTelemetry.Pattern.Search

/-!
# What patterns match

A pattern means a relation between the point where a match of it starts and the points where it can
end. The relation knows nothing of states and of preferences; it is defined along the pattern.
-/

namespace GatewayTelemetry
namespace Pattern

/-- A point of a match: a stop without its state. -/
structure Trail where
  place : Place
  opened : List (Nat × Place)
  captured : List (Nat × Span)

namespace Trail

/-- The stop of an automaton that has come to a point in a state. -/
def inState (trail : Trail) (state : Nat) : Stop :=
  ⟨state, trail.place, trail.opened, trail.captured⟩

def readOne? (set : CharSet) (trail : Trail) : Option Trail :=
  match trail.place.rest with
  | [] => none
  | c :: rest =>
    if set.contains c then some { trail with place := trail.place.advance c rest } else none

def check? (assertion : Assertion) (trail : Trail) : Option Trail :=
  if assertion.holds trail.place.before trail.place.rest.head? then some trail else none

def openGroup (number : Nat) (trail : Trail) : Trail :=
  { trail with opened := (number, trail.place) :: trail.opened }

def closeGroup (number : Nat) (trail : Trail) : Trail :=
  match trail.opened.lookup number with
  | none => trail
  | some place => { trail with captured := (number, place.upTo trail.place) :: trail.captured }

end Trail

def Effect (effect : Trail → Option Trail) (start later : Trail) : Prop :=
  effect start = some later

def Rounds (round : Trail → Trail → Prop) : Nat → Trail → Trail → Prop
  | 0 => Eq
  | count + 1 => Relation.Comp round (Rounds round count)

def Reads : List Char → Trail → Trail → Prop
  | [] => Eq
  | c :: rest => Relation.Comp (Effect (Trail.readOne? (.single c))) (Reads rest)

/-- A match of a pattern can start at one point and end at another one. -/
def Passes : Pattern → Trail → Trail → Prop
  | .empty => Eq
  | .literal text => Reads text
  | .one set _ => Effect (Trail.readOne? set)
  | .assert assertion => Effect (Trail.check? assertion)
  | .concat first second => Relation.Comp first.Passes second.Passes
  | .alternative first second => fun start later =>
    first.Passes start later ∨ second.Passes start later
  | .group number body =>
    Relation.Comp
      (Relation.Comp (Effect fun trail => some (trail.openGroup number)) body.Passes)
      (Effect fun trail => some (trail.closeGroup number))
  | .repeated least most _ body => fun start later =>
    ∃ more, (∀ limit, most = some limit → more ≤ limit - least) ∧
      Rounds body.Passes (least + more) start later

theorem rounds_add {round : Trail → Trail → Prop} (count more : Nat) :
    Rounds round (count + more) = Relation.Comp (Rounds round count) (Rounds round more) := by
  induction count with
  | zero => rw [Nat.zero_add, Rounds, Relation.eq_comp]
  | succ count ih => rw [Nat.succ_add, Rounds, Rounds, ih, Relation.comp_assoc]

end Pattern
end GatewayTelemetry
