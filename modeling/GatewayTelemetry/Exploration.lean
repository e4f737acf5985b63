import Std.Data.TreeSet.Basic

/-!
# Depth-first exploration

An exploration visits the nodes of a graph depth first, each node's successors in their order and
before whatever else is waiting, until it comes to a goal. No node is visited twice, so what was
explored without success is not explored again, and cycles come to an end.

Nodes are told apart by a key, which is a number.
-/

namespace GatewayTelemetry
namespace Exploration

variable {Node : Type}

/-- The first goal that is come upon from the waiting nodes; the bound is on the number of nodes
that are taken from among those waiting, whether they are visited or were seen before. -/
@[specialize]
def firstGoal? (key : Node → Nat) (isGoal : Node → Bool) (successors : Node → List Node) :
    Nat → Std.TreeSet Nat → List Node → Option Node
  | 0, _, _ => none
  | _ + 1, _, [] => none
  | bound + 1, seen, node :: waiting =>
    if seen.contains (key node) then firstGoal? key isGoal successors bound seen waiting
    else if isGoal node then some node
    else
      firstGoal? key isGoal successors bound (seen.insert (key node))
        (successors node ++ waiting)

/-- What an exploration finds is a goal. -/
theorem isGoal_of_firstGoal? {key : Node → Nat} {isGoal : Node → Bool}
    {successors : Node → List Node} {bound : Nat} {seen : Std.TreeSet Nat}
    {waiting : List Node} {found : Node}
    (result : firstGoal? key isGoal successors bound seen waiting = some found) :
    isGoal found := by
  fun_induction firstGoal? key isGoal successors bound seen waiting with
  | case1 => cases result
  | case2 => cases result
  | case3 bound seen node waiting before ih => exact ih result
  | case4 bound seen node waiting fresh goal => exact Option.some.inj result ▸ goal
  | case5 bound seen node waiting fresh noGoal ih => exact ih result

end Exploration
end GatewayTelemetry
