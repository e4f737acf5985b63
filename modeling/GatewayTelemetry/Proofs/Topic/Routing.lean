import GatewayTelemetry.Topic.Router

/-!
# The rule that decides

A topic has a route exactly if some rule of the router captures a serial from it. The route is that
of the first such rule: no rule before it captures anything.
-/

namespace GatewayTelemetry
namespace Router

/-- A rule captures a serial from a topic, and no rule before it captures one. -/
def FirstCapture (router : Router) (topic : String) (rule : Rule) (serial : String) : Prop :=
  ∃ earlier later, router.rules = earlier ++ rule :: later ∧
    (∀ other ∈ earlier, other.capture? topic = none) ∧ rule.capture? topic = some serial

variable {router : Router} {topic : String}

theorem FirstCapture.captured {rule : Rule} {serial : String}
    (first : router.FirstCapture topic rule serial) : rule.capture? topic = some serial := by
  obtain ⟨_, _, -, -, captured⟩ := first
  exact captured

theorem route?_eq_none_iff :
    router.route? topic = none ↔ ∀ rule ∈ router.rules, rule.capture? topic = none := by
  rw [route?_eq, List.findSome?_eq_none_iff]
  simp only [Option.map_eq_none_iff]

/-- The first rule that captures a serial decides on the route. -/
theorem route?_eq_some_iff {route : Route} :
    router.route? topic = some route ↔
      ∃ rule, router.FirstCapture topic rule route.serial ∧ rule.category = route.category := by
  obtain ⟨serial, category⟩ := route
  rw [route?_eq, List.findSome?_eq_some_iff]
  simp only [Option.map_eq_none_iff, Option.map_eq_some_iff, Route.mk.injEq]
  constructor
  · rintro ⟨earlier, rule, later, split, ⟨_, captured, rfl, same⟩, nothing⟩
    exact ⟨rule, ⟨earlier, later, split, nothing, captured⟩, same⟩
  · rintro ⟨rule, ⟨earlier, later, split, nothing, captured⟩, same⟩
    exact ⟨earlier, rule, later, split, ⟨serial, captured, rfl, same⟩, nothing⟩

end Router
end GatewayTelemetry
