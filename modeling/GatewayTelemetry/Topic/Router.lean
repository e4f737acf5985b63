import GatewayTelemetry.Topic.Rule

/-!
# Routing topics

A router is an ordered list of rules. The first rule that matches a topic decides; its serial and
its category are the route.
-/

namespace GatewayTelemetry

/-- The serial and the category that a topic stands for. -/
structure Route where
  serial : String
  category : Category
  deriving DecidableEq, Inhabited

/-- Rules in the order in which they are tried. -/
structure Router where
  rules : List Rule
  deriving Inhabited

namespace Router

def gateway : Router where
  rules := Category.all.map fun category => .ofPattern category.builtinPattern category

def routeFrom (topic : String) (index : Nat) : List Rule → Traced (Option Route)
  | [] => ⟨none, [.unmatched topic]⟩
  | rule :: rules =>
    match rule.capture? topic with
    | some serial =>
      ⟨some ⟨serial, rule.category⟩,
        [.ruleMatched topic index rule.pattern rule.category serial]⟩
    | none =>
      let later := routeFrom topic (index + 1) rules
      ⟨later.value, .ruleSkipped topic index rule.pattern :: later.events⟩

def routeTraced (router : Router) (topic : String) : Traced (Option Route) :=
  routeFrom topic 0 router.rules

def route? (router : Router) (topic : String) : Option Route :=
  (router.routeTraced topic).value

theorem value_routeFrom (topic : String) (index : Nat) (rules : List Rule) :
    (routeFrom topic index rules).value =
      rules.findSome? fun rule => (rule.capture? topic).map (⟨·, rule.category⟩) := by
  induction rules generalizing index with
  | nil => rfl
  | cons rule rules ih =>
    simp only [routeFrom, List.findSome?_cons]
    cases rule.capture? topic with
    | some serial => rfl
    | none => exact ih (index + 1)

/-- The route is that of the first rule that captures a serial. -/
theorem route?_eq (router : Router) (topic : String) :
    router.route? topic =
      router.rules.findSome? fun rule => (rule.capture? topic).map (⟨·, rule.category⟩) :=
  value_routeFrom topic 0 router.rules

end Router
end GatewayTelemetry
