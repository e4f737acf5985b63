import GatewayTelemetry.Proofs.Decoder.Stages
import GatewayTelemetry.Proofs.Pattern.Numbering
import GatewayTelemetry.Proofs.Topic.Routing

/-!
# Lists of rules

A list of rules is tried from its front, so of two lists put together the second one only counts
where the first one has no route. A rule that can never capture anything is dead: its text is no
pattern, or a pattern without capturing groups. Such rules may be put anywhere into a list without
a change to any route, and so without a change to what a decoder with these rules makes of messages.
-/

namespace GatewayTelemetry

namespace Rule

variable {rule : Rule} {topic serial : String}

/-- The text of a rule is no pattern, or one without capturing groups. -/
def IsDead (rule : Rule) : Prop :=
  rule.isActive = false ∨ Pattern.groupCount? rule.properties rule.pattern = some 0

instance : DecidablePred IsDead := fun _ => inferInstanceAs (Decidable (_ ∨ _))

theorem IsDead.capture?_eq_none (dead : rule.IsDead) (topic : String) :
    rule.capture? topic = none := by
  rw [capture?]
  cases compiled : rule.compiled with
  | none => rfl
  | some automaton =>
      have none : Pattern.groupCount? rule.properties rule.pattern = some 0 :=
        dead.resolve_left (by simp [isActive, compiled])
      rw [rule.compiled_eq] at compiled
      obtain ⟨pattern, limited, rfl⟩ := Option.map_eq_some_iff.mp compiled
      have spelled := (Option.filter_eq_some_iff.mp limited).1
      obtain ⟨count, counted, only⟩ := Pattern.exists_groupCount?_of_parse? spelled
      obtain rfl : count = 0 := Option.some.inj (counted.symm.trans none)
      rw [Option.bind_some, only.capture?_eq_none (by simp)]
      rfl

/-- A captured serial is a contiguous part of the topic. -/
theorem isInfix_of_capture? (captured : rule.capture? topic = some serial) :
    serial.toList <:+: topic.toList := by
  obtain ⟨automaton, -, found⟩ :=
    Option.bind_eq_some_iff.mp (Option.filter_eq_some_iff.mp captured).1
  exact Pattern.Automaton.isInfix_of_capture? found

end Rule

namespace Router

/-- The second list has the rules of the first one in their order, and dead ones anywhere among
them. -/
inductive AddsDead : List Rule → List Rule → Prop
  | done : AddsDead [] []
  | keep (rule : Rule) {rules longer : List Rule} (rest : AddsDead rules longer) :
    AddsDead (rule :: rules) (rule :: longer)
  | insert {rule : Rule} (dead : rule.IsDead) {rules longer : List Rule}
    (rest : AddsDead rules longer) : AddsDead rules (rule :: longer)

/-- Of two lists put together, the second one only counts where the first one has no route. -/
theorem route?_append (rules others : List Rule) (topic : String) :
    (⟨rules ++ others⟩ : Router).route? topic =
      ((⟨rules⟩ : Router).route? topic).or ((⟨others⟩ : Router).route? topic) := by
  rw [route?_eq, route?_eq, route?_eq, List.findSome?_append]

theorem route?_cons (rule : Rule) (rules : List Rule) (topic : String) :
    (⟨rule :: rules⟩ : Router).route? topic =
      ((⟨[rule]⟩ : Router).route? topic).or ((⟨rules⟩ : Router).route? topic) :=
  route?_append [rule] rules topic

theorem AddsDead.route?_eq {rules longer : List Rule} (adds : AddsDead rules longer)
    (topic : String) : (⟨longer⟩ : Router).route? topic = (⟨rules⟩ : Router).route? topic := by
  induction adds with
  | done => rfl
  | keep rule rest ih => rw [route?_cons, ih, ← route?_cons]
  | @insert rule dead _ _ _ ih =>
      have alone : (⟨[rule]⟩ : Router).route? topic = none := by
        refine route?_eq_none_iff.mpr fun other among => ?_
        obtain rfl := List.mem_singleton.mp among
        exact dead.capture?_eq_none topic
      rw [route?_cons, alone, Option.none_or, ih]

end Router

theorem Decoder.decode_congr {router other : Router}
    (same : ∀ topic, router.route? topic = other.route? topic) (descriptor : Descriptor)
    (payload : Payload) (metadata : Metadata) :
    (⟨descriptor, router⟩ : Decoder).decode payload metadata =
      (⟨descriptor, other⟩ : Decoder).decode payload metadata := by
  have routes : router.route? = other.route? := funext same
  rw [decode_eq, decode_eq, routes]
  rfl

namespace Router

/-- The first rule of a list that captures anything decides, wherever lists are cut and whatever
dead rules are put between. -/
theorem route?_ofRules (rules : List Rule) :
    (∀ (others : List Rule) (topic : String), (⟨rules ++ others⟩ : Router).route? topic =
        ((⟨rules⟩ : Router).route? topic).or ((⟨others⟩ : Router).route? topic)) ∧
      (∀ (topic : String) (route : Route), (⟨rules⟩ : Router).route? topic = some route →
        route.serial ≠ "" ∧ route.serial.toList <:+: topic.toList ∧
          ∃ rule, (⟨rules⟩ : Router).FirstCapture topic rule route.serial ∧
            rule.category = route.category) ∧
      ∀ longer : List Rule, AddsDead rules longer →
        (∀ topic, (⟨longer⟩ : Router).route? topic = (⟨rules⟩ : Router).route? topic) ∧
        (∀ (descriptor : Descriptor) (payload : Payload) (metadata : Metadata),
          (⟨descriptor, ⟨longer⟩⟩ : Decoder).decode payload metadata =
            (⟨descriptor, ⟨rules⟩⟩ : Decoder).decode payload metadata) ∧
        ∀ (descriptor : Descriptor) (payload metadata : String),
          (⟨descriptor, ⟨longer⟩⟩ : Decoder).decodeTexts payload metadata =
            (⟨descriptor, ⟨rules⟩⟩ : Decoder).decodeTexts payload metadata := by
  refine ⟨route?_append rules, fun topic route routed => ?_, fun longer adds => ?_⟩
  · obtain ⟨rule, first, same⟩ := route?_eq_some_iff.mp routed
    exact ⟨Rule.ne_empty_of_capture? first.captured, Rule.isInfix_of_capture? first.captured, rule,
      first, same⟩
  · have decodes := Decoder.decode_congr adds.route?_eq
    refine ⟨adds.route?_eq, decodes, fun descriptor payload metadata => ?_⟩
    rw [Decoder.decodeTexts_eq, Decoder.decodeTexts_eq]
    exact congrArg _ (funext fun read => congrArg _ (decodes descriptor (.text payload) read))

/-- Two rules match the topic without capturing anything, one since it has no group and one since
its group is in the alternative that is not taken; the third is no pattern. -/
theorem route?_ofRules_deadAmong :
    let untaken : Rule := .ofPattern "data/(?:(a+)|.+)/env" .powerAlarm
    let alive : Rule := .ofPattern "data/(.+)/env" .environment
    let groupless : Rule := .ofPattern "data/.+/env" .lockStatus
    let broken : Rule := .ofPattern "data/(.+/env" .powerUsage
    AddsDead [untaken, alive] [groupless, untaken, broken, alive] ∧
      (⟨[untaken, alive]⟩ : Router).route? "data/GW1/env" = some ⟨"GW1", .environment⟩ ∧
      "GW1".toList <:+: "data/GW1/env".toList ∧
      (⟨[groupless, untaken, broken, alive]⟩ : Router).route? "data/GW1/env" =
        some ⟨"GW1", .environment⟩ := by
  intro untaken alive groupless broken
  have grouplessDead : groupless.IsDead := by decide +kernel
  have brokenDead : broken.IsDead := by decide +kernel
  have adds : AddsDead [untaken, alive] [groupless, untaken, broken, alive] :=
    .insert grouplessDead (.keep untaken (.insert brokenDead (.keep alive .done)))
  have routed : (⟨[untaken, alive]⟩ : Router).route? "data/GW1/env" =
      some ⟨"GW1", .environment⟩ := by
    decide +kernel
  obtain ⟨-, captured, unchanged⟩ := route?_ofRules [untaken, alive]
  exact ⟨adds, routed, (captured _ _ routed).2.1, ((unchanged _ adds).1 _).trans routed⟩

end Router
end GatewayTelemetry
