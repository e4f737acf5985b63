import GatewayTelemetry.Proofs.Pattern.Between
import GatewayTelemetry.Proofs.Topic.Routing

/-!
# Topics of the built-in rules

A built-in rule captures what stands between two words of its category and the slashes next to them.
So the built-in router gives a topic the first category that occurs in it. Where the words of one
category stand around a serial and there are no other slashes, no other category occurs, since a
topic with two slashes can be taken apart in one way only.
-/

namespace GatewayTelemetry

theorem eq_of_splitOn_eq_singleton {separator : Char} {text piece : List Char}
    (whole : text.splitOn separator = [piece]) : piece = text := by
  have joined : [separator].intercalate (text.splitOn separator) = text :=
    List.intercalate_splitOn separator
  rwa [whole, List.intercalate_singleton] at joined

theorem eq_of_splitOn_append {separator : Char} {left middle right front serial back : List Char}
    (pieces : [left, middle, right] =
      front.splitOn separator ++ (serial.splitOn separator ++ back.splitOn separator)) :
    left = front ∧ middle = serial ∧ right = back := by
  obtain ⟨first, firsts, inFront⟩ :=
    List.exists_cons_of_ne_nil (List.splitOn_ne_nil separator front)
  obtain ⟨second, seconds, inSerial⟩ :=
    List.exists_cons_of_ne_nil (List.splitOn_ne_nil separator serial)
  obtain ⟨third, thirds, inBack⟩ := List.exists_cons_of_ne_nil (List.splitOn_ne_nil separator back)
  rw [inFront, inSerial, inBack] at pieces
  have sizes := congrArg List.length pieces
  simp only [List.length_append, List.length_cons, List.length_nil] at sizes
  obtain rfl : firsts = [] := List.length_eq_zero_iff.mp (by omega)
  obtain rfl : seconds = [] := List.length_eq_zero_iff.mp (by omega)
  obtain rfl : thirds = [] := List.length_eq_zero_iff.mp (by omega)
  obtain ⟨rfl, rfl, rfl⟩ : left = first ∧ middle = second ∧ right = third := by simpa using pieces
  exact ⟨eq_of_splitOn_eq_singleton inFront, eq_of_splitOn_eq_singleton inSerial,
    eq_of_splitOn_eq_singleton inBack⟩

namespace Category

def firstWord : Category → String
  | .environment => "data"
  | .lockStatus => "status"
  | .powerUsage => "data"
  | .powerAlarm => "alarm"
  | .screenAlarm => "alarm"

def lastWord : Category → String
  | .environment => "environment"
  | .lockStatus => "lock"
  | .powerUsage => "power"
  | .powerAlarm => "power"
  | .screenAlarm => "screen"

def topic (category : Category) (serial : String) : String :=
  category.firstWord ++ "/" ++ serial ++ "/" ++ category.lastWord

def leading (category : Category) : String :=
  category.firstWord ++ "/"

def trailing (category : Category) : String :=
  "/" ++ category.lastWord

theorem builtinPattern_eq (category : Category) :
    category.builtinPattern = category.leading ++ "(.+)" ++ category.trailing := by
  cases category <;> rfl

theorem topic_eq_append (category : Category) (serial : String) :
    category.topic serial = category.leading ++ serial ++ category.trailing := by
  simp only [topic, leading, trailing, String.append_assoc]

/-- A serial stands in a topic between the words of a category. -/
def Frames (category : Category) (serial topic : String) : Prop :=
  Pattern.StandsBetween category.leading.toList category.trailing.toList serial.toList topic.toList

/-- Something stands in a topic between the words of a category. -/
def OccursIn (category : Category) (topic : String) : Prop :=
  ∃ serial, category.Frames serial topic

theorem slash_not_mem_firstWord (category : Category) : '/' ∉ category.firstWord.toList := by
  cases category <;> decide

theorem slash_not_mem_lastWord (category : Category) : '/' ∉ category.lastWord.toList := by
  cases category <;> decide

theorem eq_of_words {category other : Category} {front back : List Char}
    (first : category.firstWord.toList <:+ front) (otherFirst : other.firstWord.toList <:+ front)
    (last : category.lastWord.toList <+: back) (otherLast : other.lastWord.toList <+: back) :
    other = category := by
  have firsts := List.suffix_or_suffix_of_suffix first otherFirst
  have lasts := List.prefix_or_prefix_of_prefix last otherLast
  clear first otherFirst last otherLast
  revert firsts lasts
  cases category <;> cases other <;> decide

/-- Between two slashes and words of a category, only this category and serial can be found. -/
theorem Frames.eq {category other : Category} {front serial back found : String}
    (noSlash : '/' ∉ front.toList ∧ '/' ∉ serial.toList ∧ '/' ∉ back.toList)
    (frames : other.Frames found
      (front ++ category.leading ++ serial ++ category.trailing ++ back)) :
    other = category ∧ found = serial := by
  obtain ⟨-, -, before, after, split⟩ := frames
  have regrouped :
      (front.toList ++ category.firstWord.toList) ++
          '/' :: (serial.toList ++ '/' :: (category.lastWord.toList ++ back.toList)) =
        (before ++ other.firstWord.toList) ++
          '/' :: (found.toList ++ '/' :: (other.lastWord.toList ++ after)) := by
    simpa [leading, trailing] using split
  have frontPlain : '/' ∉ front.toList ++ category.firstWord.toList :=
    List.not_mem_append noSlash.1 category.slash_not_mem_firstWord
  have backPlain : '/' ∉ category.lastWord.toList ++ back.toList :=
    List.not_mem_append category.slash_not_mem_lastWord noSlash.2.2
  have pieces : [front.toList ++ category.firstWord.toList, serial.toList,
        category.lastWord.toList ++ back.toList] =
      (before ++ other.firstWord.toList).splitOn '/' ++
        (found.toList.splitOn '/' ++ (other.lastWord.toList ++ after).splitOn '/') := by
    rw [← List.splitOn_append_cons_self, ← List.splitOn_append_cons_self, ← regrouped,
      List.splitOn_append_cons_self_of_not_mem frontPlain,
      List.splitOn_append_cons_self_of_not_mem noSlash.2.1, List.splitOn_eq_singleton backPlain]
  obtain ⟨first, middle, last⟩ := eq_of_splitOn_append pieces
  refine ⟨eq_of_words (List.suffix_append _ _) ⟨before, first.symm⟩ (List.prefix_append _ _)
    ⟨after, last.symm⟩, ?_⟩
  exact (String.toList_inj.mp middle).symm

theorem frames_append (category : Category) (front back : String) {serial : String}
    (filled : serial ≠ "") (noFeed : '\n' ∉ serial.toList) :
    category.Frames serial (front ++ category.leading ++ serial ++ category.trailing ++ back) :=
  ⟨by simpa using filled, noFeed, front.toList, back.toList, by simp⟩

/-! ## Captures -/

/-- The pattern that the text of a built-in rule spells out. -/
def serialPattern (category : Category) : Pattern :=
  .between (category.firstWord.toList ++ ['/']) ('/' :: category.lastWord.toList)

theorem compile?_builtinPattern (category : Category) :
    Pattern.compile? Pattern.standardProperties category.builtinPattern =
      some category.serialPattern.toAutomaton := by
  have parsed : Pattern.parse? Pattern.standardProperties category.builtinPattern =
      some category.serialPattern := by
    cases category <;> decide +kernel
  have small : category.serialPattern.isWithinLimit = true := by
    cases category <;> decide +kernel
  rw [Pattern.compile?, parsed, Option.filter_some, if_pos small]
  rfl

def rule (category : Category) : Rule :=
  .ofPattern category.builtinPattern category

theorem serialPattern_eq (category : Category) :
    category.serialPattern = .between category.leading.toList category.trailing.toList := by
  simp [serialPattern, leading, trailing]

theorem capture?_rule (category : Category) (topic : String) :
    category.rule.capture? topic =
      (category.serialPattern.toAutomaton.capture? 1 topic).filter fun serial =>
        !serial.isEmpty := by
  have compiled : category.rule.compiled = some category.serialPattern.toAutomaton :=
    category.compile?_builtinPattern
  rw [Rule.capture?, compiled, Option.bind_some]

/-- What a built-in rule captures stands between the words of its category. -/
theorem frames_of_capture? {category : Category} {topic serial : String}
    (captured : category.rule.capture? topic = some serial) : category.Frames serial topic := by
  rw [capture?_rule, Option.filter_eq_some_iff, serialPattern_eq] at captured
  exact Pattern.standsBetween_of_capture? captured.1

/-- A built-in rule captures something exactly from the topics in which its category occurs. -/
theorem capture?_eq_none_iff {category : Category} {topic : String} :
    category.rule.capture? topic = none ↔ ¬category.OccursIn topic := by
  constructor
  · rintro nothing ⟨serial, frames⟩
    obtain ⟨found, result⟩ := Pattern.exists_capture?_of_standsBetween frames
    have filled := (Pattern.standsBetween_of_capture? result).1
    rw [capture?_rule, serialPattern_eq, result, Option.filter_some, if_pos] at nothing
    · exact absurd nothing (Option.some_ne_none found)
    · simpa using filled
  · intro absent
    cases captured : category.rule.capture? topic with
    | none => rfl
    | some serial => exact absurd ⟨serial, frames_of_capture? captured⟩ absent

end Category

namespace Router

theorem rules_gateway : gateway.rules = Category.all.map Category.rule :=
  rfl

theorem route?_gateway_eq_none_iff {topic : String} :
    gateway.route? topic = none ↔ ∀ category : Category, ¬category.OccursIn topic := by
  simp only [route?_eq_none_iff, rules_gateway, List.forall_mem_map, Category.capture?_eq_none_iff]
  exact ⟨fun absent category => absent category category.mem_all,
    fun absent category _ => absent category⟩

/-- The built-in router gives a topic the first category that occurs in it. -/
theorem first_of_route?_gateway {topic : String} {route : Route}
    (routed : gateway.route? topic = some route) :
    route.category.Frames route.serial topic ∧
      ∃ earlier later, Category.all = earlier ++ route.category :: later ∧
        ∀ other ∈ earlier, ¬other.OccursIn topic := by
  obtain ⟨_, ⟨rules, others, split, nothing, captured⟩, same⟩ := route?_eq_some_iff.mp routed
  rw [rules_gateway] at split
  obtain ⟨earlier, _, whole, rfl, rest⟩ := List.map_eq_append_iff.mp split
  obtain ⟨category, later, rfl, rfl, rfl⟩ := List.map_eq_cons_iff.mp rest
  obtain rfl : category = route.category := same
  refine ⟨Category.frames_of_capture? captured, earlier, later, whole, fun other among => ?_⟩
  exact Category.capture?_eq_none_iff.mp (nothing _ (List.mem_map_of_mem among))

theorem route?_gateway_append (category : Category) (front back : String) {serial : String}
    (filled : serial ≠ "") (noFeed : '\n' ∉ serial.toList)
    (noSlash : '/' ∉ front.toList ∧ '/' ∉ serial.toList ∧ '/' ∉ back.toList) :
    gateway.route? (front ++ category.leading ++ serial ++ category.trailing ++ back) =
      some ⟨serial, category⟩ := by
  have frames := category.frames_append front back filled noFeed
  cases routed :
      gateway.route? (front ++ category.leading ++ serial ++ category.trailing ++ back) with
  | none => exact absurd ⟨serial, frames⟩ (route?_gateway_eq_none_iff.mp routed category)
  | some route =>
      obtain ⟨sameCategory, sameSerial⟩ := (first_of_route?_gateway routed).1.eq noSlash
      rw [← sameCategory, ← sameSerial]

/-- The built-in rules route a topic of a category to that category and the serial in it. -/
theorem route?_topic (category : Category) {serial : String} (filled : serial ≠ "")
    (noSlash : '/' ∉ serial.toList) (noFeed : '\n' ∉ serial.toList) :
    gateway.route? (category.topic serial) = some ⟨serial, category⟩ := by
  have routed := route?_gateway_append category "" "" filled noFeed ⟨by simp, noSlash, by simp⟩
  rwa [String.empty_append, String.append_empty, ← Category.topic_eq_append] at routed

/-- The built-in router has no route for a topic exactly if no category occurs in it. Otherwise the
route has the first category that occurs, and a serial that stands between its words. If these words
and slashes stand around a serial without other slashes, then no other category occurs. -/
theorem route?_gateway_first_category :
    (∀ category : Category,
        category.builtinPattern = category.leading ++ "(.+)" ++ category.trailing) ∧
      (∀ topic, gateway.route? topic = none ↔ ∀ category : Category, ¬category.OccursIn topic) ∧
      (∀ topic route, gateway.route? topic = some route →
        route.category.Frames route.serial topic ∧
          ∃ earlier later, Category.all = earlier ++ route.category :: later ∧
            ∀ other ∈ earlier, ¬other.OccursIn topic) ∧
      ∀ (category : Category) (front serial back : String), serial ≠ "" → '\n' ∉ serial.toList →
        '/' ∉ front.toList ∧ '/' ∉ serial.toList ∧ '/' ∉ back.toList →
          gateway.route? (front ++ category.leading ++ serial ++ category.trailing ++ back) =
              some ⟨serial, category⟩ ∧
            ∀ other : Category,
              other.OccursIn (front ++ category.leading ++ serial ++ category.trailing ++ back) →
                other = category := by
  refine ⟨Category.builtinPattern_eq, fun _ => route?_gateway_eq_none_iff,
    fun _ _ => first_of_route?_gateway, ?_⟩
  intro category front serial back filled noFeed noSlash
  refine ⟨route?_gateway_append category front back filled noFeed noSlash, ?_⟩
  rintro other ⟨found, frames⟩
  exact (frames.eq noSlash).1

/-- Words of other categories in front of the words and as the serial do not count. -/
theorem route?_gateway_first_category_foreignWords :
    ("alarm" ≠ "" ∧ '\n' ∉ "alarm".toList ∧
        '/' ∉ "status".toList ∧ '/' ∉ "alarm".toList ∧ '/' ∉ "lock".toList) ∧
      gateway.route? ("status" ++ Category.powerUsage.leading ++ "alarm" ++
        Category.powerUsage.trailing ++ "lock") = some ⟨"alarm", .powerUsage⟩ ∧
      ∃ earlier later, Category.all = earlier ++ Category.powerUsage :: later ∧
        ∀ other ∈ earlier, ¬other.OccursIn ("status" ++ Category.powerUsage.leading ++ "alarm" ++
          Category.powerUsage.trailing ++ "lock") := by
  have valid : "alarm" ≠ "" ∧ '\n' ∉ "alarm".toList ∧
      '/' ∉ "status".toList ∧ '/' ∉ "alarm".toList ∧ '/' ∉ "lock".toList := by decide
  have routed := (route?_gateway_first_category.2.2.2 .powerUsage "status" "alarm" "lock"
    valid.1 valid.2.1 valid.2.2).1
  have first := (route?_gateway_first_category.2.2.1 _ _ routed).2
  exact ⟨valid, routed, first⟩

end Router
end GatewayTelemetry
