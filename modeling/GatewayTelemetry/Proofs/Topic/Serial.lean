import GatewayTelemetry.Proofs.Pattern.Framed
import GatewayTelemetry.Proofs.Pattern.Longest
import GatewayTelemetry.Proofs.Text.Between
import GatewayTelemetry.Topic.Rule

/-!
# Serials between two texts

A rule with a group of any characters between two texts of letters, digits, slashes, hyphens and
underscores captures what a plain search finds between the two texts. The rule is active unless the
texts are very long; if it is not, it captures nothing, whatever stands between them.
-/

namespace GatewayTelemetry
namespace Pattern

variable {front back : List Char} {topic : String}

theorem exists_framesAt_of_passes {place : Place} {later : Trail}
    (among : place ∈ Place.allFrom 0 none topic.toList)
    (passed : (between front back).Passes (.origin place) later) :
    ∃ stop, Text.FramesAt front back topic.toList place.position stop := by
  obtain ⟨before, rest, split, rfl⟩ := Place.mem_allFrom.mp among
  obtain ⟨serial, after, filled, noFeed, same, -⟩ := passes_between_iff.mp passed
  obtain rfl : rest = front ++ (serial ++ (back ++ after)) := same
  rw [Place.after, Nat.zero_add]
  exact ⟨_, Text.framesAt_of_split filled noFeed split⟩

/-- A search captures what a plain search finds between two texts. -/
theorem capture?_toAutomaton_between (front back : List Char) (topic : String) :
    (between front back).toAutomaton.capture? 1 topic =
      (Text.between? front back topic.toList).map String.ofList := by
  cases found : Text.between? front back topic.toList with
  | none =>
      have nothing := Text.between?_eq_none_iff.mp found
      cases captured : (between front back).toAutomaton.capture? 1 topic with
      | none => rfl
      | some serial =>
          obtain ⟨filled, noFeed, before, after, split⟩ := standsBetween_of_capture? captured
          exact absurd (Text.framesAt_of_split filled noFeed split) (nothing _ _)
  | some serial =>
      obtain ⟨start, stop, frames, part, least, largest⟩ := Text.exists_framesAt_of_between? found
      obtain ⟨before, between, after, split, rfl, rfl, filled, noFeed, same⟩ := frames.exists_split
      obtain rfl : between = serial := same.symm.trans part
      have among : Place.after 0 none before _ ∈ Place.allFrom 0 none topic.toList :=
        Place.mem_allFrom.mpr ⟨before, _, split, rfl⟩
      refine capture?_between among (fun other present sooner later passed => ?_) filled noFeed rfl
        fun longer more noFeedLonger further => ?_
      · obtain ⟨stop, framesSooner⟩ := exists_framesAt_of_passes present passed
        have later := least _ _ framesSooner
        rw [Place.after, Nat.zero_add] at sooner
        exact sooner.not_ge later
      · rcases eq_or_ne longer [] with rfl | filledLonger
        · exact Nat.zero_le _
        · have other : topic.toList = before ++ (front ++ (longer ++ (back ++ more))) :=
            split.trans (congrArg (before ++ ·) further)
          have within := largest _ (Text.framesAt_of_split filledLonger noFeedLonger other)
          exact Nat.le_of_add_le_add_left within

end Pattern

namespace Rule

/-- An ASCII letter, an ASCII digit, a slash, a hyphen or an underscore. -/
def isTopicSign (c : Char) : Bool :=
  c.isAlphanum || c == '/' || c == '-' || c == '_'

theorem isPlain_of_isTopicSign {c : Char} (sign : isTopicSign c = true) :
    Pattern.isPlain c = true := by
  by_contra special
  have among : c ∈ Pattern.signs := by simpa [Pattern.isPlain] using special
  have none : ∀ sign ∈ Pattern.signs, (!isTopicSign sign) = true := List.all_eq_true.mp (by decide)
  simpa [sign] using none c among

theorem utf8Size_of_isTopicSign {c : Char} (sign : isTopicSign c = true) : c.utf8Size = 1 := by
  simp only [isTopicSign, Bool.or_eq_true, beq_iff_eq] at sign
  rcases sign with ((alphanum | rfl) | rfl) | rfl
  · delta Char.isAlphanum Char.isAlpha Char.isUpper Char.isLower Char.isDigit at alphanum
    simp only [Bool.or_eq_true, Bool.and_eq_true, decide_eq_true_eq, ge_iff_le,
      UInt32.le_iff_toNat_le] at alphanum
    rw [Char.utf8Size_eq_one_iff, UInt32.le_iff_toNat_le]
    grind
  all_goals decide

section

variable {front back : String} (frontSigns : ∀ c ∈ front.toList, isTopicSign c = true)
  (backSigns : ∀ c ∈ back.toList, isTopicSign c = true) (category : Category)

include frontSigns backSigns

/-- The rule with a group between two texts has the automaton of the group between them, unless the
texts are very long. -/
theorem compiled_ofPattern :
    (ofPattern (front ++ "(.+)" ++ back) category).compiled =
      if front.length + back.length ≤ 327643 then
        some (Pattern.between front.toList back.toList).toAutomaton
      else none := by
  have spelled : (front ++ "(.+)" ++ back).toList =
      Pattern.framedText front.toList back.toList := by simp [Pattern.framedText]
  have within := Pattern.isWithinLimit_framed
    (fun c among => utf8Size_of_isTopicSign (frontSigns c among))
    (fun c among => utf8Size_of_isTopicSign (backSigns c among))
  simp only [String.length_toList] at within
  change Pattern.compile? _ _ = _
  rw [Pattern.compile?_framedText _ spelled
    (fun c among => isPlain_of_isTopicSign (frontSigns c among))
    (fun c among => isPlain_of_isTopicSign (backSigns c among))]
  simp only [within]

theorem isActive_ofPattern :
    (ofPattern (front ++ "(.+)" ++ back) category).isActive = true ↔
      front.length + back.length ≤ 327643 := by
  rw [isActive, compiled_ofPattern frontSigns backSigns category]
  split
  · next short => exact iff_of_true rfl short
  · next long => exact iff_of_false Bool.false_ne_true long

/-- An active rule with a group between two texts captures from every topic what a plain search
finds between them, and such a rule is active unless the texts are very long. -/
theorem capture?_ofPattern_between :
    (front.length + back.length ≤ 300000 →
        (ofPattern (front ++ "(.+)" ++ back) category).isActive = true) ∧
      ((ofPattern (front ++ "(.+)" ++ back) category).isActive = true → ∀ topic : String,
        (ofPattern (front ++ "(.+)" ++ back) category).capture? topic =
          (Text.between? front.toList back.toList topic.toList).map String.ofList) := by
  have active := isActive_ofPattern frontSigns backSigns category
  refine ⟨fun short => active.mpr (short.trans (by decide)), fun isActive topic => ?_⟩
  rw [capture?, compiled_ofPattern frontSigns backSigns category, if_pos (active.mp isActive),
    Option.bind_some, Pattern.capture?_toAutomaton_between]
  cases found : Text.between? front.toList back.toList topic.toList with
  | none => rfl
  | some serial =>
      have filled : serial ≠ [] := Text.ne_nil_of_between? found
      rw [Option.map_some, Option.filter_some, if_pos]
      simpa using filled

end

/-- Where the two texts overlap, the serial starts behind the first occurrence that has no line feed
behind it, and ends before the last one. -/
theorem capture?_ofPattern_between_overlapping :
    ((∀ c ∈ "aa".toList, isTopicSign c = true) ∧ (∀ c ∈ "a".toList, isTopicSign c = true) ∧
        "aa".length + "a".length ≤ 300000) ∧
      (ofPattern ("aa" ++ "(.+)" ++ "a") .lockStatus).isActive = true ∧
      (ofPattern ("aa" ++ "(.+)" ++ "a") .lockStatus).capture? "aa\naaabaac" = some "aba" := by
  have frontSigns : ∀ c ∈ "aa".toList, isTopicSign c = true := List.all_eq_true.mp (by decide)
  have backSigns : ∀ c ∈ "a".toList, isTopicSign c = true := List.all_eq_true.mp (by decide)
  have short : "aa".length + "a".length ≤ 300000 := by decide
  obtain ⟨active, captures⟩ := capture?_ofPattern_between frontSigns backSigns .lockStatus
  have found : Text.between? "aa".toList "a".toList "aa\naaabaac".toList = some "aba".toList := by
    decide
  refine ⟨⟨frontSigns, backSigns, short⟩, active short, ?_⟩
  rw [captures (active short), found]
  rfl

def longFront : String :=
  String.ofList (List.replicate 450000 'a')

/-- A rule with a text that is too long captures nothing where a plain search finds something. -/
theorem capture?_ofPattern_longFront :
    (∀ c ∈ longFront.toList, isTopicSign c = true) ∧
      (ofPattern (longFront ++ "(.+)" ++ "") .environment).capture? (longFront ++ "x") = none ∧
      (Text.between? longFront.toList "".toList (longFront ++ "x").toList).map String.ofList =
        some "x" := by
  have chars : longFront.toList = List.replicate 450000 'a' := String.toList_ofList
  have signs : ∀ c ∈ longFront.toList, isTopicSign c = true := by
    intro c among
    rw [chars] at among
    exact List.eq_of_mem_replicate among ▸ rfl
  have length : longFront.length = 450000 := by
    rw [← String.length_toList, chars, List.length_replicate]
  have compiled := @compiled_ofPattern longFront "" signs (by simp) .environment
  rw [length, if_neg (by decide)] at compiled
  refine ⟨signs, ?_, ?_⟩
  · rw [capture?, compiled]
    rfl
  · have whole : (longFront ++ "x").toList = longFront.toList ++ ['x'] := String.toList_append
    have found := Text.between?_append_singleton longFront.toList (show 'x' ≠ '\n' by decide)
    rw [whole]
    exact congrArg (Option.map String.ofList) found

end Rule
end GatewayTelemetry
