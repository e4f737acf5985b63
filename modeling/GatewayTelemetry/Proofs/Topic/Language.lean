import GatewayTelemetry.Proofs.Pattern.ExpressionReading
import GatewayTelemetry.Proofs.Pattern.Leftmost
import GatewayTelemetry.Topic.Rule

/-!
# Serials of a language

A rule whose pattern is an expression in parentheses captures words of the language of the
expression: one from the leftmost place of the topic at which any word stands, and never the empty
one. Where the empty word belongs to the language, it may be found instead of another word that
stands at the same place or further on; then nothing is captured.
-/

namespace GatewayTelemetry
namespace Pattern

/-- A word of a language stands in a text behind so many characters. -/
def StandsAt (language : Language Char) (text : List Char) (position : Nat) (word : List Char) :
    Prop :=
  word ∈ language ∧ ∃ before after, text = before ++ (word ++ after) ∧ before.length = position

variable {language : Language Char} {body : Pattern} {text : List Char}

/-- A match of the first group captures the word that it reads. -/
theorem exists_word_of_passes_group (denotes : Denotes body.Passes language) {place : Place}
    {later : Trail} (passed : (Pattern.group 1 body).Passes (.origin place) later) (state : Nat) :
    ∃ word ∈ language, ∃ rest, place.rest = word ++ rest ∧
      (later.inState state).capture? 1 = some word := by
  obtain ⟨inner, ⟨opened, hasOpened, passed⟩, hasClosed⟩ := passed
  obtain rfl := Option.some.inj hasOpened
  obtain rfl := Option.some.inj hasClosed
  obtain ⟨word, among, behind, read, same⟩ := denotes.exists_word passed
  obtain ⟨rest, split, rfl⟩ := reads_iff.mp read
  obtain ⟨samePlace, sameOpened⟩ := Prod.mk.inj same
  have openedHere : inner.opened.lookup 1 = some place := sameOpened
  refine ⟨word, among, rest, split, ?_⟩
  rw [Trail.closeGroup, openedHere]
  change some (place.upTo inner.place).text = _
  rw [samePlace]
  exact congrArg some (text_upTo_after split)

theorem exists_passes_group (denotes : Denotes body.Passes language) {place : Place}
    {word rest : List Char} (among : word ∈ language) (split : place.rest = word ++ rest) :
    ∃ later, (Pattern.group 1 body).Passes (.origin place) later := by
  let opened := Trail.openGroup 1 (.origin place)
  have read : Reads word opened (opened.readText word rest) := reads_iff.mpr ⟨rest, split, rfl⟩
  obtain ⟨inner, passed, -⟩ := denotes.exists_passes among read
  exact ⟨inner.closeGroup 1, inner, ⟨opened, rfl, passed⟩, rfl⟩

theorem search?_group_eq_none (denotes : Denotes body.Passes language)
    (nothing : ∀ position word, ¬StandsAt language text position word) :
    (Pattern.group 1 body).toAutomaton.search? text = none := by
  refine Option.eq_none_iff_forall_ne_some.mpr fun stop result => ?_
  obtain ⟨place, among, later, passed, -⟩ := exists_passes_of_search? result
  obtain ⟨before, after, split, rfl⟩ := Place.mem_allFrom.mp among
  obtain ⟨word, inLanguage, rest, same, -⟩ := exists_word_of_passes_group denotes passed 0
  obtain rfl : after = word ++ rest := same
  exact nothing _ word ⟨inLanguage, before, rest, split, rfl⟩

/-- A search for the first group captures a word from the leftmost place at which one stands. -/
theorem exists_search?_group (denotes : Denotes body.Passes language) {position : Nat}
    {word : List Char} (stands : StandsAt language text position word) :
    ∃ stop first captured, (Pattern.group 1 body).toAutomaton.search? text = some stop ∧
      stop.capture? 1 = some captured ∧ StandsAt language text first captured ∧
      ∀ position word, StandsAt language text position word → first ≤ position := by
  have passesFrom : ∀ {position : Nat} {word : List Char},
      StandsAt language text position word → ∃ place ∈ Place.allFrom 0 none text,
        place.position = position ∧
          ∃ later, (Pattern.group 1 body).Passes (.origin place) later := by
    rintro _ word ⟨among, before, after, split, rfl⟩
    refine ⟨_, Place.mem_allFrom.mpr ⟨before, _, split, rfl⟩, Nat.zero_add _, ?_⟩
    exact exists_passes_group denotes among rfl
  obtain ⟨place, among, -, later, passed⟩ := passesFrom stands
  obtain ⟨first, firstAmong, ⟨later, passed⟩, misses⟩ := exists_leftmost among passed
  obtain ⟨found, result, passed⟩ := exists_search?_of_first firstAmong misses passed
  obtain ⟨captured, inLanguage, rest, same, capture⟩ := exists_word_of_passes_group denotes passed 0
  obtain ⟨before, after, split, rfl⟩ := Place.mem_allFrom.mp firstAmong
  obtain rfl : after = captured ++ rest := same
  refine ⟨_, before.length, captured, result, capture,
    ⟨inLanguage, before, rest, split, rfl⟩, fun position word stands => ?_⟩
  obtain ⟨other, otherAmong, rfl, later, passed⟩ := passesFrom stands
  by_contra sooner
  refine misses other otherAmong ?_ later passed
  rw [Place.after, Nat.zero_add]
  exact Nat.lt_of_not_le sooner

end Pattern

namespace Rule

open Pattern (Expression StandsAt)

variable {expression : Expression} {category : Category} {properties : Unicode.Properties}

theorem exists_compiled_ofPattern_inParentheses
    (active : (ofPattern expression.inParentheses category properties).isActive = true) :
    ∃ body, (ofPattern expression.inParentheses category properties).compiled =
        some (Pattern.group 1 body).toAutomaton ∧
      Pattern.Denotes body.Passes (expression.language properties) := by
  obtain ⟨automaton, compiled⟩ := Option.isSome_iff_exists.mp active
  obtain ⟨pattern, parsed, rfl⟩ := Option.map_eq_some_iff.mp compiled
  obtain ⟨parsed, -⟩ := Option.filter_eq_some_iff.mp parsed
  have spelled : expression.inParentheses.toList = '(' :: (expression.text ++ [')']) := by
    simp [Expression.inParentheses]
  obtain ⟨body, rfl, denotes⟩ := Pattern.exists_of_parse?_group spelled parsed
  exact ⟨body, compiled, denotes⟩

section

variable {rule : Rule} {body : Pattern} {language : Language Char}
  (compiled : rule.compiled = some (Pattern.group 1 body).toAutomaton)
  (denotes : Pattern.Denotes body.Passes language) {topic : String}

include compiled denotes

theorem capture?_eq_none_of_group
    (nothing : ∀ position word, ¬StandsAt language topic.toList position word) :
    rule.capture? topic = none := by
  rw [capture?, compiled, Option.bind_some, Pattern.Automaton.capture?,
    Pattern.search?_group_eq_none denotes nothing]
  rfl

/-- A word from the leftmost place at which one stands is captured, unless it is empty. -/
theorem exists_capture?_of_group {position : Nat} {word : List Char}
    (stands : StandsAt language topic.toList position word) :
    ∃ first captured, StandsAt language topic.toList first captured ∧
      (∀ position word, StandsAt language topic.toList position word → first ≤ position) ∧
      rule.capture? topic = (some (String.ofList captured)).filter (!·.isEmpty) := by
  obtain ⟨stop, first, captured, result, capture, standsFirst, least⟩ :=
    Pattern.exists_search?_group denotes stands
  refine ⟨first, captured, standsFirst, least, ?_⟩
  rw [capture?, compiled, Option.bind_some, Pattern.Automaton.capture?, result, Option.bind_some,
    capture]
  rfl

theorem exists_first_of_capture? {serial : String} (captured : rule.capture? topic = some serial) :
    ∃ first, StandsAt language topic.toList first serial.toList ∧
      ∀ position word, StandsAt language topic.toList position word → first ≤ position := by
  by_cases stands : ∃ position word, StandsAt language topic.toList position word
  · obtain ⟨position, word, stands⟩ := stands
    obtain ⟨first, word, standsFirst, least, found⟩ :=
      exists_capture?_of_group compiled denotes stands
    obtain ⟨same, -⟩ := Option.filter_eq_some_iff.mp (found.symm.trans captured)
    obtain rfl := Option.some.inj same
    exact ⟨first, by rwa [String.toList_ofList], least⟩
  · have none := capture?_eq_none_of_group compiled denotes
      fun position word here => stands ⟨position, word, here⟩
    cases none.symm.trans captured

theorem isSome_capture?_of_group (noEmpty : [] ∉ language)
    (stands : ∃ position word, StandsAt language topic.toList position word) :
    (rule.capture? topic).isSome = true := by
  obtain ⟨position, word, stands⟩ := stands
  obtain ⟨first, word, standsFirst, -, found⟩ := exists_capture?_of_group compiled denotes stands
  have filled : word ≠ [] := by
    rintro rfl
    exact noEmpty standsFirst.1
  rw [found, Option.filter_some, if_pos (by simpa using filled)]
  rfl

end

/-- An active rule whose pattern is an expression in parentheses captures nothing from a topic in
which no word of the language stands. What it captures is a word of the language that is not empty
and stands at the leftmost place at which any word stands. If the empty word does not belong to the
language, it captures something from each topic in which a word stands. All this holds whichever
characters have the properties that the expression names. -/
theorem capture?_ofPattern_inParentheses
    (active : (ofPattern expression.inParentheses category properties).isActive = true)
    (topic : String) :
    ((∀ position word,
          ¬StandsAt (expression.language properties) topic.toList position word) →
        (ofPattern expression.inParentheses category properties).capture? topic = none) ∧
      (∀ serial, (ofPattern expression.inParentheses category properties).capture? topic =
          some serial → serial ≠ "" ∧
            ∃ first, StandsAt (expression.language properties) topic.toList first serial.toList ∧
              ∀ position word,
                StandsAt (expression.language properties) topic.toList position word →
                  first ≤ position) ∧
      ([] ∉ expression.language properties →
        (∃ position word,
          StandsAt (expression.language properties) topic.toList position word) →
            ((ofPattern expression.inParentheses category properties).capture?
              topic).isSome = true) := by
  obtain ⟨body, compiled, denotes⟩ := exists_compiled_ofPattern_inParentheses active
  exact ⟨capture?_eq_none_of_group compiled denotes,
    fun serial captured => ⟨ne_empty_of_capture? captured,
      exists_first_of_capture? compiled denotes captured⟩,
    isSome_capture?_of_group compiled denotes⟩

def digits : Pattern.BracketSet :=
  ⟨false, .hyphens 0, .range (.plain '0') (.plain '9') .close, by decide, by decide⟩

def decimalDigit : Pattern.PropertyName :=
  .braced ['N', 'd'] (by decide)

/-- Digits of any script, each with a colon behind it, and a digit of ASCII. -/
def digitsAndColons : Expression :=
  let colon : Pattern.Branch := .next (.plain ':' rfl) ⟨[], .nil⟩ .empty
  .only (.next (.group .plain (.only (.next (.property false decimalDigit) ⟨[], .nil⟩ colon)))
    ⟨[⟨.star, false⟩], .singleton _⟩ (.next (.set digits) ⟨[], .nil⟩ .empty))

theorem language_digitsAndColons (properties : Unicode.Properties) :
    digitsAndColons.language properties =
      Pattern.roundsOf 0 none
          (Pattern.oneOf (decimalDigit.members properties) * (Pattern.oneOf {':'} * 1)) *
        (Pattern.oneOf (digits.members properties) * 1) :=
  rfl

theorem mem_language_digitsAndColons :
    "١:2:3".toList ∈ digitsAndColons.language Pattern.standardProperties := by
  have known : ['١', '2'].all (fun c =>
      (Pattern.standardProperties.find? decimalDigit.name).any
        (Unicode.CodeRange.anyContains · c.toNat)) = true := by decide +kernel
  have pair : ∀ c ∈ ['١', '2'], [c, ':'] ∈
      Pattern.oneOf (decimalDigit.members Pattern.standardProperties) * Pattern.oneOf {':'} := by
    intro c among
    have digit : [c] ∈ Pattern.oneOf (decimalDigit.members Pattern.standardProperties) :=
      ⟨c, List.all_eq_true.mp known c among, rfl⟩
    have colon : [':'] ∈ Pattern.oneOf {':'} := ⟨':', rfl, rfl⟩
    exact Language.append_mem_mul digit colon
  have front : ['١', ':', '2', ':'] ∈ Pattern.roundsOf 0 none
      (Pattern.oneOf (decimalDigit.members Pattern.standardProperties) * Pattern.oneOf {':'}) := by
    refine ⟨2, by simp, by simp, ?_⟩
    rw [pow_two]
    exact Language.append_mem_mul (pair '١' (by decide)) (pair '2' (by decide))
  have last : ['3'] ∈ Pattern.oneOf (digits.members Pattern.standardProperties) :=
    ⟨'3', .inr (.inl (by decide)), rfl⟩
  rw [language_digitsAndColons, mul_one, mul_one]
  exact Language.append_mem_mul front last

theorem nil_notMem_language_digitsAndColons :
    [] ∉ digitsAndColons.language Pattern.standardProperties := by
  rw [language_digitsAndColons, mul_one, mul_one]
  intro among
  obtain ⟨front, -, back, ⟨c, -, rfl⟩, split⟩ := Language.mem_mul.mp among
  simp at split

/-- Digits with colons between them are captured from a topic with other characters around them. -/
theorem capture?_ofPattern_inParentheses_digitsAndColons :
    let rule : Rule :=
      ofPattern digitsAndColons.inParentheses .environment Pattern.standardProperties
    let language := digitsAndColons.language Pattern.standardProperties
    rule.pattern = "((?:\\p\x7bNd\x7d:)*[0-9])" ∧ rule.isActive = true ∧ [] ∉ language ∧
      StandsAt language "gw/١:2:3/x".toList 3 "١:2:3".toList ∧
      ∃ serial, rule.capture? "gw/١:2:3/x" = some serial ∧ serial ≠ "" ∧
        ∃ first ≤ 3, StandsAt language "gw/١:2:3/x".toList first serial.toList := by
  intro rule language
  have active : rule.isActive = true := by decide +kernel
  have stands : StandsAt language "gw/١:2:3/x".toList 3 "١:2:3".toList :=
    ⟨mem_language_digitsAndColons, "gw/".toList, "/x".toList, by decide, by decide⟩
  obtain ⟨-, serials, complete⟩ := capture?_ofPattern_inParentheses active "gw/١:2:3/x"
  obtain ⟨serial, captured⟩ := Option.isSome_iff_exists.mp
    (complete nil_notMem_language_digitsAndColons ⟨3, _, stands⟩)
  obtain ⟨filled, first, standsFirst, least⟩ := serials serial captured
  exact ⟨by decide, active, nil_notMem_language_digitsAndColons, stands, serial, captured, filled,
    first, least 3 _ stands, standsFirst⟩

end Rule
end GatewayTelemetry
