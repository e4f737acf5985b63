import GatewayTelemetry.Proofs.Pattern.NormalForm
import GatewayTelemetry.Proofs.Pattern.Search

/-!
# What groups capture

What a match has captured is a part of the text, whatever the automaton: a stop knows only places of
the text, and each step keeps it so. In the automaton of a pattern, moreover, nothing is captured
under a number under which matches of the pattern capture nothing; and of the ways to put patterns
together, only groups capture anything.
-/

namespace GatewayTelemetry
namespace Pattern

/-! ## Parts of the text -/

/-- The places of which a stop knows are in a text: its own one, those where groups started, and
those where captured parts start. -/
structure Stop.IsWithin (stop : Stop) (text : List Char) : Prop where
  place : stop.place.rest <:+ text
  opened : ∀ entry ∈ stop.opened, entry.2.rest <:+ text
  captured : ∀ entry ∈ stop.captured, entry.2.rest <:+ text

theorem mem_of_lookup {Value : Type} {entries : List (Nat × Value)} {number : Nat} {value : Value}
    (found : entries.lookup number = some value) : (number, value) ∈ entries := by
  obtain ⟨front, back, rfl, -⟩ := List.lookup_eq_some_iff.mp found
  exact List.mem_append_right front List.mem_cons_self

namespace Automaton

variable {automaton : Automaton} {text : List Char} {stop next : Stop}

theorem isWithin_next (within : stop.IsWithin text) (step : next ∈ automaton.next stop) :
    next.IsWithin text := by
  obtain ⟨place, opened, captured⟩ := within
  cases mem_next_iff.mp step with
  | @read set target c rest known split =>
      have behind : rest <:+ stop.place.rest := split ▸ List.suffix_cons c rest
      exact ⟨behind.trans place, opened, captured⟩
  | openGroup known => exact ⟨place, List.forall_mem_cons.mpr ⟨place, opened⟩, captured⟩
  | @closeGroup number target start known found =>
      -- A captured part starts where its group was opened.
      have behind : start.rest <:+ text := opened _ (mem_of_lookup found)
      exact ⟨place, opened, List.forall_mem_cons.mpr ⟨behind, captured⟩⟩
  | check | closeUnopened | first | second => exact ⟨place, opened, captured⟩

theorem isWithin_of_leads (within : stop.IsWithin text)
    (leads : Exploration.Leads automaton.next stop next) : next.IsWithin text := by
  induction leads with
  | refl => exact within
  | tail _ step ih => exact isWithin_next ih step

theorem isWithin_of_search? (result : automaton.search? text = some stop) :
    stop.IsWithin text := by
  obtain ⟨-, place, among, leads⟩ := exists_leads_of_search? result
  obtain ⟨front, back, rfl, rfl⟩ := Place.mem_allFrom.mp among
  exact isWithin_of_leads ⟨List.suffix_append front back, List.forall_mem_nil _,
    List.forall_mem_nil _⟩ leads

/-- What a group captures is a contiguous part of the text. -/
theorem isInfix_of_capture? {number : Nat} {topic part : String}
    (captured : automaton.capture? number topic = some part) :
    part.toList <:+: topic.toList := by
  obtain ⟨chars, spelled, rfl⟩ := Option.map_eq_some_iff.mp captured
  obtain ⟨stop, result, noted⟩ := Option.bind_eq_some_iff.mp spelled
  obtain ⟨span, found, rfl⟩ := Option.map_eq_some_iff.mp noted
  have within := (isWithin_of_search? result).captured _ (mem_of_lookup found)
  rw [String.toList_ofList]
  exact (List.take_prefix span.length span.rest).isInfix.trans within.isInfix

end Automaton

/-! ## Numbers of captured parts -/

/-- Matches capture something under some numbers only. -/
def CapturesOnly (numbers : Set Nat) (passes : Trail → Trail → Prop) : Prop :=
  ∀ ⦃start later : Trail⦄, passes start later →
    ∀ entry ∈ later.captured, entry ∈ start.captured ∨ entry.1 ∈ numbers

namespace CapturesOnly

variable {numbers more : Set Nat} {passes others : Trail → Trail → Prop}

theorem mono (only : CapturesOnly numbers passes) (subset : numbers ⊆ more) :
    CapturesOnly more passes := fun _ _ passed entry among =>
  (only passed entry among).imp_right fun present => subset present

theorem eq : CapturesOnly numbers Eq := by
  rintro start later rfl entry among
  exact .inl among

theorem comp (first : CapturesOnly numbers passes) (second : CapturesOnly numbers others) :
    CapturesOnly numbers (Relation.Comp passes others) := by
  rintro start later ⟨between, passed, further⟩ entry among
  rcases second further entry among with among | present
  · exact first passed entry among
  · exact .inr present

theorem sup (first : CapturesOnly numbers passes) (second : CapturesOnly numbers others) :
    CapturesOnly numbers (passes ⊔ others) := by
  rintro start later (passed | passed)
  · exact first passed
  · exact second passed

theorem rounds (only : CapturesOnly numbers passes) (count : Nat) :
    CapturesOnly numbers (Rounds passes count) := by
  induction count with
  | zero => exact eq
  | succ count ih => exact only.comp ih

theorem effect {effect : Trail → Option Trail}
    (keeps : ∀ start later, effect start = some later → later.captured = start.captured) :
    CapturesOnly numbers (Effect effect) := fun start later passed _ among =>
  .inl (keeps start later passed ▸ among)

theorem ofSet (set : CharSet) (isAscii : Bool) :
    CapturesOnly numbers (Pattern.ofSet set isAscii).Passes := by
  rw [passes_ofSet]
  refine effect fun start later read => ?_
  obtain ⟨c, rest, -, -, rfl⟩ := effect_readOne_iff.mp read
  rfl

theorem assertion (assertion : Assertion) : CapturesOnly numbers (assert assertion).Passes := by
  refine effect fun start later checked => ?_
  obtain ⟨-, same⟩ := Option.ite_none_right_eq_some.mp checked
  obtain rfl := Option.some.inj same
  rfl

theorem group {number : Nat} {body : Pattern} (only : CapturesOnly numbers body.Passes)
    (among : number ∈ numbers) : CapturesOnly numbers (Pattern.group number body).Passes := by
  have opens : CapturesOnly numbers (Effect fun trail => some (trail.openGroup number)) :=
    effect fun start later opened => Option.some.inj opened ▸ rfl
  have closes : CapturesOnly numbers (Effect fun trail => some (trail.closeGroup number)) := by
    rintro start later closed entry present
    obtain rfl := Option.some.inj closed
    rw [Trail.closeGroup] at present
    split at present
    · exact .inl present
    · rcases List.mem_cons.mp present with rfl | present
      · exact .inr among
      · exact .inl present
  exact (opens.comp only).comp closes

theorem patternRounds {body : Pattern} (only : CapturesOnly numbers body.Passes) (least : Nat)
    (most : Option Nat) (greedy : Bool) :
    CapturesOnly numbers (Pattern.rounds least most greedy body).Passes := by
  have counted (least : Nat) (most : Option Nat) : CapturesOnly numbers
      (if least = 0 ∧ most = some 0 then empty else if least = 1 ∧ most = some 1 then body
        else .repeated least most greedy body).Passes := by
    split
    · exact eq
    · split
      · exact only
      · rintro start later ⟨count, -, passed⟩
        exact only.rounds (least + count) passed
  exact counted _ _

/-- Nothing is captured under a number under which matches capture nothing. -/
theorem capture?_eq_none {pattern : Pattern} {numbers : Set Nat}
    (only : CapturesOnly numbers pattern.Passes) {number : Nat} (absent : number ∉ numbers)
    (topic : String) : pattern.toAutomaton.capture? number topic = none := by
  rw [Automaton.capture?]
  cases result : pattern.toAutomaton.search? topic.toList with
  | none => rfl
  | some stop =>
      obtain ⟨place, -, later, passed, rfl⟩ := exists_passes_of_search? result
      have unknown : later.captured.lookup number = none := by
        refine List.lookup_eq_none_iff.mpr fun entry among => bne_iff_ne.mpr ?_
        rintro rfl
        -- Nothing was captured yet where the match started.
        exact (only passed entry among).elim List.not_mem_nil absent
      rw [Option.bind_some, Stop.capture?, Trail.inState, unknown]
      rfl

end CapturesOnly

end Pattern
end GatewayTelemetry
