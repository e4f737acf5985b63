import Mathlib.Order.ConditionallyCompleteLattice.Basic
import GatewayTelemetry.Proofs.Pattern.Words

/-!
# What the normal form keeps

The functions that put patterns together keep what they match: joined literals match as the two did,
a set matches as the single characters between which it chooses, and a common start that is put
before a choice matches as it did at the start of each option. So a sequence matches its patterns in
turn, and a choice matches any of its patterns, from the same points to the same points.
-/

namespace GatewayTelemetry
namespace Pattern

/-! ## Sequences -/

/-- Matches of patterns, one behind the other. -/
def InTurn : List Pattern → Trail → Trail → Prop
  | [] => Eq
  | first :: rest => Relation.Comp first.Passes (InTurn rest)

theorem inTurn_singleton (pattern : Pattern) : InTurn [pattern] = pattern.Passes :=
  Relation.comp_eq

theorem inTurn_append (patterns others : List Pattern) :
    InTurn (patterns ++ others) = Relation.Comp (InTurn patterns) (InTurn others) := by
  induction patterns with
  | nil => exact Relation.eq_comp.symm
  | cons first rest ih => rw [List.cons_append, InTurn, ih, InTurn, Relation.comp_assoc]

theorem inTurn_parts (pattern : Pattern) : InTurn pattern.parts = pattern.Passes := by
  induction pattern with
  | empty => rfl
  | concat first second ihFirst ihSecond =>
      rw [parts, inTurn_append, ihFirst, ihSecond, Passes]
  | literal | one | assert | alternative | group | repeated => exact inTurn_singleton _

theorem inTurn_flatMap_parts (patterns : List Pattern) :
    InTurn (patterns.flatMap parts) = InTurn patterns := by
  induction patterns with
  | nil => rfl
  | cons first rest ih => rw [List.flatMap_cons, inTurn_append, inTurn_parts, ih, InTurn]

theorem passes_ofParts (patterns : List Pattern) : (ofParts patterns).Passes = InTurn patterns := by
  induction patterns with
  | nil => rfl
  | cons first rest ih =>
      cases rest with
      | nil => exact (inTurn_singleton first).symm
      | cons second rest =>
          change Relation.Comp first.Passes (ofParts (second :: rest)).Passes = _
          rw [ih]
          rfl

theorem reads_append (text more : List Char) :
    Reads (text ++ more) = Relation.Comp (Reads text) (Reads more) := by
  induction text with
  | nil => exact Relation.eq_comp.symm
  | cons c text ih => rw [List.cons_append, Reads, ih, Reads, Relation.comp_assoc]

theorem inTurn_joinLiteral (first : Pattern) (rest : List Pattern) :
    InTurn (joinLiteral first rest) = InTurn (first :: rest) := by
  fun_cases joinLiteral first rest with
  | case1 left right rest => simp only [InTurn, Passes, reads_append, Relation.comp_assoc]
  | case2 => rfl

theorem inTurn_foldr_joinLiteral (patterns : List Pattern) :
    InTurn (patterns.foldr joinLiteral []) = InTurn patterns := by
  induction patterns with
  | nil => rfl
  | cons first rest ih => rw [List.foldr_cons, inTurn_joinLiteral, InTurn, ih, InTurn]

theorem passes_sequence (patterns : List Pattern) :
    (sequence patterns).Passes = InTurn patterns := by
  rw [sequence, passes_ofParts, inTurn_foldr_joinLiteral, inTurn_flatMap_parts]

/-! ## Sets -/

namespace CharSet

/-- A set that has only one character is the set of this character. -/
theorem eq_single_of_single? {set : CharSet} {c : Char} (only : set.single? = some c) :
    set = single c := by
  obtain ⟨ranges⟩ := set
  rw [single?] at only
  split at only
  · next range same =>
      obtain ⟨⟨ends, isValid⟩, sameChar⟩ := Option.ite_none_right_eq_some.mp only
      obtain rfl := Option.some.inj sameChar
      obtain rfl : ranges = [range] := same
      have sameCode : (Char.ofNat range.low).toNat = range.low := by
        rw [Char.ofNat, dif_pos isValid]
        rfl
      obtain ⟨low, high⟩ := range
      obtain rfl : low = high := ends
      rw [single, sameCode]
  · cases only

end CharSet

theorem passes_ofSet (set : CharSet) (isAscii : Bool) :
    (ofSet set isAscii).Passes = Effect (Trail.readOne? set) := by
  rw [ofSet]
  split
  · next c only => rw [CharSet.eq_single_of_single? only, Passes, Reads, Reads, Relation.comp_eq]
  · rfl

theorem effect_readOne_empty : Effect (Trail.readOne? .empty) = ⊥ := by
  ext start later
  refine iff_of_false (fun read => ?_) id
  obtain ⟨c, rest, -, inside, -⟩ := effect_readOne_iff.mp read
  exact Bool.false_ne_true inside

/-- A union matches what one of the two sets matches. -/
theorem effect_readOne_union (left right : CharSet) :
    Effect (Trail.readOne? (left.union right)) =
      Effect (Trail.readOne? left) ⊔ Effect (Trail.readOne? right) := by
  ext start later
  change _ ↔ Effect _ start later ∨ Effect _ start later
  simp only [effect_readOne_iff, CharSet.contains_union, or_and_right, and_or_left, exists_or]

/-! ## Choices -/

def AnyOf : List Pattern → Trail → Trail → Prop
  | [] => ⊥
  | first :: rest => first.Passes ⊔ AnyOf rest

theorem anyOf_singleton (pattern : Pattern) : AnyOf [pattern] = pattern.Passes :=
  sup_bot_eq _

theorem anyOf_append (patterns others : List Pattern) :
    AnyOf (patterns ++ others) = AnyOf patterns ⊔ AnyOf others := by
  induction patterns with
  | nil => exact (bot_sup_eq _).symm
  | cons first rest ih => rw [List.cons_append, AnyOf, ih, AnyOf, sup_assoc]

/-- One of the options of a pattern matches what the pattern matches. -/
theorem anyOf_options (pattern : Pattern) : AnyOf pattern.options = pattern.Passes := by
  induction pattern with
  | alternative first second ihFirst ihSecond =>
      rw [options, anyOf_append, ihFirst, ihSecond]
      rfl
  | empty | literal | one | assert | concat | group | repeated => exact anyOf_singleton _

theorem anyOf_flatMap_options (patterns : List Pattern) :
    AnyOf (patterns.flatMap options) = AnyOf patterns := by
  induction patterns with
  | nil => rfl
  | cons first rest ih => rw [List.flatMap_cons, anyOf_append, anyOf_options, ih, AnyOf]

theorem passes_ofOptions (patterns : List Pattern) :
    (ofOptions patterns).Passes = AnyOf patterns := by
  induction patterns with
  | nil => exact effect_readOne_empty
  | cons first rest ih =>
      cases rest with
      | nil => exact (anyOf_singleton first).symm
      | cons second rest =>
          change first.Passes ⊔ (ofOptions (second :: rest)).Passes = _
          rw [ih]
          rfl

/-- The union of the sets of patterns matches what any of the patterns matches. -/
theorem anyOf_of_unionOf? {set? : Pattern → Option CharSet} {patterns : List Pattern}
    {union : CharSet}
    (passes : ∀ pattern set, set? pattern = some set →
      pattern.Passes = Effect (Trail.readOne? set))
    (found : unionOf? set? patterns = some union) :
    AnyOf patterns = Effect (Trail.readOne? union) := by
  induction patterns generalizing union with
  | nil => exact Option.some.inj found ▸ effect_readOne_empty.symm
  | cons first rest ih =>
      obtain ⟨set, ofFirst, found⟩ := Option.bind_eq_some_iff.mp found
      obtain ⟨others, ofRest, found⟩ := Option.bind_eq_some_iff.mp found
      obtain rfl := Option.some.inj found
      rw [AnyOf, passes first set ofFirst, ih ofRest, effect_readOne_union]

theorem passes_of_letterSet? {pattern : Pattern} {set : CharSet}
    (found : pattern.letterSet? = some set) : pattern.Passes = Effect (Trail.readOne? set) := by
  fun_cases letterSet? pattern with
  | case1 c =>
      obtain rfl := Option.some.inj found
      exact Relation.comp_eq
  | case2 => simp_all [letterSet?]

theorem passes_of_oneSet? {pattern : Pattern} {set : CharSet}
    (found : pattern.oneSet? = some set) : pattern.Passes = Effect (Trail.readOne? set) := by
  fun_cases oneSet? pattern with
  | case1 other isAscii =>
      obtain rfl := Option.some.inj found
      rfl
  | case2 => simp_all [oneSet?]

theorem passes_merged (patterns : List Pattern) : (merged patterns).Passes = AnyOf patterns := by
  rw [merged]
  split
  · next set found =>
      rw [passes_ofSet]
      rcases Option.or_eq_some_iff.mp found with letters | ⟨-, sets⟩
      · exact (anyOf_of_unionOf? (fun _ _ => passes_of_letterSet?) letters).symm
      · exact (anyOf_of_unionOf? (fun _ _ => passes_of_oneSet?) sets).symm
  · exact passes_ofOptions patterns

/-! ## Common starts -/

theorem commonStart_prefix (left right : List Pattern) :
    commonStart left right <+: left ∧ commonStart left right <+: right := by
  induction left generalizing right with
  | nil => simp [commonStart]
  | cons first left ih =>
      cases right with
      | nil => simp [commonStart]
      | cons second right =>
          rw [commonStart]
          split
          · next same =>
              subst same
              exact ⟨List.prefix_cons_inj .. |>.mpr (ih right).1,
                List.prefix_cons_inj .. |>.mpr (ih right).2⟩
          · exact ⟨List.nil_prefix, List.nil_prefix⟩

/-- What several lists have in common at the start, all of them start with. -/
theorem foldl_commonStart_prefix (first : List Pattern) (others : List (List Pattern)) :
    others.foldl commonStart first <+: first ∧
      ∀ other ∈ others, others.foldl commonStart first <+: other := by
  induction others generalizing first with
  | nil => exact ⟨List.prefix_rfl, by simp⟩
  | cons second others ih =>
      obtain ⟨ofCommon, ofOthers⟩ := ih (commonStart first second)
      obtain ⟨ofFirst, ofSecond⟩ := commonStart_prefix first second
      exact ⟨ofCommon.trans ofFirst,
        List.forall_mem_cons.mpr ⟨ofCommon.trans ofSecond, ofOthers⟩⟩

theorem comp_sup (first second other : Trail → Trail → Prop) :
    Relation.Comp first (second ⊔ other) =
      Relation.Comp first second ⊔ Relation.Comp first other := by
  ext start later
  change (∃ between, first start between ∧ (second between later ∨ other between later)) ↔
    (∃ between, first start between ∧ second between later) ∨
      (∃ between, first start between ∧ other between later)
  simp only [and_or_left, exists_or]

/-- Options with a common start match this start and then what is left of any of them. -/
theorem anyOf_of_prefix {shared : List Pattern} {patterns : List Pattern}
    (starts : ∀ pattern ∈ patterns, shared <+: pattern.parts) :
    AnyOf patterns = Relation.Comp (InTurn shared)
      (AnyOf (patterns.map fun pattern => ofParts (pattern.parts.drop shared.length))) := by
  induction patterns with
  | nil =>
      ext start later
      exact iff_of_false id fun ⟨_, _, impossible⟩ => impossible
  | cons first rest ih =>
      obtain ⟨startsFirst, startsRest⟩ := List.forall_mem_cons.mp starts
      obtain ⟨left, split⟩ := startsFirst
      rw [AnyOf, ih startsRest, List.map_cons, AnyOf, comp_sup, passes_ofParts, ← inTurn_append,
        ← split, List.drop_left, split, inTurn_parts]

theorem anyOf_of_factored? {options shared remainders : List Pattern}
    (found : factored? options = some (shared, remainders)) :
    AnyOf options = Relation.Comp (InTurn shared) (AnyOf remainders) := by
  rw [factored?] at found
  split at found
  · cases found
  · next first others parts =>
      dsimp only at found
      split at found
      · obtain ⟨rfl, rfl⟩ := Prod.mk.inj (Option.some.inj found)
        refine anyOf_of_prefix fun pattern among => ?_
        have present : pattern.parts ∈ first :: others :=
          parts ▸ List.mem_map_of_mem among
        obtain ⟨ofFirst, ofOthers⟩ := foldl_commonStart_prefix first others
        rcases List.mem_cons.mp present with same | later
        · exact same ▸ ofFirst
        · exact ofOthers _ later
      · cases found

/-- A choice matches any of its patterns. -/
theorem passes_choice (patterns : List Pattern) : (choice patterns).Passes = AnyOf patterns := by
  rw [choice, ← anyOf_flatMap_options patterns]
  split
  · next only same => rw [same, anyOf_singleton]
  · split
    · next shared remainders found =>
        rw [passes_sequence, inTurn_append, inTurn_singleton, passes_merged, anyOf_flatMap_options,
          anyOf_of_factored? found]
    · exact passes_merged _

end Pattern
end GatewayTelemetry
