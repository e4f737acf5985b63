import Mathlib.Data.Char
import Mathlib.Order.BooleanAlgebra.Set
import Mathlib.Order.Interval.Set.Defs
import GatewayTelemetry.Pattern.CharSet

/-!
# What sets of characters hold

Each way to make a set holds the characters that its name says. The ranges of a set are joined where
they meet, which loses and adds nothing. A complement is read off the gaps between ranges, so it is
right for sets whose ranges are in ascending order, and all sets that are made from such sets are
such sets again.
-/

namespace GatewayTelemetry
namespace Pattern
namespace CharSet

open Unicode (CodeRange)

/-! ## Ranges -/

theorem anyContains_cons {range : CodeRange} {ranges : List CodeRange} {code : Nat} :
    CodeRange.anyContains (range :: ranges) code = true ↔
      (range.low ≤ code ∧ code ≤ range.high) ∨ CodeRange.anyContains ranges code = true := by
  simp [CodeRange.anyContains, CodeRange.contains]

theorem anyContains_append {ranges others : List CodeRange} {code : Nat} :
    CodeRange.anyContains (ranges ++ others) code = true ↔
      CodeRange.anyContains ranges code = true ∨ CodeRange.anyContains others code = true := by
  simp [CodeRange.anyContains]

/-- A range that is put among others adds its code points and nothing else. -/
theorem anyContains_insertRange {range : CodeRange} {ranges : List CodeRange} {code : Nat} :
    CodeRange.anyContains (insertRange range ranges) code = true ↔
      (range.low ≤ code ∧ code ≤ range.high) ∨ CodeRange.anyContains ranges code = true := by
  induction ranges generalizing range with
  | nil => rw [insertRange, anyContains_cons]
  | cons first rest ih =>
      rw [insertRange]
      split
      · rw [anyContains_cons]
      · split
        · rw [anyContains_cons, ih, anyContains_cons, or_left_comm]
        · next meets follows =>
            rw [ih, anyContains_cons, ← or_assoc]
            refine or_congr_left ?_
            dsimp only
            omega

theorem anyContains_foldl {ranges placed : List CodeRange} {code : Nat} :
    CodeRange.anyContains (ranges.foldl (fun placed range => insertRange range placed) placed)
        code = true ↔
      CodeRange.anyContains placed code = true ∨ CodeRange.anyContains ranges code = true := by
  induction ranges generalizing placed with
  | nil => simp [CodeRange.anyContains]
  | cons range ranges ih =>
      rw [List.foldl_cons, ih, anyContains_insertRange, anyContains_cons, or_assoc, or_left_comm]

/-! ## Ascending order -/

/-- Ranges that are not empty, each below those that follow. -/
def Ascending (ranges : List CodeRange) : Prop :=
  (∀ range ∈ ranges, range.low ≤ range.high) ∧
    ranges.Pairwise fun range later => range.high < later.low

instance (ranges : List CodeRange) : Decidable (Ascending ranges) :=
  inferInstanceAs (Decidable (_ ∧ _))

theorem ascending_nil : Ascending [] :=
  ⟨by simp, .nil⟩

theorem ascending_cons {range : CodeRange} {ranges : List CodeRange} :
    Ascending (range :: ranges) ↔
      range.low ≤ range.high ∧ (∀ later ∈ ranges, range.high < later.low) ∧ Ascending ranges := by
  simp only [Ascending, List.forall_mem_cons, List.pairwise_cons, and_assoc, and_left_comm]

/-- A bound below a range and below others is also below what joins them. -/
theorem lt_low_of_mem_insertRange {bound : Nat} {range : CodeRange} {ranges : List CodeRange}
    (below : bound < range.low) (belowOthers : ∀ other ∈ ranges, bound < other.low) :
    ∀ other ∈ insertRange range ranges, bound < other.low := by
  induction ranges generalizing range with
  | nil => simpa [insertRange] using below
  | cons first rest ih =>
      obtain ⟨belowFirst, belowRest⟩ := List.forall_mem_cons.mp belowOthers
      rw [insertRange]
      split
      · exact List.forall_mem_cons.mpr ⟨below, belowOthers⟩
      · split
        · exact List.forall_mem_cons.mpr ⟨belowFirst, ih below belowRest⟩
        · refine ih ?_ belowRest
          dsimp only
          omega

theorem ascending_insertRange {range : CodeRange} {ranges : List CodeRange}
    (filled : range.low ≤ range.high) (ascending : Ascending ranges) :
    Ascending (insertRange range ranges) := by
  induction ranges generalizing range with
  | nil => exact ascending_cons.mpr ⟨filled, by simp, ascending_nil⟩
  | cons first rest ih =>
      obtain ⟨firstFilled, below, restAscending⟩ := ascending_cons.mp ascending
      rw [insertRange]
      split
      · next before =>
          refine ascending_cons.mpr ⟨filled, List.forall_mem_cons.mpr ⟨by omega, ?_⟩, ascending⟩
          intro later among
          have := below later among
          omega
      · split
        · next after =>
            exact ascending_cons.mpr ⟨firstFilled,
              lt_low_of_mem_insertRange (by omega) below, ih filled restAscending⟩
        · refine ih ?_ restAscending
          dsimp only
          omega

theorem ascending_foldl {ranges placed : List CodeRange}
    (filled : ∀ range ∈ ranges, range.low ≤ range.high) (ascending : Ascending placed) :
    Ascending (ranges.foldl (fun placed range => insertRange range placed) placed) := by
  induction ranges generalizing placed with
  | nil => exact ascending
  | cons range ranges ih =>
      obtain ⟨first, others⟩ := List.forall_mem_cons.mp filled
      exact ih others (ascending_insertRange first ascending)

/-! ## Gaps -/

/-- The gaps between ascending ranges hold what the ranges do not. -/
theorem anyContains_gaps {start : Nat} {ranges : List CodeRange} (ascending : Ascending ranges)
    (above : ∀ range ∈ ranges, start ≤ range.low) {code : Nat} (inside : code ≤ 0x10ffff) :
    CodeRange.anyContains (gaps start ranges) code = true ↔
      start ≤ code ∧ ¬CodeRange.anyContains ranges code = true := by
  induction ranges generalizing start with
  | nil =>
      rw [gaps]
      split
      · simp [CodeRange.anyContains, CodeRange.contains, inside]
      · simp [CodeRange.anyContains]
        omega
  | cons first rest ih =>
      obtain ⟨filled, below, restAscending⟩ := ascending_cons.mp ascending
      have aboveFirst := above first List.mem_cons_self
      have further := ih restAscending (fun range among => below range among)
      rw [gaps]
      by_cases present : CodeRange.anyContains rest code = true
      · -- A code point of a later range is above the first range.
        obtain ⟨range, among, contains⟩ := List.any_eq_true.mp present
        have beyond := below range among
        simp only [CodeRange.contains, Bool.and_eq_true, decide_eq_true_eq] at contains
        split
        all_goals simp only [anyContains_cons, further, present, not_true_eq_false, and_false,
          or_false, or_true, iff_false]
        omega
      · split
        all_goals simp only [anyContains_cons, further, present, Bool.false_eq_true,
          not_false_eq_true, and_true, or_false]
        all_goals omega

theorem ascending_gaps {start : Nat} {ranges : List CodeRange} (ascending : Ascending ranges)
    (above : ∀ range ∈ ranges, start ≤ range.low) :
    Ascending (gaps start ranges) ∧ ∀ gap ∈ gaps start ranges, start ≤ gap.low := by
  induction ranges generalizing start with
  | nil =>
      rw [gaps]
      split
      · next inside => exact ⟨ascending_cons.mpr ⟨inside, by simp, ascending_nil⟩, by simp⟩
      · exact ⟨ascending_nil, by simp⟩
  | cons first rest ih =>
      obtain ⟨filled, below, restAscending⟩ := ascending_cons.mp ascending
      have aboveFirst := above first List.mem_cons_self
      obtain ⟨further, beyond⟩ := ih restAscending (fun range among => below range among)
      rw [gaps]
      split
      · refine ⟨ascending_cons.mpr ⟨by dsimp only; omega, fun gap among => ?_, further⟩,
          List.forall_mem_cons.mpr ⟨Nat.le_refl _, fun gap among => ?_⟩⟩
        · have := beyond gap among
          dsimp only
          omega
        · have := beyond gap among
          omega
      · refine ⟨further, fun gap among => ?_⟩
        have := beyond gap among
        omega

/-! ## Surrogates -/

theorem anyContains_scalarParts {range : CodeRange} {code : Nat} (isValid : code.isValidChar) :
    CodeRange.anyContains (scalarParts range) code = true ↔
      range.low ≤ code ∧ code ≤ range.high := by
  rw [scalarParts]
  split <;> split <;> simp [CodeRange.anyContains, CodeRange.contains] <;>
    (simp only [Nat.isValidChar] at isValid; omega)

theorem ascending_scalarParts {range : CodeRange} (filled : range.low ≤ range.high) :
    Ascending (scalarParts range) ∧
      ∀ part ∈ scalarParts range, range.low ≤ part.low ∧ part.high ≤ range.high := by
  rw [scalarParts]
  split <;> split <;> simp [ascending_cons, ascending_nil] <;> omega

theorem ascending_flatMap_scalarParts {ranges : List CodeRange} (ascending : Ascending ranges) :
    Ascending (ranges.flatMap scalarParts) := by
  obtain ⟨filled, ordered⟩ := ascending
  refine ⟨fun part among => ?_, List.pairwise_flatMap.mpr ⟨fun range among => ?_, ?_⟩⟩
  · obtain ⟨range, present, among⟩ := List.mem_flatMap.mp among
    exact (ascending_scalarParts (filled range present)).1.1 part among
  · exact (ascending_scalarParts (filled range among)).1.2
  · refine ordered.imp_of_mem fun present laterPresent below part among laterPart laterAmong => ?_
    have first := ((ascending_scalarParts (filled _ present)).2 part among).2
    have second := ((ascending_scalarParts (filled _ laterPresent)).2 laterPart laterAmong).1
    omega

theorem anyContains_flatMap_scalarParts {ranges : List CodeRange} {code : Nat}
    (isValid : code.isValidChar) :
    CodeRange.anyContains (ranges.flatMap scalarParts) code = true ↔
      CodeRange.anyContains ranges code = true := by
  induction ranges with
  | nil => rfl
  | cons range ranges ih =>
      rw [List.flatMap_cons, anyContains_append, anyContains_scalarParts isValid, ih,
        anyContains_cons]

/-! ## Sets -/

/-- A set that is in order and holds exactly some characters. -/
structure Holds (set : CharSet) (members : Set Char) : Prop where
  ascending : Ascending set.ranges
  contains_iff : ∀ c, set.contains c = true ↔ c ∈ members

theorem holds_empty : Holds .empty ∅ where
  ascending := ascending_nil
  contains_iff c := iff_of_false Bool.false_ne_true (Set.notMem_empty c)

theorem contains_single {c d : Char} : (single c).contains d = true ↔ d = c := by
  rw [contains, hasCode, single, CodeRange.anyContains, List.any_cons, List.any_nil,
    Bool.or_false, CodeRange.contains, Bool.and_eq_true, decide_eq_true_eq, decide_eq_true_eq,
    ← Char.toNat_inj]
  dsimp only
  omega

theorem holds_single (c : Char) : Holds (single c) {c} where
  ascending := ascending_cons.mpr ⟨Nat.le_refl _, by simp, ascending_nil⟩
  contains_iff _ := contains_single

theorem holds_ofRanges {ranges : List CodeRange}
    (filled : ∀ range ∈ ranges, range.low ≤ range.high) :
    Holds (ofRanges ranges) {c | CodeRange.anyContains ranges c.toNat = true} where
  ascending := ascending_foldl filled ascending_nil
  contains_iff _ := anyContains_foldl.trans (or_iff_right Bool.false_ne_true)

/-- A range that runs backwards has no code points. -/
theorem anyContains_filter_forwards {ranges : List CodeRange} {code : Nat} :
    CodeRange.anyContains (ranges.filter fun range => range.low ≤ range.high) code = true ↔
      CodeRange.anyContains ranges code = true := by
  simp only [CodeRange.anyContains, List.any_filter, CodeRange.contains, List.any_eq_true,
    Bool.and_eq_true, decide_eq_true_eq]
  exact exists_congr fun range => and_congr_right fun _ => ⟨And.right, fun within =>
    ⟨within.1.trans within.2, within⟩⟩

theorem holds_ofCodes (ranges : List CodeRange) :
    Holds (ofCodes ranges) {c | CodeRange.anyContains ranges c.toNat = true} := by
  let forwards := ranges.filter fun range => range.low ≤ range.high
  have filled : ∀ part ∈ forwards.flatMap scalarParts, part.low ≤ part.high := by
    intro part among
    obtain ⟨range, present, among⟩ := List.mem_flatMap.mp among
    have ordered : range.low ≤ range.high := by simpa using (List.mem_filter.mp present).2
    exact (ascending_scalarParts ordered).1.1 part among
  obtain ⟨ascending, contains_iff⟩ := holds_ofRanges filled
  refine ⟨ascending, fun c => (contains_iff c).trans ?_⟩
  exact (anyContains_flatMap_scalarParts c.valid).trans anyContains_filter_forwards

theorem holds_range {low high : Char} (ordered : low ≤ high) :
    Holds (range low high) (Set.Icc low high) := by
  let codes : CodeRange := ⟨low.toNat, high.toNat⟩
  have filled : codes.low ≤ codes.high := ordered
  obtain ⟨ascending, contains_iff⟩ := holds_ofRanges (ascending_scalarParts filled).1.1
  exact ⟨ascending, fun c => (contains_iff c).trans (anyContains_scalarParts c.valid)⟩

theorem holds_ofList (chars : List Char) : Holds (ofList chars) {c | c ∈ chars} := by
  let codes : List CodeRange := chars.map fun c => ⟨c.toNat, c.toNat⟩
  have filled : ∀ range ∈ codes, range.low ≤ range.high := by simp [codes]
  obtain ⟨ascending, contains_iff⟩ := holds_ofRanges filled
  refine ⟨ascending, fun c => (contains_iff c).trans ?_⟩
  simp [codes, CodeRange.anyContains, CodeRange.contains, ← Nat.le_antisymm_iff, Char.toNat_inj]

section

variable {set left right : CharSet} {members lefts rights : Set Char}

theorem contains_union {c : Char} : (left.union right).contains c = true ↔
    left.contains c = true ∨ right.contains c = true :=
  anyContains_foldl

theorem Holds.union (first : Holds left lefts) (second : Holds right rights) :
    Holds (left.union right) (lefts ∪ rights) where
  ascending := ascending_foldl second.ascending.1 first.ascending
  contains_iff c := contains_union.trans (or_congr (first.contains_iff c) (second.contains_iff c))

theorem Holds.complement (holds : Holds set members) : Holds set.complement membersᶜ where
  ascending := ascending_flatMap_scalarParts (ascending_gaps holds.ascending (by simp)).1
  contains_iff c := by
    have isValid : c.toNat.isValidChar := c.valid
    have inside : c.toNat ≤ 0x10ffff := by
      simp only [Nat.isValidChar] at isValid
      omega
    change CodeRange.anyContains ((gaps 0 set.ranges).flatMap scalarParts) c.toNat = true ↔ _
    rw [anyContains_flatMap_scalarParts isValid,
      anyContains_gaps holds.ascending (by simp) inside, and_iff_right (Nat.zero_le _)]
    exact not_congr (holds.contains_iff c)

theorem Holds.inter (first : Holds left lefts) (second : Holds right rights) :
    Holds (left.inter right) (lefts ∩ rights) := by
  have complements := (first.complement.union second.complement).complement
  rwa [Set.compl_union, compl_compl, compl_compl] at complements

theorem Holds.minus (first : Holds left lefts) (second : Holds right rights) :
    Holds (left.minus right) (lefts \ rights) :=
  first.inter second.complement

theorem Holds.symmetricDifference (first : Holds left lefts) (second : Holds right rights) :
    Holds (left.symmetricDifference right) (lefts \ rights ∪ rights \ lefts) :=
  (first.minus second).union (second.minus first)

end

/-! ## Named sets -/

theorem holds_digit : Holds digit {c | CodeRange.anyContains Unicode.digits c.toNat = true} where
  ascending := by decide +kernel
  contains_iff _ := Iff.rfl

theorem holds_space : Holds space {c | Text.isBlank c = true} := by
  simpa [Text.isBlank, space] using holds_ofList Text.blanks

theorem holds_word : Holds word {c | Unicode.isWord c = true} := by
  obtain ⟨ascending, contains_iff⟩ :=
    @holds_ofRanges (Unicode.letters ++ Unicode.digits ++ Unicode.wordSigns) (by decide +kernel)
  refine ⟨ascending, fun c => (contains_iff c).trans ?_⟩
  simp [CodeRange.anyContains, Unicode.isWord, or_assoc]

def noFeed : CharSet :=
  .except ['\n']

theorem holds_noFeed : Holds noFeed {c | c ≠ '\n'} := by
  have others := (holds_ofList ['\n']).complement
  exact ⟨others.ascending, fun c => (others.contains_iff c).trans (by simp)⟩

theorem contains_noFeed {c : Char} : noFeed.contains c = true ↔ c ≠ '\n' :=
  holds_noFeed.contains_iff c

end CharSet
end Pattern
end GatewayTelemetry
