import GatewayTelemetry.Proofs.Pattern.Between
import GatewayTelemetry.Proofs.Pattern.Reading

/-!
# Reading a group between two texts

A group of any characters between two texts of plain characters is read as such, whatever the texts
are. Its automaton is that of the group between the two texts; it is refused only if the texts are
so long that the automaton is too large.
-/

namespace GatewayTelemetry
namespace Pattern

/-! ## The pattern -/

def literals (text : List Char) : List Pattern :=
  if text = [] then [] else [.literal text]

/-- A group between two texts, in normal form. -/
def framed (front back : List Char) : Pattern :=
  ofParts (literals front ++ serialGroup :: literals back)

theorem toAutomaton_framed (front back : List Char) :
    (framed front back).toAutomaton = (between front back).toAutomaton := by
  cases front <;> cases back <;> rfl

/-- Letters before what is no literal are joined to one literal. -/
theorem foldr_joinLiteral_letters (text : List Char) {rest : List Pattern}
    (noLiteral : ∀ first ∈ rest.head?, ∀ other, first ≠ .literal other) :
    (text.map fun c => literal [c]).foldr joinLiteral rest = literals text ++ rest := by
  induction text with
  | nil => rfl
  | cons c text ih =>
      rw [List.map_cons, List.foldr_cons, ih]
      cases text with
      | cons d text => rfl
      | nil =>
          cases rest with
          | nil => rfl
          | cons first rest =>
              cases first with
              | literal other => exact absurd rfl (noLiteral _ rfl other)
              | _ => rfl

theorem sequence_framed (front back : List Char) :
    Pattern.sequence ((front.map fun c => literal [c]) ++
      serialGroup :: back.map fun c => literal [c]) = framed front back := by
  have flat : ∀ text : List Char,
      (text.map fun c => literal [c]).flatMap parts = text.map fun c => literal [c] := by
    intro text
    induction text with
    | nil => rfl
    | cons c text ih => rw [List.map_cons, List.flatMap_cons, ih]; rfl
  have group : serialGroup.parts = [serialGroup] := rfl
  rw [Pattern.sequence, List.flatMap_append, List.flatMap_cons, flat, flat, group,
    List.foldr_append, List.singleton_append, List.foldr_cons,
    foldr_joinLiteral_letters back (by simp), List.append_nil]
  have joined : joinLiteral serialGroup (literals back) = serialGroup :: literals back := rfl
  rw [joined, foldr_joinLiteral_letters front]
  · rfl
  · rintro _ ⟨⟩ other
    simp [serialGroup]

/-! ## The text -/

def framedText (front back : List Char) : List Char :=
  front ++ '(' :: '.' :: '+' :: ')' :: back

variable (properties : Unicode.Properties)

/-- The group is read as one that captures, with a repetition in it. -/
theorem piece_serialGroup (depth : Nat) (names : List (List Char)) (rest : List Char) :
    piece properties (body properties (depth + 1)) '(' ⟨Flags.initial, 0, names⟩
        ('.' :: '+' :: ')' :: rest) =
      some (.piece ⟨serialGroup, 2⟩, ⟨Flags.initial, 1, names⟩, rest) :=
  rfl

theorem pieces_framed (depth : Nat) {front back : List Char}
    (frontPlain : ∀ c ∈ front, isPlain c = true) (backPlain : ∀ c ∈ back, isPlain c = true) :
    pieces properties (body properties (depth + 1)) ((framedText front back).length + 1)
        ⟨Flags.initial, 0, []⟩ (framedText front back) =
      some (front.map Written.letter ++ ⟨serialGroup, 2⟩ :: back.map Written.letter,
        ⟨Flags.initial, 1, []⟩, []) := by
  have atEnd : pieces properties (body properties (depth + 1)) (3 + 1) ⟨Flags.initial, 1, []⟩ [] =
      some ([], ⟨Flags.initial, 1, []⟩, []) := rfl
  have behind := pieces_letters backPlain (by simp [NoOperator]) atEnd
  rw [List.append_nil, List.append_nil] at behind
  have group : pieces properties (body properties (depth + 1)) (3 + back.length + 1 + 1)
      ⟨Flags.initial, 0, []⟩ ('(' :: '.' :: '+' :: ')' :: back) =
        some (⟨serialGroup, 2⟩ :: back.map Written.letter, ⟨Flags.initial, 1, []⟩, []) := by
    rw [pieces]
    dsimp only [Flags.skip, Flags.initial]
    rw [if_neg Bool.false_ne_true]
    dsimp only
    rw [if_neg (by decide), ← Flags.initial, piece_serialGroup]
    simp only [Option.bind_eq_bind, Option.bind_some]
    rw [operators_of_noOperator _ (noOperator_of_isPlain backPlain), Option.bind_some, behind]
    rfl
  have size : (framedText front back).length + 1 = 3 + back.length + 1 + front.length + 1 := by
    rw [framedText, List.length_append]
    simp only [List.length_cons]
    omega
  rw [size]
  exact pieces_letters frontPlain (by rintro _ ⟨⟩; rfl) group

theorem deepest_le {written : List Written} {limit : Nat}
    (within : ∀ piece ∈ written, piece.depth ≤ limit) : Written.deepest written ≤ limit := by
  have bounded : ∀ (depths : List Nat) (start : Nat), start ≤ limit →
      (∀ depth ∈ depths, depth ≤ limit) → depths.foldl max start ≤ limit := by
    intro depths
    induction depths with
    | nil => exact fun start low _ => low
    | cons depth depths ih =>
        intro start low all
        obtain ⟨first, others⟩ := List.forall_mem_cons.mp all
        exact ih _ (max_le low first) others
  exact bounded _ 0 limit.zero_le (List.forall_mem_map.mpr within)

theorem exists_sequence_letters (front back : List Char) :
    ∃ depth ≤ 3, Written.sequence (front.map Written.letter ++ ⟨serialGroup, 2⟩ ::
      back.map Written.letter) = ⟨framed front back, depth⟩ := by
  rcases hasPieces : front.map Written.letter ++ ⟨serialGroup, 2⟩ :: back.map Written.letter
    with _ | ⟨first, _ | ⟨second, others⟩⟩
  · simp at hasPieces
  · -- A single piece is not put together with others, and it can only be the group.
    have sizes := congrArg List.length hasPieces
    simp only [List.length_append, List.length_map, List.length_cons, List.length_nil] at sizes
    obtain rfl : front = [] := List.length_eq_zero_iff.mp (by omega)
    obtain rfl : back = [] := List.length_eq_zero_iff.mp (by omega)
    obtain ⟨rfl, -⟩ := List.cons.inj hasPieces
    exact ⟨2, by decide, rfl⟩
  · have low : Written.deepest (first :: second :: others) ≤ 2 := by
      rw [← hasPieces]
      refine deepest_le (List.forall_mem_append.mpr ⟨?_, List.forall_mem_cons.mpr ⟨le_rfl, ?_⟩⟩)
      all_goals exact List.forall_mem_map.mpr fun _ _ => Nat.zero_le 2
    have patterns : Pattern.sequence ((first :: second :: others).map Written.pattern) =
        framed front back := by
      rw [← sequence_framed, ← hasPieces, List.map_append, List.map_cons, List.map_map,
        List.map_map]
      rfl
    exact ⟨_, Nat.succ_le_succ low, patterns ▸ rfl⟩

theorem parse?_framedText {front back : List Char} {text : String}
    (spelled : text.toList = framedText front back)
    (frontPlain : ∀ c ∈ front, isPlain c = true) (backPlain : ∀ c ∈ back, isPlain c = true) :
    parse? properties text = some (framed front back) := by
  obtain ⟨depth, low, sequence⟩ := exists_sequence_letters front back
  have size : text.length = (3 + front.length + back.length) + 1 := by
    rw [← String.length_toList, spelled, framedText, List.length_append]
    simp only [List.length_cons]
    omega
  have read : body properties (text.length + 1) ⟨Flags.initial, 0, []⟩ text.toList =
      some (⟨framed front back, depth⟩, ⟨Flags.initial, 1, []⟩, []) := by
    rw [body, spelled, size]
    dsimp only
    rw [alternatives, pieces_framed properties _ frontPlain backPlain]
    simp only [Option.bind_eq_bind, Option.bind_some, sequence]
    rfl
  rw [parse?, read]
  exact if_pos (low.trans (by decide))

/-! ## The size of the automaton -/

namespace Footprint

theorem sum_utf8Size {text : List Char} (ascii : ∀ c ∈ text, c.utf8Size = 1) :
    sum (text.map Char.utf8Size) = text.length := by
  induction text with
  | nil => rfl
  | cons c text ih =>
      obtain ⟨first, others⟩ := List.forall_mem_cons.mp ascii
      change c.utf8Size + sum (text.map Char.utf8Size) = text.length + 1
      rw [first, ih others, Nat.add_comm]

section

variable {front back : List Char} (frontAscii : ∀ c ∈ front, c.utf8Size = 1)
  (backAscii : ∀ c ∈ back, c.utf8Size = 1) (direction : Direction)

include frontAscii backAscii

theorem size_measure_framed :
    (measure direction (framed front back)).size direction =
      (measure direction serialGroup).size direction + state * (front.length + back.length) := by
  have frontSize := sum_utf8Size frontAscii
  have backSize := sum_utf8Size backAscii
  rw [Nat.mul_add, ← frontSize, ← backSize]
  rcases front with _ | ⟨c, front⟩ <;> rcases back with _ | ⟨d, back⟩
  · rfl
  · exact (congrArg _ (Nat.zero_add _)).symm
  · exact Nat.add_comm _ _
  · exact Nat.add_left_comm _ _ _

/-- Every character of the texts adds a state to those of the group. -/
theorem total_framed :
    total direction (framed front back) =
      total direction serialGroup + state * (front.length + back.length) := by
  have size := size_measure_framed frontAscii backAscii direction
  have starts : startsText (framed front back) = startsText serialGroup := by
    cases front <;> cases back <;> rfl
  have ends : endsText (framed front back) = endsText serialGroup := by
    cases front <;> cases back <;> rfl
  simp only [total, size, starts, ends]
  cases direction with
  | forwards => dsimp only; omega
  | backwards => dsimp only; omega

end

end Footprint

/-- A group between two texts is too large a pattern only if the texts are very long. -/
theorem isWithinLimit_framed {front back : List Char} (frontAscii : ∀ c ∈ front, c.utf8Size = 1)
    (backAscii : ∀ c ∈ back, c.utf8Size = 1) :
    isWithinLimit (framed front back) = true ↔ front.length + back.length ≤ 327643 := by
  have forwards : Footprint.total .forwards serialGroup = 736 := by decide +kernel
  have backwards : Footprint.total .backwards serialGroup = 1184 := by decide +kernel
  rw [isWithinLimit, Footprint.total_framed frontAscii backAscii,
    Footprint.total_framed frontAscii backAscii, forwards, backwards, Footprint.state,
    Footprint.limit, Bool.and_eq_true, decide_eq_true_eq, decide_eq_true_eq]
  omega

/-- The automaton of a text that spells out a group between two texts is that of the group between
them, unless it is too large. -/
theorem compile?_framedText {front back : List Char} {text : String}
    (spelled : text.toList = framedText front back)
    (frontPlain : ∀ c ∈ front, isPlain c = true) (backPlain : ∀ c ∈ back, isPlain c = true) :
    compile? properties text =
      if isWithinLimit (framed front back) then some (between front back).toAutomaton
      else none := by
  rw [compile?, parse?_framedText properties spelled frontPlain backPlain, Option.filter_some]
  split
  · rw [Option.map_some, toAutomaton_framed]
  · rfl

end Pattern
end GatewayTelemetry
