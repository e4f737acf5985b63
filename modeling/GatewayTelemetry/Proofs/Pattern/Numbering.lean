import Mathlib.Order.Interval.Set.Basic
import Mathlib.Tactic.SplitIfs
import GatewayTelemetry.Proofs.Pattern.Captures
import GatewayTelemetry.Proofs.Pattern.ExpressionReading

/-!
# How the reader numbers groups

The reader counts the capturing groups that it has opened, and each group has the count as its
number. So what is read between two counts captures something only under numbers between them, and
a pattern has nothing captured under a number above the count of all its groups.
-/

namespace GatewayTelemetry
namespace Pattern

/-- Matches capture something only under numbers that were given out from one count of groups to a
later one. -/
structure CapturesBetween (before after : Nat) (passes : Trail → Trail → Prop) : Prop where
  le : before ≤ after
  only : CapturesOnly (Set.Ioc before after) passes

namespace CapturesBetween

variable {low before middle after high : Nat} {passes others : Trail → Trail → Prop}

theorem within (between : CapturesBetween before after passes) (fromLow : low ≤ before)
    (toHigh : after ≤ high) : CapturesOnly (Set.Ioc low high) passes :=
  between.only.mono (Set.Ioc_subset_Ioc fromLow toHigh)

theorem eq : CapturesBetween before before Eq :=
  ⟨Nat.le_refl before, .eq⟩

theorem comp (first : CapturesBetween before middle passes)
    (second : CapturesBetween middle after others) :
    CapturesBetween before after (Relation.Comp passes others) where
  le := first.le.trans second.le
  only := (first.within le_rfl second.le).comp (second.within first.le le_rfl)

theorem sup (first : CapturesBetween before middle passes)
    (second : CapturesBetween middle after others) :
    CapturesBetween before after (passes ⊔ others) where
  le := first.le.trans second.le
  only := (first.within le_rfl second.le).sup (second.within first.le le_rfl)

theorem group {body : Pattern} (inside : CapturesBetween (before + 1) after body.Passes) :
    CapturesBetween before after (Pattern.group (before + 1) body).Passes where
  le := before.le_succ.trans inside.le
  only := (inside.within before.le_succ le_rfl).group ⟨before.lt_succ_self, inside.le⟩

end CapturesBetween

/-- The matches of a piece; a flag setting matches the empty text. -/
def Piece.Passes : Piece → Trail → Trail → Prop
  | .piece written => written.pattern.Passes
  | .setting => Eq

/-- What a reader reads captures something only under numbers of the groups that it opens on the
way. -/
def CountsGroups {Part : Type} (passes : Part → Trail → Trail → Prop) (reader : PartReader Part) :
    Prop :=
  ∀ {scope : Scope} {text : List Char} {found : Part × Scope × List Char},
    reader scope text = some found →
      CapturesBetween scope.groups found.2.1.groups (passes found.1)

/-- Repetition operators capture nothing. -/
theorem capturesOnly_operators {flags : Flags} {numbers : Set Nat} {bound : Nat} {body : Written}
    {text : List Char} {found : Written × List Char}
    (read : operators flags bound body text = some found)
    (only : CapturesOnly numbers body.pattern.Passes) :
    CapturesOnly numbers found.1.pattern.Passes := by
  induction bound generalizing body text with
  | zero => cases read
  | succ bound ih =>
      have further {least : Nat} {most : Option Nat} {isLazy : Bool} {rest : List Char}
          (read : operators flags bound (body.rounds flags least most isLazy) rest = some found) :
          CapturesOnly numbers found.1.pattern.Passes :=
        ih read (only.patternRounds least most _)
      rw [operators] at read
      split at read
      · cases read
        exact only
      · split_ifs at read
        · exact further read
        · exact further read
        · exact further read
        · obtain ⟨⟨⟨least, most⟩, rest⟩, -, read⟩ := Option.bind_eq_some_iff.mp read
          exact further read
        · cases read
          exact only

theorem capturesOnly_escape (numbers : Set Nat) (flags : Flags) (escape : Escape) :
    CapturesOnly numbers (escape.toPattern flags).Passes := by
  cases escape with
  | char c => exact .ofSet _ _
  | set set => exact .ofSet set _
  | assertion condition => exact .assertion condition

theorem exists_ofSet_of_point? {flags : Flags} {point : Pattern}
    (isPoint : flags.point? = some point) : ∃ set, point = flags.ofSet set := by
  rw [Flags.point?] at isPoint
  repeat' split at isPoint
  all_goals cases isPoint
  all_goals exact ⟨_, rfl⟩

section

variable {properties : Unicode.Properties} {inner : PartReader Written}
  (counts : CountsGroups (fun written => written.pattern.Passes) inner)

include counts

theorem capturesBetween_enclosed {scope : Scope} {flags : Flags} {text : List Char}
    {found : Written × Scope × List Char} (read : enclosed inner scope flags text = some found) :
    CapturesBetween scope.groups found.2.1.groups found.1.pattern.Passes := by
  obtain ⟨⟨body, after, rest⟩, inside, read⟩ := Option.bind_eq_some_iff.mp read
  dsimp only at read
  split at read
  · have within := counts inside
    cases read
    exact within
  · cases read

theorem countsGroups_parenthesis : CountsGroups Piece.Passes (parenthesis inner) := by
  intro scope text found read
  obtain ⟨⟨opened, rest⟩, -, read⟩ := Option.bind_eq_some_iff.mp read
  cases opened with
  | setting flags =>
      cases read
      exact .eq
  | plain flags =>
      obtain ⟨⟨body, after, rest⟩, inside, same⟩ := Option.bind_eq_some_iff.mp read
      cases same
      exact capturesBetween_enclosed counts inside
  | capturing name =>
      obtain ⟨⟨body, after, rest⟩, inside, same⟩ := Option.bind_eq_some_iff.mp read
      cases same
      exact (capturesBetween_enclosed counts inside).group

theorem countsGroups_piece (c : Char) :
    CountsGroups Piece.Passes (piece properties inner c) := by
  intro scope text found read
  have single {pattern : Pattern} {depth : Nat} {rest : List Char}
      (only : CapturesOnly (Set.Ioc scope.groups scope.groups) pattern.Passes)
      (same : some (Piece.piece ⟨pattern, depth⟩, scope, rest) = some found) :
      CapturesBetween scope.groups found.2.1.groups found.1.Passes := by
    cases same
    exact ⟨Nat.le_refl _, only⟩
  rw [piece] at read
  split_ifs at read
  · exact countsGroups_parenthesis counts read
  · obtain ⟨⟨⟨set, depth⟩, rest⟩, -, same⟩ := Option.bind_eq_some_iff.mp read
    exact single (.ofSet set _) same
  · obtain ⟨⟨escaped, rest⟩, -, same⟩ := Option.bind_eq_some_iff.mp read
    exact single (capturesOnly_escape _ _ escaped) same
  · obtain ⟨point, isPoint, same⟩ := Option.bind_eq_some_iff.mp read
    obtain ⟨set, rfl⟩ := exists_ofSet_of_point? isPoint
    exact single (.ofSet set _) same
  · exact single (.assertion _) read
  · exact single (.assertion _) read
  · exact single (.ofSet _ _) read

theorem countsGroups_pieces (bound : Nat) :
    CountsGroups (fun written => InTurn (written.map Written.pattern))
      (pieces properties inner bound) := by
  induction bound with
  | zero =>
      intro scope text found read
      cases read
  | succ bound ih =>
      intro scope text found read
      rw [pieces] at read
      split at read
      · cases read
        exact .eq
      · split at read
        · cases read
          exact .eq
        · obtain ⟨⟨first, middle, rest⟩, hasFirst, read⟩ := Option.bind_eq_some_iff.mp read
          have ofFirst := countsGroups_piece counts _ hasFirst
          cases first with
          | setting =>
              -- A flag setting stands among the pieces as the empty pattern.
              obtain ⟨⟨written, rest⟩, same, read⟩ := Option.bind_eq_some_iff.mp read
              cases same
              obtain ⟨⟨others, last, rest⟩, hasOthers, same⟩ := Option.bind_eq_some_iff.mp read
              cases same
              exact ofFirst.comp (ih hasOthers)
          | piece body =>
              obtain ⟨⟨written, rest⟩, hasOperators, read⟩ := Option.bind_eq_some_iff.mp read
              obtain ⟨⟨others, last, rest⟩, hasOthers, same⟩ := Option.bind_eq_some_iff.mp read
              cases same
              have ofWritten : CapturesBetween scope.groups middle.groups written.pattern.Passes :=
                ⟨ofFirst.le, capturesOnly_operators hasOperators ofFirst.only⟩
              exact ofWritten.comp (ih hasOthers)

theorem countsGroups_alternatives (bound : Nat) :
    CountsGroups (fun written => AnyOf (written.map Written.pattern))
      (alternatives properties inner bound) := by
  induction bound with
  | zero =>
      intro scope text found read
      cases read
  | succ bound ih =>
      intro scope text found read
      obtain ⟨⟨written, middle, rest⟩, hasPieces, read⟩ := Option.bind_eq_some_iff.mp read
      have first : CapturesBetween scope.groups middle.groups
          (Written.sequence written).pattern.Passes :=
        Written.passes_sequence written ▸ countsGroups_pieces counts _ hasPieces
      dsimp only at read
      split at read
      · obtain ⟨⟨others, last, rest⟩, hasOthers, same⟩ := Option.bind_eq_some_iff.mp read
        cases same
        exact first.sup (ih hasOthers)
      · cases read
        change CapturesBetween _ _ (AnyOf [(Written.sequence written).pattern])
        rw [anyOf_singleton]
        exact first

end

/-- Whatever is read captures something only under the numbers of the groups in it. -/
theorem countsGroups_body (properties : Unicode.Properties) (depth : Nat) :
    CountsGroups (fun written => written.pattern.Passes) (body properties depth) := by
  induction depth with
  | zero =>
      intro scope text found read
      cases read
  | succ depth ih =>
      intro scope text found read
      obtain ⟨⟨written, after, rest⟩, others, same⟩ := Option.bind_eq_some_iff.mp read
      cases same
      change CapturesBetween _ _ (Written.choice written).pattern.Passes
      rw [Written.passes_choice]
      exact countsGroups_alternatives ih _ others

/-- The number of capturing groups in a text that spells out a pattern. -/
def groupCount? (properties : Unicode.Properties) (text : String) : Option Nat :=
  match body properties (text.length + 1) ⟨Flags.initial, 0, []⟩ text.toList with
  | some (_, scope, []) => some scope.groups
  | _ => none

/-- The groups of every pattern are counted, and have the numbers from one through their count. -/
theorem exists_groupCount?_of_parse? {properties : Unicode.Properties} {text : String}
    {pattern : Pattern} (spelled : parse? properties text = some pattern) :
    ∃ count, groupCount? properties text = some count ∧
      CapturesOnly (Set.Ioc 0 count) pattern.Passes := by
  rw [parse?] at spelled
  split at spelled
  · next written scope read =>
      obtain ⟨-, same⟩ := Option.ite_none_right_eq_some.mp spelled
      obtain rfl := Option.some.inj same
      exact ⟨scope.groups, by rw [groupCount?, read], (countsGroups_body properties _ read).only⟩
  · cases spelled

end Pattern
end GatewayTelemetry
