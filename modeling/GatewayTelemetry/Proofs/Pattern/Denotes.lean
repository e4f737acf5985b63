import GatewayTelemetry.Proofs.Pattern.Expression
import GatewayTelemetry.Proofs.Pattern.NormalForm

/-!
# Matches of a language

Matches denote a language if they read its words, all of them and no others, wherever they start.
Where a match ends is all that its words decide: what it has captured on the way may differ, except
that it leaves alone where the first group was opened.
-/

namespace GatewayTelemetry
namespace Pattern

/-- The place of a point and where the first group was opened. -/
def Trail.mark (trail : Trail) : Place × Option Place :=
  (trail.place, trail.opened.lookup 1)

/-- Matches read the words of a language. -/
structure Denotes (passes : Trail → Trail → Prop) (language : Language Char) : Prop where
  /-- What a match reads is a word. -/
  exists_word : ∀ {start later : Trail}, passes start later →
    ∃ word ∈ language, ∃ behind, Reads word start behind ∧ later.mark = behind.mark
  /-- Each word is read by a match. -/
  exists_passes : ∀ {start behind : Trail} {word : List Char}, word ∈ language →
    Reads word start behind → ∃ later, passes start later ∧ later.mark = behind.mark

/-- Where a text can be read from a point, it can be read from any other one with that mark. -/
theorem exists_reads_of_mark_eq {start behind other : Trail} {word : List Char}
    (read : Reads word start behind) (same : other.mark = start.mark) :
    ∃ otherBehind, Reads word other otherBehind ∧ otherBehind.mark = behind.mark := by
  obtain ⟨rest, split, rfl⟩ := reads_iff.mp read
  obtain ⟨samePlace, sameOpened⟩ := Prod.mk.inj same
  refine ⟨other.readText word rest, reads_iff.mpr ⟨rest, samePlace ▸ split, rfl⟩, ?_⟩
  exact Prod.ext (by simp only [Trail.mark, Trail.readText, samePlace]) sameOpened

/-! ## Sequences and alternatives -/

variable {passes others : Trail → Trail → Prop} {language more : Language Char}

theorem denotes_eq : Denotes Eq 1 where
  exists_word := fun same => ⟨[], rfl, _, rfl, congrArg Trail.mark same.symm⟩
  exists_passes := fun among read => by
    obtain rfl := Language.mem_one _ |>.mp among
    exact ⟨_, rfl, congrArg Trail.mark read⟩

theorem Denotes.comp (first : Denotes passes language) (second : Denotes others more) :
    Denotes (Relation.Comp passes others) (language * more) where
  exists_word := by
    rintro start later ⟨between, passed, further⟩
    obtain ⟨front, inFirst, middle, readFront, sameMiddle⟩ := first.exists_word passed
    obtain ⟨back, inSecond, behind, readBack, sameBehind⟩ := second.exists_word further
    obtain ⟨last, readLast, sameLast⟩ := exists_reads_of_mark_eq readBack sameMiddle.symm
    refine ⟨front ++ back, Language.append_mem_mul inFirst inSecond, last, ?_,
      sameBehind.trans sameLast.symm⟩
    rw [reads_append]
    exact ⟨middle, readFront, readLast⟩
  exists_passes := by
    intro start behind word among read
    obtain ⟨front, inFirst, back, inSecond, rfl⟩ := Language.mem_mul.mp among
    rw [reads_append] at read
    obtain ⟨middle, readFront, readBack⟩ := read
    obtain ⟨between, passed, sameBetween⟩ := first.exists_passes inFirst readFront
    obtain ⟨last, readLast, sameLast⟩ := exists_reads_of_mark_eq readBack sameBetween
    obtain ⟨later, further, sameLater⟩ := second.exists_passes inSecond readLast
    exact ⟨later, ⟨between, passed, further⟩, sameLater.trans sameLast⟩

theorem Denotes.sup (first : Denotes passes language) (second : Denotes others more) :
    Denotes (passes ⊔ others) (language + more) where
  exists_word := by
    rintro start later (passed | passed)
    · obtain ⟨word, among, read⟩ := first.exists_word passed
      exact ⟨word, .inl among, read⟩
    · obtain ⟨word, among, read⟩ := second.exists_word passed
      exact ⟨word, .inr among, read⟩
  exists_passes := by
    rintro start behind word (among | among) read
    · obtain ⟨later, passed, same⟩ := first.exists_passes among read
      exact ⟨later, .inl passed, same⟩
    · obtain ⟨later, passed, same⟩ := second.exists_passes among read
      exact ⟨later, .inr passed, same⟩

/-! ## Characters and groups -/

/-- One character of a set. -/
theorem denotes_ofSet {set : CharSet} {members : Set Char} (holds : set.Holds members)
    (isAscii : Bool) : Denotes (ofSet set isAscii).Passes (oneOf members) where
  exists_word := by
    intro start later passed
    rw [passes_ofSet] at passed
    obtain ⟨c, rest, split, inside, rfl⟩ := effect_readOne_iff.mp passed
    exact ⟨[c], ⟨c, (holds.contains_iff c).mp inside, rfl⟩, _, reads_iff.mpr ⟨rest, split, rfl⟩,
      rfl⟩
  exists_passes := by
    rintro start behind _ ⟨c, among, rfl⟩ read
    obtain ⟨rest, split, rfl⟩ := reads_iff.mp read
    rw [passes_ofSet]
    exact ⟨_, effect_readOne_iff.mpr ⟨c, rest, split, (holds.contains_iff c).mpr among, rfl⟩, rfl⟩

theorem mark_openGroup {number : Nat} (other : number ≠ 1) (trail : Trail) :
    (trail.openGroup number).mark = trail.mark := by
  have apart : (1 == number) = false := beq_eq_false_iff_ne.mpr other.symm
  simp [Trail.mark, Trail.openGroup, List.lookup_cons, apart]

theorem mark_closeGroup (number : Nat) (trail : Trail) :
    (trail.closeGroup number).mark = trail.mark := by
  rw [Trail.closeGroup]
  split <;> rfl

theorem Denotes.group {number : Nat} {body : Pattern} (denotes : Denotes body.Passes language)
    (other : number ≠ 1) : Denotes (Pattern.group number body).Passes language where
  exists_word := by
    rintro start later ⟨inner, ⟨opened, hasOpened, passed⟩, hasClosed⟩
    obtain rfl := Option.some.inj hasOpened
    obtain rfl := Option.some.inj hasClosed
    obtain ⟨word, among, behind, read, same⟩ := denotes.exists_word passed
    obtain ⟨last, readLast, sameLast⟩ :=
      exists_reads_of_mark_eq read (mark_openGroup other start).symm
    exact ⟨word, among, last, readLast,
      (mark_closeGroup number inner).trans (same.trans sameLast.symm)⟩
  exists_passes := by
    intro start behind word among read
    obtain ⟨last, readLast, sameLast⟩ := exists_reads_of_mark_eq read (mark_openGroup other start)
    obtain ⟨inner, passed, same⟩ := denotes.exists_passes among readLast
    exact ⟨inner.closeGroup number, ⟨inner, ⟨_, rfl, passed⟩, rfl⟩,
      (mark_closeGroup number inner).trans (same.trans sameLast)⟩

/-! ## Repetitions -/

theorem Denotes.rounds (denotes : Denotes passes language) (count : Nat) :
    Denotes (Rounds passes count) (language ^ count) := by
  induction count with
  | zero => exact denotes_eq
  | succ count ih =>
      rw [pow_succ']
      exact denotes.comp ih

theorem mem_roundsOf {least : Nat} {most : Option Nat} {word : List Char} :
    word ∈ roundsOf least most language ↔ ∃ count, least ≤ count ∧
      (∀ limit, most = some limit → count ≤ limit) ∧ word ∈ language ^ count :=
  Iff.rfl

theorem roundsOf_zero : roundsOf 0 (some 0) language = 1 := by
  ext word
  simp [mem_roundsOf]

theorem roundsOf_one : roundsOf 1 (some 1) language = language := by
  ext word
  rw [mem_roundsOf]
  constructor
  · rintro ⟨count, least, most, among⟩
    obtain rfl := Nat.le_antisymm (most 1 rfl) least
    rwa [pow_one] at among
  · exact fun among => ⟨1, Nat.le_refl 1, by simp, by rwa [pow_one]⟩

/-- Where no word reads anything, the number of words only matters if there are none. -/
theorem mem_pow_of_empty (empty : ∀ word ∈ language, word = []) {count : Nat} {word : List Char} :
    word ∈ language ^ count ↔ word = [] ∧ (count = 0 ∨ [] ∈ language) := by
  induction count generalizing word with
  | zero => simp
  | succ count ih =>
      rw [pow_succ', Language.mem_mul]
      constructor
      · rintro ⟨front, inFront, back, inBack, rfl⟩
        obtain rfl := empty front inFront
        exact ⟨(ih.mp inBack).1, .inr inFront⟩
      · rintro ⟨rfl, none | some⟩
        · cases none
        · exact ⟨[], some, [], ih.mpr ⟨rfl, .inr some⟩, rfl⟩

theorem roundsOf_of_empty (empty : ∀ word ∈ language, word = []) {least : Nat} {most : Option Nat}
    (ordered : ∀ limit, most = some limit → least ≤ limit) :
    roundsOf least most language =
      roundsOf (min least 1) (some ((most.map (min · 1)).getD 1)) language := by
  ext word
  simp only [mem_roundsOf, mem_pow_of_empty empty, Option.some.injEq, forall_eq']
  constructor
  · rintro ⟨count, enough, within, rfl, filled⟩
    refine ⟨min count 1, by omega, ?_, rfl, filled.imp_left (by omega)⟩
    cases most with
    | none => exact Nat.min_le_right count 1
    | some limit =>
        have := within limit rfl
        simp only [Option.map_some, Option.getD_some]
        omega
  · rintro ⟨count, enough, within, rfl, filled⟩
    refine ⟨max least count, Nat.le_max_left least count, fun limit same => ?_, rfl, ?_⟩
    · have := ordered limit same
      simp only [same, Option.map_some, Option.getD_some] at within
      omega
    · exact filled.imp_left (by omega)

theorem Denotes.repeated {body : Pattern} (denotes : Denotes body.Passes language) {least : Nat}
    {most : Option Nat} (ordered : ∀ limit, most = some limit → least ≤ limit) (greedy : Bool) :
    Denotes (Pattern.repeated least most greedy body).Passes (roundsOf least most language) where
  exists_word := by
    rintro start later ⟨count, within, passed⟩
    obtain ⟨word, among, read⟩ := (denotes.rounds (least + count)).exists_word passed
    refine ⟨word, ⟨least + count, Nat.le_add_right least count, fun limit same => ?_, among⟩, read⟩
    have := within limit same
    have := ordered limit same
    omega
  exists_passes := by
    rintro start behind word ⟨count, enough, within, among⟩ read
    obtain ⟨later, passed, same⟩ := (denotes.rounds count).exists_passes among read
    refine ⟨later, ⟨count - least, fun limit hasLimit => ?_, ?_⟩, same⟩
    · have := within limit hasLimit
      omega
    · rwa [Nat.add_sub_cancel' enough]

/-- What is built of nothing that reads reads nothing. -/
theorem place_eq_of_matchesOnlyEmpty {pattern : Pattern} {start later : Trail}
    (onlyEmpty : pattern.matchesOnlyEmpty = true) (passed : pattern.Passes start later) :
    later.place = start.place := by
  induction pattern generalizing start later with
  | empty => exact congrArg Trail.place passed.symm
  | literal | one => cases onlyEmpty
  | assert assertion =>
      obtain ⟨-, same⟩ := Option.ite_none_right_eq_some.mp passed
      exact congrArg Trail.place (Option.some.inj same).symm
  | concat first second ihFirst ihSecond =>
      obtain ⟨between, front, back⟩ := passed
      obtain ⟨onlyFirst, onlySecond⟩ := Bool.and_eq_true_iff.mp onlyEmpty
      exact (ihSecond onlySecond back).trans (ihFirst onlyFirst front)
  | alternative first second ihFirst ihSecond =>
      obtain ⟨onlyFirst, onlySecond⟩ := Bool.and_eq_true_iff.mp onlyEmpty
      exact passed.elim (ihFirst onlyFirst) (ihSecond onlySecond)
  | group number body ih =>
      obtain ⟨inner, ⟨opened, hasOpened, passed⟩, hasClosed⟩ := passed
      obtain rfl := Option.some.inj hasOpened
      obtain rfl := Option.some.inj hasClosed
      have stayed := ih onlyEmpty passed
      exact (congrArg Prod.fst (mark_closeGroup number inner)).trans stayed
  | repeated least most greedy body ih =>
      obtain ⟨count, -, passed⟩ := passed
      have onlyBody := (Bool.and_eq_true_iff.mp onlyEmpty).2
      generalize least + count = rounds at passed
      induction rounds generalizing start with
      | zero => exact congrArg Trail.place passed.symm
      | succ rounds further =>
          obtain ⟨between, first, rest⟩ := passed
          exact (further rest).trans (ih onlyBody first)

/-- The words of what reads nothing are empty. -/
theorem Denotes.eq_nil_of_matchesOnlyEmpty {body : Pattern} (denotes : Denotes body.Passes language)
    (onlyEmpty : body.matchesOnlyEmpty = true) : ∀ word ∈ language, word = [] := by
  intro word among
  let start : Trail := ⟨⟨0, none, word⟩, [], []⟩
  have read : Reads word start (start.readText word []) :=
    reads_iff.mpr ⟨[], (List.append_nil word).symm, rfl⟩
  obtain ⟨later, passed, same⟩ := denotes.exists_passes among read
  have stayed := place_eq_of_matchesOnlyEmpty onlyEmpty passed
  have moved : later.place.rest = [] := congrArg (·.1.rest) same
  rw [stayed] at moved
  exact moved

/-- A repetition that is left out or is a single round denotes what it would as a repetition. -/
theorem Denotes.limited {body : Pattern} (denotes : Denotes body.Passes language) {least : Nat}
    {most : Option Nat} (ordered : ∀ limit, most = some limit → least ≤ limit) (greedy : Bool) :
    Denotes (if least = 0 ∧ most = some 0 then empty else if least = 1 ∧ most = some 1 then body
      else .repeated least most greedy body).Passes (roundsOf least most language) := by
  split
  · next none =>
      obtain ⟨rfl, rfl⟩ := none
      rw [roundsOf_zero]
      exact denotes_eq
  · split
    · next once =>
        obtain ⟨rfl, rfl⟩ := once
        rwa [roundsOf_one]
    · exact denotes.repeated ordered greedy

theorem Denotes.patternRounds {body : Pattern} (denotes : Denotes body.Passes language)
    {least : Nat} {most : Option Nat} (ordered : ∀ limit, most = some limit → least ≤ limit)
    (greedy : Bool) :
    Denotes (Pattern.rounds least most greedy body).Passes (roundsOf least most language) := by
  cases onlyEmpty : body.matchesOnlyEmpty with
  | false =>
      simp only [Pattern.rounds, onlyEmpty, Bool.false_eq_true, if_false]
      exact denotes.limited ordered greedy
  | true =>
      simp only [Pattern.rounds, onlyEmpty, if_true]
      rw [roundsOf_of_empty (denotes.eq_nil_of_matchesOnlyEmpty onlyEmpty) ordered]
      refine denotes.limited (fun limit same => ?_) greedy
      cases most with
      | none =>
          obtain rfl : 1 = limit := Option.some.inj same
          exact Nat.min_le_right least 1
      | some bound =>
          obtain rfl : min bound 1 = limit := Option.some.inj same
          have := ordered bound rfl
          omega

end Pattern
end GatewayTelemetry
