import Mathlib.Data.List.Infix

/-!
# Searching a text for what stands between two others

A plain search for what stands between two texts takes the least position at which the first one
occurs so that the second one comes after it, with something else than line feeds between them. From
there it goes to the largest position at which the second text does so.
-/

namespace GatewayTelemetry
namespace Text

/-- A piece occurs at a position of a text. -/
def OccursAt (piece text : List Char) (position : Nat) : Prop :=
  position ≤ text.length ∧ piece <+: text.drop position

instance (piece text : List Char) (position : Nat) : Decidable (OccursAt piece text position) :=
  inferInstanceAs (Decidable (_ ∧ _))

/-- One text occurs at a position and another one at a later position, with one character or more
between them that are no line feeds. -/
def FramesAt (front back text : List Char) (start stop : Nat) : Prop :=
  OccursAt front text start ∧ OccursAt back text stop ∧ start + front.length + 1 ≤ stop ∧
    '\n' ∉ (text.take stop).drop (start + front.length)

instance (front back text : List Char) (start stop : Nat) :
    Decidable (FramesAt front back text start stop) :=
  inferInstanceAs (Decidable (_ ∧ _ ∧ _ ∧ _))

/-- The largest position at which the second text comes after the first one at some position. -/
def lastStop? (front back text : List Char) (start : Nat) : Option Nat :=
  (List.range (text.length + 1)).reverse.find? fun stop => FramesAt front back text start stop

/-- What stands between two texts: it starts behind the first text at its least position, and ends
before the second one at its largest position behind that. -/
def between? (front back text : List Char) : Option (List Char) :=
  (List.range (text.length + 1)).findSome? fun start =>
    (lastStop? front back text start).map fun stop =>
      (text.take stop).drop (start + front.length)

variable {front back text : List Char} {start stop : Nat}

/-- Between two positions there is a part of a text that stands between two others. -/
theorem FramesAt.exists_split (frames : FramesAt front back text start stop) :
    ∃ before serial after, text = before ++ (front ++ (serial ++ (back ++ after))) ∧
      before.length = start ∧ start + front.length + serial.length = stop ∧ serial ≠ [] ∧
      '\n' ∉ serial ∧ (text.take stop).drop (start + front.length) = serial := by
  obtain ⟨⟨inside, rest, atStart⟩, ⟨stopInside, after, atStop⟩, later, noFeed⟩ := frames
  have behind : rest = text.drop (start + front.length) := by
    rw [← List.drop_drop, ← atStart, List.drop_left]
  have size : ((text.take stop).drop (start + front.length)).length =
      stop - (start + front.length) := by
    rw [List.length_drop, List.length_take, Nat.min_eq_left stopInside]
  have parts : (text.take stop).drop (start + front.length) ++ (back ++ after) = rest := by
    rw [behind, atStop, ← List.drop_append_of_le_length, List.take_append_drop]
    rw [List.length_take]
    omega
  refine ⟨text.take start, _, after, ?_, ?_, by omega, ?_, noFeed, rfl⟩
  · rw [parts, atStart, List.take_append_drop]
  · rw [List.length_take, Nat.min_eq_left inside]
  · rw [← List.length_pos_iff]
    omega

theorem framesAt_of_split {before serial after : List Char} (filled : serial ≠ [])
    (noFeed : '\n' ∉ serial) (split : text = before ++ (front ++ (serial ++ (back ++ after)))) :
    FramesAt front back text before.length (before.length + front.length + serial.length) := by
  have positive := List.length_pos_iff.mpr filled
  have atStop : text = (before ++ (front ++ serial)) ++ (back ++ after) := by simp [split]
  have upToStop : text = ((before ++ front) ++ serial) ++ (back ++ after) := by simp [split]
  have size : before.length + front.length + serial.length =
      (before ++ (front ++ serial)).length := by simp [Nat.add_assoc]
  refine ⟨⟨by simp [split], ?_⟩, ⟨by simp [split]; omega, ?_⟩, by omega, ?_⟩
  · rw [split, List.drop_left]
    exact List.prefix_append _ _
  · rw [size, atStop, List.drop_left]
    exact List.prefix_append _ _
  · rw [upToStop, ← List.length_append, ← List.length_append, List.take_left, List.drop_left]
    exact noFeed

theorem lastStop?_eq_none_iff :
    lastStop? front back text start = none ↔ ∀ stop, ¬FramesAt front back text start stop := by
  simp only [lastStop?, List.find?_eq_none, List.mem_reverse, List.mem_range, decide_eq_true_eq]
  constructor
  · intro nothing stop frames
    exact nothing stop (Nat.lt_succ_of_le frames.2.1.1) frames
  · exact fun nothing stop _ => nothing stop

theorem le_of_lastStop? (found : lastStop? front back text start = some stop) :
    FramesAt front back text start stop ∧
      ∀ later, FramesAt front back text start later → later ≤ stop := by
  obtain ⟨frames, above, below, split, larger⟩ := List.find?_eq_some_iff_append.mp found
  refine ⟨of_decide_eq_true frames, fun later laterFrames => ?_⟩
  have among : later ∈ (List.range (text.length + 1)).reverse :=
    List.mem_reverse.mpr (List.mem_range.mpr (Nat.lt_succ_of_le laterFrames.2.1.1))
  have order : (List.range (text.length + 1)).reverse.Pairwise fun first second =>
      second < first := List.pairwise_reverse.mpr List.pairwise_lt_range
  rw [split] at among order
  rcases List.mem_append.mp among with before | behind
  · exact absurd laterFrames (by simpa using larger later before)
  · rcases List.mem_cons.mp behind with rfl | smaller
    · exact le_rfl
    · exact ((List.pairwise_cons.mp (List.pairwise_append.mp order).2.1).1 later smaller).le

/-- Nothing is found exactly if nothing stands between the two texts. -/
theorem between?_eq_none_iff :
    between? front back text = none ↔ ∀ start stop, ¬FramesAt front back text start stop := by
  simp only [between?, List.findSome?_eq_none_iff, List.mem_range, Option.map_eq_none_iff,
    lastStop?_eq_none_iff]
  constructor
  · intro nothing start stop frames
    exact nothing start (Nat.lt_succ_of_le frames.1.1) stop frames
  · exact fun nothing start _ => nothing start

theorem exists_framesAt_of_between? {serial : List Char}
    (found : between? front back text = some serial) :
    ∃ start stop, FramesAt front back text start stop ∧
      (text.take stop).drop (start + front.length) = serial ∧
      (∀ sooner other, FramesAt front back text sooner other → start ≤ sooner) ∧
      ∀ later, FramesAt front back text start later → later ≤ stop := by
  obtain ⟨below, start, above, split, result, nothing⟩ := List.findSome?_eq_some_iff.mp found
  obtain ⟨stop, last, part⟩ := Option.map_eq_some_iff.mp result
  obtain ⟨frames, largest⟩ := le_of_lastStop? last
  refine ⟨start, stop, frames, part, fun sooner other framesSooner => ?_, largest⟩
  have among := List.mem_range.mpr (Nat.lt_succ_of_le framesSooner.1.1)
  have order : (List.range (text.length + 1)).Pairwise (· < ·) := List.pairwise_lt_range
  rw [split] at among order
  rcases List.mem_append.mp among with before | behind
  · have missing := lastStop?_eq_none_iff.mp (Option.map_eq_none_iff.mp (nothing sooner before))
    exact absurd framesSooner (missing other)
  · rcases List.mem_cons.mp behind with rfl | larger
    · exact le_rfl
    · exact ((List.pairwise_cons.mp (List.pairwise_append.mp order).2.1).1 sooner larger).le

theorem ne_nil_of_between? {serial : List Char} (found : between? front back text = some serial) :
    serial ≠ [] := by
  obtain ⟨start, stop, frames, part, -, -⟩ := exists_framesAt_of_between? found
  obtain ⟨_, other, _, -, -, -, filled, -, same⟩ := frames.exists_split
  exact (same.symm.trans part) ▸ filled

/-- Behind a text that the whole text starts with stands the rest of it, if that is one character
other than a line feed. -/
theorem between?_append_singleton (front : List Char) {c : Char} (noFeed : c ≠ '\n') :
    between? front [] (front ++ [c]) = some [c] := by
  have split : front ++ [c] = [] ++ (front ++ ([c] ++ ([] ++ []))) := rfl
  have frames : FramesAt front [] (front ++ [c]) 0 (0 + front.length + [c].length) :=
    framesAt_of_split (List.cons_ne_nil c []) (by simpa using noFeed.symm) split
  cases found : between? front [] (front ++ [c]) with
  | none => exact absurd frames (between?_eq_none_iff.mp found _ _)
  | some serial =>
      obtain ⟨start, stop, framesFound, part, least, largest⟩ := exists_framesAt_of_between? found
      obtain rfl : start = 0 := Nat.le_zero.mp (least _ _ frames)
      have inside := framesFound.2.1.1
      have last := largest _ frames
      rw [List.length_append] at inside
      obtain rfl : stop = front.length + [c].length := by omega
      rw [← part, ← List.length_append, List.take_length, Nat.zero_add, List.drop_left]

end Text
end GatewayTelemetry
