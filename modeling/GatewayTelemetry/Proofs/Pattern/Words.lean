import GatewayTelemetry.Proofs.Pattern.CharSet
import GatewayTelemetry.Proofs.Pattern.Search

/-!
# Matches that read a text

A match of one character of a set, of a text, or of so many characters of a set ends behind the
characters that it has read, and changes nothing else.
-/

namespace GatewayTelemetry
namespace Pattern

namespace Trail

def readText (trail : Trail) (text rest : List Char) : Trail :=
  { trail with place := .after trail.place.position trail.place.before text rest }

theorem readText_cons (trail : Trail) (c : Char) (text middle rest : List Char) :
    (trail.readText [c] middle).readText text rest = trail.readText (c :: text) rest :=
  congrArg (fun place => { trail with place })
    (Place.after_cons trail.place.position trail.place.before c text rest).symm

end Trail

theorem effect_readOne_iff {set : CharSet} {start later : Trail} :
    Effect (Trail.readOne? set) start later ↔
      ∃ c rest, start.place.rest = c :: rest ∧ set.contains c = true ∧
        later = start.readText [c] rest := by
  obtain ⟨⟨position, before, text⟩, opened, captured⟩ := start
  rw [Effect, Trail.readOne?]
  cases text with
  | nil => simp
  | cons c text =>
      dsimp only
      constructor
      · intro read
        split at read
        · next inside => exact ⟨c, text, rfl, inside, (Option.some.inj read).symm⟩
        · cases read
      · rintro ⟨d, rest, same, inside, rfl⟩
        obtain ⟨rfl, rfl⟩ := List.cons.inj same
        rw [if_pos inside]
        rfl

theorem reads_iff {text : List Char} {start later : Trail} :
    Reads text start later ↔
      ∃ rest, start.place.rest = text ++ rest ∧ later = start.readText text rest := by
  induction text generalizing start with
  | nil =>
      constructor
      · rintro rfl
        exact ⟨start.place.rest, rfl, rfl⟩
      · rintro ⟨rest, same, rfl⟩
        obtain rfl : start.place.rest = rest := same
        rfl
  | cons c text ih =>
      constructor
      · rintro ⟨between, first, further⟩
        obtain ⟨d, middle, split, inside, rfl⟩ := effect_readOne_iff.mp first
        obtain rfl := CharSet.contains_single.mp inside
        obtain ⟨rest, same, rfl⟩ := ih.mp further
        obtain rfl : middle = text ++ rest := same
        exact ⟨rest, split, start.readText_cons d text _ rest⟩
      · rintro ⟨rest, split, rfl⟩
        refine ⟨start.readText [c] (text ++ rest), ?_, ?_⟩
        · exact effect_readOne_iff.mpr ⟨c, _, split, CharSet.contains_single.mpr rfl, rfl⟩
        · exact ih.mpr ⟨rest, rfl, (start.readText_cons c text _ rest).symm⟩

/-- A captured text is the part of the text between where the group was opened and closed. -/
theorem text_upTo_after {place : Place} {text rest : List Char}
    (split : place.rest = text ++ rest) :
    (place.upTo (.after place.position place.before text rest)).text = text := by
  rw [Place.upTo, Span.text, split, Place.after, Nat.add_sub_cancel_left, List.take_left]

/-- So many rounds of one character read a text of that length. -/
theorem rounds_readOne_iff {set : CharSet} {count : Nat} {start later : Trail} :
    Rounds (Effect (Trail.readOne? set)) count start later ↔
      ∃ text rest, text.length = count ∧ (∀ c ∈ text, set.contains c = true) ∧
        start.place.rest = text ++ rest ∧ later = start.readText text rest := by
  induction count generalizing start with
  | zero =>
      constructor
      · rintro rfl
        exact ⟨[], start.place.rest, rfl, by simp, rfl, rfl⟩
      · rintro ⟨text, rest, empty, -, same, rfl⟩
        obtain rfl := List.length_eq_zero_iff.mp empty
        obtain rfl : start.place.rest = rest := same
        rfl
  | succ count ih =>
      constructor
      · rintro ⟨between, first, further⟩
        obtain ⟨c, middle, split, inside, rfl⟩ := effect_readOne_iff.mp first
        obtain ⟨text, rest, rfl, all, same, rfl⟩ := ih.mp further
        obtain rfl : middle = text ++ rest := same
        exact ⟨c :: text, rest, rfl, List.forall_mem_cons.mpr ⟨inside, all⟩, split,
          start.readText_cons c text _ rest⟩
      · rintro ⟨text, rest, long, all, split, rfl⟩
        obtain ⟨c, text, rfl⟩ := List.exists_cons_of_length_eq_add_one long
        refine ⟨start.readText [c] (text ++ rest), ?_, ?_⟩
        · exact effect_readOne_iff.mpr ⟨c, _, split, all c List.mem_cons_self, rfl⟩
        · exact ih.mpr ⟨text, rest, Nat.succ.inj long,
            fun d among => all d (List.mem_cons_of_mem c among), rfl,
            (start.readText_cons c text _ rest).symm⟩

end Pattern
end GatewayTelemetry
