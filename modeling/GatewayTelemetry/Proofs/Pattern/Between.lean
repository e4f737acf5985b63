import GatewayTelemetry.Proofs.Pattern.Words

/-!
# What stands between two texts

A pattern that has a group of any characters but line feeds between two texts matches wherever the
second text comes after the first one and something else, and captures what stands between them.
-/

namespace GatewayTelemetry
namespace Pattern

/-! ## A group between two texts -/

/-- One character or more, none of them a line feed, captured as the first group. -/
def serialGroup : Pattern :=
  .group 1 (.repeated 1 none true (.one .noFeed false))

def between (front back : List Char) : Pattern :=
  .concat (.literal front) (.concat serialGroup (.literal back))

def Trail.capture (trail : Trail) (text rest : List Char) : Trail :=
  let later := (trail.openGroup 1).readText text rest
  { later with captured := (1, trail.place.upTo later.place) :: later.captured }

theorem closeGroup_readText (start : Trail) (text rest : List Char) :
    ((start.openGroup 1).readText text rest).closeGroup 1 = start.capture text rest :=
  rfl

theorem passes_serialGroup_iff {start later : Trail} :
    serialGroup.Passes start later ↔
      ∃ text rest, text ≠ [] ∧ '\n' ∉ text ∧ start.place.rest = text ++ rest ∧
        later = start.capture text rest := by
  constructor
  · rintro ⟨inner, ⟨opened, hasOpened, more, -, rounds⟩, hasClosed⟩
    obtain rfl := Option.some.inj hasOpened
    obtain ⟨text, rest, long, all, split, rfl⟩ := rounds_readOne_iff.mp rounds
    refine ⟨text, rest, ?_, ?_, split, (Option.some.inj hasClosed).symm⟩
    · rintro rfl
      rw [List.length_nil] at long
      omega
    · exact fun feed => CharSet.contains_noFeed.mp (all _ feed) rfl
  · rintro ⟨text, rest, filled, noFeed, split, rfl⟩
    have positive : 0 < text.length := List.length_pos_iff.mpr filled
    refine ⟨(start.openGroup 1).readText text rest,
      ⟨start.openGroup 1, rfl, text.length - 1, ?_, ?_⟩,
      congrArg some (closeGroup_readText start text rest)⟩
    · simp
    · refine rounds_readOne_iff.mpr ⟨text, rest, by omega, fun c among => ?_, split, rfl⟩
      exact CharSet.contains_noFeed.mpr fun same => noFeed (same ▸ among)

/-- The match of a group between two texts from some place. -/
theorem passes_between_iff {front back : List Char} {start later : Trail} :
    (between front back).Passes start later ↔
      ∃ text rest, text ≠ [] ∧ '\n' ∉ text ∧
        start.place.rest = front ++ (text ++ (back ++ rest)) ∧
        later = ((start.readText front (text ++ (back ++ rest))).capture text
          (back ++ rest)).readText back rest := by
  constructor
  · rintro ⟨inner, first, outer, group, last⟩
    obtain ⟨_, split, rfl⟩ := reads_iff.mp first
    obtain ⟨text, _, filled, noFeed, same, rfl⟩ := passes_serialGroup_iff.mp group
    obtain ⟨rest, behind, rfl⟩ := reads_iff.mp last
    obtain rfl : _ = text ++ _ := same
    obtain rfl : _ = back ++ rest := behind
    exact ⟨text, rest, filled, noFeed, split, rfl⟩
  · rintro ⟨text, rest, filled, noFeed, split, rfl⟩
    exact ⟨_, reads_iff.mpr ⟨_, split, rfl⟩, _,
      passes_serialGroup_iff.mpr ⟨text, _, filled, noFeed, rfl, rfl⟩,
      reads_iff.mpr ⟨rest, rfl, rfl⟩⟩

/-! ## What is captured -/

/-- A text stands between two others somewhere in a text, and there is no line feed in it. -/
def StandsBetween (front back serial text : List Char) : Prop :=
  serial ≠ [] ∧ '\n' ∉ serial ∧
    ∃ before after, text = before ++ (front ++ (serial ++ (back ++ after)))

variable {front back : List Char}

theorem capture?_of_passes {place : Place} {later : Trail}
    (passed : (between front back).Passes (.origin place) later) (state : Nat) :
    ∃ serial after, serial ≠ [] ∧ '\n' ∉ serial ∧
      place.rest = front ++ (serial ++ (back ++ after)) ∧
      (later.inState state).capture? 1 = some serial := by
  obtain ⟨serial, after, filled, noFeed, split, rfl⟩ := passes_between_iff.mp passed
  exact ⟨serial, after, filled, noFeed, split, congrArg some (text_upTo_after rfl)⟩

/-- What is captured from a text stands between the two others in it. -/
theorem standsBetween_of_capture? {text serial : String}
    (captured : (between front back).toAutomaton.capture? 1 text = some serial) :
    StandsBetween front back serial.toList text.toList := by
  obtain ⟨chars, found, rfl⟩ := Option.map_eq_some_iff.mp captured
  obtain ⟨stop, result, found⟩ := Option.bind_eq_some_iff.mp found
  obtain ⟨place, among, later, passed, rfl⟩ := exists_passes_of_search? result
  obtain ⟨before, rest, split, rfl⟩ := Place.mem_allFrom.mp among
  obtain ⟨serial, after, filled, noFeed, same, capture⟩ := capture?_of_passes passed 0
  obtain rfl := Option.some.inj (found.symm.trans capture)
  rw [String.toList_ofList]
  exact ⟨filled, noFeed, before, after, split.trans (congrArg (before ++ ·) same)⟩

/-- If anything stands between the two others in a text, then something is captured. -/
theorem exists_capture?_of_standsBetween {text : String} {serial : List Char}
    (stands : StandsBetween front back serial text.toList) :
    ∃ captured, (between front back).toAutomaton.capture? 1 text = some captured := by
  obtain ⟨filled, noFeed, before, after, split⟩ := stands
  let place := Place.after 0 none before (front ++ (serial ++ (back ++ after)))
  have among : place ∈ Place.allFrom 0 none text.toList :=
    Place.mem_allFrom.mpr ⟨before, _, split, rfl⟩
  have passed : (between front back).Passes (.origin place) _ :=
    passes_between_iff.mpr ⟨serial, after, filled, noFeed, rfl, rfl⟩
  cases result : (between front back).toAutomaton.search? text.toList with
  | none => exact absurd passed (not_passes_of_search? result among _)
  | some stop =>
      obtain ⟨first, -, later, passed, rfl⟩ := exists_passes_of_search? result
      obtain ⟨found, rest, -, -, -, capture⟩ := capture?_of_passes passed 0
      refine ⟨String.ofList found, ?_⟩
      rw [Automaton.capture?, result, Option.bind_some, capture]
      rfl

end Pattern
end GatewayTelemetry
