import Mathlib.Order.WellFounded
import GatewayTelemetry.Proofs.Exploration.Order
import GatewayTelemetry.Proofs.Pattern.Search

/-!
# Where a match starts

What a search finds is a match from the leftmost place of the text from which there is any. Among
the matches from that place it is the one at the end of the preferred way of the automaton.
-/

namespace GatewayTelemetry
namespace Pattern

namespace Place

theorem pairwise_allFrom (position : Nat) (before : Option Char) (text : List Char) :
    (allFrom position before text).Pairwise fun place later =>
      place.position < later.position := by
  induction text generalizing position before with
  | nil => exact List.pairwise_singleton ..
  | cons c text ih =>
      refine List.pairwise_cons.mpr ⟨fun later among => ?_, ih (position + 1) (some c)⟩
      obtain ⟨front, back, -, rfl⟩ := mem_allFrom.mp among
      change position < position + 1 + front.length
      omega

theorem exists_split_allFrom {place : Place} {text : List Char}
    (among : place ∈ allFrom 0 none text) :
    ∃ earlier later, allFrom 0 none text = earlier ++ place :: later ∧
      ∀ other ∈ earlier, other.position < place.position := by
  obtain ⟨earlier, later, split⟩ := List.append_of_mem among
  have ordered := pairwise_allFrom 0 none text
  rw [split, List.pairwise_append] at ordered
  exact ⟨earlier, later, split, fun other present => ordered.2.2 other present place
    List.mem_cons_self⟩

end Place

variable {pattern : Pattern} {text : List Char} {place : Place}

/-- There is no match of a pattern from a place. -/
def MissesAt (pattern : Pattern) (place : Place) : Prop :=
  ∀ later, ¬pattern.Passes (.origin place) later

/-- There is no match of a pattern from any place of a text before some place. -/
def MissesBefore (pattern : Pattern) (text : List Char) (place : Place) : Prop :=
  ∀ other ∈ Place.allFrom 0 none text, other.position < place.position → pattern.MissesAt other

def Automaton.root (automaton : Automaton) (place : Place) : Stop :=
  ⟨automaton.start, place, [], []⟩

/-- Where there is no match, the automaton leads to no acceptance. -/
theorem barren_of_missesAt (misses : pattern.MissesAt place) :
    Exploration.Barren pattern.toAutomaton.accepts pattern.toAutomaton.next
      (pattern.toAutomaton.root place) := by
  intro stop leads
  by_contra accepted
  have reached := (leads_toAutomaton pattern (.origin place) stop).mp
    ⟨leads, Bool.eq_true_of_not_eq_false accepted⟩
  obtain ⟨later, passed, -⟩ := reached
  exact misses later passed

/-- A text from whose places there is a match has a leftmost place with one. -/
theorem exists_leftmost {later : Trail} (among : place ∈ Place.allFrom 0 none text)
    (passed : pattern.Passes (.origin place) later) :
    ∃ first ∈ Place.allFrom 0 none text, (∃ later, pattern.Passes (.origin first) later) ∧
      pattern.MissesBefore text first := by
  let matched : Set Place := fun other =>
    other ∈ Place.allFrom 0 none text ∧ ∃ later, pattern.Passes (.origin other) later
  obtain ⟨first, ⟨present, further⟩, least⟩ := (measure Place.position).wf.has_min matched
    ⟨place, among, later, passed⟩
  exact ⟨first, present, further, fun other otherAmong sooner later otherPassed =>
    least other ⟨otherAmong, later, otherPassed⟩ sooner⟩

section

variable (among : place ∈ Place.allFrom 0 none text) (first : pattern.MissesBefore text place)

include among first

theorem exists_search?_eq :
    ∃ bound front back, pattern.toAutomaton.search? text =
        Exploration.firstGoal? pattern.toAutomaton.key pattern.toAutomaton.accepts
          pattern.toAutomaton.next bound ∅ (front ++ pattern.toAutomaton.root place :: back) ∧
      (∀ stop ∈ front ++ pattern.toAutomaton.root place :: back,
        stop.IsOn pattern.toAutomaton text) ∧
      (front ++ pattern.toAutomaton.root place :: back).length +
        2 * ((Place.allFrom 0 none text).length * pattern.toAutomaton.states.size) < bound ∧
      ∀ stop ∈ front,
        Exploration.Barren pattern.toAutomaton.accepts pattern.toAutomaton.next stop := by
  obtain ⟨earlier, later, split, sooner⟩ := Place.exists_split_allFrom among
  have roots : (Place.allFrom 0 none text).map pattern.toAutomaton.root =
      earlier.map pattern.toAutomaton.root ++ pattern.toAutomaton.root place ::
        later.map pattern.toAutomaton.root := by
    rw [split, List.map_append, List.map_cons]
  rw [Automaton.search?]
  change ∃ bound front back, Exploration.firstGoal? _ _ _ _ _
    ((Place.allFrom 0 none text).map pattern.toAutomaton.root) = _ ∧ _
  rw [roots]
  refine ⟨_, _, _, rfl, ?_, ?_, ?_⟩
  · rw [← roots]
    intro stop present
    obtain ⟨other, otherAmong, rfl⟩ := List.mem_map.mp present
    exact ⟨otherAmong, (addition_toAutomaton pattern).entry_lt⟩
  · rw [← roots, List.length_map]
    omega
  · intro stop present
    obtain ⟨other, before, rfl⟩ := List.mem_map.mp present
    exact barren_of_missesAt
      (first other (split ▸ List.mem_append_left _ before) (sooner other before))

theorem exists_search?_of_first {later : Trail} (passed : pattern.Passes (.origin place) later) :
    ∃ found, pattern.toAutomaton.search? text = some (found.inState 0) ∧
      pattern.Passes (.origin place) found := by
  have reached := (leads_toAutomaton pattern (.origin place) (later.inState 0)).mpr
    ⟨later, passed, rfl⟩
  obtain ⟨bound, front, back, search, allOn, enough, barren⟩ := exists_search?_eq among first
  obtain ⟨stop, result, leads⟩ := Exploration.exists_leads_of_first
    (Automaton.keyed (isClosed_toAutomaton pattern) text) allOn enough barren reached.1 reached.2
  obtain ⟨found, passed, rfl⟩ := (leads_toAutomaton pattern (.origin place) stop).mp
    ⟨leads, Exploration.isGoal_of_firstGoal? result⟩
  exact ⟨found, search.trans result, passed⟩

/-- A search finds the stop at the end of the preferred way from the leftmost place with a match. -/
theorem search?_of_preferred {count : Nat} {stop : Stop}
    (preferred : Exploration.Preferred pattern.toAutomaton.accepts pattern.toAutomaton.next count
      (pattern.toAutomaton.root place) stop) :
    pattern.toAutomaton.search? text = some stop := by
  obtain ⟨bound, front, back, search, allOn, enough, barren⟩ := exists_search?_eq among first
  exact search.trans (preferred.firstGoal?_eq
    (Automaton.keyed (isClosed_toAutomaton pattern) text) allOn enough barren)

end

end Pattern
end GatewayTelemetry
