import Mathlib.Data.Finset.Card
import Mathlib.Data.Finset.Range
import Mathlib.Logic.Relation
import GatewayTelemetry.Exploration

/-!
# What an exploration finds

An exploration finds only goals that the waiting nodes lead to, and it finds one of them if there is
any. The second part needs that keys stand for nodes: nodes with the same key are goals alike, and
their successors have the same keys. The bound is large enough if it exceeds the number of waiting
nodes by twice the number of keys not seen yet, since a visit takes one node from those waiting,
adds two at most, and sees a new key.
-/

namespace GatewayTelemetry
namespace Exploration

variable {Node : Type}

/-- A node leads to another one by way of successors. -/
def Leads (successors : Node → List Node) : Node → Node → Prop :=
  Relation.ReflTransGen fun node next => next ∈ successors node

variable {key : Node → Nat} {isGoal : Node → Bool} {successors : Node → List Node}

/-- What is found was led to by a node that was waiting. -/
theorem exists_leads_of_firstGoal? {bound : Nat} {seen : Std.TreeSet Nat} {waiting : List Node}
    {found : Node} (result : firstGoal? key isGoal successors bound seen waiting = some found) :
    ∃ root ∈ waiting, Leads successors root found := by
  fun_induction firstGoal? key isGoal successors bound seen waiting with
  | case1 => cases result
  | case2 => cases result
  | case3 bound seen node waiting before ih =>
      obtain ⟨root, among, leads⟩ := ih result
      exact ⟨root, List.mem_cons_of_mem node among, leads⟩
  | case4 bound seen node waiting fresh goal =>
      obtain rfl := Option.some.inj result
      exact ⟨node, List.mem_cons_self, .refl⟩
  | case5 bound seen node waiting fresh noGoal ih =>
      obtain ⟨root, among, leads⟩ := ih result
      rcases List.mem_append.mp among with next | among
      · exact ⟨node, List.mem_cons_self, .head next leads⟩
      · exact ⟨root, List.mem_cons_of_mem node among, leads⟩

/-! ## Keys that stand for nodes -/

/-- Nodes of a set that successors do not leave have keys below a limit, two successors at most,
and are alike if their keys are. -/
structure Keyed (key : Node → Nat) (isGoal : Node → Bool) (successors : Node → List Node)
    (limit : Nat) (valid : Node → Prop) : Prop where
  key_lt : ∀ {node}, valid node → key node < limit
  valid_next : ∀ {node}, valid node → ∀ next ∈ successors node, valid next
  length_le : ∀ {node}, valid node → (successors node).length ≤ 2
  isGoal_congr : ∀ {node other}, valid node → valid other → key node = key other →
    isGoal node = isGoal other
  keys_congr : ∀ {node other}, valid node → valid other → key node = key other →
    (successors node).map key = (successors other).map key

def unseen (limit : Nat) (seen : Std.TreeSet Nat) : Finset Nat :=
  (Finset.range limit).filter fun number => ¬seen.contains number

theorem card_unseen_insert {limit number : Nat} {seen : Std.TreeSet Nat} (fits : number < limit)
    (fresh : ¬seen.contains number) :
    (unseen limit (seen.insert number)).card < (unseen limit seen).card := by
  refine Finset.card_lt_card (Finset.ssubset_iff_of_subset ?_ |>.mpr ⟨number, ?_, ?_⟩)
  · intro other present
    simp only [unseen, Finset.mem_filter, Std.TreeSet.contains_insert, Bool.or_eq_true,
      not_or] at present ⊢
    exact ⟨present.1, present.2.2⟩
  · exact Finset.mem_filter.mpr ⟨Finset.mem_range.mpr fits, fresh⟩
  · simp [unseen]

/-- The key of a node was seen or is that of a node that is waiting. -/
def Known (key : Node → Nat) (seen : Std.TreeSet Nat) (waiting : List Node) (number : Nat) : Prop :=
  seen.contains number ∨ number ∈ waiting.map key

/-- Nodes whose keys were seen are no goals, and their successors are known. -/
def Settled (key : Node → Nat) (isGoal : Node → Bool) (successors : Node → List Node)
    (valid : Node → Prop) (seen : Std.TreeSet Nat) (waiting : List Node) : Prop :=
  ∀ node, valid node → seen.contains (key node) →
    isGoal node = false ∧ ∀ number ∈ (successors node).map key, Known key seen waiting number

section

variable {limit : Nat} {valid : Node → Prop}

theorem Known.of_seen {seen : Std.TreeSet Nat} {node : Node} {waiting : List Node} {number : Nat}
    (before : seen.contains (key node)) (known : Known key seen (node :: waiting) number) :
    Known key seen waiting number := by
  rcases known with known | known
  · exact .inl known
  · rcases List.mem_cons.mp known with same | known
    · exact .inl (same ▸ before)
    · exact .inr known

theorem Known.visit {seen : Std.TreeSet Nat} {node : Node} {waiting : List Node} {number : Nat}
    (known : Known key seen (node :: waiting) number) :
    Known key (seen.insert (key node)) (successors node ++ waiting) number := by
  rcases known with known | known
  · exact .inl (by simp [known])
  · rcases List.mem_cons.mp known with same | known
    · exact .inl (by simp [same])
    · refine .inr ?_
      rw [List.map_append]
      exact List.mem_append_right _ known

theorem Settled.of_seen {seen : Std.TreeSet Nat} {node : Node} {waiting : List Node}
    (before : seen.contains (key node))
    (settled : Settled key isGoal successors valid seen (node :: waiting)) :
    Settled key isGoal successors valid seen waiting := by
  intro other otherValid present
  obtain ⟨noGoal, known⟩ := settled other otherValid present
  exact ⟨noGoal, fun number among => (known number among).of_seen before⟩

theorem Settled.visit (keyed : Keyed key isGoal successors limit valid) {seen : Std.TreeSet Nat}
    {node : Node} {waiting : List Node} (isValid : valid node) (noGoal : ¬isGoal node)
    (settled : Settled key isGoal successors valid seen (node :: waiting)) :
    Settled key isGoal successors valid (seen.insert (key node)) (successors node ++ waiting) := by
  intro other otherValid present
  rcases Bool.eq_false_or_eq_true (seen.contains (key other)) with before | fresh
  · obtain ⟨noOther, known⟩ := settled other otherValid before
    exact ⟨noOther, fun number among => (known number among).visit⟩
  · have same : key node = key other := by
      simpa [Std.TreeSet.contains_insert, fresh] using present
    refine ⟨?_, fun number among => .inr ?_⟩
    · rw [← keyed.isGoal_congr isValid otherValid same]
      simpa using noGoal
    · rw [← keyed.keys_congr isValid otherValid same] at among
      rw [List.map_append]
      exact List.mem_append_left _ among

/-- An exploration without success ends with everything settled. -/
theorem exists_settled_of_firstGoal? (keyed : Keyed key isGoal successors limit valid)
    {bound : Nat} {seen : Std.TreeSet Nat} {waiting : List Node}
    (allValid : ∀ node ∈ waiting, valid node)
    (enough : waiting.length + 2 * (unseen limit seen).card < bound)
    (settled : Settled key isGoal successors valid seen waiting)
    (result : firstGoal? key isGoal successors bound seen waiting = none) :
    ∃ final, Settled key isGoal successors valid final [] ∧
      ∀ number, Known key seen waiting number → final.contains number := by
  fun_induction firstGoal? key isGoal successors bound seen waiting with
  | case1 => exact absurd enough (Nat.not_lt_zero _)
  | case2 bound seen =>
      refine ⟨seen, settled, fun number known => ?_⟩
      rcases known with known | known
      · exact known
      · cases known
  | case3 bound seen node waiting before ih =>
      obtain ⟨-, othersValid⟩ := List.forall_mem_cons.mp allValid
      rw [List.length_cons] at enough
      obtain ⟨final, ended, covers⟩ := ih othersValid (by omega) (settled.of_seen before) result
      exact ⟨final, ended, fun number known => covers number (known.of_seen before)⟩
  | case4 => cases result
  | case5 bound seen node waiting fresh noGoal ih =>
      obtain ⟨isValid, othersValid⟩ := List.forall_mem_cons.mp allValid
      have fewer := card_unseen_insert (keyed.key_lt isValid) fresh
      have two := keyed.length_le isValid
      have nextValid : ∀ other ∈ successors node ++ waiting, valid other :=
        List.forall_mem_append.mpr ⟨keyed.valid_next isValid, othersValid⟩
      rw [List.length_cons] at enough
      obtain ⟨final, ended, covers⟩ := ih nextValid (by rw [List.length_append]; omega)
        (settled.visit keyed isValid noGoal) result
      exact ⟨final, ended, fun number known => covers number known.visit⟩

/-- No successor leaves what is settled with nothing waiting. -/
theorem Settled.leads {final : Std.TreeSet Nat} (keyed : Keyed key isGoal successors limit valid)
    (settled : Settled key isGoal successors valid final []) {root later : Node}
    (isValid : valid root) (known : final.contains (key root))
    (leads : Leads successors root later) : isGoal later = false := by
  have stays : valid later ∧ final.contains (key later) := by
    induction leads with
    | refl => exact ⟨isValid, known⟩
    | tail _ next ih =>
        refine ⟨keyed.valid_next ih.1 _ next, ?_⟩
        rcases (settled _ ih.1 ih.2).2 _ (List.mem_map_of_mem next) with present | waiting
        · exact present
        · cases waiting
  exact (settled later stays.1 stays.2).1

/-- An exploration that starts with nothing seen and finds nothing has nothing to find. -/
theorem isGoal_eq_false_of_firstGoal? (keyed : Keyed key isGoal successors limit valid)
    {bound : Nat} {roots : List Node} (allValid : ∀ root ∈ roots, valid root)
    (enough : roots.length + 2 * limit < bound)
    (result : firstGoal? key isGoal successors bound ∅ roots = none) {root later : Node}
    (among : root ∈ roots) (leads : Leads successors root later) : isGoal later = false := by
  have few : (unseen limit ∅).card ≤ limit :=
    (Finset.card_filter_le _ _).trans (Finset.card_range limit).le
  have nothing : Settled key isGoal successors valid ∅ roots := by
    intro node _ present
    simp at present
  obtain ⟨final, settled, covers⟩ :=
    exists_settled_of_firstGoal? keyed allValid (by omega) nothing result
  exact settled.leads keyed (allValid root among)
    (covers _ (.inr (List.mem_map_of_mem among))) leads

end

end Exploration
end GatewayTelemetry
