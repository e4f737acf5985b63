import GatewayTelemetry.Proofs.Exploration

/-!
# Which goal an exploration finds

An exploration finds what the first waiting node leads to that leads to a goal at all. More exactly,
it finds the goal at the end of the preferred way from that node, on which each step is to the first
successor that leads to a goal.

That no node is visited twice does not keep an exploration from the preferred way. What it has seen
when it comes to a node of that way are nodes that lead to no goal and earlier nodes of the way, and
neither can have the same key.
-/

namespace GatewayTelemetry
namespace Exploration

variable {Node : Type} {key : Node → Nat} {isGoal : Node → Bool} {successors : Node → List Node}
  {limit : Nat} {valid : Node → Prop}

/-- What is found from some nodes is also found if others wait behind them. -/
theorem firstGoal?_append {bound : Nat} {seen : Std.TreeSet Nat} {front : List Node} {found : Node}
    (result : firstGoal? key isGoal successors bound seen front = some found) (back : List Node) :
    firstGoal? key isGoal successors bound seen (front ++ back) = some found := by
  fun_induction firstGoal? key isGoal successors bound seen front with
  | case1 => cases result
  | case2 => cases result
  | case3 bound seen node front before ih =>
      rw [List.cons_append, firstGoal?, if_pos before, ih result]
  | case4 bound seen node front fresh goal =>
      rw [List.cons_append, firstGoal?, if_neg fresh, if_pos goal, result]
  | case5 bound seen node front fresh noGoal ih =>
      rw [List.cons_append, firstGoal?, if_neg fresh, if_neg noGoal, ← List.append_assoc, ih result]

theorem eq_of_firstGoal?_goal {bound : Nat} {seen : Std.TreeSet Nat} {node found : Node}
    {waiting : List Node} (fresh : ¬seen.contains (key node)) (goal : isGoal node = true)
    (result : firstGoal? key isGoal successors bound seen (node :: waiting) = some found) :
    found = node := by
  cases bound with
  | zero => cases result
  | succ bound =>
      rw [firstGoal?, if_neg fresh, if_pos goal] at result
      exact (Option.some.inj result).symm

/-- Behind a node that was not seen before and is no goal, its successors come first. -/
theorem exists_firstGoal?_visit {bound : Nat} {seen : Std.TreeSet Nat} {node found : Node}
    {waiting : List Node} (fresh : ¬seen.contains (key node)) (noGoal : isGoal node = false)
    (result : firstGoal? key isGoal successors bound seen (node :: waiting) = some found) :
    ∃ fewer, firstGoal? key isGoal successors fewer (seen.insert (key node))
      (successors node ++ waiting) = some found := by
  cases bound with
  | zero => cases result
  | succ bound =>
      rw [firstGoal?, if_neg fresh, noGoal, if_neg Bool.false_ne_true] at result
      exact ⟨bound, result⟩

/-! ## Nodes that lead to no goal -/

/-- A node leads to no goal. -/
def Barren (isGoal : Node → Bool) (successors : Node → List Node) (node : Node) : Prop :=
  ∀ later, Leads successors node later → isGoal later = false

theorem Barren.next {node next : Node} (barren : Barren isGoal successors node)
    (step : next ∈ successors node) : Barren isGoal successors next :=
  fun later leads => barren later (.head step leads)

theorem Barren.congr (keyed : Keyed key isGoal successors limit valid) {node other : Node}
    (isValid : valid node) (otherValid : valid other) (same : key node = key other)
    (barren : Barren isGoal successors node) : Barren isGoal successors other := by
  intro later leads
  induction leads using Relation.ReflTransGen.head_induction_on generalizing node with
  | refl =>
      rw [← keyed.isGoal_congr isValid otherValid same]
      exact barren node .refl
  | head step _ ih =>
      have among := List.mem_map_of_mem (f := key) step
      rw [← keyed.keys_congr isValid otherValid same] at among
      obtain ⟨next, present, sameNext⟩ := List.mem_map.mp among
      exact ih (keyed.valid_next isValid next present) (keyed.valid_next otherValid _ step)
        sameNext (barren.next present)

/-- What is found behind nodes that lead to no goal is found without them, but having seen more of
such nodes. -/
theorem firstGoal?_of_barren (keyed : Keyed key isGoal successors limit valid) {bound : Nat}
    {seen : Std.TreeSet Nat} {front back : List Node} {found : Node}
    (barren : ∀ node ∈ front, valid node ∧ Barren isGoal successors node)
    (result : firstGoal? key isGoal successors bound seen (front ++ back) = some found) :
    ∃ fewer more, firstGoal? key isGoal successors fewer more back = some found ∧
      ∀ number, more.contains number → seen.contains number ∨
        ∃ node, valid node ∧ Barren isGoal successors node ∧ key node = number := by
  induction bound generalizing seen front with
  | zero => simp [firstGoal?] at result
  | succ bound ih =>
      cases front with
      | nil => exact ⟨bound + 1, seen, result, fun _ present => .inl present⟩
      | cons node front =>
          obtain ⟨⟨isValid, noGoal⟩, others⟩ := List.forall_mem_cons.mp barren
          rw [List.cons_append, firstGoal?, noGoal node .refl, if_neg Bool.false_ne_true] at result
          split at result
          · exact ih others result
          · rw [← List.append_assoc] at result
            obtain ⟨fewer, more, rest, covers⟩ := ih (List.forall_mem_append.mpr
              ⟨fun next step => ⟨keyed.valid_next isValid next step, noGoal.next step⟩, others⟩)
              result
            refine ⟨fewer, more, rest, fun number present => ?_⟩
            rcases covers number present with before | barren
            · rw [Std.TreeSet.contains_insert, Bool.or_eq_true] at before
              rcases before with same | before
              · exact .inr ⟨node, isValid, noGoal, by simpa using same⟩
              · exact .inl before
            · exact .inr barren

/-- What is found comes from the first waiting node that leads to a goal. -/
theorem exists_leads_of_first (keyed : Keyed key isGoal successors limit valid) {bound : Nat}
    {front back : List Node} {root goal : Node}
    (allValid : ∀ node ∈ front ++ root :: back, valid node)
    (enough : (front ++ root :: back).length + 2 * limit < bound)
    (barren : ∀ node ∈ front, Barren isGoal successors node)
    (leads : Leads successors root goal) (reached : isGoal goal = true) :
    ∃ found, firstGoal? key isGoal successors bound ∅ (front ++ root :: back) = some found ∧
      Leads successors root found := by
  have split : front ++ root :: back = (front ++ [root]) ++ back := by simp
  rw [split] at allValid enough ⊢
  cases result : firstGoal? key isGoal successors bound ∅ (front ++ [root]) with
  | none =>
      have refused := isGoal_eq_false_of_firstGoal? keyed
        (fun node among => allValid node (List.mem_append_left back among))
        (by rw [List.length_append] at enough; omega) result
        (List.mem_append_right front List.mem_cons_self) leads
      exact absurd (refused.symm.trans reached) Bool.false_ne_true
  | some found =>
      refine ⟨found, firstGoal?_append result back, ?_⟩
      obtain ⟨origin, among, comes⟩ := exists_leads_of_firstGoal? result
      rcases List.mem_append.mp among with before | last
      · have refused := barren origin before found comes
        exact absurd (refused.symm.trans (isGoal_of_firstGoal? result)) Bool.false_ne_true
      · exact List.mem_singleton.mp last ▸ comes

/-! ## The preferred way -/

/-- A way of so many steps to a goal, each of which is to the first successor that leads to one. -/
inductive Preferred (isGoal : Node → Bool) (successors : Node → List Node) :
    Nat → Node → Node → Prop
  | arrived {node : Node} (reached : isGoal node = true) :
      Preferred isGoal successors 0 node node
  | step {count : Nat} {node next goal : Node} {earlier later : List Node}
      (noGoal : isGoal node = false) (split : successors node = earlier ++ next :: later)
      (barren : ∀ other ∈ earlier, Barren isGoal successors other)
      (rest : Preferred isGoal successors count next goal) :
      Preferred isGoal successors (count + 1) node goal

namespace Preferred

theorem next_mem {node next : Node} {earlier later : List Node}
    (split : successors node = earlier ++ next :: later) : next ∈ successors node := by
  rw [split]
  exact List.mem_append_right earlier List.mem_cons_self

theorem leads {count : Nat} {node goal : Node}
    (preferred : Preferred isGoal successors count node goal) :
    Leads successors node goal ∧ isGoal goal = true := by
  induction preferred with
  | arrived reached => exact ⟨.refl, reached⟩
  | step _ split _ _ ih => exact ⟨.head (next_mem split) ih.1, ih.2⟩

theorem not_barren {count : Nat} {node goal : Node}
    (preferred : Preferred isGoal successors count node goal) :
    ¬Barren isGoal successors node := by
  intro barren
  have refused := barren goal preferred.leads.1
  exact Bool.false_ne_true (refused.symm.trans preferred.leads.2)

theorem key_next_eq (keyed : Keyed key isGoal successors limit valid) {next other : Node}
    {earlier later otherEarlier otherLater : List Node}
    (allValid : ∀ node ∈ earlier ++ next :: later, valid node)
    (othersValid : ∀ node ∈ otherEarlier ++ other :: otherLater, valid node)
    (same : (earlier ++ next :: later).map key = (otherEarlier ++ other :: otherLater).map key)
    (barren : ∀ node ∈ earlier, Barren isGoal successors node)
    (otherBarren : ∀ node ∈ otherEarlier, Barren isGoal successors node)
    (leads : ¬Barren isGoal successors next) (otherLeads : ¬Barren isGoal successors other) :
    key next = key other := by
  have nextValid := allValid next (List.mem_append_right earlier List.mem_cons_self)
  have otherValid := othersValid other (List.mem_append_right otherEarlier List.mem_cons_self)
  simp only [List.map_append, List.map_cons] at same
  rcases List.append_eq_append_iff.mp same with ⟨between, sooner, rest⟩ | ⟨between, sooner, rest⟩
  · cases between with
    | nil => exact (List.cons.inj rest).1
    | cons number between =>
        obtain ⟨rfl, -⟩ := List.cons.inj rest
        have among : key next ∈ otherEarlier.map key := by simp [sooner]
        obtain ⟨node, present, sameKey⟩ := List.mem_map.mp among
        have isValid := othersValid node (List.mem_append_left _ present)
        exact absurd ((otherBarren node present).congr keyed isValid nextValid sameKey) leads
  · cases between with
    | nil => exact (List.cons.inj rest).1.symm
    | cons number between =>
        obtain ⟨rfl, -⟩ := List.cons.inj rest
        have among : key other ∈ earlier.map key := by simp [sooner]
        obtain ⟨node, present, sameKey⟩ := List.mem_map.mp among
        have isValid := allValid node (List.mem_append_left _ present)
        exact absurd ((barren node present).congr keyed isValid otherValid sameKey) otherLeads

/-- Preferred ways from nodes with the same key have the same length. -/
theorem count_eq (keyed : Keyed key isGoal successors limit valid) {count more : Nat}
    {node other goal reached : Node} (isValid : valid node) (otherValid : valid other)
    (same : key node = key other) (preferred : Preferred isGoal successors count node goal)
    (others : Preferred isGoal successors more other reached) : count = more := by
  have goals := keyed.isGoal_congr isValid otherValid same
  induction preferred generalizing more other with
  | arrived isGoal =>
      cases others with
      | arrived => rfl
      | step noGoal => exact absurd (noGoal.symm.trans (goals.symm.trans isGoal)) Bool.false_ne_true
  | step noGoal split barren rest ih =>
      cases others with
      | arrived isGoal =>
          exact absurd (noGoal.symm.trans (goals.trans isGoal)) Bool.false_ne_true
      | step _ otherSplit otherBarren otherRest =>
          have keys := keyed.keys_congr isValid otherValid same
          have allValid := keyed.valid_next isValid
          have othersValid := keyed.valid_next otherValid
          have nextValid := allValid _ (next_mem split)
          have otherNextValid := othersValid _ (next_mem otherSplit)
          rw [split] at keys allValid
          rw [otherSplit] at keys othersValid
          have sameNext := key_next_eq keyed allValid othersValid keys barren otherBarren
            rest.not_barren otherRest.not_barren
          exact congrArg (· + 1) (ih nextValid otherNextValid sameNext otherRest
            (keyed.isGoal_congr nextValid otherNextValid sameNext))

/-- What was seen before a node on the preferred way, of which so many steps are left: nodes that
lead to no goal, and nodes from which the preferred way is longer. -/
def Seen (key : Node → Nat) (isGoal : Node → Bool) (successors : Node → List Node)
    (valid : Node → Prop) (count : Nat) (seen : Std.TreeSet Nat) : Prop :=
  ∀ number, seen.contains number → ∃ node, valid node ∧ key node = number ∧
    (Barren isGoal successors node ∨
      ∃ more goal, count < more ∧ Preferred isGoal successors more node goal)

theorem not_contains (keyed : Keyed key isGoal successors limit valid) {count : Nat}
    {seen : Std.TreeSet Nat} {node goal : Node}
    (preferred : Preferred isGoal successors count node goal) (isValid : valid node)
    (before : Seen key isGoal successors valid count seen) : ¬seen.contains (key node) := by
  intro present
  obtain ⟨other, otherValid, same, barren | ⟨more, reached, longer, others⟩⟩ := before _ present
  · exact preferred.not_barren (barren.congr keyed otherValid isValid same)
  · exact longer.ne' (others.count_eq keyed otherValid isValid same preferred)

theorem Seen.next {count : Nat} {seen more : Std.TreeSet Nat} {node goal : Node}
    (before : Seen key isGoal successors valid (count + 1) seen) (isValid : valid node)
    (preferred : Preferred isGoal successors (count + 1) node goal)
    (covers : ∀ number, more.contains number → (seen.insert (key node)).contains number ∨
      ∃ other, valid other ∧ Barren isGoal successors other ∧ key other = number) :
    Seen key isGoal successors valid count more := by
  intro number present
  rcases covers number present with known | ⟨other, otherValid, leadsNowhere, same⟩
  · rw [Std.TreeSet.contains_insert, Bool.or_eq_true] at known
    rcases known with same | known
    · exact ⟨node, isValid, by simpa using same, .inr ⟨_, goal, Nat.lt_succ_self _, preferred⟩⟩
    · obtain ⟨other, otherValid, same, kind⟩ := before number known
      refine ⟨other, otherValid, same, kind.imp_right ?_⟩
      rintro ⟨longer, reached, less, others⟩
      exact ⟨longer, reached, Nat.lt_of_succ_lt less, others⟩
  · exact ⟨other, otherValid, same, .inl leadsNowhere⟩

/-- An exploration that comes to a node of the preferred way follows it to its end. -/
theorem eq_of_firstGoal? (keyed : Keyed key isGoal successors limit valid) {count bound : Nat}
    {seen : Std.TreeSet Nat} {node goal found : Node} {waiting : List Node}
    (preferred : Preferred isGoal successors count node goal) (isValid : valid node)
    (before : Seen key isGoal successors valid count seen)
    (result : firstGoal? key isGoal successors bound seen (node :: waiting) = some found) :
    found = goal := by
  have fresh := preferred.not_contains keyed isValid before
  induction preferred generalizing bound seen waiting with
  | arrived reached => exact eq_of_firstGoal?_goal fresh reached result
  | @step count node next goal earlier later noGoal split barren rest ih =>
      obtain ⟨fewer, result⟩ := exists_firstGoal?_visit fresh noGoal result
      have allValid := keyed.valid_next isValid
      rw [split] at allValid result
      have earlierBarren : ∀ other ∈ earlier, valid other ∧ Barren isGoal successors other :=
        fun other among => ⟨allValid other (List.mem_append_left _ among), barren other among⟩
      rw [List.append_assoc, List.cons_append] at result
      obtain ⟨fewer, more, further, covers⟩ := firstGoal?_of_barren keyed earlierBarren result
      have nextValid := keyed.valid_next isValid next (next_mem split)
      have seenNext := before.next isValid (step noGoal split barren rest) covers
      exact ih nextValid seenNext further (rest.not_contains keyed nextValid seenNext)

/-- An exploration finds the goal at the end of the preferred way from the first waiting node that
leads to a goal. -/
theorem firstGoal?_eq (keyed : Keyed key isGoal successors limit valid) {count bound : Nat}
    {front back : List Node} {root goal : Node}
    (allValid : ∀ node ∈ front ++ root :: back, valid node)
    (enough : (front ++ root :: back).length + 2 * limit < bound)
    (barren : ∀ node ∈ front, Barren isGoal successors node)
    (preferred : Preferred isGoal successors count root goal) :
    firstGoal? key isGoal successors bound ∅ (front ++ root :: back) = some goal := by
  obtain ⟨found, result, -⟩ := exists_leads_of_first keyed allValid enough barren
    preferred.leads.1 preferred.leads.2
  obtain ⟨fewer, seen, rest, covers⟩ := firstGoal?_of_barren keyed
    (fun node among => ⟨allValid node (List.mem_append_left _ among), barren node among⟩) result
  have rootValid := allValid root (List.mem_append_right front List.mem_cons_self)
  rw [result, preferred.eq_of_firstGoal? keyed rootValid (fun number present => ?_) rest]
  rcases covers number present with nothing | ⟨node, isValid, leadsNowhere, same⟩
  · simp at nothing
  · exact ⟨node, isValid, same, .inl leadsNowhere⟩

end Preferred

end Exploration
end GatewayTelemetry
