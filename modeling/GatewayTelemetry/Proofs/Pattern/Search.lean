import GatewayTelemetry.Proofs.Exploration
import GatewayTelemetry.Proofs.Pattern.Automaton

/-!
# What a search finds

A search finds a match exactly if the pattern passes from some place of the text, and what it finds
is such a match. That no stop is visited twice loses nothing, since the state and the place of a
stop alone decide where it leads.
-/

namespace GatewayTelemetry
namespace Pattern

/-! ## Places -/

namespace Place

theorem length_allFrom (position : Nat) (before : Option Char) (text : List Char) :
    (allFrom position before text).length = text.length + 1 := by
  induction text generalizing position before with
  | nil => rfl
  | cons c text ih => rw [allFrom, List.length_cons, ih, List.length_cons]

def after (position : Nat) (before : Option Char) (front back : List Char) : Place :=
  ⟨position + front.length, front.getLast?.or before, back⟩

theorem after_cons (position : Nat) (before : Option Char) (c : Char) (front back : List Char) :
    after position before (c :: front) back = after (position + 1) (some c) front back := by
  have last : (c :: front).getLast?.or before = front.getLast?.or (some c) := by
    rw [List.getLast?_cons]
    cases front.getLast? <;> rfl
  rw [after, after, last, List.length_cons, Nat.add_comm front.length, Nat.add_assoc]

theorem mem_allFrom {place : Place} {position : Nat} {before : Option Char} {text : List Char} :
    place ∈ allFrom position before text ↔
      ∃ front back, text = front ++ back ∧ place = after position before front back := by
  induction text generalizing position before with
  | nil =>
      constructor
      · exact fun among => ⟨[], [], rfl, List.mem_singleton.mp among⟩
      · rintro ⟨front, back, split, rfl⟩
        obtain ⟨rfl, rfl⟩ := List.append_eq_nil_iff.mp split.symm
        exact List.mem_singleton_self _
  | cons c text ih =>
      rw [allFrom, List.mem_cons, ih]
      constructor
      · rintro (rfl | ⟨front, back, rfl, rfl⟩)
        · exact ⟨[], c :: text, rfl, rfl⟩
        · exact ⟨c :: front, back, rfl, (after_cons position before c front back).symm⟩
      · rintro ⟨front, back, split, rfl⟩
        cases front with
        | nil => exact .inl (by rw [split]; rfl)
        | cons d front =>
            obtain ⟨rfl, rfl⟩ := List.cons.inj split
            exact .inr ⟨front, back, rfl, after_cons position before c front back⟩

variable {place other : Place} {text : List Char}

theorem eq_of_position_eq (among : place ∈ allFrom 0 none text)
    (otherAmong : other ∈ allFrom 0 none text) (same : place.position = other.position) :
    place = other := by
  obtain ⟨front, back, split, rfl⟩ := mem_allFrom.mp among
  obtain ⟨otherFront, otherBack, otherSplit, rfl⟩ := mem_allFrom.mp otherAmong
  have sameLength : front.length = otherFront.length := by simpa [after] using same
  obtain ⟨rfl, rfl⟩ := List.append_inj (split.symm.trans otherSplit) sameLength
  rfl

theorem position_le (among : place ∈ allFrom 0 none text) : place.position ≤ text.length := by
  obtain ⟨front, back, rfl, rfl⟩ := mem_allFrom.mp among
  simp [after]

theorem advance_mem {c : Char} {rest : List Char} (among : place ∈ allFrom 0 none text)
    (split : place.rest = c :: rest) : place.advance c rest ∈ allFrom 0 none text := by
  obtain ⟨front, back, rfl, rfl⟩ := mem_allFrom.mp among
  obtain rfl : back = c :: rest := split
  refine mem_allFrom.mpr ⟨front ++ [c], rest, by simp, ?_⟩
  simp [after, advance]

end Place

/-! ## Stops -/

/-- What an automaton does at a stop leads to states that are there. -/
def Automaton.IsClosed (automaton : Automaton) : Prop :=
  ∀ (number : Nat) (state : State), automaton.states[number]? = some state →
    ∀ target ∈ state.targets, target < automaton.states.size

def Stop.IsOn (stop : Stop) (automaton : Automaton) (text : List Char) : Prop :=
  stop.place ∈ Place.allFrom 0 none text ∧ stop.state < automaton.states.size

/-- A state and a place, without what was captured on the way. -/
def Stop.spot (stop : Stop) : Nat × Place :=
  (stop.state, stop.place)

namespace Automaton

variable {automaton : Automaton} {text : List Char} {stop other : Stop}

/-- Where a stop leads is decided by its state and its place. -/
theorem map_spot_next (automaton : Automaton) {stop other : Stop} (same : stop.spot = other.spot) :
    (automaton.next stop).map Stop.spot = (automaton.next other).map Stop.spot := by
  obtain ⟨state, place, opened, captured⟩ := stop
  obtain ⟨otherState, otherPlace, otherOpened, otherCaptured⟩ := other
  obtain ⟨rfl, rfl⟩ := Prod.mk.inj same
  simp only [next, stateAt?]
  split
  · rfl
  · rfl
  · split
    · rfl
    · split <;> rfl
  · split <;> rfl
  · rfl
  · cases opened.lookup _ <;> cases otherOpened.lookup _ <;> rfl
  · rfl

theorem length_next_le (stop : Stop) : (automaton.next stop).length ≤ 2 := by
  rw [next]
  repeat' split
  all_goals simp

theorem place_next_mem (among : stop.place ∈ Place.allFrom 0 none text) {next : Stop}
    (step : next ∈ automaton.next stop) : next.place ∈ Place.allFrom 0 none text := by
  cases mem_next_iff.mp step with
  | read known split => exact Place.advance_mem among split
  | check | openGroup | closeGroup | closeUnopened | first | second => exact among

theorem isOn_next (closed : automaton.IsClosed) (isOn : stop.IsOn automaton text) :
    ∀ next ∈ automaton.next stop, next.IsOn automaton text := by
  intro next step
  obtain ⟨state, known⟩ : ∃ state, automaton.stateAt? stop = some state :=
    ⟨_, Array.getElem?_eq_getElem isOn.2⟩
  exact ⟨place_next_mem isOn.1 step,
    closed stop.state state known _ (mem_targets_of_mem_next known step)⟩

/-- A key stands for a state and a place. -/
theorem spot_eq_of_key_eq (isOn : stop.IsOn automaton text) (otherIsOn : other.IsOn automaton text)
    (same : automaton.key stop = automaton.key other) : stop.spot = other.spot := by
  have positive : 0 < automaton.states.size := Nat.zero_lt_of_lt isOn.2
  have sameState : stop.state = other.state := by
    have := congrArg (· % automaton.states.size) same
    simpa [key, Nat.mul_add_mod', Nat.mod_eq_of_lt, isOn.2, otherIsOn.2] using this
  have samePosition : stop.place.position = other.place.position := by
    rw [key, key, sameState, Nat.add_right_cancel_iff] at same
    exact Nat.eq_of_mul_eq_mul_right positive same
  exact Prod.ext sameState (Place.eq_of_position_eq isOn.1 otherIsOn.1 samePosition)

theorem keyed (closed : automaton.IsClosed) (text : List Char) :
    Exploration.Keyed automaton.key automaton.accepts automaton.next
      ((Place.allFrom 0 none text).length * automaton.states.size) (·.IsOn automaton text) where
  key_lt := by
    intro stop isOn
    have position := Place.position_le isOn.1
    rw [Place.length_allFrom, key, Nat.succ_mul]
    exact Nat.add_lt_add_of_le_of_lt (Nat.mul_le_mul_right _ position) isOn.2
  valid_next := isOn_next closed
  length_le := fun {stop} _ => length_next_le stop
  isGoal_congr := by
    intro stop other isOn otherIsOn same
    have sameState : stop.state = other.state :=
      congrArg Prod.fst (spot_eq_of_key_eq isOn otherIsOn same)
    rw [accepts, accepts, stateAt?, stateAt?, sameState]
  keys_congr := by
    intro stop other isOn otherIsOn same
    have spots := automaton.map_spot_next (spot_eq_of_key_eq isOn otherIsOn same)
    have keys : automaton.key = (fun spot => spot.2.position * automaton.states.size + spot.1) ∘
        Stop.spot := rfl
    rw [keys, ← List.map_map, ← List.map_map, spots]

/-- A search that finds nothing leaves nothing to find. -/
theorem accepts_eq_false_of_search? (closed : automaton.IsClosed)
    (inside : automaton.start < automaton.states.size) (result : automaton.search? text = none)
    {place : Place} (among : place ∈ Place.allFrom 0 none text) {later : Stop}
    (leads : Exploration.Leads automaton.next ⟨automaton.start, place, [], []⟩ later) :
    automaton.accepts later = false := by
  refine Exploration.isGoal_eq_false_of_firstGoal? (keyed closed text) ?_ ?_ result
    (List.mem_map_of_mem among) leads
  · intro root present
    obtain ⟨other, otherAmong, rfl⟩ := List.mem_map.mp present
    exact ⟨otherAmong, inside⟩
  · rw [List.length_map]
    omega

/-- What a search finds accepts, and the start of the automaton leads there from some place. -/
theorem exists_leads_of_search? (result : automaton.search? text = some stop) :
    automaton.accepts stop ∧ ∃ place ∈ Place.allFrom 0 none text,
      Exploration.Leads automaton.next ⟨automaton.start, place, [], []⟩ stop := by
  refine ⟨Exploration.isGoal_of_firstGoal? result, ?_⟩
  obtain ⟨root, among, leads⟩ := Exploration.exists_leads_of_firstGoal? result
  obtain ⟨place, present, rfl⟩ := List.mem_map.mp among
  exact ⟨place, present, leads⟩

end Automaton

/-! ## Patterns -/

/-- A run is a way that successors lead. -/
theorem leads_iff_exists_run {automaton : Automaton} {start later : Stop} :
    Exploration.Leads automaton.next start later ↔
      ∃ count, Run automaton.states count start later := by
  constructor
  · intro leads
    induction leads using Relation.ReflTransGen.head_induction_on with
    | refl => exact ⟨0, .done later⟩
    | head step _ ih =>
        obtain ⟨count, run⟩ := ih
        exact ⟨count + 1, .step step run⟩
  · rintro ⟨count, run⟩
    induction run with
    | done stop => exact .refl
    | step step _ ih => exact .head step ih

theorem addition_toAutomaton (pattern : Pattern) :
    Addition pattern.Passes 0 #[.accept] pattern.toAutomaton.start pattern.toAutomaton.states :=
  realizes_layout pattern 0 #[.accept] Nat.one_pos

theorem states_toAutomaton_zero (pattern : Pattern) :
    pattern.toAutomaton.states[0]? = some .accept :=
  (addition_toAutomaton pattern).keeps 0 Nat.one_pos

theorem isClosed_toAutomaton (pattern : Pattern) : pattern.toAutomaton.IsClosed := by
  intro number state known target among
  cases number with
  | zero =>
      rw [states_toAutomaton_zero] at known
      obtain rfl := Option.some.inj known
      cases among
  | succ number =>
      have added := addition_toAutomaton pattern
      exact (added.targets_lt (number + 1) state (Nat.succ_le_succ (Nat.zero_le _)) known).2 target
        among

/-- The automaton of a pattern accepts in its first state only. -/
theorem accepts_toAutomaton (pattern : Pattern) (stop : Stop) :
    pattern.toAutomaton.accepts stop = true ↔ stop.state = 0 := by
  rw [Automaton.accepts, Automaton.stateAt?, beq_iff_eq]
  constructor
  · intro known
    by_contra other
    have added := addition_toAutomaton pattern
    exact (added.targets_lt stop.state .accept (Nat.one_le_iff_ne_zero.mpr other) known).1 rfl
  · intro same
    rw [same, states_toAutomaton_zero]

/-- The automaton leads from its start to acceptance exactly where the pattern passes. -/
theorem leads_toAutomaton (pattern : Pattern) (start : Trail) (stop : Stop) :
    (Exploration.Leads pattern.toAutomaton.next (start.inState pattern.toAutomaton.start) stop ∧
        pattern.toAutomaton.accepts stop = true) ↔
      ∃ later, pattern.Passes start later ∧ stop = later.inState 0 := by
  have added := addition_toAutomaton pattern
  have same : SameBetween (#[.accept] : Array State).size pattern.toAutomaton.states.size
      pattern.toAutomaton.states pattern.toAutomaton.states := fun _ _ _ => rfl
  rw [leads_iff_exists_run, accepts_toAutomaton]
  constructor
  · rintro ⟨⟨count, run⟩, accepted⟩
    obtain ⟨later, fewer, -, passed, rest⟩ := added.pass _ same count start stop run
      (.inl (accepted ▸ Nat.one_pos))
    refine ⟨later, passed, ?_⟩
    -- The accepting state has no successors, so nothing is left of the run.
    cases rest with
    | done => rfl
    | step step _ =>
        rw [Automaton.next, Automaton.stateAt?, Trail.inState, states_toAutomaton_zero] at step
        cases step
  · rintro ⟨later, passed, rfl⟩
    exact ⟨added.run _ same start later passed, rfl⟩

def Trail.origin (place : Place) : Trail :=
  ⟨place, [], []⟩

/-- What is found is a match from some place. -/
theorem exists_passes_of_search? {pattern : Pattern} {text : List Char} {stop : Stop}
    (result : pattern.toAutomaton.search? text = some stop) :
    ∃ place ∈ Place.allFrom 0 none text, ∃ later,
      pattern.Passes (.origin place) later ∧ stop = later.inState 0 := by
  obtain ⟨accepted, place, among, leads⟩ := Automaton.exists_leads_of_search? result
  exact ⟨place, among, (leads_toAutomaton pattern (.origin place) stop).mp ⟨leads, accepted⟩⟩

theorem not_passes_of_search? {pattern : Pattern} {text : List Char}
    (result : pattern.toAutomaton.search? text = none) {place : Place}
    (among : place ∈ Place.allFrom 0 none text) (later : Trail) :
    ¬pattern.Passes (.origin place) later := by
  intro passed
  have reached := (leads_toAutomaton pattern (.origin place) (later.inState 0)).mpr
    ⟨later, passed, rfl⟩
  have refused := Automaton.accepts_eq_false_of_search? (isClosed_toAutomaton pattern)
    (addition_toAutomaton pattern).entry_lt result among reached.1
  exact Bool.false_ne_true (refused.symm.trans reached.2)

end Pattern
end GatewayTelemetry
