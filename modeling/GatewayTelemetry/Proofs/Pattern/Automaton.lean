import Mathlib.Order.Nat
import GatewayTelemetry.Proofs.Pattern.Meaning

/-!
# Automata go where patterns pass

The states of a piece of a pattern are those that its layout adds. From the state in which the piece
starts, a run through these states leaves them only in the state that follows the piece, and at a
point to which the piece passes; and to every such point there is a run. This is shown for each way
to put pieces together, and then along the pattern.

States before the added ones may still change, as the one that waits for the body of a loop does, so
the statements are about any list of states that has the added ones in their places.
-/

namespace GatewayTelemetry
namespace Pattern

/-! ## Steps -/

/-- What a step of an automaton does, and when. -/
inductive Moves (automaton : Automaton) (stop : Stop) : Stop → Prop
  | read {set : CharSet} {target : Nat} {c : Char} {rest : List Char}
      (known : automaton.stateAt? stop = some (.read set target))
      (split : stop.place.rest = c :: rest) (among : set.contains c = true) :
      Moves automaton stop { stop with state := target, place := stop.place.advance c rest }
  | check {assertion : Assertion} {target : Nat}
      (known : automaton.stateAt? stop = some (.check assertion target))
      (holds : assertion.holds stop.place.before stop.place.rest.head? = true) :
      Moves automaton stop { stop with state := target }
  | openGroup {number target : Nat}
      (known : automaton.stateAt? stop = some (.openGroup number target)) :
      Moves automaton stop
        { stop with state := target, opened := (number, stop.place) :: stop.opened }
  | closeGroup {number target : Nat} {place : Place}
      (known : automaton.stateAt? stop = some (.closeGroup number target))
      (opened : stop.opened.lookup number = some place) :
      Moves automaton stop
        { stop with state := target, captured := (number, place.upTo stop.place) :: stop.captured }
  | closeUnopened {number target : Nat}
      (known : automaton.stateAt? stop = some (.closeGroup number target))
      (unopened : stop.opened.lookup number = none) :
      Moves automaton stop { stop with state := target }
  | first {first second : Nat} (known : automaton.stateAt? stop = some (.fork first second)) :
      Moves automaton stop { stop with state := first }
  | second {first second : Nat} (known : automaton.stateAt? stop = some (.fork first second)) :
      Moves automaton stop { stop with state := second }

theorem Automaton.mem_next_iff {automaton : Automaton} {stop next : Stop} :
    next ∈ automaton.next stop ↔ Moves automaton stop next := by
  constructor
  · intro step
    rw [Automaton.next] at step
    split at step
    · cases step
    · cases step
    · next set target known =>
        split at step
        · cases step
        · next c rest split =>
            obtain ⟨among, same⟩ := List.mem_ite_nil_right.mp step
            obtain rfl := List.mem_singleton.mp same
            exact .read known split among
    · next assertion target known =>
        obtain ⟨holds, same⟩ := List.mem_ite_nil_right.mp step
        obtain rfl := List.mem_singleton.mp same
        exact .check known holds
    · next number target known =>
        obtain rfl := List.mem_singleton.mp step
        exact .openGroup known
    · next number target known =>
        split at step
        · next unopened =>
            obtain rfl := List.mem_singleton.mp step
            exact .closeUnopened known unopened
        · next place opened =>
            obtain rfl := List.mem_singleton.mp step
            exact .closeGroup known opened
    · next first second known =>
        rcases List.mem_cons.mp step with rfl | other
        · exact .first known
        · obtain rfl := List.mem_singleton.mp other
          exact .second known
  · intro moves
    cases moves with
    | read known split among => simp [Automaton.next, known, split, among]
    | check known holds => simp [Automaton.next, known, holds]
    | openGroup known => simp [Automaton.next, known]
    | closeGroup known opened => simp [Automaton.next, known, opened]
    | closeUnopened known unopened => simp [Automaton.next, known, unopened]
    | first known => simp [Automaton.next, known]
    | second known => simp [Automaton.next, known]

/-! ## Runs -/

/-- A run of so many steps through states. -/
inductive Run (states : Array State) : Nat → Stop → Stop → Prop
  | done (stop : Stop) : Run states 0 stop stop
  | step {count : Nat} {stop next later : Stop} (first : next ∈ Automaton.next ⟨states, 0⟩ stop)
      (rest : Run states count next later) : Run states (count + 1) stop later

namespace Run

variable {states : Array State}

theorem single {stop next : Stop} (step : next ∈ Automaton.next ⟨states, 0⟩ stop) :
    Run states 1 stop next :=
  .step step (.done next)

theorem append {count more : Nat} {start middle later : Stop}
    (first : Run states count start middle) (second : Run states more middle later) :
    Run states (count + more) start later := by
  induction first with
  | done stop => rwa [Nat.zero_add]
  | step step _ ih =>
      rw [Nat.add_right_comm]
      exact .step step (ih second)

theorem exists_step {count : Nat} {start later : Stop} (run : Run states count start later)
    (moves : start.state ≠ later.state) :
    ∃ fewer next, count = fewer + 1 ∧ next ∈ Automaton.next ⟨states, 0⟩ start ∧
      Run states fewer next later := by
  cases run with
  | done stop => exact absurd rfl moves
  | step first rest => exact ⟨_, _, rfl, first, rest⟩

end Run

def State.targets : State → List Nat
  | .accept => []
  | .read _ next => [next]
  | .check _ next => [next]
  | .openGroup _ next => [next]
  | .closeGroup _ next => [next]
  | .fork first second => [first, second]

/-- A step leads to a state that may follow. -/
theorem Automaton.mem_targets_of_mem_next {automaton : Automaton} {stop next : Stop} {state : State}
    (known : automaton.stateAt? stop = some state) (step : next ∈ automaton.next stop) :
    next.state ∈ state.targets := by
  cases mem_next_iff.mp step with
  | read same | check same | openGroup same | closeGroup same | closeUnopened same | first same
  | second same =>
      obtain rfl := Option.some.inj (known.symm.trans same)
      simp [State.targets]

/-- What a state with one follower does to the point of a match. -/
def Follows (state : Nat → State) (effect : Trail → Option Trail) : Prop :=
  ∀ (states : Array State) (number next : Nat) (trail : Trail),
    states[number]? = some (state next) →
      Automaton.next ⟨states, 0⟩ (trail.inState number) =
        (effect trail).toList.map (·.inState next)

theorem follows_read (set : CharSet) : Follows (.read set) (Trail.readOne? set) := by
  intro states number next trail known
  rw [Automaton.next, Automaton.stateAt?, Trail.inState, known, Trail.readOne?]
  obtain ⟨⟨position, before, rest⟩, opened, captured⟩ := trail
  cases rest with
  | nil => rfl
  | cons c rest =>
      dsimp only
      split <;> rfl

theorem follows_check (assertion : Assertion) :
    Follows (.check assertion) (Trail.check? assertion) := by
  intro states number next trail known
  rw [Automaton.next, Automaton.stateAt?, Trail.inState, known, Trail.check?]
  dsimp only
  split <;> rfl

theorem follows_openGroup (number : Nat) :
    Follows (.openGroup number) fun trail => some (trail.openGroup number) := by
  intro states state next trail known
  rw [Automaton.next, Automaton.stateAt?, Trail.inState, known]
  rfl

theorem follows_closeGroup (number : Nat) :
    Follows (.closeGroup number) fun trail => some (trail.closeGroup number) := by
  intro states state next trail known
  rw [Automaton.next, Automaton.stateAt?, Trail.inState, known]
  dsimp only [Trail.closeGroup]
  cases trail.opened.lookup number <;> rfl

theorem mem_next_fork {states : Array State} {number first second : Nat}
    (known : states[number]? = some (.fork first second)) (trail : Trail) (stop : Stop) :
    stop ∈ Automaton.next ⟨states, 0⟩ (trail.inState number) ↔
      stop = trail.inState first ∨ stop = trail.inState second := by
  rw [Automaton.next, Automaton.stateAt?, Trail.inState, known]
  simp [Trail.inState]

theorem mem_next_choose {states : Array State} {number entry next : Nat} {greedy : Bool}
    (known : states[number]? = some (Layout.choose greedy entry next)) (trail : Trail)
    (stop : Stop) :
    stop ∈ Automaton.next ⟨states, 0⟩ (trail.inState number) ↔
      stop = trail.inState entry ∨ stop = trail.inState next := by
  cases greedy with
  | true => exact mem_next_fork known trail stop
  | false => rw [mem_next_fork known trail stop, or_comm]

theorem Layout.choose_ne_accept (greedy : Bool) (entry next : Nat) :
    Layout.choose greedy entry next ≠ .accept := by
  cases greedy <;> simp [Layout.choose]

theorem Layout.eq_of_mem_targets_choose {greedy : Bool} {entry next target : Nat}
    (among : target ∈ (Layout.choose greedy entry next).targets) :
    target = entry ∨ target = next := by
  cases greedy with
  | true => simpa [Layout.choose, State.targets] using among
  | false => simpa [Layout.choose, State.targets, or_comm] using among

/-! ## Added states -/

/-- Two lists of states have the same states from one number up to another one. -/
def SameBetween (low high : Nat) (states final : Array State) : Prop :=
  ∀ number, low ≤ number → number < high → final[number]? = states[number]?

theorem SameBetween.mono {low high lower higher : Nat} {states added final : Array State}
    (same : SameBetween lower higher added final) (from_le : lower ≤ low) (to_le : high ≤ higher)
    (kept : ∀ number, low ≤ number → number < high → added[number]? = states[number]?) :
    SameBetween low high states final := by
  intro number above below
  rw [same number (from_le.trans above) (below.trans_le to_le), kept number above below]

theorem SameBetween.of_push {low : Nat} {states final : Array State} {state : State}
    (same : SameBetween low (states.size + 1) (states.push state) final) :
    SameBetween low states.size states final :=
  same.mono le_rfl (Nat.le_succ _) fun _ _ below =>
    (Array.getElem?_push_lt below).trans (Array.getElem?_eq_getElem below).symm

theorem SameBetween.last_of_push {low : Nat} {states final : Array State} {state : State}
    (same : SameBetween low (states.size + 1) (states.push state) final)
    (inside : low ≤ states.size) : final[states.size]? = some state :=
  (same states.size inside (Nat.lt_succ_self _)).trans Array.getElem?_push_size

/-- States were added behind those that are there. None of them accepts, and what they lead to are
states that are there. -/
structure Extends (states added : Array State) : Prop where
  grows : states.size ≤ added.size
  keeps : ∀ number, number < states.size → added[number]? = states[number]?
  targets_lt : ∀ number state, states.size ≤ number → added[number]? = some state →
    state ≠ .accept ∧ ∀ target ∈ state.targets, target < added.size

namespace Extends

variable {states added final : Array State}

theorem refl : Extends states states where
  grows := le_rfl
  keeps _ _ := rfl
  targets_lt := by
    intro number state beyond known
    rw [Array.getElem?_eq_none beyond] at known
    cases known

theorem trans (before : Extends states added) (after : Extends added final) :
    Extends states final where
  grows := before.grows.trans after.grows
  keeps number below := by
    rw [after.keeps number (below.trans_le before.grows), before.keeps number below]
  targets_lt := by
    intro number state beyond known
    rcases Nat.lt_or_ge number added.size with below | above
    · rw [after.keeps number below] at known
      obtain ⟨noAccept, targets⟩ := before.targets_lt number state beyond known
      exact ⟨noAccept, fun target among => (targets target among).trans_le after.grows⟩
    · exact after.targets_lt number state above known

theorem push {state : State} (noAccept : state ≠ .accept)
    (targets : ∀ target ∈ state.targets, target < states.size) :
    Extends states (states.push state) where
  grows := by simp
  keeps number below := (Array.getElem?_push_lt below).trans (Array.getElem?_eq_getElem below).symm
  targets_lt := by
    intro number other beyond known
    rw [Array.getElem?_push] at known
    split at known
    · obtain rfl := Option.some.inj known
      exact ⟨noAccept, fun target among => (targets target among).trans (by simp)⟩
    · rw [Array.getElem?_eq_none beyond] at known
      cases known

/-- A state that chooses between two states that are there. -/
theorem choose {first second : Nat} (firstInside : first < states.size)
    (secondInside : second < states.size) (greedy : Bool) :
    Extends states (states.push (Layout.choose greedy first second)) := by
  refine push (Layout.choose_ne_accept greedy first second) fun target among => ?_
  rcases Layout.eq_of_mem_targets_choose among with rfl | rfl
  · exact firstInside
  · exact secondInside

end Extends

/-- States added for a piece of a pattern, given the state that follows the piece: runs through them
are the ways that the piece passes. -/
structure Addition (passes : Trail → Trail → Prop) (next : Nat) (states : Array State)
    (entry : Nat) (added : Array State) : Prop extends Extends states added where
  entry_lt : entry < added.size
  /-- To every point that is passed to there is a run. -/
  run : ∀ final, SameBetween states.size added.size added final → ∀ start later,
    passes start later → ∃ count, Run final count (start.inState entry) (later.inState next)
  /-- A run that leaves the added states does so at a point that is passed to. -/
  pass : ∀ final, SameBetween states.size added.size added final → ∀ count start stop,
    Run final count (start.inState entry) stop →
    (stop.state < states.size ∨ added.size ≤ stop.state) →
    ∃ later fewer, fewer ≤ count ∧ passes start later ∧ Run final fewer (later.inState next) stop

namespace Addition

variable {passes others : Trail → Trail → Prop} {next entry middle : Nat}
  {states added final : Array State}

theorem congr (addition : Addition passes next states entry added)
    (same : ∀ start later, passes start later ↔ others start later) :
    Addition others next states entry added := by
  obtain rfl : passes = others := funext fun start => funext fun later => propext (same start later)
  exact addition

theorem nothing (inside : next < states.size) : Addition Eq next states next states where
  toExtends := .refl
  entry_lt := inside
  run := by
    rintro final - start later rfl
    exact ⟨0, .done _⟩
  pass := by
    rintro final - count start stop run -
    exact ⟨start, count, Nat.le_refl count, rfl, run⟩

/-- A state with one follower. -/
theorem single {state : Nat → State} {effect : Trail → Option Trail}
    (follows : Follows state effect)
    (noAccept : state next ≠ .accept) (targets : (state next).targets = [next])
    (inside : next < states.size) :
    Addition (Effect effect) next states states.size (states.push (state next)) where
  toExtends := .push noAccept (by simpa [targets] using inside)
  entry_lt := by simp
  run := by
    intro final same start later effect
    have known : final[states.size]? = some (state next) := by
      rw [same states.size le_rfl (by simp), Array.getElem?_push_size]
    refine ⟨1, .single ?_⟩
    rw [follows final states.size next start known, effect]
    exact List.mem_cons_self
  pass := by
    intro final same count start stop run outside
    have known : final[states.size]? = some (state next) := by
      rw [same states.size le_rfl (by simp), Array.getElem?_push_size]
    have moves : (start.inState states.size).state ≠ stop.state := by
      rw [Array.size_push] at outside
      change states.size ≠ stop.state
      omega
    obtain ⟨fewer, second, rfl, step, rest⟩ := run.exists_step moves
    rw [follows final states.size next start known] at step
    obtain ⟨later, effect, rfl⟩ := List.mem_map.mp step
    exact ⟨later, fewer, Nat.le_succ fewer, Option.mem_toList.mp effect, rest⟩

theorem andThen (second : Addition others next states middle added)
    (first : Addition passes middle added entry final) :
    Addition (Relation.Comp passes others) next states entry final where
  toExtends := second.toExtends.trans first.toExtends
  entry_lt := first.entry_lt
  run := by
    rintro whole same start later ⟨between, passed, others⟩
    obtain ⟨count, run⟩ := first.run whole
      (same.mono second.grows le_rfl fun _ _ _ => rfl) start between passed
    obtain ⟨more, further⟩ := second.run whole
      (same.mono le_rfl first.grows fun number _ below => first.keeps number below) between later
      others
    exact ⟨count + more, run.append further⟩
  pass := by
    intro whole same count start stop run outside
    have outsideFirst : stop.state < added.size ∨ final.size ≤ stop.state :=
      outside.imp_left fun below => below.trans_le second.grows
    obtain ⟨between, fewer, le, passed, rest⟩ := first.pass whole
      (same.mono second.grows le_rfl fun _ _ _ => rfl) count start stop run outsideFirst
    have outsideSecond : stop.state < states.size ∨ added.size ≤ stop.state :=
      outside.imp_right first.grows.trans
    obtain ⟨later, least, less, others, last⟩ := second.pass whole
      (same.mono le_rfl first.grows fun number _ below => first.keeps number below) fewer between
      stop rest outsideSecond
    exact ⟨later, least, less.trans le, ⟨between, passed, others⟩, last⟩

theorem either {left right : Nat} (second : Addition others next states right added)
    (first : Addition passes next added left final) (greedy : Bool) :
    Addition (fun start later => passes start later ∨ others start later) next states final.size
      (final.push (Layout.choose greedy left right)) where
  toExtends := (second.toExtends.trans first.toExtends).trans
    (.choose first.entry_lt (second.entry_lt.trans_le first.grows) greedy)
  entry_lt := by simp
  run := by
    intro whole same start later passed
    rw [Array.size_push] at same
    have known := same.last_of_push (second.grows.trans first.grows)
    have both := same.of_push
    rcases passed with passed | passed
    · obtain ⟨count, run⟩ := first.run whole
        (both.mono second.grows le_rfl fun _ _ _ => rfl) start later passed
      exact ⟨count + 1, .step ((mem_next_choose known start _).mpr (.inl rfl)) run⟩
    · obtain ⟨count, run⟩ := second.run whole
        (both.mono le_rfl first.grows fun number _ below => first.keeps number below) start later
        passed
      exact ⟨count + 1, .step ((mem_next_choose known start _).mpr (.inr rfl)) run⟩
  pass := by
    intro whole same count start stop run outside
    rw [Array.size_push] at same outside
    have known := same.last_of_push (second.grows.trans first.grows)
    have both := same.of_push
    have secondGrows := second.grows
    have firstGrows := first.grows
    have moves : (start.inState final.size).state ≠ stop.state := by
      change final.size ≠ stop.state
      omega
    obtain ⟨fewer, next, rfl, step, rest⟩ := run.exists_step moves
    rcases (mem_next_choose known start next).mp step with rfl | rfl
    · obtain ⟨later, least, less, passed, last⟩ := first.pass whole
        (both.mono second.grows le_rfl fun _ _ _ => rfl) fewer start stop rest (by omega)
      exact ⟨later, least, by omega, .inl passed, last⟩
    · obtain ⟨later, least, less, passed, last⟩ := second.pass whole
        (both.mono le_rfl first.grows fun number _ below => first.keeps number below) fewer start
        stop rest (by omega)
      exact ⟨later, least, by omega, .inr passed, last⟩

theorem optional (inside : next < states.size) (addition : Addition passes next states entry added)
    (greedy : Bool) :
    Addition (fun start later => passes start later ∨ start = later) next states added.size
      (added.push (Layout.choose greedy entry next)) :=
  (nothing inside).either addition greedy

/-! ## Loops -/

/-- The state that stood in for the choice is replaced by it. -/
theorem extends_loop (inside : next < states.size)
    (body : Addition passes states.size (states.push .accept) entry added) (greedy : Bool) :
    Extends states (added.setIfInBounds states.size (Layout.choose greedy entry next)) where
  grows := by
    have grows := body.grows
    rw [Array.size_push] at grows
    rw [Array.size_setIfInBounds]
    omega
  keeps := by
    intro number below
    have inside : number < (states.push .accept).size := by
      rw [Array.size_push]
      omega
    rw [Array.getElem?_setIfInBounds_ne below.ne', body.keeps number inside,
      Array.getElem?_push_lt below, Array.getElem?_eq_getElem below]
  targets_lt := by
    intro number state beyond known
    have grows := body.grows
    rw [Array.size_push] at grows
    rw [Array.size_setIfInBounds]
    rcases beyond.eq_or_lt with rfl | above
    · rw [Array.getElem?_setIfInBounds_self_of_lt (by omega)] at known
      obtain rfl := Option.some.inj known
      refine ⟨Layout.choose_ne_accept greedy entry next, fun target among => ?_⟩
      rcases Layout.eq_of_mem_targets_choose among with rfl | rfl
      · exact body.entry_lt
      · omega
    · rw [Array.getElem?_setIfInBounds_ne above.ne] at known
      exact body.targets_lt number state (by rwa [Array.size_push]) known

section

variable {greedy : Bool}
  (body : Addition passes states.size (states.push .accept) entry added)
  (known : final[states.size]? = some (Layout.choose greedy entry next))
  (same : SameBetween (states.push .accept).size added.size added final)

include body known same

/-- For every number of rounds there is a run from the state that chooses. -/
theorem run_rounds {rounds : Nat} {start later : Trail}
    (passed : Rounds passes rounds start later) :
    ∃ count, Run final count (start.inState states.size) (later.inState next) := by
  induction rounds generalizing start with
  | zero =>
      obtain rfl := passed
      exact ⟨1, .single ((mem_next_choose known start _).mpr (.inr rfl))⟩
  | succ rounds ih =>
      obtain ⟨between, first, rest⟩ := passed
      obtain ⟨count, round⟩ := body.run final same start between first
      obtain ⟨more, further⟩ := ih rest
      exact ⟨count + more + 1,
        .step ((mem_next_choose known start _).mpr (.inl rfl)) (round.append further)⟩

/-- A run from the state that chooses makes some number of rounds before it leaves. -/
theorem pass_rounds {count : Nat} {start : Trail} {stop : Stop}
    (run : Run final count (start.inState states.size) stop)
    (outside : stop.state < states.size ∨ added.size ≤ stop.state) :
    ∃ later fewer, fewer ≤ count ∧ (∃ rounds, Rounds passes rounds start later) ∧
      Run final fewer (later.inState next) stop := by
  -- A round is shorter than the run, so what is left of the run is covered by the induction.
  induction count using Nat.strong_induction_on generalizing start with
  | h count ih =>
      have grows := body.grows
      rw [Array.size_push] at grows
      have moves : (start.inState states.size).state ≠ stop.state := by
        change states.size ≠ stop.state
        omega
      obtain ⟨fewer, second, rfl, step, rest⟩ := run.exists_step moves
      rcases (mem_next_choose known start second).mp step with rfl | rfl
      · obtain ⟨between, left, less, round, further⟩ := body.pass final same fewer start stop rest
          (by rw [Array.size_push]; omega)
        obtain ⟨later, least, fewest, ⟨rounds, passed⟩, last⟩ := ih left (by omega) further
        exact ⟨later, least, by omega, ⟨rounds + 1, between, round, passed⟩, last⟩
      · exact ⟨start, fewer, Nat.le_succ fewer, ⟨0, rfl⟩, rest⟩

end

theorem of_sameBetween_loop (body : Addition passes states.size (states.push .accept) entry added)
    {state : State}
    (same : SameBetween states.size (added.setIfInBounds states.size state).size
      (added.setIfInBounds states.size state) final) :
    final[states.size]? = some state ∧
      SameBetween (states.push .accept).size added.size added final := by
  have grows := body.grows
  rw [Array.size_push] at grows
  rw [Array.size_setIfInBounds] at same
  refine ⟨?_, ?_⟩
  · rw [same states.size le_rfl (by omega), Array.getElem?_setIfInBounds_self_of_lt (by omega)]
  · intro number above below
    rw [Array.size_push] at above
    rw [same number (by omega) below, Array.getElem?_setIfInBounds_ne (by omega)]

/-- A loop that starts with a round. -/
theorem onceOrMore (inside : next < states.size)
    (body : Addition passes states.size (states.push .accept) entry added) (greedy : Bool) :
    Addition (fun start later => ∃ rounds, Rounds passes (rounds + 1) start later) next states entry
      (added.setIfInBounds states.size (Layout.choose greedy entry next)) where
  toExtends := body.extends_loop inside greedy
  entry_lt := by simpa using body.entry_lt
  run := by
    rintro final same start later ⟨rounds, between, first, rest⟩
    obtain ⟨known, same⟩ := body.of_sameBetween_loop same
    obtain ⟨count, round⟩ := body.run final same start between first
    obtain ⟨more, further⟩ := body.run_rounds known same rest
    exact ⟨count + more, round.append further⟩
  pass := by
    intro final same count start stop run outside
    obtain ⟨known, same⟩ := body.of_sameBetween_loop same
    rw [Array.size_setIfInBounds] at outside
    obtain ⟨between, left, less, round, further⟩ := body.pass final same count start stop run
      (by rw [Array.size_push]; omega)
    obtain ⟨later, least, fewest, ⟨rounds, passed⟩, last⟩ :=
      body.pass_rounds known same further outside
    exact ⟨later, least, fewest.trans less, ⟨rounds, between, round, passed⟩, last⟩

theorem anyTimes (inside : next < states.size)
    (body : Addition passes states.size (states.push .accept) entry added) (greedy : Bool) :
    Addition (fun start later => ∃ rounds, Rounds passes rounds start later) next states
      states.size (added.setIfInBounds states.size (Layout.choose greedy entry next)) where
  toExtends := body.extends_loop inside greedy
  entry_lt := by
    have grows := body.grows
    rw [Array.size_push] at grows
    rw [Array.size_setIfInBounds]
    omega
  run := by
    rintro final same start later ⟨rounds, passed⟩
    obtain ⟨known, same⟩ := body.of_sameBetween_loop same
    exact body.run_rounds known same passed
  pass := by
    intro final same count start stop run outside
    obtain ⟨known, same⟩ := body.of_sameBetween_loop same
    rw [Array.size_setIfInBounds] at outside
    exact body.pass_rounds known same run outside

end Addition

/-! ## Layouts -/

/-- Wherever a layout adds states, it adds those of a piece that passes like this. -/
def Realizes (layout : Layout) (passes : Trail → Trail → Prop) : Prop :=
  ∀ next states, next < states.size →
    Addition passes next states (layout next states).1 (layout next states).2

namespace Realizes

variable {layout first second : Layout} {passes others : Trail → Trail → Prop}

theorem congr (realizes : Realizes layout passes)
    (same : ∀ start later, passes start later ↔ others start later) : Realizes layout others :=
  fun next states inside => (realizes next states inside).congr same

theorem single {state : Nat → State} {effect : Trail → Option Trail}
    (follows : Follows state effect)
    (noAccept : ∀ next, state next ≠ .accept) (targets : ∀ next, (state next).targets = [next]) :
    Realizes (Layout.single state) (Effect effect) :=
  fun next _ inside => .single follows (noAccept next) (targets next) inside

theorem read (set : CharSet) :
    Realizes (Layout.single (.read set)) (Effect (Trail.readOne? set)) :=
  single (follows_read set) (by simp) fun _ => rfl

theorem andThen (before : Realizes first passes) (after : Realizes second others) :
    Realizes (first.andThen second) (Relation.Comp passes others) := by
  intro next states inside
  have later := after next states inside
  exact later.andThen (before _ _ later.entry_lt)

theorem literal (text : List Char) : Realizes (Layout.literal text) (Reads text) := by
  induction text with
  | nil => exact fun next states inside => .nothing inside
  | cons c text ih => exact (read (.single c)).andThen ih

theorem either (before : Realizes first passes) (after : Realizes second others) :
    Realizes (Layout.either first second)
      fun start later => passes start later ∨ others start later := by
  intro next states inside
  have right := after next states inside
  exact right.either (before next _ (inside.trans_le right.grows)) true

theorem times (body : Realizes layout passes) (count : Nat) :
    Realizes (Layout.times layout count) (Rounds passes count) := by
  induction count with
  | zero => exact fun next states inside => .nothing inside
  | succ count ih => exact body.andThen ih

/-- Some number of rounds up to a limit. -/
theorem upTo (body : Realizes layout passes) (greedy : Bool) (limit : Nat) :
    Realizes (Layout.upTo greedy layout limit)
      fun start later => ∃ rounds, rounds ≤ limit ∧ Rounds passes rounds start later := by
  induction limit with
  | zero =>
      refine fun next states inside => (Addition.nothing inside).congr fun start later => ?_
      constructor
      · exact fun same => ⟨0, le_rfl, same⟩
      · rintro ⟨rounds, few, passed⟩
        obtain rfl := Nat.le_zero.mp few
        exact passed
  | succ limit ih =>
      intro next states inside
      have rest := (body.andThen ih) next states inside
      refine (rest.optional inside greedy).congr fun start later => ?_
      constructor
      · rintro (⟨between, first, rounds, few, passed⟩ | same)
        · exact ⟨rounds + 1, Nat.succ_le_succ few, between, first, passed⟩
        · exact ⟨0, Nat.zero_le _, same⟩
      · rintro ⟨rounds, few, passed⟩
        cases rounds with
        | zero => exact .inr passed
        | succ rounds =>
            obtain ⟨between, first, passed⟩ := passed
            exact .inl ⟨between, first, rounds, Nat.le_of_succ_le_succ few, passed⟩

theorem onceOrMore (body : Realizes layout passes) (greedy : Bool) :
    Realizes (Layout.onceOrMore greedy layout)
      fun start later => ∃ rounds, Rounds passes (rounds + 1) start later :=
  fun _ states inside => (body states.size (states.push .accept) (by simp)).onceOrMore inside greedy

theorem anyTimes (body : Realizes layout passes) (greedy alwaysReads : Bool) :
    Realizes (Layout.anyTimes greedy alwaysReads layout)
      fun start later => ∃ rounds, Rounds passes rounds start later := by
  intro next states inside
  have looped := body states.size (states.push .accept) (by simp)
  cases alwaysReads with
  | true => exact looped.anyTimes inside greedy
  | false =>
      refine ((looped.onceOrMore inside greedy).optional inside greedy).congr fun start later => ?_
      constructor
      · rintro (⟨rounds, passed⟩ | same)
        · exact ⟨rounds + 1, passed⟩
        · exact ⟨0, same⟩
      · rintro ⟨rounds, passed⟩
        cases rounds with
        | zero => exact .inr passed
        | succ rounds => exact .inl ⟨rounds, passed⟩

theorem timesOrMore (body : Realizes layout passes) (least : Nat) (greedy : Bool) :
    Realizes ((Layout.times layout least).andThen (Layout.onceOrMore greedy layout))
      fun start later => ∃ more, Rounds passes (least + 1 + more) start later := by
  refine ((body.times least).andThen (body.onceOrMore greedy)).congr fun start later => ?_
  have split : ∀ more, Rounds passes (least + 1 + more) =
      Relation.Comp (Rounds passes least) (Rounds passes (more + 1)) := by
    intro more
    rw [Nat.add_right_comm, Nat.add_assoc, rounds_add]
  simp only [split]
  constructor
  · rintro ⟨between, first, more, passed⟩
    exact ⟨more, between, first, passed⟩
  · rintro ⟨more, between, first, passed⟩
    exact ⟨between, first, more, passed⟩

theorem timesUpTo (body : Realizes layout passes) (least limit : Nat) (greedy : Bool) :
    Realizes ((Layout.times layout least).andThen (Layout.upTo greedy layout limit))
      fun start later => ∃ more, more ≤ limit ∧ Rounds passes (least + more) start later := by
  refine ((body.times least).andThen (body.upTo greedy limit)).congr fun start later => ?_
  simp only [rounds_add]
  constructor
  · rintro ⟨between, first, more, few, passed⟩
    exact ⟨more, few, between, first, passed⟩
  · rintro ⟨more, few, between, first, passed⟩
    exact ⟨between, first, more, few, passed⟩

/-- A number of rounds between limits. -/
theorem rounds (body : Realizes layout passes) (least : Nat) (most : Option Nat)
    (greedy alwaysReads : Bool) :
    Realizes (Layout.rounds least most greedy alwaysReads layout) fun start later =>
      ∃ more, (∀ limit, most = some limit → more ≤ limit - least) ∧
        Rounds passes (least + more) start later := by
  cases most with
  | none =>
      cases least with
      | zero => exact (body.anyTimes greedy alwaysReads).congr fun start later => by simp
      | succ least => exact (body.timesOrMore least greedy).congr fun start later => by simp
  | some most =>
      have shape : Layout.rounds least (some most) greedy alwaysReads layout =
          (Layout.times layout least).andThen (Layout.upTo greedy layout (most - least)) := by
        cases least <;> rfl
      rw [shape]
      exact (body.timesUpTo least (most - least) greedy).congr fun start later => by simp

end Realizes

/-- The states of a pattern are run through as the pattern passes. -/
theorem realizes_layout (pattern : Pattern) : Realizes pattern.layout pattern.Passes := by
  induction pattern with
  | empty => exact fun next states inside => .nothing inside
  | literal text => exact .literal text
  | one set => exact .read set
  | assert assertion => exact .single (follows_check assertion) (by simp) fun _ => rfl
  | concat first second firstRealizes secondRealizes => exact firstRealizes.andThen secondRealizes
  | alternative first second firstRealizes secondRealizes =>
      exact firstRealizes.either secondRealizes
  | group number body ih =>
      have opened : Realizes (Layout.single (.openGroup number)) _ :=
        .single (follows_openGroup number) (by simp) fun _ => rfl
      have closed : Realizes (Layout.single (.closeGroup number)) _ :=
        .single (follows_closeGroup number) (by simp) fun _ => rfl
      exact (opened.andThen ih).andThen closed
  | repeated least most greedy body ih => exact ih.rounds least most greedy body.alwaysReads

end Pattern
end GatewayTelemetry
