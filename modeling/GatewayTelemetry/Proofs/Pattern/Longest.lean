import GatewayTelemetry.Proofs.Pattern.Between
import GatewayTelemetry.Proofs.Pattern.Leftmost

/-!
# The longest text between two others

A greedy repetition goes round as long as that leads to a match. So among the texts that stand
between two others behind a place, a search for a group between them captures the longest one.
-/

namespace GatewayTelemetry
namespace Pattern

/-- The preferred way between two stops in an automaton with some states. -/
abbrev PrefersIn (states : Array State) : Nat → Stop → Stop → Prop :=
  Exploration.Preferred (Automaton.accepts ⟨states, 0⟩) (Automaton.next ⟨states, 0⟩)

/-- A stop from which an automaton with some states comes to no acceptance. -/
abbrev BarrenIn (states : Array State) : Stop → Prop :=
  Exploration.Barren (Automaton.accepts ⟨states, 0⟩) (Automaton.next ⟨states, 0⟩)

variable {final : Array State} {count next : Nat} {start : Trail} {stop : Stop}

theorem Layout.literal_cons (c : Char) (text : List Char) (next : Nat) (states : Array State) :
    Layout.literal (c :: text) next states =
      ((Layout.literal text next states).2.size,
        (Layout.literal text next states).2.push
          (.read (.single c) (Layout.literal text next states).1)) :=
  rfl

theorem next_fork {number first second : Nat} (known : final[number]? = some (.fork first second))
    (trail : Trail) :
    Automaton.next ⟨final, 0⟩ (trail.inState number) =
      [trail.inState first, trail.inState second] := by
  rw [Automaton.next, Automaton.stateAt?, Trail.inState, known]
  rfl

theorem accepts_eq_false {number : Nat} {state : State} (known : final[number]? = some state)
    (noAccept : state ≠ .accept) (trail : Trail) :
    Automaton.accepts ⟨final, 0⟩ (trail.inState number) = false := by
  rw [Automaton.accepts, Automaton.stateAt?, Trail.inState, known]
  simpa using noAccept

theorem PrefersIn.single {state : Nat → State} {effect : Trail → Option Trail}
    (follows : Follows state effect) (noAccept : state next ≠ .accept) {number : Nat}
    (known : final[number]? = some (state next)) {later : Trail} (goes : effect start = some later)
    (rest : PrefersIn final count (later.inState next) stop) :
    PrefersIn final (count + 1) (start.inState number) stop := by
  have only :
      Automaton.next ⟨final, 0⟩ (start.inState number) = [] ++ later.inState next :: [] := by
    rw [follows final number next start known, goes]
    rfl
  exact .step (accepts_eq_false known noAccept start) only (by simp) rest

theorem PrefersIn.literal {text rest : List Char} {states : Array State}
    (inside : next < states.size)
    (same : SameBetween states.size (Layout.literal text next states).2.size
      (Layout.literal text next states).2 final)
    (split : start.place.rest = text ++ rest)
    (further : PrefersIn final count ((start.readText text rest).inState next) stop) :
    PrefersIn final (count + text.length)
      (start.inState (Layout.literal text next states).1) stop := by
  induction text generalizing start with
  | nil =>
      obtain rfl : start.place.rest = rest := split
      exact further
  | cons c text ih =>
      have grows := (Realizes.literal text next states inside).grows
      rw [Layout.literal_cons, Array.size_push] at same
      have read : Effect (Trail.readOne? (.single c)) start (start.readText [c] (text ++ rest)) :=
        effect_readOne_iff.mpr ⟨c, _, split, CharSet.contains_single.mpr rfl, rfl⟩
      rw [← start.readText_cons c text (text ++ rest)] at further
      exact .single (follows_read _) (by simp) (same.last_of_push grows) read
        (ih same.of_push rfl further)

/-! ## A loop of characters -/

section

variable {entry again leave : Nat} (reads : final[entry]? = some (.read .noFeed again))
  (chooses : final[again]? = some (.fork entry leave))

include reads chooses

/-- A loop reads on as long as that leads to acceptance. -/
theorem PrefersIn.loop {serial rest : List Char} (filled : serial ≠ []) (noFeed : '\n' ∉ serial)
    (split : start.place.rest = serial ++ rest)
    (ends : BarrenIn final ((start.readText serial rest).inState entry))
    (further : PrefersIn final count ((start.readText serial rest).inState leave) stop) :
    PrefersIn final (count + 2 * serial.length) (start.inState entry) stop := by
  induction serial generalizing start with
  | nil => exact absurd rfl filled
  | cons c serial ih =>
      have inSet : CharSet.noFeed.contains c = true :=
        CharSet.contains_noFeed.mpr (List.ne_of_not_mem_cons noFeed).symm
      have read : Effect (Trail.readOne? .noFeed) start (start.readText [c] (serial ++ rest)) :=
        effect_readOne_iff.mpr ⟨c, _, split, inSet, rfl⟩
      refine .single (follows_read _) (by simp) reads read ?_
      have noAccept := accepts_eq_false chooses (by simp) (start.readText [c] (serial ++ rest))
      have both := next_fork chooses (start.readText [c] (serial ++ rest))
      cases serial with
      | nil => exact .step noAccept (both.trans (List.singleton_append ..).symm) (by simpa) further
      | cons d serial =>
          rw [← start.readText_cons c _ (d :: serial ++ rest)] at ends further
          exact .step noAccept (both.trans (List.nil_append _).symm) (by simp)
            (ih (List.cons_ne_nil d serial) (List.not_mem_of_not_mem_cons noFeed) rfl ends further)

end

/-! ## The states behind the start of a group -/

/-- The states of characters other than line feeds up to the end of the first group, and of a text
behind it. -/
def serialTail (back : List Char) : Layout :=
  (Layout.onceOrMore true (.single (.read .noFeed))).andThen
    ((Layout.single (.closeGroup 1)).andThen (.literal back))

/-- What is read by the states behind the start of a group. -/
def TailPasses (back : List Char) : Trail → Trail → Prop :=
  Relation.Comp
    (fun start later =>
      ∃ rounds, Rounds (Effect (Trail.readOne? .noFeed)) (rounds + 1) start later)
    (Relation.Comp (Effect fun trail => some (trail.closeGroup 1)) (Reads back))

theorem realizes_serialTail (back : List Char) : Realizes (serialTail back) (TailPasses back) := by
  have closed : Realizes (Layout.single (.closeGroup 1)) _ :=
    .single (follows_closeGroup 1) (by simp) fun _ => rfl
  exact ((Realizes.read .noFeed).onceOrMore true).andThen (closed.andThen (.literal back))

theorem Trail.place_closeGroup (number : Nat) (trail : Trail) :
    (trail.closeGroup number).place = trail.place := by
  rw [Trail.closeGroup]
  split <;> rfl

theorem exists_of_tailPasses {back : List Char} {later : Trail}
    (passed : TailPasses back start later) :
    ∃ serial after, serial ≠ [] ∧ '\n' ∉ serial ∧
      start.place.rest = serial ++ (back ++ after) := by
  obtain ⟨inner, ⟨more, rounds⟩, closed, hasClosed, last⟩ := passed
  obtain ⟨serial, rest, long, all, split, rfl⟩ := rounds_readOne_iff.mp rounds
  obtain rfl := Option.some.inj hasClosed
  obtain ⟨after, behind, -⟩ := reads_iff.mp last
  rw [Trail.place_closeGroup] at behind
  obtain rfl : rest = back ++ after := behind
  refine ⟨serial, after, List.ne_nil_of_length_eq_add_one long, fun feed => ?_, split⟩
  exact CharSet.contains_noFeed.mp (all _ feed) rfl

theorem serialTail_eq (back : List Char) (next : Nat) (states : Array State) :
    serialTail back next states =
      ((Layout.literal back next states).2.size + 2,
        (Layout.literal back next states).2 ++
          #[.closeGroup 1 (Layout.literal back next states).1,
            .fork ((Layout.literal back next states).2.size + 2)
              (Layout.literal back next states).2.size,
            .read .noFeed ((Layout.literal back next states).2.size + 1)]) := by
  simp only [serialTail, Layout.andThen, Layout.onceOrMore, Layout.loop, Layout.single,
    Layout.choose, if_true, Array.size_push]
  refine Prod.ext rfl (Array.ext_getElem? fun number => ?_)
  grind

section

variable {back : List Char}
  (same :
    SameBetween 1 (serialTail back 0 #[.accept]).2.size (serialTail back 0 #[.accept]).2 final)
  (accepting : ∀ stop, Automaton.accepts ⟨final, 0⟩ stop = true ↔ stop.state = 0)

include same accepting

/-- Where no text stands before the other one, nothing leads to acceptance. -/
theorem barrenIn_serialTail
    (nothing : ∀ serial after, serial ≠ [] → '\n' ∉ serial →
      start.place.rest ≠ serial ++ (back ++ after)) :
    BarrenIn final (start.inState (serialTail back 0 #[.accept]).1) := by
  intro stop leads
  by_contra accepted
  obtain ⟨count, run⟩ := leads_iff_exists_run.mp leads
  have atEnd := (accepting stop).mp (Bool.eq_true_of_not_eq_false accepted)
  obtain ⟨later, -, -, passed, -⟩ := (realizes_serialTail back 0 #[.accept] Nat.one_pos).pass final
    same count start stop run (.inl (atEnd ▸ Nat.one_pos))
  obtain ⟨serial, after, filled, noFeed, split⟩ := exists_of_tailPasses passed
  exact nothing serial after filled noFeed split

/-- Behind the longest text that stands before the other one, nothing leads to acceptance. -/
theorem barrenIn_behind_longest {serial after : List Char} (noFeed : '\n' ∉ serial)
    (split : start.place.rest = serial ++ (back ++ after))
    (longest : ∀ longer more, '\n' ∉ longer →
      start.place.rest = longer ++ (back ++ more) → longer.length ≤ serial.length) :
    BarrenIn final ((start.readText serial (back ++ after)).inState
      (serialTail back 0 #[.accept]).1) := by
  refine barrenIn_serialTail same accepting fun more rest filledMore noFeedMore further => ?_
  have behind : back ++ after = more ++ (back ++ rest) := further
  have whole : start.place.rest = (serial ++ more) ++ (back ++ rest) := by
    rw [split, behind, List.append_assoc]
  have short := longest (serial ++ more) rest (List.not_mem_append noFeed noFeedMore) whole
  rw [List.length_append] at short
  have positive := List.length_pos_iff.mpr filledMore
  omega

/-- The preferred way reads the longest text that stands before the other one. -/
theorem exists_prefersIn_serialTail {serial after : List Char} (filled : serial ≠ [])
    (noFeed : '\n' ∉ serial) (split : start.place.rest = serial ++ (back ++ after))
    (longest : ∀ longer more, '\n' ∉ longer →
      start.place.rest = longer ++ (back ++ more) → longer.length ≤ serial.length) :
    ∃ count, PrefersIn final count (start.inState (serialTail back 0 #[.accept]).1)
      ((((start.readText serial (back ++ after)).closeGroup 1).readText back after).inState 0) := by
  have ends := barrenIn_behind_longest same accepting noFeed split longest
  set texts := Layout.literal back 0 #[.accept] with literal
  have grows : 1 ≤ texts.2.size := (Realizes.literal back 0 #[.accept] Nat.one_pos).grows
  rw [serialTail_eq, ← literal] at same ends ⊢
  have known : ∀ number, number < 3 → final[texts.2.size + number]? =
      (#[.closeGroup 1 texts.1, .fork (texts.2.size + 2) texts.2.size,
        .read .noFeed (texts.2.size + 1)] : Array State)[number]? := by
    intro number small
    rw [same _ (by omega) (by simpa using small), Array.getElem?_append_right (by omega),
      Nat.add_sub_cancel_left]
  have inText : SameBetween 1 texts.2.size texts.2 final :=
    same.mono le_rfl (by simp) fun number _ below => Array.getElem?_append_left below
  set closed := (start.readText serial (back ++ after)).closeGroup 1 with closing
  have atBack : closed.place.rest = back ++ after := by
    rw [closing, Trail.place_closeGroup]
    rfl
  have arrived : PrefersIn final 0 ((closed.readText back after).inState 0) _ :=
    .arrived ((accepting _).mpr rfl)
  have read : PrefersIn final _ (closed.inState texts.1) _ :=
    .literal Nat.one_pos inText atBack arrived
  have left : PrefersIn final _ ((start.readText serial (back ++ after)).inState texts.2.size) _ :=
    .single (follows_closeGroup 1) (by simp) (known 0 (by decide)) rfl read
  exact ⟨_, .loop (known 2 (by decide)) (known 1 (by decide)) filled noFeed split ends left⟩

end

/-! ## Texts between two others -/

variable {front back : List Char}

/-- From a place where a text stands between two others, the preferred way captures the longest such
text. -/
theorem exists_prefersIn_between {place : Place} {serial after : List Char} (filled : serial ≠ [])
    (noFeed : '\n' ∉ serial) (split : place.rest = front ++ (serial ++ (back ++ after)))
    (longest : ∀ longer more, '\n' ∉ longer →
      place.rest = front ++ (longer ++ (back ++ more)) → longer.length ≤ serial.length) :
    ∃ count, PrefersIn (between front back).toAutomaton.states count
      ((between front back).toAutomaton.root place)
      (((((Trail.origin place).readText front (serial ++ (back ++ after))).capture serial
        (back ++ after)).readText back after).inState 0) := by
  set tail := serialTail back 0 #[.accept]
  set opened := tail.2.push (.openGroup 1 tail.1) with opening
  set final := (Layout.literal front tail.2.size opened).2
  change ∃ count, PrefersIn final count
    ((Trail.origin place).inState (Layout.literal front tail.2.size opened).1) _
  have grows : 1 ≤ tail.2.size := (realizes_serialTail back 0 #[.accept] Nat.one_pos).grows
  have inside : tail.2.size < opened.size := by simp [opening]
  have kept : SameBetween 1 (tail.2.size + 1) opened final := fun number _ below =>
    (Realizes.literal front tail.2.size opened inside).keeps number (by simpa [opening] using below)
  have accepting : ∀ stop, Automaton.accepts ⟨final, 0⟩ stop = true ↔ stop.state = 0 :=
    accepts_toAutomaton (between front back)
  set start := (Trail.origin place).readText front (serial ++ (back ++ after))
  have longestBehind : ∀ longer more, '\n' ∉ longer →
      (start.openGroup 1).place.rest = longer ++ (back ++ more) →
        longer.length ≤ serial.length :=
    fun longer more noFeedLonger behind =>
      longest longer more noFeedLonger (split.trans (congrArg (front ++ ·) behind))
  have splitBehind : (start.openGroup 1).place.rest = serial ++ (back ++ after) := rfl
  obtain ⟨count, further⟩ := exists_prefersIn_serialTail kept.of_push accepting filled noFeed
    splitBehind longestBehind
  have entered : PrefersIn final (count + 1) (start.inState tail.2.size) _ :=
    .single (follows_openGroup 1) (by simp) (kept.last_of_push grows) rfl further
  exact ⟨_, .literal inside (fun _ _ _ => rfl) split entered⟩

/-- From the first place where a text stands between two others, a search captures the longest such
text. -/
theorem capture?_between {text : String} {place : Place} {serial after : List Char}
    (among : place ∈ Place.allFrom 0 none text.toList)
    (first : (between front back).MissesBefore text.toList place) (filled : serial ≠ [])
    (noFeed : '\n' ∉ serial) (split : place.rest = front ++ (serial ++ (back ++ after)))
    (longest : ∀ longer more, '\n' ∉ longer →
      place.rest = front ++ (longer ++ (back ++ more)) → longer.length ≤ serial.length) :
    (between front back).toAutomaton.capture? 1 text = some (String.ofList serial) := by
  obtain ⟨count, preferred⟩ := exists_prefersIn_between filled noFeed split longest
  rw [Automaton.capture?, search?_of_preferred among first preferred]
  exact congrArg (fun chars => some (String.ofList chars)) (text_upTo_after rfl)

end Pattern
end GatewayTelemetry
