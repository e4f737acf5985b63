import GatewayTelemetry.Proofs.Decimal.Numeral
import GatewayTelemetry.Settings

/-!
# Settings are read exactly and always usable

Whatever bytes the variables of a process hold, a replay makes one pass or more with one worker up
to the greatest number of workers. A variable counts exactly if its bytes are the text of a numeral.
Zero is no number of passes but is brought up to one worker, and a number that is too large for a
numeral is not brought down to the greatest number of workers.
-/

namespace GatewayTelemetry

variable {stored : String → Option ByteArray} {environment : Environment} {name : String}
  {number : Nat}

/-- Exactly the variables that hold the UTF-8 bytes of a text have this text as their value. -/
theorem Environment.ofBytes_eq_some_iff {text : String} :
    Environment.ofBytes stored name = some text ↔ stored name = some text.toUTF8 := by
  rw [Environment.ofBytes]
  constructor
  · intro value
    obtain ⟨bytes, held, decoded⟩ := Option.bind_eq_some_iff.mp value
    rw [String.fromUTF8?] at decoded
    split at decoded
    · obtain rfl := Option.some.inj decoded
      exact held
    · cases decoded
  · intro held
    rw [held]
    exact dif_pos text.isValidUTF8

namespace Settings

/-! ## Numbers in variables -/

def HoldsNumeral (stored : String → Option ByteArray) (name : String) (number : Nat) : Prop :=
  ∃ text : String, stored name = some text.toUTF8 ∧ Decimal.IsNumeral text number

theorem holdsNumeral_iff {text : String} (held : stored name = some text.toUTF8) :
    HoldsNumeral stored name number ↔ Decimal.IsNumeral text number := by
  constructor
  · rintro ⟨other, also, numeral⟩
    have same : text = other := by
      rw [← String.toByteArray_inj]
      exact Option.some.inj (held.symm.trans also)
    exact same ▸ numeral
  · exact fun numeral => ⟨text, held, numeral⟩

theorem number?_ofBytes_eq_some_iff :
    number? (.ofBytes stored) name = some number ↔ HoldsNumeral stored name number := by
  rw [number?, Option.bind_eq_some_iff]
  constructor
  · rintro ⟨text, value, numeral⟩
    exact ⟨text, Environment.ofBytes_eq_some_iff.mp value, Decimal.numeral?_eq_some_iff.mp numeral⟩
  · rintro ⟨text, held, numeral⟩
    exact ⟨text, Environment.ofBytes_eq_some_iff.mpr held, Decimal.numeral?_eq_some_iff.mpr numeral⟩

/-- A number that is spelled out but too large is no numeral. -/
theorem not_holdsNumeral_of_spells {text : String} (held : stored name = some text.toUTF8)
    (spells : Decimal.Spells text number) (tooLarge : 2 ^ 64 - 1 < number) (other : Nat) :
    ¬HoldsNumeral stored name other := by
  rw [holdsNumeral_iff held]
  rintro ⟨also, within⟩
  rw [spells.eq also] at tooLarge
  exact absurd within (Nat.not_le_of_lt tooLarge)

/-! ## Passes -/

theorem iterations_of_number? (found : number? environment "UPLINK_REPLAY_ITERATIONS" = some number)
    (positive : 1 ≤ number) : iterations environment = number := by
  rw [iterations, found]
  exact if_pos positive

theorem iterations_eq_default
    (unusable : ∀ number, number? environment "UPLINK_REPLAY_ITERATIONS" = some number →
      ¬1 ≤ number) : iterations environment = defaultIterations := by
  rw [iterations]
  split
  · next found => exact if_neg (unusable _ found)
  · rfl

theorem one_le_iterations (environment : Environment) : 1 ≤ iterations environment := by
  rw [iterations]
  split
  · split
    · next positive => exact positive
    · exact le_refl defaultIterations
  · exact le_refl defaultIterations

/-! ## Workers -/

theorem workers_of_number? (found : number? environment "UPLINK_REPLAY_WORKERS" = some number) :
    workers environment = clampWorkers number := by
  rw [workers, found]

theorem workers_eq_default (absent : number? environment "UPLINK_REPLAY_WORKERS" = none) :
    workers environment = defaultWorkers := by
  rw [workers, absent]

theorem workers_mem_range (environment : Environment) :
    1 ≤ workers environment ∧ workers environment ≤ maxWorkers := by
  rw [workers]
  split
  · exact ⟨one_le_clampWorkers _, clampWorkers_le _⟩
  · decide

/-! ## Both settings -/

/-- **Settings are read exactly and always usable.** The passes are the number in their variable if
this is a numeral for a positive number, and one in every other case. The workers are the number in
their variable, brought between one and 64, if this is a numeral, and four in every other case; a
number that is too large for a numeral is one of these. -/
theorem ofBytes_readExactly (stored : String → Option ByteArray) :
    (∀ number, HoldsNumeral stored "UPLINK_REPLAY_ITERATIONS" number → 1 ≤ number →
        iterations (.ofBytes stored) = number) ∧
      ((¬∃ number, HoldsNumeral stored "UPLINK_REPLAY_ITERATIONS" number ∧ 1 ≤ number) →
        iterations (.ofBytes stored) = 1) ∧
      (∀ number, HoldsNumeral stored "UPLINK_REPLAY_WORKERS" number →
        workers (.ofBytes stored) = min 64 (max 1 number)) ∧
      ((¬∃ number, HoldsNumeral stored "UPLINK_REPLAY_WORKERS" number) →
        workers (.ofBytes stored) = 4) ∧
      (∀ (text : String) number, stored "UPLINK_REPLAY_WORKERS" = some text.toUTF8 →
        Decimal.Spells text number → 2 ^ 64 - 1 < number → workers (.ofBytes stored) = 4) ∧
      1 ≤ iterations (.ofBytes stored) ∧
      1 ≤ workers (.ofBytes stored) ∧ workers (.ofBytes stored) ≤ 64 := by
  have noNumeral : (∀ number, ¬HoldsNumeral stored "UPLINK_REPLAY_WORKERS" number) →
      workers (.ofBytes stored) = 4 := by
    intro unusable
    refine workers_eq_default (Option.eq_none_iff_forall_ne_some.mpr fun number found => ?_)
    exact unusable number (number?_ofBytes_eq_some_iff.mp found)
  refine ⟨fun number holds positive => ?_, fun unusable => ?_, fun number holds => ?_,
    fun unusable => noNumeral (not_exists.mp unusable), fun text number held spells tooLarge => ?_,
    one_le_iterations _, workers_mem_range _⟩
  · exact iterations_of_number? (number?_ofBytes_eq_some_iff.mpr holds) positive
  · refine iterations_eq_default fun number found positive => unusable ⟨number, ?_, positive⟩
    exact number?_ofBytes_eq_some_iff.mp found
  · exact workers_of_number? (number?_ofBytes_eq_some_iff.mpr holds)
  · exact noNumeral (not_holdsNumeral_of_spells held spells tooLarge)

/-- What a process holds that has a text in each of the two variables. -/
def replayVariables (iterations workers : String) : String → Option ByteArray := fun name =>
  [("UPLINK_REPLAY_ITERATIONS", iterations.toUTF8),
    ("UPLINK_REPLAY_WORKERS", workers.toUTF8)].lookup name

def largestAndNext : String → Option ByteArray :=
  replayVariables "+0018446744073709551615" "18446744073709551616"

def zeros : String → Option ByteArray :=
  replayVariables "+0" "00"

/-- What a process holds that has a digit and a byte that is no UTF-8 in every variable. -/
def strayByte : String → Option ByteArray := fun _ =>
  some ⟨#[0x34, 0xFF]⟩

/-- The largest number that there is a numeral for counts and the next one does not, zero is too
little for passes but not for workers, and bytes that are no text do not count. -/
theorem ofBytes_readExactly_aroundLimits :
    (HoldsNumeral largestAndNext "UPLINK_REPLAY_ITERATIONS" 18446744073709551615 ∧
        iterations (.ofBytes largestAndNext) = 18446744073709551615) ∧
      (Decimal.Spells "18446744073709551616" 18446744073709551616 ∧
        workers (.ofBytes largestAndNext) = 4) ∧
      ((¬∃ number, HoldsNumeral zeros "UPLINK_REPLAY_ITERATIONS" number ∧ 1 ≤ number) ∧
        iterations (.ofBytes zeros) = 1) ∧
      (HoldsNumeral zeros "UPLINK_REPLAY_WORKERS" 0 ∧ workers (.ofBytes zeros) = 1) ∧
      (¬∃ number, HoldsNumeral strayByte "UPLINK_REPLAY_WORKERS" number) ∧
        workers (.ofBytes strayByte) = 4 := by
  have largest : HoldsNumeral largestAndNext "UPLINK_REPLAY_ITERATIONS" 18446744073709551615 :=
    ⟨_, rfl, Decimal.numeral?_eq_some_iff.mp (by decide)⟩
  have next : Decimal.Spells "18446744073709551616" 18446744073709551616 :=
    Decimal.spells_iff.mpr ⟨by decide, List.all_eq_true.mp (by decide), by decide⟩
  have zero : Decimal.IsNumeral "+0" 0 := Decimal.numeral?_eq_some_iff.mp (by decide)
  have noPasses : ¬∃ number, HoldsNumeral zeros "UPLINK_REPLAY_ITERATIONS" number ∧
      1 ≤ number := by
    rintro ⟨number, holds, positive⟩
    have numeral : Decimal.IsNumeral "+0" number := (holdsNumeral_iff rfl).mp holds
    rw [numeral.1.eq zero.1] at positive
    exact absurd positive (by decide)
  have noWorkers : HoldsNumeral zeros "UPLINK_REPLAY_WORKERS" 0 :=
    ⟨_, rfl, Decimal.numeral?_eq_some_iff.mp (by decide)⟩
  have noText : ¬∃ number, HoldsNumeral strayByte "UPLINK_REPLAY_WORKERS" number := by
    rintro ⟨number, text, held, -⟩
    have bytes : ⟨#[0x34, 0xFF]⟩ = text.toByteArray := Option.some.inj held
    exact absurd (bytes ▸ text.isValidUTF8) (by decide)
  obtain ⟨counts, -, -, -, refuses, -⟩ := ofBytes_readExactly largestAndNext
  obtain ⟨-, tooLittle, clamps, -⟩ := ofBytes_readExactly zeros
  obtain ⟨-, -, -, ignores, -⟩ := ofBytes_readExactly strayByte
  exact ⟨⟨largest, counts _ largest (by decide)⟩, ⟨next, refuses _ _ rfl next (by decide)⟩,
    ⟨noPasses, tooLittle noPasses⟩, ⟨noWorkers, clamps 0 noWorkers⟩, noText, ignores noText⟩

end Settings
end GatewayTelemetry
