import Mathlib.Data.List.Nodup
import GatewayTelemetry.Telemetry.Extraction

/-!
# Telemetry of known readings

Readings whose keys are in the table of their category come out under the labels of their keys, each
once and in the order in which they stand in the payload.
-/

namespace GatewayTelemetry

/-! ## Different names -/

namespace Fields

theorem set_of_not_mem {name : String} (reading : Reading) {fields : List (String × Reading)}
    (absent : name ∉ fields.map Prod.fst) :
    set name reading fields = fields ++ [(name, reading)] := by
  induction fields with
  | nil => rfl
  | cons field fields ih =>
      rw [List.map_cons, List.mem_cons, not_or] at absent
      rw [set, if_neg fun same => absent.1 same.symm, ih absent.2, List.cons_append]

end Fields

namespace Telemetry

/-- Readings with new and different names are all added at the end. -/
theorem fields_foldl_insert (telemetry : Telemetry) {entries : List (String × Reading)}
    (distinct : ((telemetry.fields ++ entries).map Prod.fst).Nodup) :
    (entries.foldl (fun telemetry entry => telemetry.insert entry.1 entry.2) telemetry).fields =
      telemetry.fields ++ entries := by
  induction entries generalizing telemetry with
  | nil => simp
  | cons entry entries ih =>
      have absent : entry.1 ∉ telemetry.fields.map Prod.fst := by
        rw [List.map_append, List.nodup_append] at distinct
        exact fun present => distinct.2.2 _ present _ (by simp) rfl
      have added : (telemetry.insert entry.1 entry.2).fields = telemetry.fields ++ [entry] :=
        Fields.set_of_not_mem entry.2 absent
      have rest := ih (telemetry.insert entry.1 entry.2) (by simpa [added] using distinct)
      rw [List.foldl_cons, rest, added, List.append_assoc, List.singleton_append]

/-- Readings with different names are kept as they stand. -/
theorem fields_ofList {entries : List (String × Reading)}
    (distinct : (entries.map Prod.fst).Nodup) : (ofList entries).fields = entries :=
  fields_foldl_insert empty distinct

end Telemetry

/-! ## Pairs of keys and values -/

namespace Table

def keys (table : Table) : List String :=
  table.entries.map Prod.fst

/-- Different keys have different labels, and no key has a separator in it. -/
structure IsRegular (table : Table) : Prop where
  injective : ∀ key ∈ table.keys, ∀ other ∈ table.keys,
    (table.lookup key).text = (table.lookup other).text → key = other
  noComma : ∀ key ∈ table.keys, ',' ∉ key.toList
  noEquals : ∀ key ∈ table.keys, '=' ∉ key.toList

theorem isRegular_environment : IsRegular environment where
  injective := by decide +kernel
  noComma := by decide +kernel
  noEquals := by decide +kernel

theorem isRegular_power : IsRegular power where
  injective := by decide +kernel
  noComma := by decide +kernel
  noEquals := by decide +kernel

def builtin : List Table :=
  [environment, lock, power, alarm]

def labels (table : Table) : List String :=
  table.entries.map Prod.snd

/-- A key has the label of an entry, or it is no key of the table. -/
theorem lookup_cases (table : Table) (key : String) :
    (∃ label, (key, label) ∈ table.entries ∧ table.lookup key = .known label) ∨
      key ∉ table.keys ∧ table.lookup key = .undefined := by
  rw [lookup]
  cases found : table.entries.lookup key with
  | none =>
      refine .inr ⟨fun known => ?_, rfl⟩
      obtain ⟨entry, present, rfl⟩ := List.mem_map.mp known
      have other := List.lookup_eq_none_iff.mp found entry present
      rw [bne_self_eq_false] at other
      cases other
  | some label =>
      obtain ⟨before, after, split, -⟩ := List.lookup_eq_some_iff.mp found
      refine .inl ⟨label, ?_, rfl⟩
      rw [split]
      exact List.mem_append_right before List.mem_cons_self

theorem isKnown_lookup (table : Table) (key : String) :
    (table.lookup key).isKnown = true ↔ key ∈ table.keys := by
  rcases table.lookup_cases key with ⟨label, present, found⟩ | ⟨absent, found⟩
  · rw [found]
    exact iff_of_true rfl (List.mem_map_of_mem present)
  · rw [found]
    exact iff_of_false Bool.false_ne_true absent

theorem ofLabel_lookup {table : Table} {key : String} (known : key ∈ table.keys) :
    Reading.ofLabel (table.lookup key) = .text (table.lookup key).text := by
  rcases table.lookup_cases key with ⟨label, -, found⟩ | ⟨absent, -⟩
  · rw [found]
    rfl
  · exact absurd known absent

end Table

/-- Raw keys of a table, each once, with values that have no separator in them. -/
structure Readings (table : Table) (readings : List (String × String)) : Prop where
  filled : readings ≠ []
  known : ∀ reading ∈ readings, reading.1 ∈ table.keys
  distinct : (readings.map Prod.fst).Nodup
  noComma : ∀ reading ∈ readings, ',' ∉ reading.2.toList
  noEquals : ∀ reading ∈ readings, '=' ∉ reading.2.toList

namespace Extraction

def token (reading : String × String) : String :=
  reading.1 ++ "=" ++ reading.2

def joined (readings : List (String × String)) : String :=
  ",".intercalate (readings.map token)

theorem ofToken_token {reading : String × String} (keyPlain : '=' ∉ reading.1.toList)
    (valuePlain : '=' ∉ reading.2.toList) :
    Pair.ofToken (token reading).toList = ⟨reading.1, .text reading.2⟩ := by
  have split : (token reading).toList.splitOn '=' = [reading.1.toList, reading.2.toList] := by
    have written : (token reading).toList = reading.1.toList ++ '=' :: reading.2.toList := by
      simp [token]
    rw [written, List.splitOn_append_cons_self_of_not_mem keyPlain,
      List.splitOn_eq_singleton valuePlain]
  simp only [Pair.ofToken, split, String.ofList_toList]

variable {table : Table} {readings : List (String × String)}

/-- Joined readings are taken apart again. -/
theorem pairs_joined (regular : table.IsRegular) (valid : Readings table readings) :
    pairs (joined readings) = readings.map fun reading => ⟨reading.1, .text reading.2⟩ := by
  have split : (joined readings).toList.splitOn ',' =
      readings.map fun reading => (token reading).toList := by
    have written : (joined readings).toList =
        [','].intercalate (readings.map fun reading => (token reading).toList) := by
      simp [joined, Function.comp_def]
    rw [written]
    refine List.splitOn_intercalate ',' ?_ (by simpa using valid.filled)
    intro text among
    obtain ⟨reading, present, rfl⟩ := List.mem_map.mp among
    have keyPlain := regular.noComma reading.1 (valid.known reading present)
    have valuePlain := valid.noComma reading present
    simp [token, keyPlain, valuePlain]
  rw [pairs, split, List.map_map]
  refine List.map_congr_left fun reading present => ?_
  exact ofToken_token (regular.noEquals reading.1 (valid.known reading present))
    (valid.noEquals reading present)

/-- Each reading comes out under the label of its key. -/
theorem fields_keyValues (regular : table.IsRegular) (valid : Readings table readings)
    (category : Category) :
    (keyValues table category (joined readings)).value.fields =
      readings.map fun reading => ((table.lookup reading.1).text, .text reading.2) := by
  have names : ((readings.map Prod.fst).map fun key => (table.lookup key).text).Nodup := by
    have known : ∀ key ∈ readings.map Prod.fst, key ∈ table.keys :=
      List.forall_mem_map.mpr valid.known
    exact valid.distinct.map_on fun key present other otherPresent =>
      regular.injective key (known key present) other (known other otherPresent)
  rw [keyValues, pairs_joined regular valid, List.map_map]
  refine Telemetry.fields_ofList ?_
  rw [List.map_map] at names ⊢
  exact names

end Extraction

/-! ## Locks and alarms -/

theorem lockFieldName_injective : Function.Injective lockFieldName := by
  intro index other same
  have digits : Nat.toDigits 10 (index + 1) = Nat.toDigits 10 (other + 1) := by
    have lists := congrArg String.toList same
    simpa [lockFieldName] using lists
  have numbers := congrArg (fun digits => Nat.ofDigitChars 10 digits 0) digits
  simpa [Nat.ofDigitChars_ten_toDigits] using numbers

namespace Extraction

def lockEntry (state : String) : Json.Value :=
  .object [("value", .string state)]

/-- Locks come out one by one, each under its own name, if none of them is `null`. -/
theorem exists_fields_locks {entries : List Json.Value}
    (noNull : entries.any Json.Value.isNull = false) :
    ∃ telemetry, (locks entries).value = .ok telemetry ∧
      telemetry.fields = entries.zipIdx.map fun lock =>
        (lockFieldName lock.2, .ofLabel (lockLabel lock.1)) := by
  rw [locks, noNull]
  refine ⟨_, rfl, Telemetry.fields_ofList ?_⟩
  have names : (entries.zipIdx.map Prod.snd).map lockFieldName =
      (entries.zipIdx.map fun lock =>
        (lockFieldName lock.2, Reading.ofLabel (lockLabel lock.1))).map Prod.fst := by
    rw [List.map_map, List.map_map]
    rfl
  rw [← names, List.zipIdx_map_snd]
  exact (List.nodup_range' ..).map lockFieldName_injective

/-- Each lock in a known state comes out with the label of its state. -/
theorem value_locks {states : List String} (known : ∀ state ∈ states, state ∈ Table.lock.keys) :
    ∃ telemetry, (locks (states.map lockEntry)).value = .ok telemetry ∧
      telemetry.fields = states.zipIdx.map fun lock =>
        (lockFieldName lock.2, .text (Table.lock.lookup lock.1).text) := by
  have noNull : (states.map lockEntry).any Json.Value.isNull = false := by
    rw [List.any_map, List.any_eq_false]
    exact fun state _ => Bool.false_ne_true
  obtain ⟨telemetry, value, fields⟩ := exists_fields_locks noNull
  refine ⟨telemetry, value, fields.trans ?_⟩
  rw [List.zipIdx_map, List.map_map]
  refine List.map_congr_left fun lock present => ?_
  have inside := known lock.1 (List.fst_mem_of_mem_zipIdx present)
  exact congrArg (Prod.mk (lockFieldName lock.2)) (Table.ofLabel_lookup inside)

theorem fields_alarm (category : Category) {code : String} (known : code ∈ Table.alarm.keys) :
    (alarm category code).value.fields = [(alarmFieldName, .text (Table.alarm.lookup code).text)] :=
  congrArg (fun reading => [(alarmFieldName, reading)]) (Table.ofLabel_lookup known)

end Extraction
end GatewayTelemetry
