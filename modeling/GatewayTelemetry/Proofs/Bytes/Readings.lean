import GatewayTelemetry.Proofs.Bytes.Lookups
import GatewayTelemetry.Proofs.Telemetry.Extraction

/-!
# Readings byte by byte

Separators and raw keys are ASCII. So a text of pairs has the same pairs as bytes, under the same
labels and with the same ones undefined, and only the texts of their readings are spelled
differently. Locks and alarms, of which only the labels are kept, come out the same.
-/

namespace GatewayTelemetry

/-! ## Splitting -/

theorem splitOn_append_of_not_mem {separator : Char} {front : List Char}
    (absent : separator ∉ front) (text : List Char) :
    (front ++ text).splitOn separator = (text.splitOn separator).modifyHead (front ++ ·) := by
  induction front with
  | nil => exact (congrFun List.modifyHead_id _).symm
  | cons c front ih =>
      rw [List.mem_cons, not_or] at absent
      have other : ¬(c == separator) = true := fun same => absent.1 (beq_iff_eq.mp same).symm
      rw [List.cons_append, List.splitOn_cons_eq_if_modifyHead, if_neg other, ih absent.2,
        List.modifyHead_modifyHead]
      rfl

theorem forall₂_modifyHead {related : List Char → List Char → Prop}
    {parts others : List (List Char)} (same : List.Forall₂ related parts others)
    {f g : List Char → List Char}
    (kept : ∀ part other, related part other → related (f part) (g other)) :
    List.Forall₂ related (parts.modifyHead f) (others.modifyHead g) := by
  cases same with
  | nil => exact .nil
  | cons first later => exact .cons (kept _ _ first) later

theorem Json.Respelled.splitOn {text other : List Char} (same : Respelled text other)
    (separator : Char) (ascii : IsAscii separator) :
    List.Forall₂ Respelled (text.splitOn separator) (other.splitOn separator) := by
  induction same with
  | nil => exact .cons .nil .nil
  | kept c later ih =>
      rw [List.splitOn_cons_eq_if_modifyHead, List.splitOn_cons_eq_if_modifyHead]
      split
      · exact .cons .nil ih
      · exact forall₂_modifyHead ih fun _ _ => .kept c
  | @spread c foreign text other later ih =>
      have absent : separator ∉ byteChars c := fun among =>
        not_isAscii_of_mem_byteChars foreign _ among ascii
      have different : ¬(c == separator) = true := fun equal =>
        foreign (beq_iff_eq.mp equal ▸ ascii)
      rw [splitOn_append_of_not_mem absent, List.splitOn_cons_eq_if_modifyHead, if_neg different]
      exact forall₂_modifyHead ih fun _ _ => .spread foreign

open Json

/-! ## Labels -/

namespace Table

def HasAsciiKeys (table : Table) : Prop :=
  ∀ key ∈ table.keys, OnlyAscii key.toList

instance (table : Table) : Decidable table.HasAsciiKeys :=
  List.decidableBAll (fun key : String => OnlyAscii key.toList) table.keys

theorem hasAsciiKeys_environment : HasAsciiKeys environment := by
  decide +kernel

theorem hasAsciiKeys_lock : HasAsciiKeys lock := by
  decide +kernel

theorem hasAsciiKeys_power : HasAsciiKeys power := by
  decide +kernel

theorem hasAsciiKeys_alarm : HasAsciiKeys alarm := by
  decide +kernel

/-- Characters spread over their bytes make no difference to the label of a key. -/
theorem lookup_respelled {table : Table} (ascii : table.HasAsciiKeys) {key other : String}
    (same : Respelled key.toList other.toList) : table.lookup key = table.lookup other := by
  have found : table.entries.lookup key = table.entries.lookup other := by
    obtain ⟨entries⟩ := table
    induction entries with
    | nil => rfl
    | cons entry entries ih =>
        have tested : (key == entry.1) = (other == entry.1) := by
          rw [Bool.eq_iff_iff, beq_iff_eq, beq_iff_eq]
          exact same.eq_word_iff (ascii entry.1 List.mem_cons_self)
        rw [List.lookup_cons, List.lookup_cons, tested,
          ih fun name among => ascii name (List.mem_cons_of_mem _ among)]
  rw [lookup, lookup, found]

end Table

/-! ## Telemetry -/

/-- A reading with characters in its text spread over their bytes; both are defined, or neither. -/
inductive Reading.Respelled : Reading → Reading → Prop
  | text {value other : String} (same : Json.Respelled value.toList other.toList) :
      Reading.Respelled (.text value) (.text other)
  | undefined : Reading.Respelled .undefined .undefined

theorem Reading.Respelled.refl (reading : Reading) : reading.Respelled reading := by
  cases reading with
  | text value => exact .text (.refl value.toList)
  | undefined => exact .undefined

/-- Fields with the same names in the same order, and with readings that are the same but for
characters spread over their bytes. -/
abbrev Fields.Respelled : List (String × Reading) → List (String × Reading) → Prop :=
  List.Forall₂ fun field other => field.1 = other.1 ∧ Reading.Respelled field.2 other.2

theorem Fields.Respelled.set {fields others : List (String × Reading)}
    (same : Fields.Respelled fields others) (name : String) {reading other : Reading}
    (readingSame : Reading.Respelled reading other) :
    Fields.Respelled (Fields.set name reading fields) (Fields.set name other others) := by
  induction same with
  | nil => exact .cons ⟨rfl, readingSame⟩ .nil
  | @cons field otherField fields others fieldSame later ih =>
      obtain ⟨fieldName, old⟩ := field
      obtain ⟨otherName, otherOld⟩ := otherField
      obtain ⟨rfl, oldSame⟩ := fieldSame
      unfold Fields.set
      split
      · exact .cons ⟨rfl, readingSame⟩ later
      · exact .cons ⟨rfl, oldSame⟩ ih

/-- Telemetry with the same names in the same order, and with readings that are the same but for
characters spread over their bytes. -/
def Telemetry.Respelled (telemetry other : Telemetry) : Prop :=
  Fields.Respelled telemetry.fields other.fields

theorem Telemetry.Respelled.refl (telemetry : Telemetry) : telemetry.Respelled telemetry :=
  List.forall₂_same.mpr fun field _ => ⟨rfl, .refl field.2⟩

theorem Telemetry.Respelled.insert {telemetry other : Telemetry} (same : telemetry.Respelled other)
    (name : String) {reading later : Reading} (readingSame : reading.Respelled later) :
    (telemetry.insert name reading).Respelled (other.insert name later) :=
  Fields.Respelled.set same name readingSame

theorem Telemetry.respelled_ofList {entries others : List (String × Reading)}
    (same : Fields.Respelled entries others) :
    (Telemetry.ofList entries).Respelled (Telemetry.ofList others) :=
  List.rel_foldl (P := Telemetry.Respelled)
    (fun _ _ telemetrySame _ _ entrySame => entrySame.1 ▸ telemetrySame.insert _ entrySame.2)
    (.refl .empty) same

namespace Extraction

/-! ## Pairs -/

/-- A pair with characters in its key and its reading spread over their bytes. -/
structure Pair.Respelled (pair other : Pair) : Prop where
  key : Json.Respelled pair.key.toList other.key.toList
  reading : pair.reading.Respelled other.reading

theorem Pair.respelled_ofToken {token other : List Char} (same : Json.Respelled token other) :
    (Pair.ofToken token).Respelled (Pair.ofToken other) := by
  have parts := same.splitOn '=' (by decide)
  unfold Pair.ofToken
  generalize token.splitOn '=' = first at parts
  generalize other.splitOn '=' = second at parts
  rcases parts with _ | ⟨keySame, _ | ⟨valueSame, _⟩⟩
  · exact ⟨.nil, .undefined⟩
  · refine ⟨?_, .undefined⟩
    rwa [String.toList_ofList, String.toList_ofList]
  · refine ⟨?_, .text ?_⟩
    · rwa [String.toList_ofList, String.toList_ofList]
    · rwa [String.toList_ofList, String.toList_ofList]

theorem respelled_keyValues {table : Table} (ascii : table.HasAsciiKeys) (category : Category)
    {text other : String} (same : Json.Respelled text.toList other.toList) :
    (keyValues table category text).value.Respelled (keyValues table category other).value := by
  refine Telemetry.respelled_ofList ?_
  have pairsSame : List.Forall₂ Pair.Respelled (pairs text) (pairs other) :=
    List.rel_map (fun _ _ tokenSame => Pair.respelled_ofToken tokenSame)
      (same.splitOn ',' (by decide))
  refine List.rel_map (fun pair later pairSame => ⟨?_, pairSame.reading⟩) pairsSame
  rw [Table.lookup_respelled ascii pairSame.key]

/-! ## Locks and alarms -/

theorem lockLabel_indistinct {lock other : Json.Value} (same : lock.Indistinct other) :
    lockLabel lock = lockLabel other := by
  have state := Json.rel_bind (same.member? "value" (by decide)) fun _ _ valueSame =>
    valueSame.text?
  unfold lockLabel
  generalize (lock.member? "value").bind Json.Value.text? = found at state
  generalize (other.member? "value").bind Json.Value.text? = otherFound at state
  cases state with
  | none => rfl
  | some stateSame => exact Table.lookup_respelled Table.hasAsciiKeys_lock stateSame

/-- What is made of locks is made of their labels, and of whether one of them is `null`. -/
theorem value_locks_eq (entries : List Json.Value) :
    (locks entries).value =
      if (entries.map Json.Value.isNull).any id then
        .error (.wrongReadings .lockStatus .lockEntries)
      else
        .ok (.ofList ((entries.map lockLabel).zipIdx.map fun lock =>
          (lockFieldName lock.2, .ofLabel lock.1))) := by
  rw [locks, List.any_map, List.zipIdx_map, List.map_map]
  rfl

theorem value_locks_indistinct {entries others : List Json.Value}
    (same : List.Forall₂ Json.Value.Indistinct entries others) :
    (locks entries).value = (locks others).value := by
  have labels : List.Forall₂ Eq (entries.map lockLabel) (others.map lockLabel) :=
    List.rel_map (fun _ _ lockSame => lockLabel_indistinct lockSame) same
  have nulls : List.Forall₂ Eq (entries.map Json.Value.isNull) (others.map Json.Value.isNull) :=
    List.rel_map (fun _ _ lockSame => lockSame.isNull_eq) same
  rw [List.forall₂_eq_eq_eq] at labels nulls
  rw [value_locks_eq, value_locks_eq, labels, nulls]

theorem value_alarm_respelled (category : Category) {code other : String}
    (same : Json.Respelled code.toList other.toList) :
    (alarm category code).value = (alarm category other).value := by
  unfold alarm
  rw [Table.lookup_respelled Table.hasAsciiKeys_alarm same]

end Extraction
end GatewayTelemetry
