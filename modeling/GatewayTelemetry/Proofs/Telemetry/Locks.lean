import GatewayTelemetry.Proofs.Telemetry.Extraction

/-!
# A field for each lock

Locks come out as fields in the order in which they stand in the payload, each under a name with
its number in it, whether its state has a label or not. Only a lock that is `null` keeps all of them
from coming out.
-/

namespace GatewayTelemetry

open Json (Value)

theorem lockFieldName_eq (index : Nat) :
    lockFieldName index = "门锁" ++ toString (index + 1) ++ "状态" :=
  rfl

namespace Extraction

theorem any_isNull_iff {entries : List Value} :
    entries.any Value.isNull = true ↔ .null ∈ entries := by
  rw [List.any_eq_true]
  constructor
  · rintro ⟨lock, among, null⟩
    cases lock with
    | null => exact among
    | _ => cases null
  · exact fun among => ⟨.null, among, rfl⟩

/-- What comes out of a lock: the label of its state if this is a text in the table, and nothing
that is defined in every other case. -/
inductive ShowsState : Value → Reading → Prop
  | labelled {members : List (String × Value)} {state label : String}
      (stored : members.lookup "value" = some (.string state))
      (known : (state, label) ∈ Table.lock.entries) :
      ShowsState (.object members) (.text label)
  | undefined {lock : Value}
      (unknown : ∀ members state, lock = .object members →
        members.lookup "value" = some (.string state) → state ∉ Table.lock.keys) :
      ShowsState lock .undefined

theorem lookup_of_mem_lock {state label : String} (known : (state, label) ∈ Table.lock.entries) :
    Table.lock.lookup state = .known label := by
  have each : ∀ entry ∈ Table.lock.entries, Table.lock.lookup entry.1 = .known entry.2 := by decide
  exact each (state, label) known

theorem state_eq_some_iff {lock : Value} {state : String} :
    (lock.member? "value").bind Value.text? = some state ↔
      ∃ members, lock = .object members ∧ members.lookup "value" = some (.string state) := by
  cases lock with
  | object members =>
      rw [Value.member?, Option.bind_eq_some_iff]
      constructor
      · rintro ⟨found, stored, text⟩
        cases found with
        | string other =>
            obtain rfl : other = state := Option.some.inj text
            exact ⟨members, rfl, stored⟩
        | _ => cases text
      · rintro ⟨_, same, stored⟩
        cases same
        exact ⟨_, stored, rfl⟩
  | _ =>
      refine iff_of_false nofun ?_
      rintro ⟨_, other, -⟩
      cases other

theorem ShowsState.eq {lock : Value} {reading : Reading} (shows : ShowsState lock reading) :
    reading = .ofLabel (lockLabel lock) := by
  cases shows with
  | labelled stored known =>
      have state := state_eq_some_iff.mpr ⟨_, rfl, stored⟩
      rw [lockLabel, state]
      exact congrArg Reading.ofLabel (lookup_of_mem_lock known).symm
  | undefined unknown =>
      rw [lockLabel]
      cases found : (lock.member? "value").bind Value.text? with
      | none => rfl
      | some state =>
          obtain ⟨members, object, stored⟩ := state_eq_some_iff.mp found
          rcases Table.lock.lookup_cases state with ⟨label, known, -⟩ | ⟨-, missing⟩
          · exact absurd (List.mem_map_of_mem known) (unknown members state object stored)
          · exact congrArg Reading.ofLabel missing.symm

/-- A lock shows the label of its state. -/
theorem showsState_lockLabel (lock : Value) : ShowsState lock (.ofLabel (lockLabel lock)) := by
  rw [lockLabel]
  cases found : (lock.member? "value").bind Value.text? with
  | none =>
      refine .undefined fun members state object stored => ?_
      cases found.symm.trans (state_eq_some_iff.mpr ⟨members, object, stored⟩)
  | some state =>
      obtain ⟨members, rfl, stored⟩ := state_eq_some_iff.mp found
      dsimp only
      rcases Table.lock.lookup_cases state with ⟨label, known, labelled⟩ | ⟨absent, missing⟩
      · rw [labelled]
        exact .labelled stored known
      · rw [missing]
        refine .undefined fun _ other object otherStored => ?_
        cases object
        cases stored.symm.trans otherStored
        exact absent

theorem showsState_iff {lock : Value} {reading : Reading} :
    ShowsState lock reading ↔ reading = .ofLabel (lockLabel lock) := by
  refine ⟨ShowsState.eq, ?_⟩
  rintro rfl
  exact showsState_lockLabel lock

theorem value_locks_eq_error_iff {entries : List Value} {error : DecodeError} :
    (locks entries).value = .error error ↔
      .null ∈ entries ∧ error = .wrongReadings .lockStatus .lockEntries := by
  rw [← any_isNull_iff, locks]
  constructor
  · intro refused
    split at refused
    · next null =>
      exact ⟨null, (Except.error.inj refused).symm⟩
    · cases refused
  · rintro ⟨null, rfl⟩
    exact if_pos null

/-- Locks come out unless one of them is `null`, a field for each in their order. The name of a
field has the number of the lock in it, so that no two locks share one; its reading is the label of
the state, or undefined if the state is not a text in the table. -/
theorem locks_fieldEach (entries : List Value) :
    (∀ error, (locks entries).value = .error error ↔
        .null ∈ entries ∧ error = .wrongReadings .lockStatus .lockEntries) ∧
      (.null ∉ entries → ∃ telemetry, (locks entries).value = .ok telemetry ∧
        telemetry.size = entries.length ∧
        ∀ index lock, entries[index]? = some lock → ∀ reading,
          telemetry.fields[index]? =
              some ("门锁" ++ toString (index + 1) ++ "状态", reading) ↔
            ShowsState lock reading) ∧
      (∀ index other : Nat, "门锁" ++ toString (index + 1) ++ "状态" =
        "门锁" ++ toString (other + 1) ++ "状态" → index = other) ∧
      (DecodeError.wrongReadings .lockStatus .lockEntries).message =
        "Slice 'locks' for lock payload is not a sequence of lock entries" := by
  refine ⟨fun error => value_locks_eq_error_iff, fun noNull => ?_,
    fun index other same => lockFieldName_injective same, by decide⟩
  obtain ⟨telemetry, value, fields⟩ := exists_fields_locks
    (Bool.eq_false_iff.mpr fun null => noNull (any_isNull_iff.mp null))
  refine ⟨telemetry, value, ?_, fun index lock stands reading => ?_⟩
  · rw [Telemetry.size, fields, List.length_map, List.length_zipIdx]
  · have field : telemetry.fields[index]? =
        some (lockFieldName index, .ofLabel (lockLabel lock)) := by
      rw [fields, List.getElem?_map, List.getElem?_zipIdx, stands, Nat.zero_add]
      rfl
    rw [field, showsState_iff, ← lockFieldName_eq, Option.some_inj, Prod.mk.injEq]
    exact ⟨fun same => same.2.symm, fun same => ⟨rfl, same.symm⟩⟩

/-- Nine locks, an entry that is no lock at all, and one more lock. -/
def elevenLocks : List Value :=
  List.replicate 9 (lockEntry "lock") ++ [.number (.integer 7), lockEntry "unlock"]

/-- The numbers in the names of the fields go on to two digits. -/
theorem locks_fieldEach_elevenLocks :
    (.null ∉ elevenLocks ∧ elevenLocks[9]? = some (.number (.integer 7)) ∧
        elevenLocks[10]? = some (lockEntry "unlock")) ∧
      ∃ telemetry, (locks elevenLocks).value = .ok telemetry ∧ telemetry.size = 11 ∧
        telemetry.fields[9]? = some ("门锁10状态", .undefined) ∧
        telemetry.fields[10]? = some ("门锁11状态", .text "开") := by
  have noNull : .null ∉ elevenLocks := by simp [elevenLocks, lockEntry]
  obtain ⟨telemetry, value, size, fields⟩ := (locks_fieldEach elevenLocks).2.1 noNull
  refine ⟨⟨noNull, rfl, rfl⟩, telemetry, value, size, ?_, ?_⟩
  · exact (fields 9 _ rfl .undefined).mpr (.undefined nofun)
  · exact (fields 10 _ rfl (.text "开")).mpr (.labelled rfl (by decide))

end Extraction
end GatewayTelemetry
