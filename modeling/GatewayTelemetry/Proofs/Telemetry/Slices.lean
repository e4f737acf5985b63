import GatewayTelemetry.Proofs.Telemetry.Locks

/-!
# Where extraction fails

The path of a category is walked from the payload, each step being to a member of an object. If the
walk gets stuck, the readings are missing; if it comes to a value of another kind than the category
needs, they are wrong; and in every other case there is telemetry. Nothing beside the path counts.
-/

namespace GatewayTelemetry

open Json (Value)

/-! ## Errors about readings -/

/-- An error finds the readings of a category at fault, and says where in the payload they are. -/
structure DecodeError.IsAtReadings (category : Category) (error : DecodeError) : Prop where
  fault : error = .noReadings category ∨ ∃ expected, error = .wrongReadings category expected
  /-- The wording has the path of the category in it, and its title. -/
  place : ∃ front back, error.message =
    front ++ ("'" ++ ".".intercalate category.slicePath ++ "' for " ++ category.title) ++ back

namespace DecodeError.IsAtReadings

theorem missing (category : Category) : IsAtReadings category (.noReadings category) where
  fault := .inl rfl
  place := ⟨"Missing slice ", " payload", String.append_assoc.symm⟩

theorem wrongKind (category : Category) (expected : SliceKind) :
    IsAtReadings category (.wrongReadings category expected) where
  fault := .inr ⟨expected, rfl⟩
  place := by
    refine ⟨"Slice ", " payload" ++ (" is not " ++ expected.describe), ?_⟩
    unfold message showSlice
    simp only [String.append_assoc]

end DecodeError.IsAtReadings

namespace Extraction

/-! ## Walking a path -/

/-- A walk along names comes to a value, each step being to a member of an object. -/
inductive Reaches : Value → List String → Value → Prop
  | here (value : Value) : Reaches value [] value
  | step {members : List (String × Value)} {name : String} {path : List String}
      {value final : Value} (member : members.lookup name = some value)
      (rest : Reaches value path final) : Reaches (.object members) (name :: path) final

/-- A walk along names comes to a value that is no object, or to an object without the next name,
before the names end. -/
inductive GetsStuck : Value → List String → Prop
  | noObject {value : Value} {name : String} {path : List String}
      (other : ∀ members, value ≠ .object members) : GetsStuck value (name :: path)
  | noMember {members : List (String × Value)} {name : String} {path : List String}
      (absent : members.lookup name = none) : GetsStuck (.object members) (name :: path)
  | later {members : List (String × Value)} {name : String} {path : List String} {value : Value}
      (member : members.lookup name = some value) (rest : GetsStuck value path) :
      GetsStuck (.object members) (name :: path)

theorem follow_object (name : String) (path : List String) (members : List (String × Value)) :
    follow (name :: path) (.object members) = (members.lookup name).bind (follow path) :=
  rfl

theorem follow_eq_some_iff {path : List String} {value final : Value} :
    follow path value = some final ↔ Reaches value path final := by
  constructor
  · intro found
    induction path generalizing value with
    | nil =>
        cases found
        exact .here final
    | cons name path ih =>
        obtain ⟨next, member, rest⟩ := Option.bind_eq_some_iff.mp found
        cases value with
        | object members => exact .step member (ih rest)
        | _ => cases member
  · intro reaches
    induction reaches with
    | here value => rfl
    | step member _ ih => rw [follow_object, member, Option.bind_some, ih]

theorem follow_eq_none_iff {path : List String} {value : Value} :
    follow path value = none ↔ GetsStuck value path := by
  constructor
  · intro missing
    induction path generalizing value with
    | nil => cases missing
    | cons name path ih =>
        cases value with
        | object members =>
            rw [follow_object] at missing
            cases member : members.lookup name with
            | none => exact .noMember member
            | some next =>
                rw [member, Option.bind_some] at missing
                exact .later member (ih missing)
        | _ => exact .noObject nofun
  · intro stuck
    induction stuck with
    | @noObject value _ _ other =>
        cases value with
        | object members => exact absurd rfl (other members)
        | _ => rfl
    | noMember absent => rw [follow_object, absent, Option.bind_none]
    | later member _ ih => rw [follow_object, member, Option.bind_some, ih]

/-! ## Readings at the end of a path -/

/-- A value is of the kind that a category needs: a list without `null` for locks, else a text. -/
def IsUsable : Category → Value → Prop
  | .lockStatus, value => ∃ entries, value = .array entries ∧ .null ∉ entries
  | _, value => ∃ text, value = .string text

/-- What extraction comes to, given the value at the end of the path if there is one. -/
inductive Extracts (category : Category) : Option Value → Except DecodeError Telemetry → Prop
  | missing : Extracts category none (.error (.noReadings category))
  | wrongKind {found : Value} (unusable : ¬IsUsable category found) (expected : SliceKind) :
      Extracts category (some found) (.error (.wrongReadings category expected))
  | usable {found : Value} (usable : IsUsable category found) (telemetry : Telemetry) :
      Extracts category (some found) (.ok telemetry)

namespace Extracts

variable {category : Category} {found : Option Value} {result : Except DecodeError Telemetry}

theorem missing_iff (extracts : Extracts category found result) :
    result = .error (.noReadings category) ↔ found = none := by
  cases extracts with
  | missing => simp
  | wrongKind _ _ => simp
  | usable _ _ => simp

theorem wrongKind_iff (extracts : Extracts category found result) :
    (∃ expected, result = .error (.wrongReadings category expected)) ↔
      ∃ value, found = some value ∧ ¬IsUsable category value := by
  cases extracts with
  | missing => simp
  | wrongKind unusable _ => simp [unusable]
  | usable usable _ => simp [usable]

theorem usable_iff (extracts : Extracts category found result) :
    (∃ telemetry, result = .ok telemetry) ↔
      ∃ value, found = some value ∧ IsUsable category value := by
  cases extracts with
  | missing => simp
  | wrongKind unusable _ => simp [unusable]
  | usable usable _ => simp [usable]

end Extracts

theorem value_withSlice {α : Type} (readings : Except DecodeError α)
    (next : α → Traced (Except DecodeError Telemetry)) :
    (withSlice readings next).value = readings >>= fun found => (next found).value := by
  cases readings <;> rfl

variable {category : Category} {payload other : Value}

theorem extracts_withText
    (usable_iff : ∀ value, IsUsable category value ↔ ∃ text, value = .string text)
    (next : String → Traced Telemetry) :
    Extracts category (follow category.slicePath payload)
      (withSlice (textSlice category payload) fun text => (next text).map .ok).value := by
  rw [value_withSlice, textSlice, slice]
  cases follow category.slicePath payload with
  | none => exact .missing
  | some found =>
      cases found with
      | string text => exact .usable ((usable_iff _).mpr ⟨text, rfl⟩) _
      | _ =>
          refine .wrongKind (fun usable => ?_) .text
          obtain ⟨_, other⟩ := (usable_iff _).mp usable
          cases other

/-- Of a list that is there, telemetry is made unless it has `null` in it. -/
theorem extracts_withLocks (payload : Value) :
    Extracts .lockStatus (follow Category.lockStatus.slicePath payload)
      (withSlice (listSlice .lockStatus payload) locks).value := by
  rw [value_withSlice, listSlice, slice]
  cases follow Category.lockStatus.slicePath payload with
  | none => exact .missing
  | some found =>
      cases found with
      | array entries =>
          change Extracts .lockStatus (some (.array entries)) (locks entries).value
          cases result : (locks entries).value with
          | error error =>
              obtain ⟨null, rfl⟩ := value_locks_eq_error_iff.mp result
              refine .wrongKind ?_ .lockEntries
              rintro ⟨_, same, noNull⟩
              cases same
              exact noNull null
          | ok telemetry =>
              refine .usable ?_ telemetry
              refine ⟨entries, rfl, fun null => ?_⟩
              cases result.symm.trans (value_locks_eq_error_iff.mpr ⟨null, rfl⟩)
      | _ =>
          refine .wrongKind ?_ .sequence
          rintro ⟨_, other, -⟩
          cases other

theorem extracts_extract (category : Category) (payload : Value) :
    Extracts category (follow category.slicePath payload) (extract category payload).value := by
  cases category with
  | lockStatus => exact extracts_withLocks payload
  | _ => exact extracts_withText (fun _ => .rfl) _

/-- Where nothing can be extracted, the readings of the category are at fault. -/
theorem isAtReadings_extract {error : DecodeError}
    (refused : (extract category payload).value = .error error) : error.IsAtReadings category := by
  have extracts := extracts_extract category payload
  rw [refused] at extracts
  generalize follow category.slicePath payload = found at extracts
  cases extracts with
  | missing => exact .missing category
  | wrongKind _ expected => exact .wrongKind category expected

/-- Only the value at the end of the path counts. -/
theorem extract_congr
    (same : follow category.slicePath payload = follow category.slicePath other) :
    extract category payload = extract category other := by
  have sameSlice : slice category payload = slice category other := by rw [slice, same, slice]
  have sameText : textSlice category payload = textSlice category other := by
    rw [textSlice, sameSlice, textSlice]
  have sameList : listSlice category payload = listSlice category other := by
    rw [listSlice, sameSlice, listSlice]
  cases category with
  | lockStatus => rw [extract, sameList, extract]
  | _ => rw [extract, sameText, extract]

/-- The readings of a category are missing exactly if the walk to them gets stuck. They are wrong
exactly if it comes to a value of another kind than the category needs, and otherwise there is
telemetry. Each error has the category and its path in it, and nothing that stands beside the path
changes anything. -/
theorem extract_byWalk (category : Category) (payload : Value) :
    ((extract category payload).value = .error (.noReadings category) ↔
        GetsStuck payload category.slicePath) ∧
      ((∃ expected, (extract category payload).value =
          .error (.wrongReadings category expected)) ↔
        ∃ found, Reaches payload category.slicePath found ∧ ¬IsUsable category found) ∧
      ((∃ telemetry, (extract category payload).value = .ok telemetry) ↔
        ∃ found, Reaches payload category.slicePath found ∧ IsUsable category found) ∧
      (∀ error, (extract category payload).value = .error error →
        error.IsAtReadings category) ∧
      ∀ other,
        ((∃ found, Reaches payload category.slicePath found ∧
            Reaches other category.slicePath found) ∨
          GetsStuck payload category.slicePath ∧ GetsStuck other category.slicePath) →
        extract category other = extract category payload := by
  have extracts := extracts_extract category payload
  simp only [← follow_eq_some_iff, ← follow_eq_none_iff]
  refine ⟨extracts.missing_iff, extracts.wrongKind_iff, extracts.usable_iff,
    fun error => isAtReadings_extract, fun other same => extract_congr ?_⟩
  rcases same with ⟨found, here, there⟩ | ⟨here, there⟩
  · exact there.trans here.symm
  · exact there.trans here.symm

/-- A payload with `null` where the code of an alarm should be. -/
def nullCode : Value :=
  .object [("data", .object [("value", .null)])]

def nullCodeAmongOthers : Value :=
  .object [("alarmType", .string "Poweroff"),
    ("data", .object [("unit", .string "V"), ("value", .null)])]

/-- The walk to a `null` does not get stuck, but what it comes to is no alarm code. -/
theorem extract_byWalk_nullCode :
    (Reaches nullCode Category.screenAlarm.slicePath .null ∧
        Reaches nullCodeAmongOthers Category.screenAlarm.slicePath .null) ∧
      (∃ expected, (extract .screenAlarm nullCode).value =
          .error (.wrongReadings .screenAlarm expected) ∧
        DecodeError.IsAtReadings .screenAlarm (.wrongReadings .screenAlarm expected)) ∧
      extract .screenAlarm nullCodeAmongOthers = extract .screenAlarm nullCode := by
  have here : Reaches nullCode Category.screenAlarm.slicePath .null :=
    .step rfl (.step rfl (.here .null))
  have there : Reaches nullCodeAmongOthers Category.screenAlarm.slicePath .null :=
    .step rfl (.step rfl (.here .null))
  obtain ⟨-, wrong, -, atReadings, same⟩ := extract_byWalk .screenAlarm nullCode
  obtain ⟨expected, refused⟩ := wrong.mpr ⟨.null, here, nofun⟩
  exact ⟨⟨here, there⟩, ⟨expected, refused, atReadings _ refused⟩,
    same _ (.inl ⟨.null, here, there⟩)⟩

end Extraction
end GatewayTelemetry
