import Mathlib.Data.List.Nodup
import Mathlib.Tactic.MkIffOfInductiveProp
import GatewayTelemetry.Command.Arguments
import GatewayTelemetry.Proofs.Text.Separator

/-!
# Spellings of options

An option with a value can be written in five ways. Each of them is read as the same option with the
same value, if the value can be told from what stands around it. If it cannot, the option is read
with another value or refused, so the options that were written are still the ones that are read.
-/

namespace GatewayTelemetry
namespace Command

/-! ## Options with values -/

inductive Spelling where
  | letterApart
  | letterJoined
  | letterEquals
  | nameApart
  | nameEquals
  deriving DecidableEq

def Spelling.arguments (letter : Char) (name value : String) : Spelling → List String
  | .letterApart => ["-" ++ String.singleton letter, value]
  | .letterJoined => ["-" ++ String.singleton letter ++ value]
  | .letterEquals => ["-" ++ String.singleton letter ++ "=" ++ value]
  | .nameApart => ["--" ++ name, value]
  | .nameEquals => ["--" ++ name ++ "=" ++ value]

/-- A value that can be written in all these ways: there is something of it, and it starts with
neither a hyphen nor an equals sign. -/
def isOperand (value : String) : Bool :=
  value.toList.head?.any fun c => c != '-' && c != '='

theorem exists_of_isOperand {value : String} (operand : isOperand value = true) :
    ∃ c rest, value.toList = c :: rest ∧ c ≠ '-' ∧ c ≠ '=' := by
  rw [isOperand] at operand
  cases chars : value.toList with
  | nil => simp [chars] at operand
  | cons c rest => exact ⟨c, rest, rfl, by simpa [chars] using operand⟩

theorem isValue_of_isOperand {value : String} (operand : isOperand value = true) :
    isValue value = true := by
  obtain ⟨c, rest, chars, noHyphen, -⟩ := exists_of_isOperand operand
  simp [isValue, chars, noHyphen]

theorem isValue_eq_false {argument : String} {c : Char} {rest : List Char}
    (chars : argument.toList = '-' :: c :: rest) : isValue argument = false := by
  have longer : argument ≠ "-" := by
    rintro rfl
    cases chars
  simp [isValue, chars, longer]

theorem Spelling.exists_arguments_eq (spelling : Spelling) (letter : Char) (name value : String) :
    ∃ first others c rest, spelling.arguments letter name value = first :: others ∧
      first.toList = '-' :: c :: rest := by
  cases spelling with
  | letterApart => exact ⟨_, _, letter, [], rfl, by simp⟩
  | letterJoined => exact ⟨_, _, letter, value.toList, rfl, by simp⟩
  | letterEquals => exact ⟨_, _, letter, '=' :: value.toList, rfl, by simp⟩
  | nameApart => exact ⟨_, _, '-', name.toList, rfl, by simp⟩
  | nameEquals => exact ⟨_, _, '-', name.toList ++ '=' :: value.toList, rfl, by simp⟩

/-- An option that takes a value is found among others by its letter and by its name. -/
@[mk_iff]
structure IsFound (specs : List OptionSpec) (letter : Char) (name : String) : Prop where
  byLetter : specs.find? (fun spec => spec.short == some letter) = some ⟨name, some letter, true⟩
  byName : specs.find? (fun spec => spec.long == name) = some ⟨name, some letter, true⟩
  noHyphen : letter ≠ '-'
  filled : name ≠ ""
  noEquals : '=' ∉ name.toList
  noHelp : name ≠ helpOption.long

instance (specs : List OptionSpec) (letter : Char) (name : String) :
    Decidable (IsFound specs letter name) :=
  decidable_of_iff' _ (isFound_iff specs letter name)

theorem IsFound.isGiven_help {specs : List OptionSpec} {letter : Char} {name : String}
    (found : IsFound specs letter name) (value : Option String) :
    isGiven [⟨name, value⟩] helpOption.long = false := by
  simpa [isGiven] using found.noHelp

namespace Shape

theorem ofArgument_letters {letter : Char} (noHyphen : letter ≠ '-') (value : String) :
    ofArgument ("-" ++ String.singleton letter ++ value) = .cluster (letter :: value.toList) := by
  have chars : ("-" ++ String.singleton letter ++ value).toList =
      '-' :: letter :: value.toList := by simp
  rw [ofArgument, chars]
  simp [noHyphen]

theorem ofArgument_name {name : String} (filled : name ≠ "") (noEquals : '=' ∉ name.toList) :
    ofArgument ("--" ++ name) = .long name none := by
  have before := Text.takeWhile_bne_of_not_mem noEquals
  have behind := Text.dropWhile_bne_of_not_mem noEquals
  have whole : ("--" ++ name).toList = '-' :: '-' :: name.toList := by simp
  rw [ofArgument, whole]
  cases chars : name.toList with
  | nil => exact absurd (by simpa using chars) filled
  | cons c rest =>
      rw [chars] at behind before
      have named : String.ofList (c :: rest) = name := by rw [← chars, String.ofList_toList]
      simp [behind, before, named]

theorem ofArgument_nameEquals {name : String} (noEquals : '=' ∉ name.toList) (value : String) :
    ofArgument ("--" ++ name ++ "=" ++ value) = .long name (some value) := by
  have before := Text.takeWhile_bne_append noEquals value.toList
  have behind := Text.dropWhile_bne_append noEquals value.toList
  have whole : ("--" ++ name ++ "=" ++ value).toList =
      '-' :: '-' :: (name.toList ++ '=' :: value.toList) := by
    simp
  rw [ofArgument, whole]
  cases text : name.toList ++ '=' :: value.toList with
  | nil => simp at text
  | cons c rest =>
      rw [text] at behind before
      simp [behind, before]

end Shape

/-! ## Reading one argument after the other -/

/-- An argument is read as options that are given, and perhaps one that still needs its value. -/
structure IsReadAs (specs : List OptionSpec) (argument : String) (given : List Given)
    (open? : Option OptionSpec) : Prop where
  isOption : argument ≠ "--"
  read : readArgument specs argument = .ok (given, open?)
  noHelp : isGiven given helpOption.long = false

def HasNoValue (arguments : List String) : Prop :=
  ∀ next ∈ arguments.head?, isValue next = false

namespace IsReadAs

variable {specs : List OptionSpec} {argument value : String} {given : List Given}
  {spec : OptionSpec}

theorem readArguments_closed (argumentRead : IsReadAs specs argument given none)
    (rest : List String) :
    readArguments specs (argument :: rest) = (readArguments specs rest).map (given ++ ·) := by
  rw [readArguments.eq_def]
  dsimp only
  rw [if_neg argumentRead.isOption, argumentRead.read]
  dsimp only
  rw [argumentRead.noHelp, if_neg Bool.false_ne_true]
  cases readArguments specs rest <;> rfl

theorem readArguments_open (argumentRead : IsReadAs specs argument given (some spec))
    (follows : isValue value = true) (rest : List String) :
    readArguments specs (argument :: value :: rest) =
      (readArguments specs rest).map fun later => given ++ ⟨spec.long, some value⟩ :: later := by
  rw [readArguments.eq_def]
  dsimp only
  rw [if_neg argumentRead.isOption, argumentRead.read]
  dsimp only
  rw [if_pos follows]
  cases readArguments specs rest <;> rfl

theorem readArguments_noValue (argumentRead : IsReadAs specs argument given (some spec))
    {rest : List String} (without : HasNoValue rest) :
    readArguments specs (argument :: rest) = .error (.absentValue spec.long) := by
  rw [readArguments.eq_def]
  dsimp only
  rw [if_neg argumentRead.isOption, argumentRead.read]
  cases rest with
  | nil => rfl
  | cons next rest =>
      dsimp only
      rw [without next rfl, if_neg Bool.false_ne_true]

variable {letter : Char} {name : String} (found : IsFound specs letter name)

include found

theorem ofLetters {c : Char} {text : List Char} (chars : value.toList = c :: text) :
    IsReadAs specs ("-" ++ String.singleton letter ++ value)
      [⟨name, some (attachedValue (c :: text))⟩] none where
  isOption escape := by
    have shape := Shape.ofArgument_letters found.noHyphen value
    rw [escape] at shape
    cases shape
  read := by
    rw [readArgument, Shape.ofArgument_letters found.noHyphen]
    dsimp only
    rw [chars, readCluster, found.byLetter]
    rfl
  noHelp := found.isGiven_help _

theorem ofLetter :
    IsReadAs specs ("-" ++ String.singleton letter) [] (some ⟨name, some letter, true⟩) where
  isOption escape := by
    have shape := Shape.ofArgument_letters found.noHyphen ""
    rw [String.append_empty, escape] at shape
    cases shape
  read := by
    have shape := Shape.ofArgument_letters found.noHyphen ""
    rw [String.append_empty] at shape
    rw [readArgument, shape]
    dsimp only
    rw [String.toList_empty, readCluster, found.byLetter]
    rfl
  noHelp := rfl

theorem ofName : IsReadAs specs ("--" ++ name) [] (some ⟨name, some letter, true⟩) where
  isOption escape := by
    have shape := Shape.ofArgument_name found.filled found.noEquals
    rw [escape] at shape
    cases shape
  read := by
    rw [readArgument, Shape.ofArgument_name found.filled found.noEquals]
    dsimp only
    rw [readLong, found.byName]
  noHelp := rfl

theorem ofNameEquals (value : String) :
    IsReadAs specs ("--" ++ name ++ "=" ++ value) [⟨name, some value⟩] none where
  isOption escape := by
    have shape := Shape.ofArgument_nameEquals found.noEquals value
    rw [escape] at shape
    cases shape
  read := by
    rw [readArgument, Shape.ofArgument_nameEquals found.noEquals]
    dsimp only
    rw [readLong, found.byName]
  noHelp := found.isGiven_help _

/-- An equals sign between the letter and the value belongs to neither. -/
theorem ofLetterEquals (value : String) :
    IsReadAs specs ("-" ++ String.singleton letter ++ "=" ++ value) [⟨name, some value⟩] none := by
  have written : "-" ++ String.singleton letter ++ "=" ++ value =
      "-" ++ String.singleton letter ++ ("=" ++ value) := String.append_assoc
  have attached : attachedValue ('=' :: value.toList) = value := String.ofList_toList
  have behind : ("=" ++ value).toList = '=' :: value.toList := by simp
  have read := ofLetters found behind
  rwa [attached, ← written] at read

end IsReadAs

section

variable {specs : List OptionSpec} {letter : Char} {name value : String} {rest : List String}
  (found : IsFound specs letter name)

include found

/-- However an option is written, its operand is read as its value. -/
theorem readArguments_spelling (operand : isOperand value = true) (spelling : Spelling) :
    readArguments specs (spelling.arguments letter name value ++ rest) =
      (readArguments specs rest).map (⟨name, some value⟩ :: ·) := by
  cases spelling with
  | letterApart =>
      exact (IsReadAs.ofLetter found).readArguments_open (isValue_of_isOperand operand) rest
  | letterJoined =>
      obtain ⟨c, text, chars, -, noEquals⟩ := exists_of_isOperand operand
      have attached : attachedValue (c :: text) = value := by
        rw [attachedValue.eq_2 _ fun _ same => noEquals (List.cons.inj same).1, ← chars,
          String.ofList_toList]
      have read := IsReadAs.ofLetters found chars
      rw [attached] at read
      exact read.readArguments_closed rest
  | letterEquals => exact (IsReadAs.ofLetterEquals found value).readArguments_closed rest
  | nameApart =>
      exact (IsReadAs.ofName found).readArguments_open (isValue_of_isOperand operand) rest
  | nameEquals => exact (IsReadAs.ofNameEquals found value).readArguments_closed rest

/-- With any value, an option that is not refused is read with some value. -/
theorem readArguments_spelling_or_refused (without : HasNoValue rest) (value : String)
    (spelling : Spelling) :
    (∃ error, readArguments specs (spelling.arguments letter name value ++ rest) = .error error) ∨
      ∃ other, readArguments specs (spelling.arguments letter name value ++ rest) =
        (readArguments specs rest).map (⟨name, some other⟩ :: ·) := by
  have apart {argument : String}
      (read : IsReadAs specs argument [] (some ⟨name, some letter, true⟩)) :
      (∃ error, readArguments specs (argument :: value :: rest) = .error error) ∨
        ∃ other, readArguments specs (argument :: value :: rest) =
          (readArguments specs rest).map (⟨name, some other⟩ :: ·) := by
    cases follows : isValue value with
    | true => exact .inr ⟨value, read.readArguments_open follows rest⟩
    | false =>
        refine .inl ⟨_, read.readArguments_noValue fun next first => ?_⟩
        obtain rfl := Option.mem_some_iff.mp first
        exact follows
  cases spelling with
  | letterApart => exact apart (IsReadAs.ofLetter found)
  | letterJoined =>
      cases chars : value.toList with
      | nil =>
          obtain rfl : value = "" := by simpa using chars
          have read := IsReadAs.ofLetter found
          rw [← String.append_empty (s := "-" ++ String.singleton letter)] at read
          exact .inl ⟨_, read.readArguments_noValue without⟩
      | cons c text => exact .inr ⟨_, (IsReadAs.ofLetters found chars).readArguments_closed rest⟩
  | letterEquals =>
      exact .inr ⟨value, (IsReadAs.ofLetterEquals found value).readArguments_closed rest⟩
  | nameApart => exact apart (IsReadAs.ofName found)
  | nameEquals =>
      exact .inr ⟨value, (IsReadAs.ofNameEquals found value).readArguments_closed rest⟩

end

/-! ## Options that are given -/

/-- No option is given twice exactly if the names of the given options differ. -/
theorem checkRepeated_eq_ok_iff {given : List Given} :
    checkRepeated given = .ok () ↔ (given.map Given.long).Nodup := by
  induction given with
  | nil => simp [checkRepeated]
  | cons first given ih =>
      have absent : (given.any fun other => other.long == first.long) = true ↔
          first.long ∈ given.map Given.long := by
        simp
      rw [checkRepeated, List.map_cons, List.nodup_cons, ← absent]
      split
      · next again => simp [again]
      · next once => simp [once, ih]

theorem value?_eq_none {given : List Given} {long : String}
    (absent : long ∉ given.map Given.long) : value? given long = none := by
  have nowhere : given.find? (fun each => each.long == long) = none := by
    rw [List.find?_eq_none]
    intro each among same
    exact absent (List.mem_map.mpr ⟨each, among, beq_iff_eq.mp same⟩)
  rw [value?, nowhere, Option.bind_none]

theorem value?_of_mem {given : List Given} (once : (given.map Given.long).Nodup) {each : Given}
    (among : each ∈ given) : value? given each.long = each.value := by
  induction given with
  | nil => cases among
  | cons first given ih =>
      rw [List.map_cons, List.nodup_cons] at once
      rw [value?]
      rcases List.mem_cons.mp among with rfl | among
      · simp
      · have other : first.long ≠ each.long := fun same =>
          once.1 (same ▸ List.mem_map_of_mem among)
        rw [List.find?_cons_of_neg (by simpa using other)]
        exact ih once.2 among

end Command
end GatewayTelemetry
