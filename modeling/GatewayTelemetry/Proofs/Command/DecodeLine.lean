import Mathlib.Data.List.Perm.Basic
import GatewayTelemetry.Command.Run
import GatewayTelemetry.Proofs.Command.Spelling
import GatewayTelemetry.Proofs.Decoder.Stages
import GatewayTelemetry.Proofs.Json.Normal

/-!
# The command line of a message

What the `decode` command does depends on which options it is given with which values, and not on
how they are written or in what order.
-/

namespace GatewayTelemetry
namespace Command

/-! ## Options of the command -/

def verboseArgument (byLetter : Bool) : String :=
  if byLetter then "-v" else "--verbose"

inductive DecodePart where
  | topic (spelling : Spelling) (value : String)
  | payload (spelling : Spelling) (value : String)
  | payloadFile (spelling : Spelling) (value : String)
  | pretty
  | verbose (byLetter : Bool)
  deriving DecidableEq

namespace DecodePart

def arguments : DecodePart → List String
  | .topic spelling value => spelling.arguments 't' "topic" value
  | .payload spelling value => spelling.arguments 'p' "payload" value
  | .payloadFile spelling value => spelling.arguments 'f' "payload-file" value
  | .pretty => ["--pretty"]
  | .verbose byLetter => [verboseArgument byLetter]

def given : DecodePart → Given
  | .topic _ value => ⟨"topic", some value⟩
  | .payload _ value => ⟨"payload", some value⟩
  | .payloadFile _ value => ⟨"payload-file", some value⟩
  | .pretty => ⟨"pretty", none⟩
  | .verbose _ => ⟨"verbose", none⟩

/-- The value of an option, if it has one, can be written in all ways. -/
def HasOperand (part : DecodePart) : Prop :=
  ∀ value ∈ part.given.value, isOperand value = true

theorem isFound_topic : IsFound decodeOptions 't' "topic" := by decide

theorem isFound_payload : IsFound decodeOptions 'p' "payload" := by decide

theorem isFound_payloadFile : IsFound decodeOptions 'f' "payload-file" := by decide

theorem isReadAs_pretty : IsReadAs decodeOptions "--pretty" [⟨"pretty", none⟩] none :=
  ⟨by decide, by rfl, by decide⟩

theorem isReadAs_verbose (byLetter : Bool) :
    IsReadAs decodeOptions (verboseArgument byLetter) [⟨"verbose", none⟩] none := by
  cases byLetter
  · exact ⟨by decide, by rfl, by decide⟩
  · exact ⟨by decide, by rfl, by decide⟩

theorem readArguments_append (part : DecodePart) (operand : part.HasOperand) (rest : List String) :
    readArguments decodeOptions (part.arguments ++ rest) =
      (readArguments decodeOptions rest).map (part.given :: ·) := by
  cases part with
  | topic spelling value => exact readArguments_spelling isFound_topic (operand value rfl) spelling
  | payload spelling value =>
      exact readArguments_spelling isFound_payload (operand value rfl) spelling
  | payloadFile spelling value =>
      exact readArguments_spelling isFound_payloadFile (operand value rfl) spelling
  | pretty => exact isReadAs_pretty.readArguments_closed rest
  | verbose byLetter => exact (isReadAs_verbose byLetter).readArguments_closed rest

/-- Options with operands are read as what they give, in their order. -/
theorem readArguments_flatMap {parts : List DecodePart}
    (operands : ∀ part ∈ parts, part.HasOperand) :
    readArguments decodeOptions (parts.flatMap arguments) = .ok (parts.map given) := by
  induction parts with
  | nil => rfl
  | cons part parts ih =>
      obtain ⟨operand, others⟩ := List.forall_mem_cons.mp operands
      rw [List.flatMap_cons, readArguments_append part operand, ih others]
      rfl

theorem exists_arguments_eq (part : DecodePart) :
    ∃ first others c rest, part.arguments = first :: others ∧ first.toList = '-' :: c :: rest := by
  cases part with
  | topic spelling value => exact spelling.exists_arguments_eq ..
  | payload spelling value => exact spelling.exists_arguments_eq ..
  | payloadFile spelling value => exact spelling.exists_arguments_eq ..
  | pretty => exact ⟨_, _, _, _, rfl, rfl⟩
  | verbose byLetter => cases byLetter <;> exact ⟨_, _, _, _, rfl, rfl⟩

theorem hasNoValue_flatMap (parts : List DecodePart) : HasNoValue (parts.flatMap arguments) := by
  intro next first
  cases parts with
  | nil => cases first
  | cons part parts =>
      obtain ⟨head, others, c, rest, written, chars⟩ := part.exists_arguments_eq
      rw [List.flatMap_cons, written] at first
      obtain rfl := Option.mem_some_iff.mp first
      exact isValue_eq_false chars

/-- An option with any value is refused, or is read as one that gives some value. -/
theorem readArguments_append_or_refused (part : DecodePart) {rest : List String}
    (without : HasNoValue rest) :
    (∃ error, readArguments decodeOptions (part.arguments ++ rest) = .error error) ∨
      ∃ other : DecodePart, other.given.long = part.given.long ∧
        readArguments decodeOptions (part.arguments ++ rest) =
          (readArguments decodeOptions rest).map (other.given :: ·) := by
  cases part with
  | topic spelling value =>
      refine (readArguments_spelling_or_refused isFound_topic without value spelling).imp_right ?_
      exact fun ⟨other, read⟩ => ⟨.topic spelling other, rfl, read⟩
  | payload spelling value =>
      refine (readArguments_spelling_or_refused isFound_payload without value spelling).imp_right ?_
      exact fun ⟨other, read⟩ => ⟨.payload spelling other, rfl, read⟩
  | payloadFile spelling value =>
      refine
        (readArguments_spelling_or_refused isFound_payloadFile without value spelling).imp_right ?_
      exact fun ⟨other, read⟩ => ⟨.payloadFile spelling other, rfl, read⟩
  | pretty => exact .inr ⟨.pretty, rfl, isReadAs_pretty.readArguments_closed rest⟩
  | verbose byLetter =>
      exact .inr ⟨.verbose byLetter, rfl, (isReadAs_verbose byLetter).readArguments_closed rest⟩

/-- Options with any values are refused, or are read as ones that give some values. -/
theorem readArguments_flatMap_or_refused (parts : List DecodePart) :
    (∃ error, readArguments decodeOptions (parts.flatMap arguments) = .error error) ∨
      ∃ others : List DecodePart,
        others.map (Given.long ∘ given) = parts.map (Given.long ∘ given) ∧
        readArguments decodeOptions (parts.flatMap arguments) = .ok (others.map given) := by
  induction parts with
  | nil => exact .inr ⟨[], rfl, rfl⟩
  | cons part parts ih =>
      rw [List.flatMap_cons]
      rcases part.readArguments_append_or_refused (hasNoValue_flatMap parts) with
        refused | ⟨other, same, read⟩
      · exact .inl refused
      · rw [read]
        rcases ih with ⟨error, refused⟩ | ⟨others, sames, reads⟩
        · exact .inl ⟨error, by rw [refused]; rfl⟩
        · refine .inr ⟨other :: others, ?_, by rw [reads]; rfl⟩
          rw [List.map_cons, List.map_cons, sames, Function.comp_apply, same]
          rfl

/-! ## Tasks -/

def names (parts : List DecodePart) : List String :=
  parts.map fun part => part.given.long

theorem long_map_given (parts : List DecodePart) :
    (parts.map given).map Given.long = names parts := by
  rw [List.map_map]
  rfl

/-- The options that name one topic and one payload, and perhaps more. -/
def options (topicSpelling : Spelling) (topic : String) (payloadSpelling : Spelling)
    (payload : String) (isPretty : Bool) (verbose? : Option Bool) : List DecodePart :=
  .topic topicSpelling topic :: .payload payloadSpelling payload ::
    ((if isPretty then [.pretty] else []) ++ verbose?.toList.map .verbose)

theorem hasOperand_options {topic payload : String} (topicOperand : isOperand topic = true)
    (payloadOperand : isOperand payload = true) {topicSpelling payloadSpelling : Spelling}
    {isPretty : Bool} {verbose? : Option Bool} :
    ∀ part ∈ options topicSpelling topic payloadSpelling payload isPretty verbose?,
      part.HasOperand := by
  refine List.forall_mem_cons.mpr ⟨?_, List.forall_mem_cons.mpr ⟨?_, ?_⟩⟩
  · simpa [HasOperand, given] using topicOperand
  · simpa [HasOperand, given] using payloadOperand
  · cases isPretty <;> cases verbose? <;> simp [HasOperand, given]

theorem readOptions_of_nodup {given : List Given} {specs : List OptionSpec}
    {arguments : List String} (read : readArguments specs arguments = .ok given)
    (once : (given.map Given.long).Nodup) : readOptions specs arguments = .ok given := by
  rw [readOptions, read]
  change (checkRepeated given >>= fun _ => .ok given) = .ok given
  rw [checkRepeated_eq_ok_iff.mpr once]
  rfl

/-- Without a request for help, what a command line asks for is up to the options of its command. -/
theorem readCommandWith_of_not_help {page : Page} {specs : List OptionSpec}
    {task : List Given → Except UsageError Task} {arguments : List String} {given : List Given}
    (read : readOptions specs arguments = .ok given)
    (noHelp : isGiven given helpOption.long = false) :
    readCommandWith page specs task arguments = (task given).map .task := by
  rw [readCommandWith, read]
  change (if isGiven given helpOption.long = true then _ else _) = _
  rw [noHelp, if_neg Bool.false_ne_true]

theorem isGiven_help_eq_false (parts : List DecodePart) :
    isGiven (parts.map given) helpOption.long = false := by
  rw [isGiven, List.any_map, List.any_eq_false]
  rintro (_ | _ | _ | _ | _) - <;> exact Bool.false_ne_true

theorem readDecode_eq_decodeTask {arguments : List String} {parts : List DecodePart}
    (read : readArguments decodeOptions arguments = .ok (parts.map given))
    (once : (names parts).Nodup) :
    readDecode arguments = (decodeTask (parts.map given)).map .task := by
  rw [← long_map_given] at once
  exact readCommandWith_of_not_help (readOptions_of_nodup read once) (isGiven_help_eq_false parts)

/-- In any order, the options that name one topic and one payload ask for decoding them. -/
theorem readDecode_of_perm {topic payload : String} (topicOperand : isOperand topic = true)
    (payloadOperand : isOperand payload = true) {topicSpelling payloadSpelling : Spelling}
    {isPretty : Bool} {verbose? : Option Bool} {parts : List DecodePart}
    (order : parts.Perm
      (options topicSpelling topic payloadSpelling payload isPretty verbose?)) :
    readDecode (parts.flatMap arguments) =
      .ok (.task (.decode topic (.text payload) isPretty)) := by
  have operands : ∀ part ∈ parts, part.HasOperand := fun part among =>
    hasOperand_options topicOperand payloadOperand part (order.subset among)
  have once : ((parts.map given).map Given.long).Nodup := by
    rw [((order.map given).map Given.long).nodup_iff]
    cases isPretty <;> cases verbose? <;> simp [options, given]
  have topicGiven : value? (parts.map given) "topic" = some topic :=
    value?_of_mem once (List.mem_map_of_mem (order.symm.subset List.mem_cons_self))
  have payloadGiven : value? (parts.map given) "payload" = some payload :=
    value?_of_mem once
      (List.mem_map_of_mem (order.symm.subset (List.mem_cons_of_mem _ List.mem_cons_self)))
  have noFile : value? (parts.map given) "payload-file" = none := by
    refine value?_eq_none ?_
    rw [((order.map given).map Given.long).mem_iff]
    cases isPretty <;> cases verbose? <;> simp [options, given]
  have pretty : isGiven (parts.map given) "pretty" = isPretty := by
    rw [isGiven, (order.map given).any_eq]
    cases isPretty <;> cases verbose? <;> rfl
  rw [readDecode_eq_decodeTask (readArguments_flatMap operands) (by rwa [← long_map_given]),
    decodeTask, required, topicGiven]
  change Except.map _ (payloadSource (parts.map given) >>= fun source => _) = _
  rw [payloadSource, payloadGiven, noFile, pretty]
  rfl

/-- Options of which one is given twice, or which lack a topic, or which have both sources of a
payload or neither, ask for nothing. -/
def IsUnusable (parts : List DecodePart) : Prop :=
  ¬(names parts).Nodup ∨ "topic" ∉ names parts ∨
    ("payload" ∈ names parts ↔ "payload-file" ∈ names parts)

theorem value?_given_isSome {parts : List DecodePart} (once : (names parts).Nodup)
    {long : String} (valued : long = "topic" ∨ long = "payload" ∨ long = "payload-file")
    (among : long ∈ names parts) : ∃ value, value? (parts.map given) long = some value := by
  obtain ⟨part, present, rfl⟩ := List.mem_map.mp among
  rw [← long_map_given] at once
  rw [value?_of_mem once (List.mem_map_of_mem present)]
  cases part with
  | topic spelling value => exact ⟨value, rfl⟩
  | payload spelling value => exact ⟨value, rfl⟩
  | payloadFile spelling value => exact ⟨value, rfl⟩
  | pretty => simp [given] at valued
  | verbose byLetter => simp [given] at valued

theorem value?_given_eq_none {parts : List DecodePart} {long : String}
    (absent : long ∉ names parts) : value? (parts.map given) long = none :=
  value?_eq_none (by rwa [long_map_given])

theorem payloadSource_of_iff {parts : List DecodePart} (once : (names parts).Nodup)
    (same : "payload" ∈ names parts ↔ "payload-file" ∈ names parts) :
    ∃ error, payloadSource (parts.map given) = .error error := by
  rw [payloadSource]
  by_cases both : "payload" ∈ names parts
  · obtain ⟨payload, found⟩ := value?_given_isSome once (.inr (.inl rfl)) both
    obtain ⟨path, other⟩ := value?_given_isSome once (.inr (.inr rfl)) (same.mp both)
    exact ⟨.exclusiveOptions "payload" "payload-file", by rw [found, other]⟩
  · refine ⟨.absentOption "payload", ?_⟩
    rw [value?_given_eq_none both, value?_given_eq_none fun present => both (same.mpr present)]

theorem decodeTask_of_isUnusable {parts : List DecodePart} (once : (names parts).Nodup)
    (unusable : IsUnusable parts) : ∃ error, decodeTask (parts.map given) = .error error := by
  rw [decodeTask, required]
  by_cases named : "topic" ∈ names parts
  · obtain ⟨topic, found⟩ := value?_given_isSome once (.inl rfl) named
    obtain ⟨error, refused⟩ := payloadSource_of_iff once
      (unusable.resolve_left (not_not_intro once) |>.resolve_left (not_not_intro named))
    rw [found]
    change ∃ error, (payloadSource (parts.map given) >>= fun source => _) = .error error
    exact ⟨error, by rw [refused]; rfl⟩
  · rw [value?_given_eq_none named]
    exact ⟨_, rfl⟩

theorem readDecode_of_isUnusable {parts : List DecodePart} (unusable : IsUnusable parts) :
    ∃ error, readDecode (parts.flatMap arguments) = .error error := by
  rcases readArguments_flatMap_or_refused parts with ⟨error, refused⟩ | ⟨others, same, read⟩
  · refine ⟨error, ?_⟩
    rw [readDecode, readCommandWith, readOptions, refused]
    rfl
  · rw [IsUnusable, ← show names others = names parts from same] at unusable
    by_cases once : (names others).Nodup
    · obtain ⟨error, refused⟩ := decodeTask_of_isUnusable once unusable
      exact ⟨error, by rw [readDecode_eq_decodeTask read once, refused]; rfl⟩
    · rw [← long_map_given, ← checkRepeated_eq_ok_iff] at once
      rw [readDecode, readCommandWith, readOptions, read]
      change ∃ error, ((checkRepeated (others.map given) >>= fun _ => _) >>= fun given => _) =
        .error error
      cases repeated : checkRepeated (others.map given) with
      | error error => exact ⟨error, rfl⟩
      | ok => exact absurd repeated once

/-! ## Help -/

/-- A request for help is the last thing that is read. -/
theorem readArguments_append_help {parts : List DecodePart}
    (operands : ∀ part ∈ parts, part.HasOperand) (rest : List String) :
    readArguments decodeOptions (parts.flatMap arguments ++ "--help" :: rest) =
      .ok (parts.map given ++ [⟨"help", none⟩]) := by
  induction parts with
  | nil => rfl
  | cons part parts ih =>
      obtain ⟨operand, others⟩ := List.forall_mem_cons.mp operands
      rw [List.flatMap_cons, List.append_assoc, readArguments_append part operand, ih others]
      rfl

/-- The options before a request for help, and the request. -/
def givenWithHelp (parts : List DecodePart) : List Given :=
  parts.map given ++ [⟨"help", none⟩]

theorem mem_of_mem_names {parts : List DecodePart} {long : String} (among : long ∈ names parts) :
    long ∈ ["topic", "payload", "payload-file", "pretty", "verbose"] := by
  obtain ⟨part, -, rfl⟩ := List.mem_map.mp among
  cases part <;> simp [given]

theorem value?_givenWithHelp_eq_none {parts : List DecodePart} {long : String}
    (unknown : long ∉ ["topic", "payload", "payload-file", "pretty", "verbose", "help"]) :
    value? (givenWithHelp parts) long = none := by
  refine value?_eq_none fun among => unknown ?_
  rw [givenWithHelp, List.map_append, long_map_given, List.mem_append] at among
  rcases among with among | among
  · exact List.mem_append_left ["help"] (mem_of_mem_names among)
  · exact List.mem_append_right ["topic", "payload", "payload-file", "pretty", "verbose"] among

theorem isOperand_of_value?_givenWithHelp {parts : List DecodePart}
    (operands : ∀ part ∈ parts, part.HasOperand) {long value : String}
    (found : value? (givenWithHelp parts) long = some value) : isOperand value = true := by
  obtain ⟨each, first, valued⟩ := Option.bind_eq_some_iff.mp found
  rcases List.mem_append.mp (List.mem_of_find?_eq_some first) with among | among
  · obtain ⟨part, present, rfl⟩ := List.mem_map.mp among
    exact operands part present value valued
  · obtain rfl := List.mem_singleton.mp among
    cases valued

theorem filePath_of_isOperand {value : String} (operand : isOperand value = true)
    (long : String) : filePath long value = .ok value := by
  rw [filePath, if_neg]
  intro empty
  obtain rfl := String.isEmpty_iff.mp empty
  exact absurd operand (by decide)

/-- No value in front of a request for help is refused where it stands. -/
theorem checkValues_givenWithHelp {parts : List DecodePart}
    (operands : ∀ part ∈ parts, part.HasOperand) :
    checkValues (givenWithHelp parts) = .ok () := by
  have file : checkPath (givenWithHelp parts) "payload-file" = .ok () := by
    rw [checkPath]
    cases path : value? (givenWithHelp parts) "payload-file" with
    | none => rfl
    | some path =>
        dsimp only
        rw [filePath_of_isOperand (isOperand_of_value?_givenWithHelp operands path)]
        rfl
  have input : checkPath (givenWithHelp parts) "input" = .ok () := by
    rw [checkPath, value?_givenWithHelp_eq_none (by decide)]
  have iterations : numberOption (givenWithHelp parts) "iterations" = .ok none := by
    rw [numberOption, value?_givenWithHelp_eq_none (by decide)]
  have workers : numberOption (givenWithHelp parts) "workers" = .ok none := by
    rw [numberOption, value?_givenWithHelp_eq_none (by decide)]
  rw [checkValues, file, input, iterations, workers]
  rfl

/-- Behind options that can be read, a request for help is answered whatever they lack. -/
theorem readDecode_append_help {parts : List DecodePart}
    (operands : ∀ part ∈ parts, part.HasOperand) (once : (names parts).Nodup)
    (rest : List String) :
    readDecode (parts.flatMap arguments ++ "--help" :: rest) = .ok (.help .decode) := by
  have read : readArguments decodeOptions (parts.flatMap arguments ++ "--help" :: rest) =
      .ok (givenWithHelp parts) := readArguments_append_help operands rest
  have distinct : ((givenWithHelp parts).map Given.long).Nodup := by
    rw [givenWithHelp, List.map_append, long_map_given]
    refine List.nodup_append_comm.mp (List.nodup_cons.mpr ⟨fun among => ?_, once⟩)
    simpa using mem_of_mem_names among
  have asked : isGiven (givenWithHelp parts) helpOption.long = true := by
    simp [isGiven, givenWithHelp, helpOption]
  rw [readDecode, readCommandWith, readOptions_of_nodup read distinct]
  change (if isGiven _ helpOption.long = true then _ else _) = _
  rw [if_pos asked, checkValues_givenWithHelp operands]
  rfl

end DecodePart

/-! ## The program -/

/-- A command line that decodes a message: one option for more log lines may stand before the name
of the command, and all others stand behind it. -/
def decodeLine (verbose? : Option Bool) (parts : List DecodePart) : List String :=
  verbose?.toList.map verboseArgument ++ "decode" :: parts.flatMap DecodePart.arguments

theorem read_decode (verbose? : Option Bool) (arguments : List String) :
    Invocation.read (verbose?.toList.map verboseArgument ++ "decode" :: arguments) =
      readDecode arguments := by
  cases verbose? with
  | none => rfl
  | some byLetter => cases byLetter <;> rfl

section

variable (file : String → FileContent) (environment : Environment) (elapsed : Replay.Duration)
  (before : Option Bool) {parts : List DecodePart}

theorem exitCode_of_isUnusable (unusable : DecodePart.IsUnusable parts) :
    (run file environment (decodeLine before parts)).exitCode = 2 ∧
      (run file environment (decodeLine before parts)).output elapsed = "" := by
  obtain ⟨error, refused⟩ := DecodePart.readDecode_of_isUnusable unusable
  have ending : run file environment (decodeLine before parts) = .usage error := by
    rw [run, decodeLine, read_decode, refused]
  exact ⟨by rw [ending]; rfl, by rw [ending]; rfl⟩

theorem run_decodeLine {topic payload : String} {isPretty : Bool}
    (read : readDecode (parts.flatMap DecodePart.arguments) =
      .ok (.task (.decode topic (.text payload) isPretty))) :
    run file environment (decodeLine before parts) =
      match Decoder.gateway.decode (.text payload) (.ofTopic topic) with
      | .ok record => .done (.text (if isPretty then record.indented else record.compact))
      | .error error => .failed ⟨"Failed to decode uplink", some error.message⟩ := by
  rw [run, decodeLine, read_decode, read]
  simp only [runTask, runDecode, readPayload, bind, Except.bind]
  cases Decoder.gateway.decode (.text payload) (.ofTopic topic) <;> rfl

/-- Behind options that can be read, a request for help ends with exit code 0 and the page of the
command, whether or not the options would do for decoding and whatever stands behind the request. -/
theorem run_decodeLine_append_help (operands : ∀ part ∈ parts, part.HasOperand)
    (once : (DecodePart.names parts).Nodup) (rest : List String) :
    (run file environment (decodeLine before parts ++ "--help" :: rest)).exitCode = 0 ∧
      (run file environment (decodeLine before parts ++ "--help" :: rest)).output elapsed =
        Page.decode.text ++ "\n" := by
  have ending : run file environment (decodeLine before parts ++ "--help" :: rest) =
      .done (.text Page.decode.text) := by
    rw [run, decodeLine, List.append_assoc, List.cons_append, read_decode,
      DecodePart.readDecode_append_help operands once]
  exact ⟨by rw [ending]; rfl, by rw [ending]; rfl⟩

end

/-- However topic and payload are written and in whatever order, the program prints the record that
the decoder makes of them, indented if that is asked for, or fails with the error of the decoder.
Without one topic and one source of a payload, or with an option given twice, it decodes nothing and
exits with the code for misuse. -/
theorem run_decodeLine_spelled (file : String → FileContent) (environment : Environment)
    (elapsed : Replay.Duration) (before : Option Bool) :
    (∀ (topic payload : String) (topicSpelling payloadSpelling : Spelling) (isPretty : Bool)
        (behind : Option Bool) (parts : List DecodePart),
      isOperand topic = true → isOperand payload = true →
      parts.Perm
        (DecodePart.options topicSpelling topic payloadSpelling payload isPretty behind) →
      (∀ record, Decoder.gateway.decode (.text payload) (.ofTopic topic) = .ok record →
        (run file environment (decodeLine before parts)).exitCode = 0 ∧
          (run file environment (decodeLine before parts)).output elapsed =
            (if isPretty then record.indented else record.compact) ++ "\n") ∧
      ∀ error, Decoder.gateway.decode (.text payload) (.ofTopic topic) = .error error →
        run file environment (decodeLine before parts) =
            .failed ⟨"Failed to decode uplink", some error.message⟩ ∧
          (run file environment (decodeLine before parts)).exitCode = 1 ∧
          (run file environment (decodeLine before parts)).output elapsed = "") ∧
    ∀ parts, DecodePart.IsUnusable parts →
      (run file environment (decodeLine before parts)).exitCode = 2 ∧
        (run file environment (decodeLine before parts)).output elapsed = "" := by
  refine ⟨?_, fun parts unusable => exitCode_of_isUnusable file environment elapsed before unusable⟩
  intro topic payload topicSpelling payloadSpelling isPretty behind parts topicOperand
    payloadOperand order
  have ending := run_decodeLine file environment before
    (DecodePart.readDecode_of_perm topicOperand payloadOperand order)
  constructor
  · intro record decoded
    rw [ending, decoded]
    exact ⟨rfl, rfl⟩
  · intro error refused
    rw [ending, refused]
    exact ⟨rfl, rfl, rfl⟩

/-- The options for a topic that no rule captures, which stands behind a payload. -/
def mixedParts : List DecodePart :=
  [.payload .nameEquals (Json.Value.object []).compact, .verbose true,
    .topic .letterJoined "foo/bar", .pretty]

/-- The same record is printed with options in another order, and nothing without a payload. -/
theorem run_decodeLine_spelled_mixedParts :
    (isOperand "foo/bar" = true ∧ isOperand (Json.Value.object []).compact = true ∧
        mixedParts.Perm (DecodePart.options .letterJoined "foo/bar" .nameEquals
          (Json.Value.object []).compact true (some true)) ∧
        Decoder.gateway.decode (.text (Json.Value.object []).compact) (.ofTopic "foo/bar") =
          .ok ⟨Decoder.gateway.descriptor, none, none⟩ ∧
        DecodePart.IsUnusable [.topic .letterJoined "foo/bar"]) ∧
      (run (fun _ => .error .missing) (fun _ => none) (decodeLine (some false) mixedParts)).output
          (.ofParts 0 1) =
        Record.indented ⟨Decoder.gateway.descriptor, none, none⟩ ++ "\n" ∧
      (run (fun _ => .error .missing) (fun _ => none)
        (decodeLine none [.topic .letterJoined "foo/bar"])).exitCode = 2 := by
  have topicOperand : isOperand "foo/bar" = true := by decide
  have payloadOperand : isOperand (Json.Value.object []).compact = true := by decide
  have order : mixedParts.Perm (DecodePart.options .letterJoined "foo/bar" .nameEquals
      (Json.Value.object []).compact true (some true)) :=
    (@List.perm_middle _ _ [_, _] [_]).trans (.cons _ (.cons _ (.swap ..)))
  have unusable : DecodePart.IsUnusable [.topic .letterJoined "foo/bar"] := by
    refine .inr (.inr ?_)
    decide
  have parsed : Json.parse (Json.Value.object []).compact = .ok (.object []) :=
    Json.parse_compact_of_isNormal trivial (by decide) ⟨Json.Members.isSorted_nil, trivial⟩
  have unrouted : Decoder.gateway.router.route? "foo/bar" = none := by decide +kernel
  have along : (Metadata.ofTopic "foo/bar").topic.bind Decoder.gateway.router.route? = none := by
    rw [Metadata.ofTopic, Option.bind_some, unrouted]
  have decoded : Decoder.gateway.decode (.text (Json.Value.object []).compact)
      (.ofTopic "foo/bar") = .ok ⟨Decoder.gateway.descriptor, none, none⟩ := by
    rw [Decoder.decode_eq, along, Payload.decode, Payload.toText, parsed]
    rfl
  have spelled := run_decodeLine_spelled (fun _ => .error .missing) (fun _ => none) (.ofParts 0 1)
  have printed := ((spelled (some false)).1 _ _ _ _ _ _ _ topicOperand payloadOperand order).1 _
    decoded
  have nothing := (spelled none).2 _ unusable
  exact ⟨⟨topicOperand, payloadOperand, order, decoded, unusable⟩, printed.2, nothing.1⟩

end Command
end GatewayTelemetry
