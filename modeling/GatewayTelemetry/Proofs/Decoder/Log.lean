import GatewayTelemetry.Proofs.Decoder.Outcomes
import GatewayTelemetry.Proofs.Telemetry.Tokens

/-!
# What a decoder notes

The log of a message follows from the rules and the payload. Nothing is noted before the payload is
parsed. Then each rule that does not capture a serial is passed over, up to the first one that does;
then come the tokens, locks or code that the readings are made of; and the last entry is there only
if the readings can be extracted.
-/

namespace GatewayTelemetry

open Json (Value)

abbrev LogEntry :=
  Level × Event

def Traced.log {α : Type} (traced : Traced α) : List LogEntry :=
  traced.events.map fun event => (event.level, event)

theorem Traced.log_andThen {α β : Type} (first : Traced α) (next : α → Traced β) :
    (first.andThen next).log = first.log ++ (next first.value).log :=
  List.map_append

/-! ## Rules -/

namespace Router

/-- Rules that were tried in vain, the first of them having an index. -/
def skips (topic : String) (index : Nat) (rules : List Rule) : List LogEntry :=
  (rules.zipIdx index).map fun rule => (.trace, .ruleSkipped topic rule.2 rule.1.pattern)

theorem log_routeFrom_append {topic : String} {earlier : List Rule}
    (nothing : ∀ rule ∈ earlier, rule.capture? topic = none) (index : Nat) (later : List Rule) :
    (routeFrom topic index (earlier ++ later)).log =
      skips topic index earlier ++ (routeFrom topic (index + earlier.length) later).log := by
  induction earlier generalizing index with
  | nil => rfl
  | cons rule earlier ih =>
      have rest := ih (fun other among => nothing other (List.mem_cons_of_mem rule among))
        (index + 1)
      have shifted : index + 1 + earlier.length = index + (rule :: earlier).length := by
        rw [List.length_cons]
        omega
      rw [shifted] at rest
      rw [List.cons_append, routeFrom, nothing rule List.mem_cons_self]
      exact congrArg (List.cons (Level.trace, Event.ruleSkipped topic index rule.pattern)) rest

/-- Where no rule captures a serial, all of them are passed over. -/
theorem log_routeTraced_of_unmatched {router : Router} {topic : String}
    (nothing : ∀ rule ∈ router.rules, rule.capture? topic = none) :
    (router.routeTraced topic).log =
      skips topic 0 router.rules ++ [(.debug, .unmatched topic)] := by
  have passed := log_routeFrom_append nothing 0 []
  rwa [List.append_nil] at passed

/-- The first rule that captures a serial is named, and no rule behind it is tried. -/
theorem log_routeTraced_of_first {router : Router} {topic serial : String} {rule : Rule}
    {earlier later : List Rule} (split : router.rules = earlier ++ rule :: later)
    (nothing : ∀ other ∈ earlier, other.capture? topic = none)
    (captured : rule.capture? topic = some serial) :
    (router.routeTraced topic).log = skips topic 0 earlier ++
      [(.debug, .ruleMatched topic earlier.length rule.pattern rule.category serial)] := by
  have passed := log_routeFrom_append nothing 0 (rule :: later)
  rw [routeFrom, captured, Nat.zero_add] at passed
  rwa [routeTraced, split]

end Router

/-! ## Readings -/

namespace Extraction

/-- What is noted about the tokens of a text, which commas separate. A key that is not in the table
is warned about before its reading is noted. -/
def tokensLog (table : Table) (category : Category) (text : String) : List LogEntry :=
  (text.toList.splitOn ',').flatMap fun token =>
    (if tokenKey token ∈ table.keys then []
      else [(.warn, .unmappedKey category (tokenKey token))]) ++
    [(.trace, .labelled category (tokenKey token) (table.lookup (tokenKey token))
      (tokenReading token))]

theorem log_keyValues (table : Table) (category : Category) (text : String) :
    (keyValues table category text).log = tokensLog table category text := by
  rw [Traced.log, keyValues, pairs, tokensLog, List.flatMap_map, List.map_flatMap]
  refine List.flatMap_congr fun token _ => ?_
  rw [Pair.ofToken_eq, pairEvents, List.map_append]
  by_cases known : tokenKey token ∈ table.keys
  · rw [if_pos ((table.isKnown_lookup _).mpr known), if_pos known]
    rfl
  · rw [if_neg fun found => known ((table.isKnown_lookup _).mp found), if_neg known]
    rfl

def isResolved (lock : Value) : Bool :=
  match lock.member? "value" with
  | some (.string state) => state ∈ Table.lock.keys
  | _ => false

theorem isKnown_lockLabel (lock : Value) : (lockLabel lock).isKnown = isResolved lock := by
  rw [lockLabel, isResolved]
  cases lock.member? "value" with
  | none => rfl
  | some found =>
      cases found with
      | string state =>
          rw [Bool.eq_iff_iff, decide_eq_true_iff]
          exact Table.lock.isKnown_lookup state
      | _ => rfl

/-- What is noted about locks, the first of them having an index: those whose state is not resolved,
up to the first lock that is `null`. -/
def locksLog (index : Nat) : List Value → List LogEntry
  | [] => []
  | lock :: locks =>
    if lock.isNull then []
    else
      (if isResolved lock then [] else [(.warn, .unmappedLock index lock)]) ++
        locksLog (index + 1) locks

theorem log_locks (entries : List Value) : (locks entries).log = locksLog 0 entries := by
  rw [Traced.log, locks]
  dsimp only
  generalize 0 = index
  induction entries generalizing index with
  | nil => rfl
  | cons lock entries ih =>
      rw [locksLog]
      by_cases ends : lock.isNull = true
      · rw [if_pos ends, List.takeWhile_cons_of_neg (by simp [ends])]
        rfl
      · rw [if_neg ends, List.takeWhile_cons_of_pos (by simp [ends]), List.zipIdx_cons,
          List.flatMap_cons, List.map_append, ih, lockEvents, isKnown_lockLabel]
        cases isResolved lock <;> rfl

def codeLog (category : Category) (code : String) : List LogEntry :=
  if code ∈ Table.alarm.keys then [] else [(.warn, .unmappedCode category code)]

theorem log_alarm (category : Category) (code : String) :
    (alarm category code).log = codeLog category code := by
  rw [Traced.log, alarm, codeLog]
  by_cases known : code ∈ Table.alarm.keys
  · rw [if_pos known, if_pos ((Table.alarm.isKnown_lookup _).mpr known)]
    rfl
  · rw [if_neg known, if_neg fun found => known ((Table.alarm.isKnown_lookup _).mp found)]
    rfl

def onText (noted : String → List LogEntry) : Option Value → List LogEntry
  | some (.string text) => noted text
  | _ => []

def onList (noted : List Value → List LogEntry) : Option Value → List LogEntry
  | some (.array entries) => noted entries
  | _ => []

/-- What is noted about the readings of a category; nothing is if the payload does not have them, or
has them in another kind. -/
def readingsLog : Category → Option Value → List LogEntry
  | .environment => onText (tokensLog .environment .environment)
  | .lockStatus => onList (locksLog 0)
  | .powerUsage => onText (tokensLog .power .powerUsage)
  | .powerAlarm => onText (codeLog .powerAlarm)
  | .screenAlarm => onText (codeLog .screenAlarm)

theorem log_withText (category : Category) (payload : Value) {next : String → Traced Telemetry}
    {noted : String → List LogEntry} (same : ∀ text, (next text).log = noted text) :
    (withSlice (textSlice category payload) fun text => (next text).map .ok).log =
      onText noted (follow category.slicePath payload) := by
  rw [textSlice, slice]
  cases follow category.slicePath payload with
  | none => rfl
  | some found =>
      cases found with
      | string text => exact same text
      | _ => rfl

theorem log_withLocks (payload : Value) :
    (withSlice (listSlice .lockStatus payload) locks).log =
      onList (locksLog 0) (follow Category.lockStatus.slicePath payload) := by
  rw [listSlice, slice]
  cases follow Category.lockStatus.slicePath payload with
  | none => rfl
  | some found =>
      cases found with
      | array entries => exact log_locks entries
      | _ => rfl

theorem log_extract (category : Category) (payload : Value) :
    (extract category payload).log = readingsLog category (follow category.slicePath payload) := by
  cases category with
  | environment => exact log_withText _ payload (log_keyValues .environment .environment)
  | lockStatus => exact log_withLocks payload
  | powerUsage => exact log_withText _ payload (log_keyValues .power .powerUsage)
  | powerAlarm => exact log_withText _ payload (log_alarm .powerAlarm)
  | screenAlarm => exact log_withText _ payload (log_alarm .screenAlarm)

end Extraction

/-! ## Messages -/

namespace Decoder

variable {decoder : Decoder} {payload : Payload} {metadata : Metadata}

theorem log_decodeTraced_of_unparsed {error : DecodeError}
    (refused : payload.decode = .error error) :
    (decoder.decodeTraced payload metadata).log = [] := by
  rw [decodeTraced, refused]
  rfl

section

variable {data : Value} (parsed : payload.decode = .ok data)

include parsed

theorem log_decodeTraced_of_parsed :
    (decoder.decodeTraced payload metadata).log =
      (decoder.routeTopic metadata.topic).log ++
        (decoder.decodeRoute metadata.topic data
          (metadata.topic.bind decoder.router.route?)).log := by
  rw [decodeTraced, parsed]
  dsimp only
  rw [Traced.log_andThen, value_routeTopic]

theorem log_decodeTraced_of_noTopic (unsent : metadata.topic = none) :
    (decoder.decodeTraced payload metadata).log = [(.debug, .unrouted none)] := by
  rw [log_decodeTraced_of_parsed parsed, unsent]
  rfl

variable {topic : String} (sent : metadata.topic = some topic)

include sent

theorem log_decodeTraced_of_unmatched
    (nothing : ∀ rule ∈ decoder.router.rules, rule.capture? topic = none) :
    (decoder.decodeTraced payload metadata).log =
      Router.skips topic 0 decoder.router.rules ++
        [(.debug, .unmatched topic), (.debug, .unrouted (some topic))] := by
  rw [log_decodeTraced_of_parsed parsed, sent, Option.bind_some,
    Router.route?_eq_none_iff.mpr nothing, routeTopic, Router.log_routeTraced_of_unmatched nothing,
    List.append_assoc]
  rfl

/-- The number of fields is noted at the end, if there is telemetry. -/
theorem log_decodeTraced_of_first {serial : String} {rule : Rule} {earlier later : List Rule}
    (split : decoder.router.rules = earlier ++ rule :: later)
    (nothing : ∀ other ∈ earlier, other.capture? topic = none)
    (captured : rule.capture? topic = some serial) :
    (decoder.decodeTraced payload metadata).log =
      Router.skips topic 0 earlier ++
        (.debug, .ruleMatched topic earlier.length rule.pattern rule.category serial) ::
          (Extraction.readingsLog rule.category
              (Extraction.follow rule.category.slicePath data) ++
            (Extraction.extract rule.category data).value.toOption.toList.map fun telemetry =>
              (.debug, .decoded rule.category serial telemetry.size)) := by
  have routed : decoder.router.route? topic = some ⟨serial, rule.category⟩ :=
    Router.route?_eq_some_iff.mpr ⟨rule, ⟨earlier, later, split, nothing, captured⟩, rfl⟩
  rw [log_decodeTraced_of_parsed parsed, sent, Option.bind_some, routed, routeTopic,
    Router.log_routeTraced_of_first split nothing captured, decodeRoute, Traced.log_andThen,
    Extraction.log_extract, List.append_assoc]
  cases (Extraction.extract rule.category data).value <;> rfl

end

/-- Nothing is noted about a payload that cannot be parsed. After a payload that can, the log of a
message without topic says so; that of a topic which no rule captures lists all rules; and that of
any other topic lists the rules in front of the first one that captures a serial, names this one,
goes through the readings, and ends with the number of fields if they were extracted. -/
theorem log_decodeTraced (decoder : Decoder) (payload : Payload) (metadata : Metadata) :
    (∀ error, payload.decode = .error error →
        (decoder.decodeTraced payload metadata).log = []) ∧
      (∀ data, payload.decode = .ok data →
        (metadata.topic = none →
          (decoder.decodeTraced payload metadata).log = [(.debug, .unrouted none)]) ∧
        ∀ topic, metadata.topic = some topic →
          ((∀ rule ∈ decoder.router.rules, rule.capture? topic = none) →
            (decoder.decodeTraced payload metadata).log =
              Router.skips topic 0 decoder.router.rules ++
                [(.debug, .unmatched topic), (.debug, .unrouted (some topic))]) ∧
          ∀ earlier rule later serial, decoder.router.rules = earlier ++ rule :: later →
            (∀ other ∈ earlier, other.capture? topic = none) →
            rule.capture? topic = some serial →
            (decoder.decodeTraced payload metadata).log =
              Router.skips topic 0 earlier ++
                (.debug, .ruleMatched topic earlier.length rule.pattern rule.category serial) ::
                  (Extraction.readingsLog rule.category
                      (Extraction.follow rule.category.slicePath data) ++
                    (Extraction.extract rule.category data).value.toOption.toList.map
                      fun telemetry =>
                        (.debug, .decoded rule.category serial telemetry.size))) ∧
      (Event.unrouted none).message = "No topic rule for None, descriptor only" ∧
      ∀ topic, (Event.unrouted (some topic)).message =
        "No topic rule for " ++ ("Some(" ++ Text.quoted topic ++ ")") ++ ", descriptor only" := by
  refine ⟨fun error refused => log_decodeTraced_of_unparsed refused, fun data parsed =>
    ⟨log_decodeTraced_of_noTopic parsed, fun topic sent => ⟨?_, ?_⟩⟩, by decide, fun topic => rfl⟩
  · exact log_decodeTraced_of_unmatched parsed sent
  · exact fun earlier rule later serial => log_decodeTraced_of_first parsed sent

/-- A payload of a lock in an unknown state, one that is `null`, and one more. -/
def brokenLocks : Value :=
  .object [("locks", .array [Extraction.lockEntry "ajar", .null, Extraction.lockEntry "lost"])]

/-- A payload of readings, of which one has an unknown name and one is made twice. -/
def repeatedReadings : Value :=
  .object [("data", .object [("value", .string "Temp=20,Wind=3,Temp=21")])]

theorem decode_brokenLocks : Payload.decode (.text brokenLocks.compact) = .ok brokenLocks := by
  have entry (state : String) : (Extraction.lockEntry state).IsNormal :=
    ⟨Json.Members.isSorted_singleton _, trivial, trivial⟩
  have read : Json.parse brokenLocks.compact = .ok brokenLocks :=
    Json.parse_compact_of_isNormal
      ⟨⟨⟨trivial, trivial⟩, trivial, ⟨trivial, trivial⟩, trivial⟩, trivial⟩ (by decide)
      ⟨Json.Members.isSorted_singleton _, ⟨entry "ajar", trivial, entry "lost", trivial⟩, trivial⟩
  exact congrArg (Except.mapError DecodeError.payload) read

theorem decode_repeatedReadings :
    Payload.decode (.text repeatedReadings.compact) = .ok repeatedReadings := by
  have read : Json.parse repeatedReadings.compact = .ok repeatedReadings :=
    Json.parse_compact_of_isNormal ⟨⟨trivial, trivial⟩, trivial⟩ (by decide)
      ⟨Json.Members.isSorted_singleton _, ⟨Json.Members.isSorted_singleton _, trivial, trivial⟩,
        trivial⟩
  exact congrArg (Except.mapError DecodeError.payload) read

/-- The lock behind the one that is `null` is not warned about, and no number of fields is noted.
Three readings that can be extracted are noted one by one, and make two fields. -/
theorem log_decodeTraced_brokenLocks :
    (Payload.decode (.text brokenLocks.compact) = .ok brokenLocks ∧
        (Metadata.ofTopic "status/7/lock").topic = some "status/7/lock" ∧
        gateway.router.rules = [Category.environment.rule] ++ Category.lockStatus.rule ::
          [Category.powerUsage.rule, Category.powerAlarm.rule, Category.screenAlarm.rule] ∧
        (∀ other ∈ [Category.environment.rule], other.capture? "status/7/lock" = none) ∧
        Category.lockStatus.rule.capture? "status/7/lock" = some "7") ∧
      (gateway.decodeTraced (.text brokenLocks.compact) (.ofTopic "status/7/lock")).log =
        [(.trace, .ruleSkipped "status/7/lock" 0 "data/(.+)/environment"),
          (.debug, .ruleMatched "status/7/lock" 1 "status/(.+)/lock" .lockStatus "7"),
          (.warn, .unmappedLock 0 (Extraction.lockEntry "ajar"))] ∧
      (gateway.decodeTraced (.text repeatedReadings.compact) (.ofTopic "data/7/environment")).log =
        [(.debug, .ruleMatched "data/7/environment" 0 "data/(.+)/environment" .environment "7"),
          (.trace, .labelled .environment "Temp" (.known "温度") (.text "20")),
          (.warn, .unmappedKey .environment "Wind"),
          (.trace, .labelled .environment "Wind" .undefined (.text "3")),
          (.trace, .labelled .environment "Temp" (.known "温度") (.text "21")),
          (.debug, .decoded .environment "7" 2)] := by
  have skipped : ∀ other ∈ [Category.environment.rule], other.capture? "status/7/lock" = none := by
    decide +kernel
  have captured : Category.lockStatus.rule.capture? "status/7/lock" = some "7" := by
    decide +kernel
  have first : Category.environment.rule.capture? "data/7/environment" = some "7" := by
    decide +kernel
  have locks := (log_decodeTraced gateway _ (.ofTopic "status/7/lock")).2.1 _ decode_brokenLocks
  have readings :=
    (log_decodeTraced gateway _ (.ofTopic "data/7/environment")).2.1 _ decode_repeatedReadings
  refine ⟨⟨decode_brokenLocks, rfl, rfl, skipped, captured⟩, ?_, ?_⟩
  · exact (locks.2 _ rfl).2 _ _ _ _ rfl skipped captured
  · exact (readings.2 _ rfl).2 [] _ _ _ rfl (fun _ none => absurd none List.not_mem_nil) first

end Decoder
end GatewayTelemetry
