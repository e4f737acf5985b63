import GatewayTelemetry.Command.Run
import GatewayTelemetry.Proofs.Replay.Interleaving

/-!
# Replays count exactly

A replay counts each message once for every pass over the messages, in whatever order the workers
come to do their jobs. The outcome is therefore a function of the messages and of the number of
passes: neither the number of workers nor the schedule shows in it, nor in what the replay command
prints.
-/

namespace GatewayTelemetry
namespace Replay

/-! ## What one job and many jobs add -/

def isDecoded (decoder : Decoder) (message : Message) : Bool :=
  (decoder.decodeMessage message).isOk

def jobSucceeds (decoder : Decoder) (messages : List Message) (job : Nat) : Bool :=
  messages[job % messages.length]?.any (isDecoded decoder)

theorem exists_message_of_job {messages : List Message} (nonempty : messages.length ≠ 0)
    (job : Nat) : ∃ message, messages[job % messages.length]? = some message :=
  ⟨_, List.getElem?_eq_getElem (Nat.mod_lt job (Nat.pos_of_ne_zero nonempty))⟩

theorem perform_eq (decoder : Decoder) {messages : List Message}
    (nonempty : messages.length ≠ 0) (tally : Tally) (job : Nat) :
    perform decoder messages tally job =
      ⟨tally.ok + if jobSucceeds decoder messages job then 1 else 0,
        tally.failed + if jobSucceeds decoder messages job then 0 else 1⟩ := by
  obtain ⟨message, found⟩ := exists_message_of_job nonempty job
  simp only [perform, jobSucceeds, found, Option.any_some, isDecoded]
  cases decoder.decodeMessage message <;> rfl

theorem foldl_perform (decoder : Decoder) {messages : List Message}
    (nonempty : messages.length ≠ 0) (order : List Nat) (tally : Tally) :
    order.foldl (perform decoder messages) tally =
      ⟨tally.ok + order.countP (jobSucceeds decoder messages),
        tally.failed + order.countP (!jobSucceeds decoder messages ·)⟩ := by
  induction order generalizing tally with
  | nil => simp
  | cons job order ih =>
      rw [List.foldl_cons, perform_eq decoder nonempty, ih]
      cases succeeds : jobSucceeds decoder messages job <;> simp [succeeds] <;> omega

/-! ## Counting jobs by messages -/

theorem countP_range_getElem? (holds : Message → Bool) (messages : List Message) :
    (List.range messages.length).countP (fun index => messages[index]?.any holds) =
      messages.countP holds := by
  induction messages with
  | nil => rfl
  | cons message messages ih =>
      rw [List.length_cons, List.range_succ_eq_map, List.countP_cons, List.countP_map,
        List.countP_cons]
      exact congrArg (· + if holds message then 1 else 0) ih

/-- So many passes count each index so many times. -/
theorem countP_range_mul (holds : Nat → Bool) (length passes : Nat) :
    (List.range (length * passes)).countP (fun job => holds (job % length)) =
      passes * (List.range length).countP holds := by
  induction passes with
  | zero => simp
  | succ passes ih =>
      have lastPass : (List.range length).countP ((fun job => holds (job % length)) ∘
          (length * passes + ·)) = (List.range length).countP holds := by
        refine List.countP_congr fun index inside => ?_
        have same : (length * passes + index) % length = index := by
          rw [Nat.mul_add_mod, Nat.mod_eq_of_lt (List.mem_range.mp inside)]
        simp [same]
      rw [Nat.mul_succ, List.range_add, List.countP_append, List.countP_map, ih, lastPass,
        Nat.succ_mul]

/-- Jobs count as often as their messages, times the number of passes. -/
theorem countP_jobs (holds : Message → Bool) (messages : List Message) (passes : Nat) :
    (List.range (messages.length * passes)).countP
        (fun job => messages[job % messages.length]?.any holds) =
      passes * messages.countP holds := by
  rw [countP_range_mul (fun index => messages[index]?.any holds), countP_range_getElem?]

/-! ## Executions -/

/-- The tally of all messages after a number of passes over them. -/
def tallyOfPasses (decoder : Decoder) (messages : List Message) (passes : Nat) : Tally where
  ok := passes * messages.countP (isDecoded decoder)
  failed := passes * messages.countP (!isDecoded decoder ·)

theorem performAll_eq_tallyOfPasses (decoder : Decoder) (messages : List Message) (passes : Nat)
    {order : List Nat} (once : order.Perm (List.range (messages.length * passes))) :
    performAll decoder messages order = tallyOfPasses decoder messages passes := by
  rcases Nat.eq_zero_or_pos messages.length with none | some
  · obtain rfl := List.length_eq_zero_iff.mp none
    obtain rfl : order = [] := by simpa using once
    rfl
  · have nonempty := Nat.ne_of_gt some
    have succeeding : (List.range (messages.length * passes)).countP
        (jobSucceeds decoder messages) = passes * messages.countP (isDecoded decoder) :=
      countP_jobs (isDecoded decoder) messages passes
    have failing : (List.range (messages.length * passes)).countP
        (!jobSucceeds decoder messages ·) = passes * messages.countP (!isDecoded decoder ·) := by
      rw [← countP_jobs (!isDecoded decoder ·) messages passes]
      refine List.countP_congr fun job _ => ?_
      obtain ⟨message, found⟩ := exists_message_of_job nonempty job
      simp [jobSucceeds, found]
    rw [performAll, foldl_perform decoder nonempty, once.countP_eq, once.countP_eq, succeeding,
      failing]
    simp [tallyOfPasses, Tally.zero]

theorem tallyOfPasses_total (decoder : Decoder) (messages : List Message) (passes : Nat) :
    (tallyOfPasses decoder messages passes).ok + (tallyOfPasses decoder messages passes).failed =
      messages.length * passes := by
  have parts := List.length_eq_countP_add_countP (l := messages) (isDecoded decoder)
  simp only [Bool.not_eq_true, Bool.decide_eq_false] at parts
  rw [tallyOfPasses, ← Nat.mul_add, ← parts, Nat.mul_comm]

/-- What a replay may do: the jobs in the order in which they are done, and how it ends. Too many
jobs are refused before any is done; otherwise the workers do theirs at the same time, to the
last. -/
inductive Execution (decoder : Decoder) (messages : List Message) (iterations workers : Nat) :
    List Nat → Except Overflow Outcome → Prop where
  /-- The number of jobs is not below `2 ^ 64`. -/
  | refused (tooMany : UInt64.size - 1 < messages.length * iterations) :
      Execution decoder messages iterations workers [] (.error ⟨messages.length, iterations⟩)
  /-- All workers come to the end of their queues. -/
  | finished {order : List Nat} (countable : messages.length * iterations ≤ UInt64.size - 1)
      (schedule : Interleaving
        (workerQueues (max 1 workers) (messages.length * iterations)) order) :
      Execution decoder messages iterations workers order
        (.ok ⟨messages.length * iterations, performAll decoder messages order⟩)

/-- To do the jobs of one worker after those of the other is one way to replay. -/
theorem exists_execution (decoder : Decoder) (messages : List Message)
    (iterations workers : Nat) :
    ∃ order, Execution decoder messages iterations workers order
      (run decoder messages iterations workers) := by
  rw [run, Decimal.numeralLimit]
  split
  · next tooMany => exact ⟨[], .refused tooMany⟩
  · next countable =>
      rw [sequentialOrder, flatten_queues]
      exact ⟨_, .finished (Nat.le_of_not_lt countable) (interleaving_flatten _)⟩

/-- Every schedule does every job once. -/
theorem perm_range_of_schedule {total workers : Nat} {order : List Nat}
    (schedule : Interleaving (workerQueues (max 1 workers) total) order) :
    order.Perm (List.range total) :=
  schedule.perm_flatten.trans (flatten_workerQueues_perm (by omega) total)

def exactResult (decoder : Decoder) (messages : List Message) (iterations : Nat) :
    Except Overflow Outcome :=
  if UInt64.size - 1 < messages.length * iterations then .error ⟨messages.length, iterations⟩
  else .ok ⟨messages.length * iterations, tallyOfPasses decoder messages iterations⟩

theorem result_of_execution {decoder : Decoder} {messages : List Message}
    {iterations workers : Nat} {order : List Nat} {result : Except Overflow Outcome}
    (execution : Execution decoder messages iterations workers order result) :
    result = exactResult decoder messages iterations := by
  cases execution with
  | refused tooMany => rw [exactResult, if_pos tooMany]
  | finished countable schedule =>
      rw [exactResult, if_neg (Nat.not_lt.mpr countable),
        performAll_eq_tallyOfPasses decoder messages iterations (perm_range_of_schedule schedule)]

theorem run_eq_exactResult (decoder : Decoder) (messages : List Message)
    (iterations workers : Nat) :
    run decoder messages iterations workers = exactResult decoder messages iterations := by
  obtain ⟨order, execution⟩ := exists_execution decoder messages iterations workers
  exact result_of_execution execution

theorem runTask_replay (file : String → Command.FileContent) (environment : Environment)
    (input : String) (given chosen : Option Nat) {messages : List Message}
    (readable : Command.readMessages file input = .ok messages) :
    Command.runTask file environment (.replay input given chosen) =
      match exactResult .gateway messages (given.getD (Settings.iterations environment)) with
      | .ok outcome => .ok (.replayed outcome)
      | .error overflow => .error overflow.toFailure := by
  unfold Command.runTask Command.runReplay
  simp only [readable, run_eq_exactResult]
  rfl

theorem render_replayed (total ok failed : Nat) (elapsed : Duration) :
    ∃ timing, (Command.Report.replayed ⟨total, ⟨ok, failed⟩⟩).render elapsed =
      "total: " ++ toString total ++ ", ok: " ++ toString ok ++ ", failed: " ++ toString failed ++
        ", elapsed: " ++ timing := by
  change ∃ timing, (Summary.mk ⟨total, ⟨ok, failed⟩⟩ elapsed).text = _
  delta Summary.text
  simp only [String.append_assoc]
  exact ⟨_, rfl⟩

/-- **Replays count exactly under every schedule.** A replay with too many jobs is refused before
any is done. Otherwise, in whatever order the workers come to do their jobs, each job is done
once, stands for a message, and the outcome is that of so many passes over the messages. The
replay command reports this outcome, whatever is said about workers. -/
theorem execution_counts_exactly (messages : List Message) (iterations workers : Nat) :
    (∀ decoder, ∃ order, Execution decoder messages iterations workers order
      (run decoder messages iterations workers)) ∧
    (∀ decoder order result, Execution decoder messages iterations workers order result →
      if UInt64.size - 1 < messages.length * iterations then
        order = [] ∧ result = .error ⟨messages.length, iterations⟩
      else
        let ok := iterations * messages.countP fun message => (decoder.decodeMessage message).isOk
        let failed :=
          iterations * messages.countP fun message => !(decoder.decodeMessage message).isOk
        order.Perm (List.range (messages.length * iterations)) ∧
        (∀ job ∈ order, messages.length ≠ 0 ∧
          ∃ message, messages[job % messages.length]? = some message) ∧
        result = .ok ⟨messages.length * iterations, ⟨ok, failed⟩⟩ ∧
        ok + failed = messages.length * iterations) ∧
    (∀ file environment input given chosen, Command.readMessages file input = .ok messages →
      given.getD (Settings.iterations environment) = iterations →
      if UInt64.size - 1 < messages.length * iterations then
        Command.runTask file environment (.replay input given chosen) =
          .error (Overflow.toFailure ⟨messages.length, iterations⟩)
      else
        let total := messages.length * iterations
        let ok := iterations *
          messages.countP fun message => (Decoder.gateway.decodeMessage message).isOk
        let failed := iterations *
          messages.countP fun message => !(Decoder.gateway.decodeMessage message).isOk
        ∃ report,
          Command.runTask file environment (.replay input given chosen) = .ok report ∧
          ∀ elapsed, ∃ timing, report.render elapsed =
            "total: " ++ toString total ++ ", ok: " ++ toString ok ++ ", failed: " ++
              toString failed ++ ", elapsed: " ++ timing) := by
  refine ⟨fun decoder => exists_execution decoder messages iterations workers, ?_, ?_⟩
  · intro decoder order result execution
    have exact := result_of_execution execution
    rw [exactResult] at exact
    split
    · next tooMany =>
        rw [if_pos tooMany] at exact
        cases execution with
        | refused => exact ⟨rfl, exact⟩
        | finished countable => omega
    · next countable =>
        rw [if_neg countable] at exact
        cases execution with
        | refused tooMany => exact absurd tooMany countable
        | finished _ schedule =>
            have once := perm_range_of_schedule schedule
            refine ⟨once, fun job present => ?_, exact,
              tallyOfPasses_total decoder messages iterations⟩
            have inside := List.mem_range.mp (once.mem_iff.mp present)
            have nonempty : messages.length ≠ 0 := fun none => by simp [none] at inside
            exact ⟨nonempty, exists_message_of_job nonempty job⟩
  · rintro file environment input given chosen readable rfl
    rw [runTask_replay file environment input given chosen readable, exactResult]
    split
    · rfl
    · exact ⟨_, rfl, render_replayed _ _ _⟩

/-- A message without topic that is decoded, and one that is not. -/
def goodAndBad : List Message :=
  [⟨.text "1", .empty⟩, ⟨.text "?", .empty⟩]

def goodAndBadFile : String :=
  "\x7b\"payload\":\"1\"\x7d\n\x7b\"payload\":\"?\"\x7d"

theorem goodAndBad_schedule :
    Interleaving (workerQueues (max 1 2) (goodAndBad.length * 3)) [1, 0, 2, 3, 5, 4] := by
  refine @Interleaving.step _ _ 1 _ [3, 5] _ rfl ?_
  refine @Interleaving.step _ _ 0 _ [2, 4] _ rfl ?_
  refine @Interleaving.step _ _ 0 _ [4] _ rfl ?_
  refine @Interleaving.step _ _ 1 _ [5] _ rfl ?_
  refine @Interleaving.step _ _ 1 _ [] _ rfl ?_
  refine @Interleaving.step _ _ 0 _ [] _ rfl ?_
  exact .done (by decide)

/-- Three passes of two workers are counted, in the library and by the command; so many passes that
there is one job too many are refused. -/
theorem execution_counts_exactly_goodAndBad :
    Execution .gateway goodAndBad 3 2 [1, 0, 2, 3, 5, 4]
      (.ok ⟨6, performAll .gateway goodAndBad [1, 0, 2, 3, 5, 4]⟩) ∧
    performAll .gateway goodAndBad [1, 0, 2, 3, 5, 4] = ⟨3, 3⟩ ∧
    (∃ report, Command.runTask
        (fun _ => .ok goodAndBadFile.toUTF8) (fun _ => none)
        (.replay "messages" (some 3) (some 2)) = .ok report ∧
      ∀ elapsed, ∃ timing,
        report.render elapsed = "total: 6, ok: 3, failed: 3, elapsed: " ++ timing) ∧
    Command.runTask
        (fun _ => .ok goodAndBadFile.toUTF8) (fun _ => none)
        (.replay "messages" (some 9223372036854775808) none) =
      .error ⟨"Replay size overflows: 2 messages x 9223372036854775808 iterations", none⟩ := by
  have execution : Execution .gateway goodAndBad 3 2 [1, 0, 2, 3, 5, 4]
      (.ok ⟨6, performAll .gateway goodAndBad [1, 0, 2, 3, 5, 4]⟩) :=
    .finished (by decide) goodAndBad_schedule
  have readable : Command.readMessages
      (fun _ => .ok goodAndBadFile.toUTF8) "messages" = .ok goodAndBad := by rfl
  have decoded : goodAndBad.countP
      (fun message => (Decoder.gateway.decodeMessage message).isOk) = 1 := by decide +kernel
  have refused : goodAndBad.countP
      (fun message => !(Decoder.gateway.decodeMessage message).isOk) = 1 := by decide +kernel
  have counts := (execution_counts_exactly goodAndBad 3 2).2.1 _ _ _ execution
  have reports := (execution_counts_exactly goodAndBad 3 2).2.2 _ (fun _ => none) "messages"
    (some 3) (some 2) readable rfl
  have overflow := (execution_counts_exactly goodAndBad 9223372036854775808 4).2.2 _ (fun _ => none)
    "messages" (some 9223372036854775808) none readable rfl
  rw [if_neg (by decide), decoded, refused] at counts reports
  rw [if_pos (by decide)] at overflow
  exact ⟨execution, congrArg Outcome.tally (Except.ok.inj counts.2.2.1), reports, overflow⟩

end Replay
end GatewayTelemetry
