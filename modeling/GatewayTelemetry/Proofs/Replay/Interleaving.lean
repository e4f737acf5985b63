import GatewayTelemetry.Replay.Schedule
import Mathlib.Data.List.Nodup

/-!
# Jobs are shared without loss

The queues of all workers hold every job exactly once, and an interleaving takes every job out of
its queue exactly once. So each order in which the workers can come to the end of their queues is
a permutation of the jobs.
-/

namespace GatewayTelemetry
namespace Replay

/-! ## Interleavings -/

theorem flatten_perm_cons_of_next {α : Type} {queues : List (List α)} {worker : Nat} {job : α}
    {later : List α} (next : queues[worker]? = some (job :: later)) :
    queues.flatten.Perm (job :: (queues.set worker later).flatten) := by
  induction queues generalizing worker with
  | nil => simp at next
  | cons queue queues ih =>
      cases worker with
      | zero =>
          obtain rfl : queue = job :: later := by simpa using next
          exact List.Perm.refl _
      | succ worker =>
          have rest := ih (by simpa using next)
          exact (rest.append_left queue).trans List.perm_middle

/-- An interleaving is an order of exactly the jobs in the queues. -/
theorem Interleaving.perm_flatten {α : Type} {queues : List (List α)} {order : List α}
    (interleaving : Interleaving queues order) : order.Perm queues.flatten := by
  induction interleaving with
  | done allEmpty =>
      rw [List.flatten_eq_nil_iff.mpr allEmpty]
  | step next _ ih => exact (ih.cons _).trans (flatten_perm_cons_of_next next).symm

/-- A worker that has done all of its jobs does not hold up the others. -/
theorem Interleaving.cons_nil {α : Type} {queues : List (List α)} {order : List α}
    (interleaving : Interleaving queues order) : Interleaving ([] :: queues) order := by
  induction interleaving with
  | done allEmpty => exact .done (by simpa using allEmpty)
  | @step queues worker job later order next _ ih =>
      exact .step (show ([] :: queues)[worker + 1]? = some (job :: later) from next) ih

/-- The workers may do their jobs one worker after the other. -/
theorem interleaving_flatten {α : Type} (queues : List (List α)) :
    Interleaving queues queues.flatten := by
  induction queues with
  | nil => exact .done (by simp)
  | cons queue queues ih =>
      induction queue with
      | nil => exact ih.cons_nil
      | cons job later rest =>
          exact .step (show ((job :: later) :: queues)[0]? = some (job :: later) from rfl) rest

/-! ## The queues -/

/-- The queues of all workers, also of those that have no job. -/
def workerQueues (workers total : Nat) : List (List Nat) :=
  (List.range workers).map (queue workers total)

theorem mem_queue {workers total worker job : Nat} (known : worker < workers) :
    job ∈ queue workers total worker ↔ job < total ∧ job % workers = worker := by
  have positive : 0 < workers := Nat.zero_lt_of_lt known
  simp only [queue, List.mem_map, List.mem_range, Nat.lt_iff_add_one_le,
    Nat.le_div_iff_mul_le positive]
  constructor
  · rintro ⟨round, inside, rfl⟩
    rw [Nat.add_mul_mod_self_right]
    exact ⟨by rw [Nat.add_mul] at inside; omega, Nat.mod_eq_of_lt known⟩
  · rintro ⟨inside, rfl⟩
    have parts := Nat.mod_add_div job workers
    rw [Nat.mul_comm] at parts
    exact ⟨job / workers, by rw [Nat.add_mul]; omega, parts⟩

theorem pairwise_queue {workers : Nat} (positive : 0 < workers) (total worker : Nat) :
    (queue workers total worker).Pairwise (· < ·) := by
  refine List.pairwise_map.mpr (List.pairwise_lt_range.imp ?_)
  intro earlier later before
  have := Nat.mul_lt_mul_of_pos_right before positive
  omega

/-- All workers together have each job once. -/
theorem flatten_workerQueues_perm {workers : Nat} (positive : 0 < workers) (total : Nat) :
    (workerQueues workers total).flatten.Perm (List.range total) := by
  have distinct : (workerQueues workers total).flatten.Nodup := by
    refine List.nodup_flatten.mpr ⟨?_, ?_⟩
    · intro jobs known
      obtain ⟨worker, -, rfl⟩ := List.mem_map.mp known
      exact (pairwise_queue positive total worker).nodup
    · refine List.pairwise_map.mpr (List.nodup_range.imp_of_mem ?_)
      intro first second firstKnown secondKnown different job inFirst inSecond
      rw [mem_queue (List.mem_range.mp firstKnown)] at inFirst
      rw [mem_queue (List.mem_range.mp secondKnown)] at inSecond
      exact different (inFirst.2.symm.trans inSecond.2)
  refine (List.perm_ext_iff_of_nodup distinct List.nodup_range).mpr fun job => ?_
  simp only [workerQueues, List.mem_flatten, List.mem_map, exists_exists_and_eq_and,
    List.mem_range]
  constructor
  · rintro ⟨worker, known, present⟩
    exact ((mem_queue known).mp present).1
  · intro inside
    have known := Nat.mod_lt job positive
    exact ⟨job % workers, known, (mem_queue known).mpr ⟨inside, rfl⟩⟩

theorem queue_eq_nil {workers total worker : Nat} (known : worker < workers)
    (late : total ≤ worker) : queue workers total worker = [] := by
  refine List.eq_nil_iff_forall_not_mem.mpr fun job present => ?_
  obtain ⟨inside, remainder⟩ := (mem_queue known).mp present
  have := Nat.mod_le job workers
  omega

theorem flatten_queues (workers total : Nat) :
    (queues workers total).flatten = (workerQueues workers total).flatten := by
  rcases Nat.le_total workers total with fewWorkers | fewJobs
  · rw [queues, Nat.min_eq_left fewWorkers, workerQueues]
  · obtain ⟨idle, rfl⟩ := Nat.exists_eq_add_of_le fewJobs
    rw [queues, Nat.min_eq_right fewJobs, workerQueues, List.range_add, List.map_append,
      List.flatten_append, List.self_eq_append_right, List.flatten_eq_nil_iff]
    simp only [List.map_map, List.mem_map, List.mem_range]
    rintro jobs ⟨worker, inside, rfl⟩
    exact queue_eq_nil (by simpa using inside) (Nat.le_add_right total worker)

end Replay
end GatewayTelemetry
