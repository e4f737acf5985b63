/-!
# Sharing work among workers

Jobs are numbered from zero. With so many workers, each takes the job of its own number and then
every so many jobs further one. Workers do their jobs at the same time, so the jobs are done in an
order in which each worker's jobs follow each other as in its queue, and nothing else is certain.
-/

namespace GatewayTelemetry
namespace Replay

/-- The jobs of one worker, in its order: `worker`, `worker + workers`, … below `total`. -/
def queue (workers total worker : Nat) : List Nat :=
  (List.range ((total - worker + (workers - 1)) / workers)).map fun round =>
    worker + round * workers

/-- The jobs of all workers; workers from `total` on have none and are left out. -/
def queues (workers total : Nat) : List (List Nat) :=
  (List.range (min workers total)).map (queue workers total)

/-- An order of jobs in which the workers may come to do the jobs of their queues, to the last. -/
inductive Interleaving {α : Type} : List (List α) → List α → Prop where
  /-- All queues are empty. -/
  | done {queues : List (List α)} (allEmpty : ∀ queue ∈ queues, queue = []) :
      Interleaving queues []
  /-- A worker does the next job of its queue. -/
  | step {queues : List (List α)} {worker : Nat} {job : α} {later order : List α}
      (next : queues[worker]? = some (job :: later))
      (rest : Interleaving (queues.set worker later) order) :
      Interleaving queues (job :: order)

end Replay
end GatewayTelemetry
