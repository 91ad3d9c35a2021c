import HotPath.Schedule.Queue
import HotPath.Schedule.Task

/-!
A pool of workers that share one queue. Each turn of a worker either takes the oldest task or
finishes the task it has; a crash ends with the task and leaves the worker alive. A pool takes no
children: what a task would submit is not its concern.
-/

namespace HotPath

structure Pool where
  /-- What each worker is running. -/
  workers : List (Option Task)
  channel : Queue Task := {}
  /-- Labels of the tasks run so far, in order. -/
  ran : List String := []
  deriving Inhabited

namespace Pool

/-- The number of workers for a requested number of threads, zero for one per processor. -/
def workersFor (processors threads : Nat) : Nat := if threads = 0 then processors else threads

def start (processors threads : Nat) : Pool where
  workers := List.replicate (workersFor processors threads) none

def submit (pool : Pool) (task : Task) : Pool :=
  { pool with channel := pool.channel.submit task }

def turn (pool : Pool) (worker : Nat) : Pool :=
  match pool.workers[worker]? with
  | none => pool
  | some (some task) =>
    { pool with workers := pool.workers.set worker none, ran := pool.ran ++ [task.label] }
  | some none =>
    match pool.channel.take? with
    | none => pool
    | some (task, channel) =>
      { pool with workers := pool.workers.set worker (some task), channel }

/-- Let workers take turns in a given order. -/
def turns (pool : Pool) (order : List Nat) : Pool := order.foldl turn pool

def isIdle (pool : Pool) : Bool :=
  pool.channel.waiting.isEmpty && pool.workers.all Option.isNone

/-- An order of turns in which the workers share a number of tasks evenly. -/
def evenTurns (workers : Nat) : (tasks : Nat) → List Nat
  | 0 => []
  | tasks + 1 => evenTurns workers tasks ++ [tasks % workers, tasks % workers]

/-- Close the queue and wait until the workers have finished what is in it. -/
def shutDown (pool : Pool) : Pool :=
  pool.turns (evenTurns pool.workers.length pool.channel.pending)

end Pool

end HotPath
