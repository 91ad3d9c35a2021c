import HotPath.Schedule.Queue
import HotPath.Schedule.Task

/-!
The deferred scheduler queues its tasks until the host drains it. A drain also runs what is
submitted meanwhile; a crash consumes the task, ends the drain and leaves the rest queued.
-/

namespace HotPath

structure Deferred where
  queue : Queue Task := {}
  /-- Labels of the tasks run so far, in order. -/
  ran : List String := []
  deriving Inhabited

namespace Deferred

def submit (scheduler : Deferred) (task : Task) : Deferred :=
  { scheduler with queue := scheduler.queue.submit task }

/-- The scheduler after its oldest task, `task`, has run with `rest` behind it. -/
def afterRunning (scheduler : Deferred) (task : Task) (rest : List Task) : Deferred where
  queue := { scheduler.queue with waiting := rest }.submitAll task.children
  ran := scheduler.ran ++ [task.label]

inductive Drained where
  | finished (count : Nat)
  | crashed
  deriving DecidableEq, Repr

/-- Drain the queue, `count` tasks having run before. -/
def drainFrom (scheduler : Deferred) (count : Nat) : Drained × Deferred :=
  match waiting : scheduler.queue.waiting with
  | [] => (.finished count, scheduler)
  | task :: rest =>
    if task.crashes then (.crashed, scheduler.afterRunning task rest)
    else (scheduler.afterRunning task rest).drainFrom (count + 1)
termination_by Task.sizeAll scheduler.queue.waiting
decreasing_by
  simp only [afterRunning, Queue.submitAll, waiting, Task.sizeAll, Task.sizeAll_append,
    Task.size_eq]
  omega

def drain (scheduler : Deferred) : Drained × Deferred := scheduler.drainFrom 0

end Deferred

end HotPath
