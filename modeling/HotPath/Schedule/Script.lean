import HotPath.Schedule.Deferred
import HotPath.Schedule.Kind
import HotPath.Schedule.Pool

/-!
A scheduler under a script of steps. Where several threads run tasks the order is not determined,
and the labels of finished tasks are told in alphabetical order.
-/

namespace HotPath

/-- A scheduler with its state. Tasks of the shared pool have all run as soon as
anybody looks. -/
inductive Scheduler where
  | shared (submitted : List Task)
  | pool (pool : Pool)
  | deferred (deferred : Deferred)

namespace Scheduler

inductive Step where
  | name
  | threads
  | submit (task : Task)
  | pending
  | submitted
  | run
  | ran

inductive Answer where
  | nothing
  | text (text : String)
  | count (count : Nat)
  | labels (labels : List String)
  | crash

def alphabetical (labels : List String) : List String :=
  labels.mergeSort fun a b => a ≤ b

def kind : Scheduler → SchedulerKind
  | .shared _ => .shared
  | .pool _ => .dedicated
  | .deferred _ => .deferred

def stepDeferred (scheduler : Deferred) : Step → Answer × Deferred
  | .submit task => (.nothing, scheduler.submit task)
  | .pending => (.count scheduler.queue.pending, scheduler)
  | .submitted => (.count scheduler.queue.submitted, scheduler)
  | .run =>
    match scheduler.drain with
    | (.finished count, after) => (.count count, after)
    | (.crashed, after) => (.crash, after)
  | .ran => (.labels scheduler.ran, scheduler)
  | .name | .threads => (.nothing, scheduler)

def stepPool (pool : Pool) : Step → Answer × Pool
  | .threads => (.count pool.workers.length, pool)
  | .submit task => (.nothing, pool.submit task)
  | .ran =>
    let after := pool.shutDown
    (.labels (if pool.workers.length = 1 then after.ran else alphabetical after.ran), after)
  | .name | .pending | .submitted | .run => (.nothing, pool)

def stepShared (submitted : List Task) : Step → Answer × List Task
  | .submit task => (.nothing, submitted ++ [task])
  | .ran => (.labels (alphabetical (Task.labelsAll submitted)), submitted)
  | .name | .threads | .pending | .submitted | .run => (.nothing, submitted)

def step (scheduler : Scheduler) (next : Step) : Answer × Scheduler :=
  match next, scheduler with
  | .name, _ => (.text scheduler.kind.name, scheduler)
  | next, .deferred inner => (stepDeferred inner next).map id .deferred
  | next, .pool inner => (stepPool inner next).map id .pool
  | next, .shared inner => (stepShared inner next).map id .shared

def play (scheduler : Scheduler) : List Step → List Answer
  | [] => []
  | next :: rest =>
    let (answer, after) := scheduler.step next
    answer :: after.play rest

end Scheduler

end HotPath
