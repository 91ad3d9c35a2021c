import HotPath.Schedule.Script

/-!
The order in which a deferred scheduler runs its tasks is the order in which they were submitted,
by the host or by other tasks. What was submitted is, at any time, what has run followed by what
waits; a drain comes to an end since it takes the queued task trees apart node by node.
-/

namespace HotPath

/-- Taking the roots off some task trees leaves the trees below them. -/
theorem Task.sizeAll_eq (tasks : List Task) :
    sizeAll tasks = tasks.length + sizeAll (tasks.flatMap children) := by
  induction tasks with
  | nil => rfl
  | cons task rest inductionHypothesis =>
    rw [sizeAll, inductionHypothesis, size_eq, List.flatMap_cons, sizeAll_append, List.length_cons]
    omega

namespace Deferred

inductive Event where
  | submitted (task : Task)
  | ran (task : Task)

/-- A task runs, and its children are submitted. -/
def eventsOf (task : Task) : List Event := .ran task :: task.children.map .submitted

def submissions (events : List Event) : List Task :=
  events.filterMap fun
    | .submitted task => some task
    | .ran _ => none

def runs (events : List Event) : List Task :=
  events.filterMap fun
    | .ran task => some task
    | .submitted _ => none

/-- The tasks that a drain runs, in order. -/
def drainTasks (scheduler : Deferred) : List Task :=
  match _waiting : scheduler.queue.waiting with
  | [] => []
  | task :: rest =>
    if task.crashes then [task] else task :: (scheduler.afterRunning task rest).drainTasks
termination_by Task.sizeAll scheduler.queue.waiting
decreasing_by
  simp only [afterRunning, Queue.submitAll, _waiting, Task.sizeAll, Task.sizeAll_append,
    Task.size_eq]
  omega

def happens (scheduler : Deferred) : Scheduler.Step → List Event
  | .submit task => [.submitted task]
  | .run => scheduler.drainTasks.flatMap eventsOf
  | _ => []

def after (scheduler : Deferred) (steps : List Scheduler.Step) : Deferred :=
  steps.foldl (fun scheduler step => (Scheduler.stepDeferred scheduler step).2) scheduler

def history (scheduler : Deferred) : List Scheduler.Step → List Event
  | [] => []
  | step :: rest =>
    scheduler.happens step ++ history (Scheduler.stepDeferred scheduler step).2 rest

/-! ## Events -/

section

variable {queue middle later : List Task} {events others : List Event}

theorem submissions_append (first second : List Event) :
    submissions (first ++ second) = submissions first ++ submissions second :=
  List.filterMap_append

theorem runs_append (first second : List Event) :
    runs (first ++ second) = runs first ++ runs second := List.filterMap_append

theorem submissions_eventsOf (task : Task) : submissions (eventsOf task) = task.children := by
  calc
    submissions (eventsOf task) = task.children.filterMap some := List.filterMap_map
    _ = task.children := List.filterMap_some

theorem runs_eventsOf (task : Task) : runs (eventsOf task) = [task] := by
  refine congrArg (task :: ·) (List.filterMap_eq_nil_iff.mpr ?_)
  intro event member
  obtain ⟨child, -, rfl⟩ := List.mem_map.mp member
  rfl

theorem submissions_flatMap (tasks : List Task) :
    submissions (tasks.flatMap eventsOf) = tasks.flatMap Task.children := by
  induction tasks with
  | nil => rfl
  | cons task rest inductionHypothesis =>
    rw [List.flatMap_cons, List.flatMap_cons, submissions_append, inductionHypothesis,
      submissions_eventsOf]

theorem runs_flatMap (tasks : List Task) : runs (tasks.flatMap eventsOf) = tasks := by
  induction tasks with
  | nil => rfl
  | cons task rest inductionHypothesis =>
    rw [List.flatMap_cons, runs_append, inductionHypothesis, runs_eventsOf]
    rfl

/-- A queue that is first in, first out: what it holds before some events and after them. -/
inductive Fifo : List Task → List Event → List Task → Prop where
  | still (queue : List Task) : Fifo queue [] queue
  | submitted {queue later : List Task} {task : Task} {events : List Event}
      (next : Fifo (queue ++ [task]) events later) : Fifo queue (.submitted task :: events) later
  | ran {queue later : List Task} {task : Task} {events : List Event}
      (next : Fifo queue events later) : Fifo (task :: queue) (.ran task :: events) later

namespace Fifo

theorem trans (first : Fifo queue events middle) (second : Fifo middle others later) :
    Fifo queue (events ++ others) later := by
  induction first with
  | still => exact second
  | submitted _ inductionHypothesis => exact .submitted (inductionHypothesis second)
  | ran _ inductionHypothesis => exact .ran (inductionHypothesis second)

theorem submitAll (queue tasks : List Task) :
    Fifo queue (tasks.map .submitted) (queue ++ tasks) := by
  induction tasks generalizing queue with
  | nil => simpa using still queue
  | cons task rest inductionHypothesis =>
    simpa using submitted (inductionHypothesis (queue ++ [task]))

/-- What was in the queue and what was submitted has run, or is in the queue, in order. -/
theorem conserves (fifo : Fifo queue events later) :
    queue ++ submissions events = runs events ++ later := by
  induction fifo with
  | still queue => simp [submissions, runs]
  | submitted _ inductionHypothesis => simpa [submissions, runs] using inductionHypothesis
  | ran _ inductionHypothesis => simpa [submissions, runs] using inductionHypothesis

/-- Where a task runs, it is the oldest that has not run. -/
theorem oldest {first rest : List Event} {task : Task}
    (fifo : Fifo queue (first ++ .ran task :: rest) later) :
    runs first ++ [task] <+: queue ++ submissions first := by
  induction first generalizing queue with
  | nil =>
    cases fifo with
    | ran => simp [runs, submissions]
  | cons event first inductionHypothesis =>
    cases fifo with
    | submitted next => simpa [runs, submissions] using inductionHypothesis next
    | ran next => simpa [runs, submissions] using inductionHypothesis next

end Fifo

end

/-! ## Drains -/

/-- What some events make of a scheduler. -/
structure Recounts (scheduler : Deferred) (events : List Event) (later : Deferred) : Prop where
  fifo : Fifo scheduler.queue.waiting events later.queue.waiting
  ran : later.ran = scheduler.ran ++ (runs events).map Task.label
  submitted : later.queue.submitted = scheduler.queue.submitted + (submissions events).length

section

variable {scheduler later : Deferred} {task : Task} {rest tasks : List Task}
  {events others : List Event} {count : Nat} {ended : Drained}

namespace Recounts

theorem still (scheduler : Deferred) : Recounts scheduler [] scheduler :=
  ⟨.still _, (List.append_nil _).symm, rfl⟩

theorem submit (scheduler : Deferred) (task : Task) :
    Recounts scheduler [.submitted task] (scheduler.submit task) :=
  ⟨.submitted (.still _), (List.append_nil _).symm, rfl⟩

theorem afterRunning (oldest : scheduler.queue.waiting = task :: rest) :
    Recounts scheduler (eventsOf task) (scheduler.afterRunning task rest) where
  fifo := by
    rw [oldest]
    exact .ran (.submitAll rest task.children)
  ran := by
    rw [runs_eventsOf]
    rfl
  submitted := by
    rw [submissions_eventsOf]
    rfl

theorem trans {last : Deferred} (first : Recounts scheduler events later)
    (second : Recounts later others last) : Recounts scheduler (events ++ others) last where
  fifo := first.fifo.trans second.fifo
  ran := by rw [second.ran, first.ran, runs_append, List.map_append, List.append_assoc]
  submitted := by
    rw [second.submitted, first.submitted, submissions_append, List.length_append, Nat.add_assoc]

end Recounts

/-- How a drain ends that finds `count` tasks run before: it finishes, with nothing left,
if none of its tasks crashes; else only the last of them does, and ends it. -/
def EndsAs (tasks : List Task) (count : Nat) (later : Deferred) : Drained → Prop
  | .finished total =>
    total = count + tasks.length ∧ later.queue.waiting = [] ∧
      ∀ task ∈ tasks, task.crashes = false
  | .crashed => ∃ earlier last, tasks = earlier ++ [last] ∧ last.crashes = true ∧
      ∀ task ∈ earlier, task.crashes = false

theorem EndsAs.cons (ends : EndsAs tasks (count + 1) later ended) (runs : task.crashes = false) :
    EndsAs (task :: tasks) count later ended := by
  cases ended with
  | finished total =>
    obtain ⟨total, empty, others⟩ := ends
    refine ⟨?_, empty, List.forall_mem_cons.mpr ⟨runs, others⟩⟩
    rw [total, List.length_cons]
    omega
  | crashed =>
    obtain ⟨earlier, last, rfl, crashes, others⟩ := ends
    exact ⟨task :: earlier, last, rfl, crashes, List.forall_mem_cons.mpr ⟨runs, others⟩⟩

/-- A drain runs the tasks of the queue and those that they submit, oldest first. -/
theorem drainFrom_recounts (scheduler : Deferred) (count : Nat) :
    Recounts scheduler (scheduler.drainTasks.flatMap eventsOf) (scheduler.drainFrom count).2 ∧
      EndsAs scheduler.drainTasks count (scheduler.drainFrom count).2
        (scheduler.drainFrom count).1 := by
  fun_induction drainFrom scheduler count with
  | case1 scheduler count empty =>
    rw [drainTasks, empty]
    exact ⟨.still scheduler, rfl, empty, nofun⟩
  | case2 scheduler count task rest oldest crashes =>
    rw [drainTasks, oldest]
    simp only [crashes, ↓reduceIte, List.flatMap_singleton]
    exact ⟨.afterRunning oldest, [], task, rfl, crashes, nofun⟩
  | case3 scheduler count task rest oldest runs inductionHypothesis =>
    obtain ⟨recounts, ends⟩ := inductionHypothesis
    rw [drainTasks, oldest]
    simp only [runs, Bool.false_eq_true, ↓reduceIte, List.flatMap_cons]
    exact ⟨(Recounts.afterRunning oldest).trans recounts, ends.cons (Bool.eq_false_iff.mpr runs)⟩

/-- What was queued and what the tasks of a drain submit has run in it, or waits, in order. -/
theorem waiting_drain (scheduler : Deferred) :
    scheduler.queue.waiting ++ scheduler.drainTasks.flatMap Task.children =
      scheduler.drainTasks ++ scheduler.drain.2.queue.waiting := by
  have conserves := (scheduler.drainFrom_recounts 0).1.fifo.conserves
  rwa [submissions_flatMap, runs_flatMap] at conserves

/-- Each task run is a node less in the queued trees. -/
theorem sizeAll_drain (scheduler : Deferred) :
    scheduler.drainTasks.length + Task.sizeAll scheduler.drain.2.queue.waiting =
      Task.sizeAll scheduler.queue.waiting := by
  have whole := congrArg Task.sizeAll scheduler.waiting_drain
  rw [Task.sizeAll_append, Task.sizeAll_append, Task.sizeAll_eq scheduler.drainTasks] at whole
  omega

/-- A task that crashes is the last one of its drain. What was behind it and what it had
submitted stays queued. -/
theorem drain_crash (scheduler : Deferred) (member : task ∈ scheduler.drainTasks)
    (crashes : task.crashes = true) :
    scheduler.drain.1 = .crashed ∧ ∃ earlier behind, scheduler.drainTasks = earlier ++ [task] ∧
      (∀ other ∈ earlier, other.crashes = false) ∧
      scheduler.queue.waiting ++ earlier.flatMap Task.children = earlier ++ task :: behind ∧
      scheduler.drain.2.queue.waiting = behind ++ task.children := by
  obtain ⟨recounts, ends⟩ := scheduler.drainFrom_recounts 0
  change EndsAs _ 0 scheduler.drain.2 scheduler.drain.1 at ends
  cases ended : scheduler.drain.1 with
  | finished total =>
    rw [ended] at ends
    exact absurd crashes (Bool.eq_false_iff.mp (ends.2.2 task member))
  | crashed =>
    rw [ended] at ends
    obtain ⟨earlier, last, all, -, others⟩ := ends
    obtain rfl : task = last := by
      rw [all, List.mem_append, List.mem_singleton] at member
      refine member.resolve_left fun early => ?_
      exact absurd crashes (Bool.eq_false_iff.mp (others task early))
    have fifo := recounts.fifo
    rw [all, List.flatMap_append, List.flatMap_singleton] at fifo
    obtain ⟨behind, split⟩ := fifo.oldest
    rw [runs_flatMap, submissions_flatMap, List.append_assoc, List.singleton_append] at split
    refine ⟨rfl, earlier, behind, all, others, split.symm, ?_⟩
    have waiting := scheduler.waiting_drain
    rw [all, List.flatMap_append, List.flatMap_singleton, ← List.append_assoc, ← split] at waiting
    simpa using waiting.symm

theorem drain_finished (scheduler : Deferred)
    (uncrashed : ∀ task ∈ scheduler.drainTasks, task.crashes = false) :
    scheduler.drain.1 = .finished scheduler.drainTasks.length ∧
      scheduler.drain.2.queue.waiting = [] := by
  have ends := (scheduler.drainFrom_recounts 0).2
  change EndsAs _ 0 scheduler.drain.2 scheduler.drain.1 at ends
  cases ended : scheduler.drain.1 with
  | finished total =>
    rw [ended] at ends
    obtain ⟨rfl, empty, -⟩ := ends
    exact ⟨by rw [Nat.zero_add], empty⟩
  | crashed =>
    rw [ended] at ends
    obtain ⟨earlier, last, all, crashes, -⟩ := ends
    exact absurd crashes (Bool.eq_false_iff.mp (uncrashed last (by simp [all])))

/-! ## Scripts -/

theorem stepDeferred_run (scheduler : Deferred) :
    Scheduler.stepDeferred scheduler .run =
      (match scheduler.drain.1 with
        | .finished count => .count count
        | .crashed => .crash, scheduler.drain.2) := by
  simp only [Scheduler.stepDeferred]
  generalize scheduler.drain = result
  obtain ⟨ended, later⟩ := result
  cases ended <;> rfl

theorem stepDeferred_recounts (scheduler : Deferred) (step : Scheduler.Step) :
    Recounts scheduler (scheduler.happens step) (Scheduler.stepDeferred scheduler step).2 := by
  cases step with
  | submit task => exact .submit scheduler task
  | run =>
    rw [stepDeferred_run]
    exact (scheduler.drainFrom_recounts 0).1
  | name | threads | pending | submitted | ran => exact .still scheduler

theorem after_recounts (scheduler : Deferred) (steps : List Scheduler.Step) :
    Recounts scheduler (scheduler.history steps) (scheduler.after steps) := by
  induction steps generalizing scheduler with
  | nil => exact .still scheduler
  | cons step rest inductionHypothesis =>
    exact (scheduler.stepDeferred_recounts step).trans (inductionHypothesis _)

end

/-- Whatever a script does with a deferred scheduler, each task runs once and in the order of
submission, and drains end; a crash costs one task and ends its drain. -/
theorem tasks_in_order (steps : List Scheduler.Step) :
    let events := history {} steps
    let scheduler := after {} steps
    let tasks := scheduler.drainTasks
    let drained := Scheduler.stepDeferred scheduler .run
    let next := drained.2.drainTasks
    (submissions events = runs events ++ scheduler.queue.waiting ∧
      (∀ first task rest, events = first ++ .ran task :: rest →
        runs first ++ [task] <+: submissions first) ∧
      scheduler.ran = (runs events).map Task.label ∧
      scheduler.queue.submitted = (runs events).length + scheduler.queue.pending) ∧
    (scheduler.queue.waiting ++ tasks.flatMap Task.children = tasks ++ drained.2.queue.waiting ∧
      drained.2.ran = scheduler.ran ++ tasks.map Task.label ∧
      tasks.length + Task.sizeAll drained.2.queue.waiting =
        Task.sizeAll scheduler.queue.waiting) ∧
    ((∀ task ∈ tasks, task.crashes = false) →
      drained.1 = .count tasks.length ∧ drained.2.queue.pending = 0 ∧
      tasks = scheduler.queue.waiting ++ tasks.flatMap Task.children) ∧
    ∀ task ∈ tasks, task.crashes = true → drained.1 = .crash ∧ ∃ earlier behind,
      tasks = earlier ++ [task] ∧ (∀ other ∈ earlier, other.crashes = false) ∧
      scheduler.queue.waiting ++ earlier.flatMap Task.children = earlier ++ task :: behind ∧
      drained.2.queue.waiting = behind ++ task.children ∧
      ((∀ other ∈ next, other.crashes = false) →
        next = behind ++ task.children ++ next.flatMap Task.children) := by
  intro events scheduler tasks drained next
  have recounts : Recounts {} events scheduler := after_recounts {} steps
  have conserves : submissions events = runs events ++ scheduler.queue.waiting :=
    recounts.fifo.conserves
  have run : drained = _ := scheduler.stepDeferred_run
  have later : drained.2 = scheduler.drain.2 := congrArg Prod.snd run
  refine ⟨⟨conserves, ?_, ?_, ?_⟩, ⟨?_, ?_, ?_⟩, ?_, ?_⟩
  · intro first task rest split
    have fifo := recounts.fifo
    rw [split] at fifo
    exact fifo.oldest
  · exact recounts.ran
  · have submitted : scheduler.queue.submitted = 0 + (submissions events).length :=
      recounts.submitted
    rw [submitted, conserves, Nat.zero_add, List.length_append]
    rfl
  · rw [later]
    exact scheduler.waiting_drain
  · have ran := (scheduler.drainFrom_recounts 0).1.ran
    rw [runs_flatMap] at ran
    rw [later]
    exact ran
  · rw [later]
    exact scheduler.sizeAll_drain
  · intro uncrashed
    obtain ⟨finished, empty⟩ := scheduler.drain_finished uncrashed
    have waiting := scheduler.waiting_drain
    rw [empty, List.append_nil] at waiting
    refine ⟨?_, ?_, waiting.symm⟩
    · rw [run, finished]
    · rw [later, Queue.pending, empty]
      rfl
  · intro task member crashes
    -- A crash ends the drain, and what waits then is the rest and what the crashed task submitted.
    obtain ⟨crashed, earlier, behind, all, others, split, waiting⟩ :=
      scheduler.drain_crash member crashes
    refine ⟨by rw [run, crashed], earlier, behind, all, others, split, by rw [later, waiting], ?_⟩
    intro uncrashed
    have next := drained.2.waiting_drain
    rw [(drained.2.drain_finished uncrashed).2, List.append_nil, later, waiting] at next
    rw [← later] at next
    exact next.symm

/-- A task that crashes after it has submitted another, with one more behind it. -/
theorem tasks_in_order_crash :
    let child : Task := .mk "child" [] false
    let crashing : Task := .mk "crashing" [child] true
    let behind : Task := .mk "behind" [] false
    let scheduler := after {} [.submit crashing, .submit behind]
    scheduler.drainTasks = [crashing] ∧ crashing.crashes = true ∧
      (Scheduler.stepDeferred scheduler .run).1 = .crash ∧
      (Scheduler.stepDeferred scheduler .run).2.queue.waiting = [behind, child] := by
  intro child crashing behind scheduler
  have tasks : scheduler.drainTasks = [crashing] := by
    rw [drainTasks]
    rfl
  obtain ⟨-, -, -, crash⟩ := tasks_in_order [.submit crashing, .submit behind]
  obtain ⟨crashed, earlier, rest, all, -, split, waiting, -⟩ :=
    crash crashing (tasks ▸ List.mem_singleton.mpr rfl) rfl
  have none : earlier = [] := by
    rw [tasks] at all
    simpa using all
  subst none
  obtain rfl : [behind] = rest := List.tail_eq_of_cons_eq split
  exact ⟨tasks, rfl, crashed, waiting⟩

end Deferred

end HotPath
