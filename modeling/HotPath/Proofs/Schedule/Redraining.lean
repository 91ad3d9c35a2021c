import HotPath.Proofs.Schedule.Workers

/-!
A pool and a deferred scheduler run the same work, where no task submits another. A pool that is
closed and waited for has run every task once, in spite of crashes; a deferred scheduler gets there
when it is drained again after each crash. A single worker runs the tasks in the same order as the
deferred scheduler.
-/

namespace HotPath

open Deferred (Event submissions runs)
open scoped List

def Scheduler.Step.task? : Scheduler.Step → Option Task
  | .submit task => some task
  | .name | .threads | .pending | .submitted | .run | .ran => none

namespace Deferred

/-! ## Drains after crashes -/

section

variable {scheduler : Deferred}

theorem drainTasks_isPrefix (scheduler : Deferred)
    (childless : ∀ task ∈ scheduler.queue.waiting, task.children = []) :
    scheduler.drainTasks <+: scheduler.queue.waiting := by
  fun_induction drainTasks scheduler with
  | case1 scheduler empty => exact List.nil_prefix
  | case2 scheduler task rest oldest crashes =>
    rw [oldest]
    exact ⟨rest, rfl⟩
  | case3 scheduler task rest oldest runs inductionHypothesis =>
    rw [oldest] at childless ⊢
    obtain ⟨none, others⟩ := List.forall_mem_cons.mp childless
    have behind : (scheduler.afterRunning task rest).queue.waiting = rest := by
      rw [afterRunning, Queue.submitAll, none, List.append_nil]
    rw [behind] at inductionHypothesis
    exact (List.prefix_cons_inj task).mpr (inductionHypothesis others)

/-- Where no task submits another, a drain takes its tasks from the front of the queue. -/
theorem waiting_eq_drainTasks_append
    (childless : ∀ task ∈ scheduler.queue.waiting, task.children = []) :
    scheduler.queue.waiting = scheduler.drainTasks ++ scheduler.drain.2.queue.waiting := by
  have none : scheduler.drainTasks.flatMap Task.children = [] :=
    List.flatMap_eq_nil_iff.mpr fun task member =>
      childless task ((scheduler.drainTasks_isPrefix childless).subset member)
  rw [← waiting_drain, none, List.append_nil]

theorem submissions_history (steps : List Scheduler.Step)
    (childless : ∀ task ∈ scheduler.queue.waiting, task.children = [])
    (others : ∀ task ∈ steps.filterMap Scheduler.Step.task?, task.children = []) :
    submissions (scheduler.history steps) = steps.filterMap Scheduler.Step.task? := by
  induction steps generalizing scheduler with
  | nil => rfl
  | cons step rest inductionHypothesis =>
    rw [history, submissions_append]
    cases step with
    | submit task =>
      have whole : (Scheduler.Step.submit task :: rest).filterMap Scheduler.Step.task? =
        task :: rest.filterMap Scheduler.Step.task? := rfl
      rw [whole] at others ⊢
      obtain ⟨none, others⟩ := List.forall_mem_cons.mp others
      have later : ∀ other ∈ (scheduler.submit task).queue.waiting, other.children = [] :=
        List.forall_mem_append.mpr ⟨childless, List.forall_mem_singleton.mpr none⟩
      exact congrArg (task :: ·) (inductionHypothesis later others)
    | run =>
      have split := waiting_eq_drainTasks_append childless
      rw [split, List.forall_mem_append] at childless
      have none : scheduler.drainTasks.flatMap Task.children = [] :=
        List.flatMap_eq_nil_iff.mpr childless.1
      rw [happens, submissions_flatMap, none, List.nil_append, stepDeferred_run]
      exact inductionHypothesis childless.2 others
    | name | threads | pending | submitted | ran =>
      exact inductionHypothesis childless others

/-- A drain empties the queue or takes a task out of it that crashes. -/
theorem countP_drain (childless : ∀ task ∈ scheduler.queue.waiting, task.children = []) :
    scheduler.drain.2.queue.waiting = [] ∨
      scheduler.drain.2.queue.waiting.countP Task.crashes <
        scheduler.queue.waiting.countP Task.crashes := by
  have split := waiting_eq_drainTasks_append childless
  have ends := (scheduler.drainFrom_recounts 0).2
  change EndsAs _ 0 scheduler.drain.2 scheduler.drain.1 at ends
  cases ended : scheduler.drain.1 with
  | finished total =>
    rw [ended] at ends
    exact .inl ends.2.1
  | crashed =>
    rw [ended] at ends
    obtain ⟨earlier, last, all, crashes, -⟩ := ends
    refine .inr ?_
    rw [split, all, List.countP_append, List.countP_append, List.countP_singleton, if_pos crashes]
    omega

theorem waiting_after_submits (scheduler : Deferred) (tasks : List Task) :
    (scheduler.after (tasks.map .submit)).queue.waiting = scheduler.queue.waiting ++ tasks := by
  induction tasks generalizing scheduler with
  | nil => exact (List.append_nil _).symm
  | cons task rest inductionHypothesis =>
    exact (inductionHypothesis (scheduler.submit task)).trans (List.append_assoc ..)

theorem waiting_after_drains (drains : Nat)
    (childless : ∀ task ∈ scheduler.queue.waiting, task.children = [])
    (enough : scheduler.queue.waiting = [] ∨
      scheduler.queue.waiting.countP Task.crashes < drains) :
    (scheduler.after (List.replicate drains .run)).queue.waiting = [] := by
  induction drains generalizing scheduler with
  | zero => exact enough.resolve_right (Nat.not_lt_zero _)
  | succ drains inductionHypothesis =>
    have split := waiting_eq_drainTasks_append childless
    have first : scheduler.after (List.replicate (drains + 1) .run) =
        scheduler.drain.2.after (List.replicate drains .run) := by
      rw [List.replicate_succ, after, List.foldl_cons, stepDeferred_run]
      rfl
    rw [first]
    refine inductionHypothesis ?_ ?_
    · rw [split, List.forall_mem_append] at childless
      exact childless.2
    · rcases enough with empty | enough
      · exact .inl (List.append_eq_nil_iff.mp (split.symm.trans empty)).2
      · exact (countP_drain childless).imp_right fun fewer => by omega

end

/-- The steps that submit some tasks and then drain a scheduler so many times. -/
def redraining (tasks : List Task) (drains : Nat) : List Scheduler.Step :=
  tasks.map .submit ++ List.replicate drains .run

theorem pending_redraining {tasks : List Task} {drains : Nat}
    (childless : ∀ task ∈ tasks, task.children = [])
    (enough : tasks.countP Task.crashes < drains) :
    (after {} (redraining tasks drains)).queue.pending = 0 := by
  have queued : (after {} (tasks.map .submit)).queue.waiting = tasks :=
    waiting_after_submits {} tasks
  rw [← queued] at childless enough
  rw [redraining, after, List.foldl_append, Queue.pending, List.length_eq_zero_iff]
  exact waiting_after_drains drains childless (.inr enough)

/-- Drained until nothing is left, a scheduler has run the tasks in the order in which they were
submitted. -/
theorem redraining_exact {tasks : List Task} {drains : Nat}
    (childless : ∀ task ∈ tasks, task.children = [])
    (drained : (after {} (redraining tasks drains)).queue.pending = 0) :
    runs (history {} (redraining tasks drains)) = tasks ∧
      (after {} (redraining tasks drains)).ran = tasks.map Task.label := by
  have submitted : (redraining tasks drains).filterMap Scheduler.Step.task? = tasks := by
    rw [redraining, List.filterMap_append, List.filterMap_map, List.filterMap_replicate_of_none rfl,
      List.append_nil]
    exact List.filterMap_some
  have recounts := after_recounts {} (redraining tasks drains)
  have conserves := recounts.fifo.conserves
  rw [List.length_eq_zero_iff.mp drained, List.append_nil,
    submissions_history _ (List.forall_mem_nil _) (by rwa [submitted]), submitted] at conserves
  have all : runs (history {} (redraining tasks drains)) = tasks := conserves.symm
  refine ⟨all, ?_⟩
  rw [recounts.ran, all]
  rfl

end Deferred

namespace Pool

/-! ## The pool and the deferred scheduler -/

theorem workersFor_pos {processors : Nat} (positive : 0 < processors) (threads : Nat) :
    0 < workersFor processors threads := by
  unfold workersFor
  split
  · exact positive
  · omega

theorem outstanding_start (processors threads : Nat) :
    (start processors threads).outstanding = [] := by
  simp [outstanding, start]

section

variable {tasks : List Task} {actions : List Action} {processors threads : Nat}

/-- The turns that a pool needs once its queue is closed. -/
theorem remaining_le (submits : actions.filterMap Action.task? = tasks) :
    ((start processors threads).after actions).close.remaining ≤
      2 * tasks.length + workersFor processors threads := by
  have recounts := after_recounts (start processors threads) actions
  have conserves := recounts.conserves.length_eq
  rw [outstanding_start, submissions_history, submits, outstanding] at conserves
  simp only [List.nil_append, List.length_append] at conserves
  have workers : _ = workersFor processors threads := recounts.workers.trans List.length_replicate
  have staying : ((start processors threads).after actions).close.staying.card ≤
      workersFor processors threads := by
    rw [← workers, ← Finset.card_range ((start processors threads).after actions).workers.length]
    exact Finset.card_le_card Finset.sdiff_subset
  have needed : ((start processors threads).after actions).close.remaining =
      2 * ((start processors threads).after actions).channel.waiting.length +
        ((start processors threads).after actions).workers.reduceOption.length +
        ((start processors threads).after actions).close.staying.card := rfl
  omega

/-- What a pool has done when all its workers have left. -/
theorem returned_exact {order : List Nat} (positive : 0 < processors)
    (submits : actions.filterMap Action.task? = tasks)
    (returned : (((start processors threads).after actions).close.turns order).HasReturned) :
    let events := (start processors threads).history actions ++
      ((start processors threads).after actions).close.history order
    let closed := ((start processors threads).after actions).close.turns order
    runs events ~ tasks ∧ closed.pool.ran = (runs events).map Task.label ∧
      closed.pool.isIdle = true ∧ (workersFor processors threads = 1 → runs events = tasks) := by
  intro events closed
  have recounts : Recounts (start processors threads) events closed.pool :=
    (after_recounts _ actions).trans ((close _).turns_recounts order)
  have staffed : 0 < closed.pool.workers.length := by
    rw [recounts.workers, start, List.length_replicate]
    exact workersFor_pos positive threads
  have settled : closed.Settled := Closing.turns_settled (Closing.settled_close _) order
  obtain ⟨nothing, idle⟩ := returned.idle settled staffed
  have submitted : submissions events = tasks := by
    rw [Deferred.submissions_append, submissions_history, Closing.submissions_history,
      List.append_nil, submits]
  have conserves := recounts.conserves
  have ordered := recounts.ordered
  rw [outstanding_start, submitted, nothing, List.nil_append, List.append_nil] at conserves ordered
  refine ⟨conserves.symm, recounts.ran, idle, fun single => (ordered ?_).symm⟩
  rw [start, List.length_replicate, single]

end

/-- A closed pool has run each task once when its workers leave, as they do; a single worker takes
them in the order of a deferred scheduler that is drained until nothing is left. -/
theorem pool_runs_as_deferred {processors : Nat} (positive : 0 < processors) (threads : Nat)
    {tasks : List Task} {actions : List Action}
    (childless : ∀ task ∈ tasks, task.children = [])
    (submits : actions.filterMap Action.task? = tasks) :
    let workers := workersFor processors threads
    let closing := ((start processors threads).after actions).close
    let shut := ((start processors threads).after (tasks.map .submit)).shutDown
    (∀ order,
      let events := (start processors threads).history actions ++ closing.history order
      let closed := closing.turns order
      closed.HasReturned →
        runs events ~ tasks ∧ closed.pool.ran = (runs events).map Task.label ∧
          closed.pool.isIdle = true ∧
          (workers = 1 → runs events = tasks ∧ ∀ drains,
            let steps := Deferred.redraining tasks drains
            (Deferred.after {} steps).queue.pending = 0 →
              runs (Deferred.history {} steps) = runs events ∧
                (Deferred.after {} steps).ran = closed.pool.ran)) ∧
    (∀ order, (∀ worker < workers, 2 * tasks.length + workers ≤ order.count worker) →
      (closing.turns order).HasReturned) ∧
    (∀ drains, tasks.countP Task.crashes < drains →
      (Deferred.after {} (Deferred.redraining tasks drains)).queue.pending = 0) ∧
    shut.isIdle = true ∧ shut.ran = tasks.map Task.label := by
  intro workers closing shut
  refine ⟨?_, ?_, ?_, ?_⟩
  · intro order events closed returned
    obtain ⟨all, ran, idle, ordered⟩ := returned_exact positive submits returned
    refine ⟨all, ran, idle, fun single => ⟨ordered single, ?_⟩⟩
    intro drains steps drained
    -- One worker and repeated drains both run the tasks in the order of their submission.
    obtain ⟨same, labels⟩ := Deferred.redraining_exact childless drained
    exact ⟨same.trans (ordered single).symm, by rw [labels, ran, ordered single]⟩
  · intro order fair
    have staffed : closing.pool.workers.length = workers :=
      (after_recounts _ actions).workers.trans List.length_replicate
    refine Closing.turns_hasReturned fun worker inside => ?_
    exact (remaining_le submits).trans (fair worker (staffed ▸ inside))
  · exact fun drains enough => Deferred.pending_redraining childless enough
  · obtain ⟨same, waiting, ran⟩ := after_submits (start processors threads) tasks
    have whole := shutDown_of_idle (workersFor_pos positive threads) same
    rwa [waiting, ran] at whole

/-- A single worker takes a task that crashes before another one is submitted, and the queue
is closed. -/
theorem pool_runs_as_deferred_crash :
    let tasks : List Task := [.mk "crashing" [] true, .mk "behind" [] false]
    let actions : List Action :=
      [.submit (.mk "crashing" [] true), .turn 0, .submit (.mk "behind" [] false)]
    let closing := ((start 1 0).after actions).close
    let order := List.replicate 5 0
    let steps := Deferred.redraining tasks 2
    0 < 1 ∧ (∀ task ∈ tasks, task.children = []) ∧ actions.filterMap Action.task? = tasks ∧
      (closing.turns order).HasReturned ∧ (Deferred.after {} steps).queue.pending = 0 ∧
      runs ((start 1 0).history actions ++ closing.history order) = tasks ∧
      (closing.turns order).pool.ran = ["crashing", "behind"] ∧
      (Deferred.after {} steps).ran = ["crashing", "behind"] := by
  -- with its abbreviations spelled out the goal is, word for word, what the theorem gives
  dsimp only
  have childless : ∀ task ∈ [Task.mk "crashing" [] true, .mk "behind" [] false],
      task.children = [] := by
    simp [Task.children]
  have submits : [Action.submit (.mk "crashing" [] true), .turn 0,
      .submit (.mk "behind" [] false)].filterMap Action.task? =
        [.mk "crashing" [] true, .mk "behind" [] false] := rfl
  have positive : 0 < 1 := Nat.one_pos
  obtain ⟨returns, fair, drains, -⟩ := pool_runs_as_deferred positive 0 childless submits
  have returned := fair (List.replicate 5 0) (by decide)
  have drained := drains 2 (by decide)
  obtain ⟨-, ran, -, single⟩ := returns _ returned
  obtain ⟨ordered, same⟩ := single rfl
  obtain ⟨-, others⟩ := same 2 drained
  refine ⟨positive, childless, submits, returned, drained, ordered, ?_, ?_⟩
  · rw [ran, ordered]
    rfl
  · rw [others, ran, ordered]
    rfl

end Pool

end HotPath
