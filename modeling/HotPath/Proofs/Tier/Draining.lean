import HotPath.Proofs.Tier.CompileOnce
import HotPath.Proofs.Tier.Ledger
import Mathlib.Data.List.Nodup

/-!
Draining the deferred queue of an engine: every task is taken out, the compiler is asked once for
each function that something still refers to and that has no answer yet, and no function of the
queue stays scheduled, whatever the compiler does.
-/

namespace HotPath

theorem Controller.Coherent.settled {policy : Policy} {controller : Controller}
    (coherent : controller.Coherent policy) (settled : controller.settled? ≠ none) :
    controller.promotion = .compiled ∨ controller.promotion = .failed := by
  cases promotion : controller.promotion with
  | cold => exact absurd (coherent.unsettled (.inl promotion)) settled
  | scheduled => exact absurd (coherent.unsettled (.inr promotion)) settled
  | compiled => exact .inl rfl
  | failed => exact .inr rfl

namespace Engine

def requested (engine : Engine) : List ControllerId :=
  engine.journal.toList.filterMap fun
    | .requested id => some id
    | _ => none

/-- Whether a task still has something to do: something refers to its controller, which
has neither code nor a recorded failure. -/
def isPending (engine : Engine) (id : ControllerId) : Bool :=
  engine.isLive id && (engine.verdict? id).isNone

section

variable {setup : Setup} {engine next : Engine}

/-! ## Tasks -/

theorem requested_log (setup : Setup) (engine : Engine) (entry : LogRecord) :
    (engine.log setup entry).requested = engine.requested := by
  simp [requested, log, record]

theorem requested_compile (setup : Setup) {id : ControllerId} {controller : Controller}
    (found : engine.controllers[id]? = some controller) :
    (engine.compile setup id).2.requested =
      engine.requested ++ if (engine.verdict? id).isNone then [id] else [] := by
  rw [verdict?_eq found]
  cases settled : controller.settled? with
  | some answer =>
    rw [compile_settled found settled]
    simp
  | none =>
    have asked : (engine.record (.requested id)).requested = engine.requested ++ [id] := by
      simp [requested, record]
    unfold compile
    rw [found]
    simp only [settled]
    cases controller.generate setup.compiler with
    | error error => exact asked
    | ok code => exact (requested_log _ _ _).trans asked

theorem requested_runTask (setup : Setup) {id : ControllerId}
    (existing : id < engine.controllers.size) :
    (engine.runTask setup id).requested =
      engine.requested ++ if engine.isPending id then [id] else [] := by
  have found := Array.getElem?_eq_getElem existing
  unfold runTask isPending
  rw [found]
  cases engine.isLive id with
  | false => simp
  | true =>
    have compiled := requested_compile setup found
    simp only [↓reduceIte, Bool.true_and]
    generalize engine.compile setup id = answer at compiled
    obtain ⟨result, after⟩ := answer
    cases result with
    | ok _ => exact compiled
    | error error => exact (requested_log _ _ _).trans compiled

/-- A task leaves the other functions alone. -/
theorem isPending_runTask {scheduler : SchedulerId} {id other : ControllerId}
    {rest : List ControllerId} (first : engine.waiting scheduler = id :: rest)
    (different : other ≠ id) :
    ((engine.dropTask scheduler).runTask setup id).isPending other = engine.isPending other := by
  have moves : Moves setup (fun _ => True) (· = id) engine
      ((engine.dropTask scheduler).runTask setup id) := runTask_moves first fun _ => rfl
  have live : ((engine.dropTask scheduler).runTask setup id).isLive other = engine.isLive other :=
    isLive_runTask id other
  rcases moves.verdict_cases other with ⟨same, -⟩ | ⟨its, -⟩
  · rw [isPending, live, same, isPending]
  · exact absurd its different

/-! ## Queues -/

theorem waiting_runTasks {scheduler : SchedulerId} {tasks rest : List ControllerId}
    (queued : engine.waiting scheduler = tasks ++ rest) :
    (runTasks setup scheduler tasks engine).waiting scheduler = rest := by
  induction tasks generalizing engine with
  | nil => exact queued
  | cons task tasks inductionHypothesis =>
    apply inductionHypothesis
    rw [waiting_runTask, waiting_dropTask, if_pos rfl, queued]
    rfl

theorem isLive_runTasks (setup : Setup) (scheduler : SchedulerId) (tasks : List ControllerId)
    (engine : Engine) (id : ControllerId) :
    (runTasks setup scheduler tasks engine).isLive id = engine.isLive id := by
  induction tasks generalizing engine with
  | nil => rfl
  | cons task tasks inductionHypothesis =>
    rw [runTasks, inductionHypothesis, isLive_runTask, isLive_dropTask]

theorem requested_runTasks {scheduler : SchedulerId} {tasks rest : List ControllerId}
    (queued : engine.waiting scheduler = tasks ++ rest) (once : tasks.Nodup)
    (existing : ∀ id ∈ tasks, id < engine.controllers.size) :
    (runTasks setup scheduler tasks engine).requested =
      engine.requested ++ tasks.filter engine.isPending := by
  induction tasks generalizing engine with
  | nil => simp [runTasks]
  | cons task tasks inductionHypothesis =>
    obtain ⟨fresh, once⟩ := List.nodup_cons.mp once
    have moves : Moves setup (fun _ => True) (fun _ => True) engine
        ((engine.dropTask scheduler).runTask setup task) := runTask_moves queued fun _ => trivial
    have still : ((engine.dropTask scheduler).runTask setup task).waiting scheduler =
        tasks ++ rest := by
      rw [waiting_runTask, waiting_dropTask, if_pos rfl, queued]
      rfl
    have first : ((engine.dropTask scheduler).runTask setup task).requested =
        engine.requested ++ if engine.isPending task then [task] else [] :=
      requested_runTask setup (existing task List.mem_cons_self)
    have later := inductionHypothesis still once fun id member =>
      Nat.lt_of_lt_of_le (existing id (List.mem_cons_of_mem task member)) moves.size_controllers
    have same : tasks.filter ((engine.dropTask scheduler).runTask setup task).isPending =
        tasks.filter engine.isPending := by
      apply List.filter_congr
      intro other member
      apply isPending_runTask queued
      rintro rfl
      exact fresh member
    rw [runTasks, later, first, same, List.filter_cons, List.append_assoc]
    split <;> rfl

/-- No function has two tasks in one queue. -/
theorem Orderly.nodup_waiting {policy : Policy} (orderly : Orderly policy engine)
    (scheduler : SchedulerId) : (engine.waiting scheduler).Nodup := by
  apply List.nodup_iff_count_le_one.mpr
  intro id
  by_cases member : id ∈ engine.waiting scheduler
  · have found := Array.getElem?_eq_getElem (orderly.queued scheduler id member)
    refine Nat.le_trans ((orderly.tasked found).submitted scheduler) ?_
    split
    · exact (orderly.coherent found).once
    · exact Nat.zero_le _
  · rw [List.count_eq_zero.mpr member]
    exact Nat.zero_le _

/-- What draining the queue of a scheduler does to the verdicts: a function with a task
to do gets one, and the others keep theirs. -/
theorem Sound.verdict_runPending {policy : Policy} (sound : Sound policy engine) (setup : Setup)
    {scheduler : SchedulerId} (drains : engine.drainable = some scheduler) (compiler : Compiler)
    {id : ControllerId} {controller : Controller}
    (found : engine.controllers[id]? = some controller) :
    (engine.take setup ⟨compiler, .runPending⟩).2.verdict? id =
      if id ∈ engine.waiting scheduler ∧ engine.isPending id = true
      then some (controller.definition.attempt compiler) else engine.verdict? id := by
  have requests : engine.requests { setup with compiler } .runPending =
      (engine.waiting scheduler).filter engine.isLive := by
    simp only [Engine.requests, drains]
  have moves := take_moves setup engine ⟨compiler, .runPending⟩
  by_cases request : id ∈ engine.requests { setup with compiler } .runPending
  · have both := request
    rw [requests, List.mem_filter] at both
    cases missing : engine.verdict? id with
    | none =>
      obtain ⟨later, present, given, -, -⟩ := perform_attempts sound.grounded request missing
      obtain ⟨same, present', definition⟩ := moves.definition found
      cases present.symm.trans present'
      rw [if_pos ⟨both.1, by simp [isPending, both.2, missing]⟩, ← definition]
      exact given
    | some verdict =>
      rw [if_neg (by simp [isPending, missing])]
      exact moves.verdict?_kept missing
  · have idle : ¬ (id ∈ engine.waiting scheduler ∧ engine.isPending id = true) := by
      rintro ⟨member, pending⟩
      apply request
      rw [requests, List.mem_filter]
      exact ⟨member, (Bool.and_eq_true_iff.mp pending).1⟩
    rw [if_neg idle]
    exact (perform_unasked request).1

/-- Draining the deferred queue empties it, asks the compiler once for each function with
something to do and for no other, and leaves no live one scheduled. -/
theorem drained_completely {begun : Engine} (begins : Begins begun) {turns : List Turn}
    (reached : begun.afterTurns setup turns = engine) {scheduler : SchedulerId}
    (drains : engine.drainable = some scheduler) (compiler : Compiler)
    {answer : Answer} {next : Engine}
    (result : engine.take setup ⟨compiler, .runPending⟩ = (answer, next)) :
    answer = .ran (engine.waiting scheduler).length ∧ next.waiting scheduler = [] ∧
    (engine.waiting scheduler).Nodup ∧
    next.requested =
      engine.requested ++ (engine.waiting scheduler).filter engine.isPending ∧
    (∀ id controller, engine.controllers[id]? = some controller →
      next.verdict? id = if id ∈ engine.waiting scheduler ∧ engine.isPending id = true
        then some (controller.definition.attempt compiler) else engine.verdict? id) ∧
    ∀ id, next.isLive id = engine.isLive id ∧ ∀ controller,
      next.controllers[id]? = some controller → engine.isLive id = true →
      (controller.scheduler = scheduler → controller.promotion ≠ .scheduled) ∧
      (id ∈ engine.waiting scheduler →
        controller.promotion = .compiled ∨ controller.promotion = .failed) := by
  have sound : Sound setup.policy engine := reached ▸ begins.sound.afterTurns turns
  have after : Sound setup.policy next := by
    have taken := sound.take ⟨compiler, .runPending⟩
    rwa [result] at taken
  have drain : (answer, next) = (.ran (engine.waiting scheduler).length,
      runTasks { setup with compiler } scheduler (engine.waiting scheduler) engine) := by
    rw [← result]
    simp only [take, perform, runPending, drains]
    rfl
  obtain ⟨rfl, rfl⟩ := Prod.mk.inj drain
  have once := sound.orderly.nodup_waiting scheduler
  have emptied : (runTasks { setup with compiler } scheduler (engine.waiting scheduler)
      engine).waiting scheduler = [] := waiting_runTasks (List.append_nil _).symm
  refine ⟨rfl, emptied, once, ?_, ?_, fun id => ⟨isLive_runTasks _ _ _ _ id, ?_⟩⟩
  · exact requested_runTasks (List.append_nil _).symm once (sound.orderly.queued scheduler)
  · intro id controller found
    have verdict := sound.verdict_runPending setup drains compiler found
    rwa [result] at verdict
  · intro controller found live
    have still := (isLive_runTasks { setup with compiler } scheduler
      (engine.waiting scheduler) engine id).trans live
    constructor
    · rintro rfl scheduled
      -- A live controller that is handed over waits in the queue of its scheduler.
      have waits := (after.orderly.tasked found).waits scheduled still
      rw [emptied] at waits
      cases waits
    · intro member
      apply (after.orderly.coherent found).settled
      obtain ⟨verdict, given⟩ := runTasks_verdict { setup with compiler }
        (List.append_nil _).symm member (sound.grounded id live) live
      rw [verdict?_eq found] at given
      simp [given]

end

/-- The first task is left in a queue to which the engine goes back later. -/
theorem drained_completely_tally :
    ∃ (engine : Engine) (crashing : Compiler), engine.drainable = some 0 ∧ engine.waiting 0 = [0] ∧
      (engine.take (eager (.reference none)) ⟨crashing, .runPending⟩).1 = .ran 1 ∧
      (engine.take (eager (.reference none)) ⟨crashing, .runPending⟩).2.waiting 0 = [] ∧
      (engine.take (eager (.reference none)) ⟨crashing, .runPending⟩).2.verdict? 0 =
        some (.error (.panicked "boom")) := by
  let begun := ({} : Engine).install .deferred true
  have begins : Begins begun := .installed .deferred true
  let turns : List Turn := [
    ⟨.reference none, .newCell (.int 40)⟩,
    ⟨.reference none, .bind .tally (some [0])⟩,
    ⟨.reference none, .invoke 0 [.int 2]⟩,
    ⟨.reference none, .useScheduler .shared false⟩,
    ⟨.reference none, .reinstall 0 true⟩]
  let crashing : Compiler := ⟨fun _ _ => .crashed (some "boom"), fun _ _ => .crashed (some "boom")⟩
  have crash (definition : Definition) :
      definition.attempt crashing = .error (.panicked "boom") := by
    cases capturing : definition.hasClosure <;>
      simp [Definition.attempt, Definition.generated, Controller.generate, capturing, crashing,
        Generated.map, Except.map]
  -- What is evaluated is settled before the engine becomes a name, so that nothing below runs it.
  have facts : (begun.afterTurns (eager (.reference none)) turns).drainable = some 0 ∧
      (begun.afterTurns (eager (.reference none)) turns).waiting 0 = [0] ∧
      (begun.afterTurns (eager (.reference none)) turns).isPending 0 = true := by decide +kernel
  generalize reached : begun.afterTurns (eager (.reference none)) turns = engine at facts
  obtain ⟨drains, queued, pending⟩ := facts
  have sound : Sound (eager (.reference none)).policy engine :=
    reached ▸ begins.sound.afterTurns turns
  have existing : 0 < engine.controllers.size :=
    sound.grounded 0 (Bool.and_eq_true_iff.mp pending).1
  obtain ⟨ran, emptied, -, -, verdict, -⟩ := drained_completely begins reached drains crashing rfl
  have given := verdict 0 _ (Array.getElem?_eq_getElem existing)
  rw [queued, if_pos ⟨List.mem_singleton.mpr rfl, pending⟩, crash] at given
  rw [queued] at ran
  exact ⟨engine, crashing, drains, queued, ran, emptied, given⟩

end Engine

end HotPath
