import HotPath.Proofs.Native.ReferenceCode
import HotPath.Proofs.Tier.Turns

/-!
The promotion of a function is kept three times over: as a state, as the code or the error that
compiling gave, and in counters. In every state of every run they agree, and a function whose
promotion is scheduled still has its one task in a queue.
-/

namespace HotPath

namespace Promotion

inductive Advances : Promotion → Promotion → Prop where
  | stays (promotion : Promotion) : Advances promotion promotion
  | schedules : Advances .cold .scheduled
  | compiles {promotion : Promotion} (pending : promotion = .cold ∨ promotion = .scheduled) :
      Advances promotion .compiled
  | fails {promotion : Promotion} (pending : promotion = .cold ∨ promotion = .scheduled) :
      Advances promotion .failed

theorem Advances.trans {first second third : Promotion} (before : first.Advances second)
    (after : second.Advances third) : first.Advances third := by
  cases before with
  | stays => exact after
  | schedules =>
    cases after with
    | stays => exact .schedules
    | compiles => exact .compiles (.inl rfl)
    | fails => exact .fails (.inl rfl)
  | compiles pending =>
    cases after with
    | stays => exact .compiles pending
    | compiles => exact .compiles pending
    | fails done => simp at done
  | fails pending =>
    cases after with
    | stays => exact .fails pending
    | fails => exact .fails pending
    | compiles done => simp at done

end Promotion

namespace Controller

theorem cold_of_due {policy : Policy} {controller counted : Controller}
    (count : controller.countCall? = some counted) (due : counted.isDue policy = true) :
    controller.promotion = .cold := by
  obtain rfl := countCall?_eq_some count
  simp only [isDue, Bool.and_eq_true, beq_iff_eq] at due
  exact due.2

/-- What a controller keeps about its promotion agrees. -/
structure Coherent (policy : Policy) (controller : Controller) : Prop where
  published : controller.published.isSome = true ↔ controller.promotion = .compiled
  completed : controller.counters.completed = if controller.promotion = .compiled then 1 else 0
  failure : controller.failure.isSome = true ↔ controller.promotion = .failed
  failed : controller.counters.failed = if controller.promotion = .failed then 1 else 0
  once : controller.counters.scheduled ≤ 1
  scheduled : controller.promotion = .scheduled → controller.counters.scheduled = 1
  unscheduled : controller.promotion = .cold → controller.counters.scheduled = 0
  early : controller.promotion = .cold → policy.enabled = true →
    controller.executionCount < max 1 policy.threshold

variable {policy : Policy} {controller : Controller}

theorem coherent_new (policy : Policy) (definition : Definition) (scheduler : SchedulerId) :
    Coherent policy { definition, scheduler } where
  published := by simp
  completed := by simp
  failure := by simp
  failed := by simp
  once := by simp
  scheduled := by simp
  unscheduled := by simp
  early _ _ := Nat.lt_of_lt_of_le Nat.zero_lt_one (Nat.le_max_left ..)

/-- Without an answer of the compiler, a function is cold or scheduled. -/
theorem Coherent.pending (coherent : Coherent policy controller)
    (unsettled : controller.settled? = none) :
    controller.promotion = .cold ∨ controller.promotion = .scheduled := by
  obtain ⟨unpublished, unfailed⟩ := settled?_eq_none_iff.mp unsettled
  have notCompiled := coherent.published
  have notFailed := coherent.failure
  cases promotion : controller.promotion with
  | cold => exact .inl rfl
  | scheduled => exact .inr rfl
  | compiled => simp [unpublished, promotion] at notCompiled
  | failed => simp [unfailed, promotion] at notFailed

theorem Coherent.unsettled (coherent : Coherent policy controller)
    (pending : controller.promotion = .cold ∨ controller.promotion = .scheduled) :
    controller.settled? = none := by
  rw [settled?_eq_none_iff]
  have published := coherent.published
  have failure := coherent.failure
  rcases pending with promotion | promotion
  · simp_all
  · simp_all

theorem Coherent.keep (coherent : Coherent policy controller) (micros : Nat)
    (code : Except CompileError CompiledCode) (unsettled : controller.settled? = none) :
    Coherent policy (controller.keep micros code) := by
  obtain ⟨unpublished, unfailed⟩ := settled?_eq_none_iff.mp unsettled
  have pending := coherent.pending unsettled
  have completed : controller.counters.completed = 0 := by
    rcases pending with promotion | promotion <;> simp [coherent.completed, promotion]
  have failed : controller.counters.failed = 0 := by
    rcases pending with promotion | promotion <;> simp [coherent.failed, promotion]
  have once := coherent.once
  cases code <;> constructor <;>
    simp [Controller.keep, unpublished, unfailed, completed, failed, once]

theorem Coherent.change {setup : Setup} {asked : Prop} {changed : Controller}
    (coherent : Coherent setup.policy controller)
    (change : controller.Change setup asked changed) :
    Coherent setup.policy changed := by
  cases change with
  | compiled unsettled => exact coherent.keep _ _ unsettled
  | kept => exact coherent
  | interpreted | promoted =>
    obtain ⟨published, completed, failure, failed, once, scheduled, unscheduled, early⟩ := coherent
    exact ⟨published, completed, failure, failed, once, scheduled, unscheduled, early⟩
  | counted enabled count notDue =>
    obtain rfl := countCall?_eq_some count
    obtain ⟨published, completed, failure, failed, once, scheduled, unscheduled, -⟩ := coherent
    refine ⟨published, completed, failure, failed, once, scheduled, unscheduled, ?_⟩
    intro cold _
    refine Nat.lt_of_lt_of_le (Nat.lt_of_not_le fun reached => ?_) (Nat.le_max_right ..)
    simp [isDue, reached, show controller.promotion = .cold from cold] at notDue
  | scheduled enabled count due =>
    have cold := cold_of_due count due
    obtain rfl := countCall?_eq_some count
    have published := coherent.published
    have failure := coherent.failure
    have completed := coherent.completed
    have failed := coherent.failed
    have none := coherent.unscheduled cold
    rw [cold] at published failure completed failed
    constructor <;> simp_all [markScheduled]

theorem Coherent.advances {setup : Setup} {asked : Prop} {changed : Controller}
    (coherent : Coherent setup.policy controller)
    (change : controller.Change setup asked changed) :
    controller.promotion.Advances changed.promotion := by
  cases change with
  | kept | interpreted | promoted => exact .stays _
  | compiled unsettled =>
    have pending := coherent.pending unsettled
    cases controller.generate setup.compiler with
    | ok code => exact .compiles pending
    | error error => exact .fails pending
  | counted enabled count =>
    obtain rfl := countCall?_eq_some count
    exact .stays _
  | scheduled enabled count due =>
    have cold := cold_of_due count due
    obtain rfl := countCall?_eq_some count
    rw [cold]
    exact .schedules

/-- What compiling gave is kept. -/
structure Keeps (controller later : Controller) : Prop where
  published : ∀ code, controller.published = some code → later.published = some code
  failure : ∀ error, controller.failure = some error → later.failure = some error

theorem keeps_self (controller : Controller) : controller.Keeps controller :=
  ⟨fun _ published => published, fun _ failed => failed⟩

theorem Keeps.trans {second third : Controller} (before : controller.Keeps second)
    (after : second.Keeps third) : controller.Keeps third :=
  ⟨fun code published => after.published code (before.published code published),
    fun error failed => after.failure error (before.failure error failed)⟩

theorem Change.keeps {setup : Setup} {asked : Prop} {changed : Controller}
    (change : controller.Change setup asked changed) : controller.Keeps changed :=
  ⟨fun _ => change.published, fun _ => change.failure⟩

/-- A change that hands nothing over to a scheduler. -/
structure Quiet (controller changed : Controller) : Prop where
  scheduler : changed.scheduler = controller.scheduler
  submitted : changed.counters.scheduled = controller.counters.scheduled
  promotion : changed.promotion = .scheduled → controller.promotion = .scheduled

theorem quiet_self (controller : Controller) : controller.Quiet controller := ⟨rfl, rfl, id⟩

theorem quiet_keep (controller : Controller) (micros : Nat)
    (code : Except CompileError CompiledCode) : controller.Quiet (controller.keep micros code) := by
  cases code <;> exact ⟨rfl, rfl, by simp [Controller.keep]⟩

theorem quiet_countCall {counted : Controller} (count : controller.countCall? = some counted) :
    controller.Quiet counted := by
  obtain rfl := countCall?_eq_some count
  exact ⟨rfl, rfl, fun promotion => promotion⟩

theorem quiet_countInterpreted (controller : Controller) :
    controller.Quiet controller.countInterpreted := ⟨rfl, rfl, fun promotion => promotion⟩

theorem quiet_countPromoted (controller : Controller) :
    controller.Quiet controller.countPromoted := ⟨rfl, rfl, fun promotion => promotion⟩

end Controller

namespace Engine

variable {setup : Setup} {named : Definition → Prop} {asked : ControllerId → Prop}
  {engine next : Engine}

private theorem quiet_of_set {id : ControllerId} {controller changed : Controller}
    (found : engine.controllers[id]? = some controller) (quiet : controller.Quiet changed)
    (result : next.controllers = engine.controllers.setIfInBounds id changed)
    {other : ControllerId} {before after : Controller}
    (earlier : engine.controllers[other]? = some before)
    (later : next.controllers[other]? = some after) : before.Quiet after := by
  rw [result, Array.getElem?_setIfInBounds] at later
  by_cases its : id = other
  · subst its
    obtain ⟨bound, -⟩ := Array.getElem?_eq_some_iff.mp found
    rw [if_pos rfl, if_pos bound] at later
    cases later
    cases found.symm.trans earlier
    exact quiet
  · rw [if_neg its, earlier] at later
    cases later
    exact before.quiet_self

private theorem quiet_of_same (result : next.controllers = engine.controllers)
    {other : ControllerId} {before after : Controller}
    (earlier : engine.controllers[other]? = some before)
    (later : next.controllers[other]? = some after) : before.Quiet after := by
  rw [result, earlier] at later
  cases later
  exact before.quiet_self

/-- What a move does to the queues: nothing, in which case it hands no function over;
or it makes a queue, or adds or removes one task. -/
theorem Move.queues_cases (move : Move setup named asked engine next) :
    (next.schedulers = engine.schedulers ∧
      (engine.current < engine.schedulers.size → next.current < engine.schedulers.size) ∧
      ∀ {id : ControllerId} {before after : Controller}, engine.controllers[id]? = some before →
        next.controllers[id]? = some after → before.Quiet after) ∨
    (∃ kind drained, next = engine.install kind drained) ∨
    (∃ id controller counted, engine.controllers[id]? = some controller ∧
      controller.countCall? = some counted ∧ counted.isDue setup.policy = true ∧
      next = (engine.setController id counted.markScheduled).submitTask counted.scheduler id) ∨
    (∃ scheduler id rest, engine.waiting scheduler = id :: rest ∧
      (engine.isLive id = true → ∀ controller, engine.controllers[id]? = some controller →
        controller.settled? ≠ none) ∧
      next = engine.dropTask scheduler) := by
  cases move with
  | memory | logged | released | held | unheld | pinned | entered | boundCompiled
    | boundInterpreted | dropped => exact .inl ⟨rfl, id, quiet_of_same rfl⟩
  | reinstalled installed drained => exact .inl ⟨rfl, fun _ => installed, quiet_of_same rfl⟩
  | tracked mentioned untracked =>
    refine .inl ⟨rfl, id, ?_⟩
    intro id before after earlier later
    obtain ⟨bound, -⟩ := Array.getElem?_eq_some_iff.mp earlier
    simp only at later
    rw [Array.getElem?_push, if_neg (Nat.ne_of_lt bound), earlier] at later
    cases later
    exact before.quiet_self
  | compiled found unsettled request =>
    exact .inl ⟨rfl, id, quiet_of_set found (Controller.quiet_keep _ _ _) rfl⟩
  | counted found enabled count early =>
    exact .inl ⟨rfl, id, quiet_of_set found (Controller.quiet_countCall count) rfl⟩
  | @interpreted target handle its holder refers =>
    cases found : engine.controllers[its]? with
    | none => exact .inl ⟨rfl, id, quiet_of_same (modify_missing found _)⟩
    | some controller =>
      exact .inl ⟨rfl, id, quiet_of_set found controller.quiet_countInterpreted
        (modify_controller found _)⟩
  | switched holder found fits =>
    exact .inl ⟨rfl, id, quiet_of_set found (Controller.quiet_countPromoted _)
      (modify_controller found _)⟩
  | installed kind drained => exact .inr (.inl ⟨kind, drained, rfl⟩)
  | scheduled found enabled count due =>
    exact .inr (.inr (.inl ⟨_, _, _, found, count, due, rfl⟩))
  | dequeued first finished => exact .inr (.inr (.inr ⟨_, _, _, first, finished, rfl⟩))

/-- The tasks of a controller: at most one, in the queue of its own scheduler, and
there is one as long as its promotion is scheduled and something refers to it. -/
structure Tasked (engine : Engine) (id : ControllerId) (controller : Controller) : Prop where
  installed : controller.scheduler < engine.schedulers.size
  submitted : ∀ scheduler, (engine.waiting scheduler).count id ≤
    if scheduler = controller.scheduler then controller.counters.scheduled else 0
  waits : controller.promotion = .scheduled → engine.isLive id = true →
    id ∈ engine.waiting controller.scheduler

theorem Tasked.count_unsubmitted {id : ControllerId} {controller : Controller}
    (tasked : engine.Tasked id controller) (none : controller.counters.scheduled = 0)
    (scheduler : SchedulerId) : (engine.waiting scheduler).count id = 0 := by
  have atMost := tasked.submitted scheduler
  rw [none, ite_self] at atMost
  exact Nat.le_zero.mp atMost

/-- Controllers are coherent, and queues hold their tasks and nothing else. -/
structure Orderly (policy : Policy) (engine : Engine) : Prop where
  current : engine.current < engine.schedulers.size
  queued : ∀ scheduler id, id ∈ engine.waiting scheduler → id < engine.controllers.size
  coherent : ∀ {id : ControllerId} {controller : Controller},
    engine.controllers[id]? = some controller → controller.Coherent policy
  tasked : ∀ {id : ControllerId} {controller : Controller},
    engine.controllers[id]? = some controller → engine.Tasked id controller

theorem orderly_install (kind : SchedulerKind) (drained : Bool) :
    Orderly setup.policy (({} : Engine).install kind drained) where
  current := by simp [install]
  queued scheduler id member := by
    rw [waiting_install] at member
    simp [waiting] at member
  coherent found := by simp [install] at found
  tasked found := by simp [install] at found

variable {id : ControllerId} {controller : Controller}

private theorem Orderly.count_fresh {policy : Policy} (orderly : Orderly policy engine)
    (scheduler : SchedulerId) : (engine.waiting scheduler).count engine.controllers.size = 0 :=
  List.count_eq_zero.mpr fun member => Nat.lt_irrefl _ (orderly.queued scheduler _ member)

private theorem Orderly.tasked_of_quiet {setup : Setup} (orderly : Orderly setup.policy engine)
    (move : Move setup named asked engine next) (schedulers : next.schedulers = engine.schedulers)
    (quiet : ∀ {id : ControllerId} {before after : Controller},
      engine.controllers[id]? = some before → next.controllers[id]? = some after →
      before.Quiet after)
    (found : next.controllers[id]? = some controller) : next.Tasked id controller := by
  have waits : ∀ scheduler, next.waiting scheduler = engine.waiting scheduler := by
    intro scheduler
    rw [waiting, schedulers, waiting]
  rcases move.controller_origin found with ⟨earlier, present, -⟩ | ⟨rfl, definition, -, -, rfl⟩
  · obtain ⟨bound, -⟩ := Array.getElem?_eq_some_iff.mp present
    obtain ⟨scheduler, submitted, promotion⟩ := quiet present found
    have tasked := orderly.tasked present
    constructor
    · rw [scheduler, schedulers]
      exact tasked.installed
    · intro other
      rw [waits, scheduler, submitted]
      exact tasked.submitted other
    · intro scheduled live
      rw [waits, scheduler]
      exact tasked.waits (promotion scheduled) (move.isLive_of bound live)
  · constructor
    · rw [schedulers]
      exact orderly.current
    · intro other
      rw [waits, orderly.count_fresh]
      exact Nat.zero_le _
    · intro scheduled
      cases scheduled

private theorem Orderly.tasked_install {policy : Policy} (orderly : Orderly policy engine)
    (kind : SchedulerKind) (drained : Bool) (found : engine.controllers[id]? = some controller) :
    (engine.install kind drained).Tasked id controller := by
  obtain ⟨installed, submitted, waits⟩ := orderly.tasked found
  refine ⟨?_, ?_, ?_⟩
  · simp only [install, Array.size_push]
    exact Nat.lt_succ_of_lt installed
  · intro other
    rw [waiting_install]
    exact submitted other
  · intro scheduled live
    rw [waiting_install]
    exact waits scheduled live

private theorem Orderly.installed_counted {policy : Policy} (orderly : Orderly policy engine)
    {counted : Controller} (present : engine.controllers[id]? = some controller)
    (count : controller.countCall? = some counted) :
    counted.scheduler < engine.schedulers.size :=
  (Controller.quiet_countCall count).scheduler ▸ (orderly.tasked present).installed

private theorem Orderly.waiting_submit {policy : Policy} (orderly : Orderly policy engine)
    {counted : Controller} (present : engine.controllers[id]? = some controller)
    (count : controller.countCall? = some counted) (other : SchedulerId) :
    ((engine.setController id counted.markScheduled).submitTask
      counted.scheduler id).waiting other =
      if other = counted.scheduler then engine.waiting counted.scheduler ++ [id]
      else engine.waiting other :=
  waiting_submitTask (orderly.installed_counted present count) id other

private theorem Orderly.tasked_scheduled (orderly : Orderly setup.policy engine)
    {counting counted : Controller} (present : engine.controllers[id]? = some counting)
    (count : counting.countCall? = some counted) (due : counted.isDue setup.policy = true) :
    ((engine.setController id counted.markScheduled).submitTask counted.scheduler id).Tasked
      id counted.markScheduled := by
  have cold : counting.promotion = .cold := Controller.cold_of_due count due
  have none := (orderly.coherent present).unscheduled cold
  have absent := (orderly.tasked present).count_unsubmitted none
  have waits := orderly.waiting_submit present count
  have placed := orderly.installed_counted present count
  constructor
  · simpa [submitTask, setController, Controller.markScheduled] using placed
  · intro other
    rw [waits]
    split
    · subst other
      simp [absent, Controller.markScheduled]
    · rw [absent]
      exact Nat.zero_le _
  · intro _ _
    rw [waits]
    simp [Controller.markScheduled]

private theorem Orderly.tasked_beside (orderly : Orderly setup.policy engine)
    {target : ControllerId} {counting counted : Controller}
    (present : engine.controllers[target]? = some counting)
    (count : counting.countCall? = some counted) (beside : target ≠ id)
    (found : engine.controllers[id]? = some controller) :
    ((engine.setController target counted.markScheduled).submitTask
      counted.scheduler target).Tasked id controller := by
  obtain ⟨installed, submitted, member⟩ := orderly.tasked found
  have waits := orderly.waiting_submit present count
  constructor
  · simpa [submitTask, setController] using installed
  · intro other
    refine Nat.le_trans (Nat.le_of_eq ?_) (submitted other)
    rw [waits]
    split
    · subst other
      simp [beside]
    · rfl
  · intro scheduled live
    have waiting := member scheduled live
    rw [waits]
    split
    · rename_i same
      exact List.mem_append_left _ (same ▸ waiting)
    · exact waiting

private theorem Orderly.tasked_submit (orderly : Orderly setup.policy engine)
    {target : ControllerId} {counting counted : Controller}
    (present : engine.controllers[target]? = some counting)
    (count : counting.countCall? = some counted) (due : counted.isDue setup.policy = true)
    (found : ((engine.setController target counted.markScheduled).submitTask
      counted.scheduler target).controllers[id]? = some controller) :
    ((engine.setController target counted.markScheduled).submitTask
      counted.scheduler target).Tasked id controller := by
  obtain ⟨bound, -⟩ := Array.getElem?_eq_some_iff.mp present
  change (engine.controllers.setIfInBounds target _)[id]? = some controller at found
  rw [Array.getElem?_setIfInBounds] at found
  by_cases its : target = id
  · subst its
    rw [if_pos rfl, if_pos bound] at found
    cases found
    exact orderly.tasked_scheduled present count due
  · rw [if_neg its] at found
    exact orderly.tasked_beside present count its found

private theorem Orderly.tasked_dropTask {policy : Policy} (orderly : Orderly policy engine)
    {scheduler : SchedulerId} {done : ControllerId} {rest : List ControllerId}
    (first : engine.waiting scheduler = done :: rest)
    (finished : engine.isLive done = true → ∀ controller,
      engine.controllers[done]? = some controller → controller.settled? ≠ none)
    (found : engine.controllers[id]? = some controller) :
    (engine.dropTask scheduler).Tasked id controller := by
  obtain ⟨installed, submitted, member⟩ := orderly.tasked found
  constructor
  · simpa [dropTask] using installed
  · intro other
    refine Nat.le_trans ?_ (submitted other)
    rw [waiting_dropTask]
    split
    · subst other
      exact (List.tail_sublist _).count_le id
    · exact Nat.le_refl _
  · intro scheduled live
    have waiting := member scheduled live
    rw [waiting_dropTask]
    by_cases its : controller.scheduler = scheduler
    · rw [if_pos its, first]
      rw [its, first] at waiting
      rcases List.mem_cons.mp waiting with rfl | later
      · -- A controller with an answer is not scheduled any more.
        have unsettled := (orderly.coherent found).unsettled (.inr scheduled)
        exact absurd unsettled (finished live controller found)
      · exact later
    · rw [if_neg its]
      exact waiting

theorem Orderly.move (orderly : Orderly setup.policy engine)
    (move : Move setup named asked engine next) : Orderly setup.policy next := by
  have coherent {id : ControllerId} {controller : Controller}
      (found : next.controllers[id]? = some controller) :
      controller.Coherent setup.policy := by
    rcases move.controller_origin found with ⟨earlier, present, change⟩ | ⟨-, definition, -, -, rfl⟩
    · exact (orderly.coherent present).change change
    · exact Controller.coherent_new _ _ _
  -- The cases are what a move can do to the queues, and not the moves.
  rcases move.queues_cases with ⟨schedulers, current, quiet⟩ | ⟨kind, drained, rfl⟩ |
    ⟨target, counting, counted, present, count, due, rfl⟩ |
    ⟨scheduler, done, rest, first, finished, rfl⟩
  · refine ⟨?_, ?_, coherent, orderly.tasked_of_quiet move schedulers quiet⟩
    · rw [schedulers]
      exact current orderly.current
    · intro scheduler id member
      rw [waiting, schedulers, ← waiting] at member
      exact Nat.lt_of_lt_of_le (orderly.queued scheduler id member) move.size_controllers
  · refine ⟨?_, ?_, coherent, orderly.tasked_install kind drained⟩
    · simp [install]
    · intro scheduler id member
      rw [waiting_install] at member
      exact orderly.queued scheduler id member
  · refine ⟨?_, ?_, coherent, orderly.tasked_submit present count due⟩
    · simpa [submitTask, setController] using orderly.current
    · intro scheduler id member
      obtain ⟨bound, -⟩ := Array.getElem?_eq_some_iff.mp present
      have existing : id < engine.controllers.size := by
        rw [orderly.waiting_submit present count] at member
        split at member
        · rcases List.mem_append.mp member with earlier | last
          · exact orderly.queued _ id earlier
          · rw [List.mem_singleton.mp last]
            exact bound
        · exact orderly.queued scheduler id member
      simpa [submitTask, setController] using existing
  · refine ⟨?_, ?_, coherent, orderly.tasked_dropTask first finished⟩
    · simpa [dropTask] using orderly.current
    · intro scheduler id member
      rw [waiting_dropTask] at member
      split at member
      · exact orderly.queued _ id (List.mem_of_mem_tail member)
      · exact orderly.queued scheduler id member

theorem Begins.orderly {begun : Engine} (begins : Begins begun) : Orderly setup.policy begun := by
  induction begins with
  | installed kind drained => exact orderly_install kind drained
  | @logged engine _ thread entry earlier =>
    have move : Move setup (fun _ => True) (fun _ => True) engine
      (engine.record (.logged thread entry)) := .logged engine thread entry
    exact earlier.move move

/-- The policy is the same whatever the compiler does. -/
private theorem Orderly.move_compiler {compiler : Compiler} (orderly : Orderly setup.policy engine)
    (move : Move { setup with compiler } named asked engine next) : Orderly setup.policy next :=
  have fixed : Orderly ({ setup with compiler } : Setup).policy engine := orderly
  fixed.move move

theorem Begins.orderly_afterTurns {begun : Engine} (begins : Begins begun) (turns : List Turn) :
    Orderly setup.policy (begun.afterTurns setup turns) :=
  afterTurns_keeps (Orderly setup.policy) (fun _ _ _ move orderly => orderly.move_compiler move)
    begins.orderly turns

/-- What becomes of a controller in the rest of a run. -/
theorem Orderly.later (orderly : Orderly setup.policy engine)
    (found : engine.controllers[id]? = some controller) (turns : List Turn) :
    ∃ later, (engine.afterTurns setup turns).controllers[id]? = some later ∧
      controller.promotion.Advances later.promotion ∧ controller.Keeps later := by
  let follows (next : Engine) : Prop := ∃ later, next.controllers[id]? = some later ∧
    controller.promotion.Advances later.promotion ∧ controller.Keeps later
  have kept : Orderly setup.policy (engine.afterTurns setup turns) ∧
      follows (engine.afterTurns setup turns) := by
    refine afterTurns_keeps (fun next => Orderly setup.policy next ∧ follows next) ?_
      ⟨orderly, controller, found, .stays _, controller.keeps_self⟩ turns
    rintro compiler before after move ⟨orderly, later, present, advances, keeps⟩
    obtain ⟨changed, result, change⟩ := move.controller_change present
    have coherent : later.Coherent ({ setup with compiler } : Setup).policy :=
      orderly.coherent present
    exact ⟨orderly.move_compiler move, changed, result,
      advances.trans (coherent.advances change), keeps.trans change.keeps⟩
  exact kept.2

/-- In every state of every run, published code, recorded failure, counters and queued task agree
with the promotion, which from there only advances. -/
theorem promotion_coherent {begun engine : Engine} (begins : Begins begun) {turns : List Turn}
    (reached : begun.afterTurns setup turns = engine) {id : ControllerId}
    {controller : Controller} (found : engine.controllers[id]? = some controller) :
    (controller.published.isSome = true ↔ controller.promotion = .compiled) ∧
    (controller.promotion = .compiled ↔ controller.counters.completed = 1) ∧
    (controller.failure.isSome = true ↔ controller.promotion = .failed) ∧
    (controller.promotion = .failed ↔ controller.counters.failed = 1) ∧
    ¬ (controller.published.isSome = true ∧ controller.failure.isSome = true) ∧
    controller.counters.scheduled ≤ 1 ∧
    (controller.promotion = .scheduled → controller.counters.scheduled = 1 ∧
      (engine.isLive id = true → ∀ scheduler, (engine.waiting scheduler).count id =
        if scheduler = controller.scheduler then 1 else 0)) ∧
    (controller.promotion = .cold → controller.counters.scheduled = 0 ∧
      (∀ scheduler, id ∉ engine.waiting scheduler) ∧
      controller.published = none ∧ controller.failure = none ∧
      (setup.policy.enabled = true →
        controller.executionCount < max 1 setup.policy.threshold)) ∧
    ∀ rest, ∃ later, (engine.afterTurns setup rest).controllers[id]? = some later ∧
      controller.promotion.Advances later.promotion ∧
      (∀ code, controller.published = some code → later.published = some code) ∧
      (∀ error, controller.failure = some error → later.failure = some error) := by
  subst reached
  have orderly : Orderly setup.policy (begun.afterTurns setup turns) :=
    begins.orderly_afterTurns turns
  have coherent := orderly.coherent found
  have tasked := orderly.tasked found
  refine ⟨coherent.published, ?_, coherent.failure, ?_, ?_, coherent.once, ?_, ?_, ?_⟩
  · rw [coherent.completed]
    split <;> simp [*]
  · rw [coherent.failed]
    split <;> simp [*]
  · rintro ⟨published, failure⟩
    cases (coherent.published.mp published).symm.trans (coherent.failure.mp failure)
  · intro scheduled
    have submitted := coherent.scheduled scheduled
    refine ⟨submitted, fun live scheduler => ?_⟩
    -- One submission puts it into its own queue at most once and into no other; alive, it waits.
    have atMost := tasked.submitted scheduler
    rw [submitted] at atMost
    split
    · subst scheduler
      rw [if_pos rfl] at atMost
      exact Nat.le_antisymm atMost (List.count_pos_iff.mpr (tasked.waits scheduled live))
    · rw [if_neg ‹_›] at atMost
      exact Nat.le_zero.mp atMost
  · intro cold
    have unsubmitted := coherent.unscheduled cold
    obtain ⟨unpublished, unfailed⟩ :=
      Controller.settled?_eq_none_iff.mp (coherent.unsettled (.inl cold))
    refine ⟨unsubmitted, fun scheduler member => ?_, unpublished, unfailed, coherent.early cold⟩
    exact List.count_eq_zero.mp (tasked.count_unsubmitted unsubmitted scheduler) member
  · intro rest
    obtain ⟨later, present, advances, keeps⟩ := orderly.later found rest
    exact ⟨later, present, advances, keeps.published, keeps.failure⟩

theorem promotion_coherent_tally :
    ∃ turns engine controller, plain.afterTurns (eager (.reference none)) turns = engine ∧
      engine.controllers[0]? = some controller ∧ controller.promotion = .scheduled ∧
      engine.isLive 0 = true ∧ controller.counters.scheduled = 1 ∧
      (engine.waiting controller.scheduler).count 0 = 1 := by
  have begins : Begins plain := .installed .shared false
  let turns : List Turn := [
    ⟨.reference none, .newCell (.int 40)⟩,
    ⟨.reference none, .bind .tally (some [0])⟩,
    ⟨.reference (some 0), .invoke 0 [.int 2]⟩]
  let controller : Controller := {
    definition := .tally, scheduler := 0, executionCount := 1, promotion := .scheduled
    counters := { interpreted := 1, scheduled := 1 } }
  have found : (plain.afterTurns (eager (.reference none)) turns).controllers[0]? =
      some controller := rfl
  obtain ⟨-, -, -, -, -, -, scheduled, -, -⟩ := promotion_coherent begins rfl found
  obtain ⟨once, waits⟩ := scheduled rfl
  have live : (plain.afterTurns (eager (.reference none)) turns).isLive 0 = true := rfl
  exact ⟨turns, _, controller, rfl, found, rfl, live, once, waits live 0⟩

end Engine

end HotPath
