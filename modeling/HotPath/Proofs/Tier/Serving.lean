import HotPath.Proofs.Tier.Turns

/-!
How calls are served: by the interpreter, by compiled code, or not at all. Whatever else happens in
a run is idle: it runs no tier, counts no call and submits no task.
-/

namespace HotPath

def Event.isService : Event → Bool
  | .interpreted .. | .entered .. => true
  | _ => false

/-- What a controller has counted about calls. -/
structure CallCounts where
  /-- Calls counted towards the threshold. -/
  counted : Nat := 0
  interpreted : Nat := 0
  promoted : Nat := 0

namespace Controller

def callCounts (controller : Controller) : CallCounts :=
  ⟨controller.executionCount, controller.counters.interpreted, controller.counters.promoted⟩

def handsOver (controller : Controller) (policy : Policy) : Bool :=
  policy.enabled && controller.countCall?.any (·.isDue policy)

def afterCall (controller : Controller) (policy : Policy) : Controller :=
  if policy.enabled then
    match controller.countCall? with
    | none => controller
    | some counted => if counted.isDue policy then counted.markScheduled else counted
  else controller

theorem callCounts_keep (controller : Controller) (micros : Nat)
    (code : Except CompileError CompiledCode) :
    (controller.keep micros code).callCounts = controller.callCounts := by
  cases code <;> rfl

/-- Counting a call leaves the other counts alone. -/
theorem callCounts_afterCall (controller : Controller) (policy : Policy) :
    (controller.afterCall policy).callCounts =
      { controller.callCounts with counted := (controller.afterCall policy).executionCount } := by
  unfold afterCall
  split
  · cases count : controller.countCall? with
    | none => rfl
    | some counted =>
      obtain rfl := countCall?_eq_some count
      simp only
      split <;> rfl
  · rfl

theorem executionCount_afterCall {policy : Policy} (enabled : policy.enabled = true)
    (controller : Controller) :
    (controller.afterCall policy).executionCount =
      if controller.executionCount < maxExecutionCount then controller.executionCount + 1
      else controller.executionCount := by
  by_cases below : controller.executionCount < maxExecutionCount
  · simp only [afterCall, enabled, countCall?, if_pos below, ↓reduceIte]
    split <;> rfl
  · simp only [afterCall, enabled, countCall?, if_neg below, ↓reduceIte]

end Controller

namespace Handle

def entry? (handle : Handle) : Option CompiledEntry :=
  match handle.dispatch with
  | .compiled entry | .interpreted _ _ (.switched entry) => some entry
  | .interpreted _ _ _ => none

def hasSwitched (handle : Handle) : Bool :=
  match handle.dispatch with
  | .interpreted _ _ (.switched _) => true
  | _ => false

def hasMet (handle : Handle) : Bool :=
  match handle.dispatch with
  | .compiled _ | .interpreted _ _ .unresolved => false
  | .interpreted _ _ _ => true

theorem hasSwitched_of_unmet {handle : Handle} (unmet : handle.hasMet = false) :
    handle.hasSwitched = false := by
  obtain ⟨definition, dispatch⟩ := handle
  cases dispatch with
  | compiled entry => rfl
  | interpreted id closure link =>
    cases link with
    | unresolved => rfl
    | switched | pinned => cases unmet

theorem eq_unresolved (handle : Handle) {id : ControllerId} {closure : Option Binding}
    (its : handle.controller? = some id) (bound : handle.closure? = closure)
    (unmet : handle.hasMet = false) :
    handle = ⟨handle.definition, .interpreted id closure .unresolved⟩ := by
  obtain ⟨definition, dispatch⟩ := handle
  cases dispatch with
  | compiled entry => cases its
  | interpreted other cells link =>
    cases its
    cases bound
    cases link with
    | unresolved => rfl
    | switched | pinned => cases unmet

end Handle

namespace Engine

def callCounts (engine : Engine) (id : ControllerId) : CallCounts :=
  (engine.controllers[id]?).elim {} Controller.callCounts

def services (engine : Engine) : List Event := engine.journal.toList.filter Event.isService

/-- Number of tasks ever submitted to a scheduler. -/
def submitted (engine : Engine) (scheduler : SchedulerId) : Nat :=
  (engine.schedulers[scheduler]?).elim 0 (·.queue.submitted)

section

variable {setup : Setup} {engine next : Engine}

theorem callCounts_eq {id : ControllerId} {controller : Controller}
    (found : engine.controllers[id]? = some controller) :
    engine.callCounts id = controller.callCounts := by
  rw [callCounts, found]
  rfl

theorem callCounts_of_set {id : ControllerId} {controller changed : Controller}
    (found : engine.controllers[id]? = some controller)
    (result : next.controllers = engine.controllers.setIfInBounds id changed)
    (other : ControllerId) :
    next.callCounts other = if other = id then changed.callCounts else engine.callCounts other := by
  obtain ⟨bound, -⟩ := Array.getElem?_eq_some_iff.mp found
  rw [callCounts, result, Array.getElem?_setIfInBounds]
  by_cases its : id = other
  · subst its
    rw [if_pos rfl, if_pos bound, if_pos rfl]
    rfl
  · rw [if_neg its, if_neg (Ne.symm its)]
    rfl

theorem services_record (event : Event) :
    (engine.record event).services =
      engine.services ++ if event.isService = true then [event] else [] := by
  simp only [services, record, Array.toList_push, List.filter_append]
  cases service : event.isService <;> simp [service]

theorem submitted_submitTask {scheduler : SchedulerId}
    (installed : scheduler < engine.schedulers.size) (id : ControllerId) (other : SchedulerId) :
    (engine.submitTask scheduler id).submitted other =
      engine.submitted other + if other = scheduler then 1 else 0 := by
  simp only [submitted, submitTask, Array.getElem?_modify]
  by_cases its : other = scheduler
  · subst its
    simp [installed, Queue.submit]
  · rw [if_neg (Ne.symm its), if_neg its]
    rfl

theorem submitted_dropTask (scheduler other : SchedulerId) :
    (engine.dropTask scheduler).submitted other = engine.submitted other := by
  simp only [submitted, dropTask, Array.getElem?_modify]
  by_cases its : scheduler = other
  · subst its
    cases engine.schedulers[scheduler]? <;> simp
  · rw [if_neg its]

theorem submitted_install (kind : SchedulerKind) (drained : Bool) (other : SchedulerId) :
    (engine.install kind drained).submitted other = engine.submitted other := by
  simp only [submitted, install, Array.getElem?_push]
  by_cases fresh : other = engine.schedulers.size
  · simp [fresh]
  · rw [if_neg fresh]

theorem lt_size_of_handle {target : HandleId} {handle : Handle}
    (holder : engine.handle? target = some handle) : target < engine.handles.size := by
  obtain ⟨bound, -⟩ := Array.getElem?_eq_some_iff.mp (Option.join_eq_some_iff.mp holder)
  exact bound

/-! ## Idle stretches -/

/-- A stretch of a run without calls and binds. -/
structure Idle (engine next : Engine) : Prop where
  callCounts : ∀ id, next.callCounts id = engine.callCounts id
  services : next.services = engine.services
  submitted : ∀ scheduler, next.submitted scheduler = engine.submitted scheduler
  size : next.handles.size = engine.handles.size
  /-- Handles may be dropped. -/
  handles : ∀ {target : HandleId} {handle : Handle}, next.handle? target = some handle →
    engine.handle? target = some handle

theorem idle_of_same (controllers : next.controllers = engine.controllers)
    (schedulers : next.schedulers = engine.schedulers)
    (handles : next.handles = engine.handles) (services : next.services = engine.services) :
    engine.Idle next where
  callCounts id := by rw [callCounts, controllers, callCounts]
  services := services
  submitted scheduler := by rw [submitted, schedulers, submitted]
  size := by rw [handles]
  handles holder := by
    rw [handle?, handles] at holder
    exact holder

theorem Idle.refl (engine : Engine) : engine.Idle engine := idle_of_same rfl rfl rfl rfl

theorem Idle.trans {last : Engine} (first : engine.Idle next) (second : next.Idle last) :
    engine.Idle last where
  callCounts id := (second.callCounts id).trans (first.callCounts id)
  services := second.services.trans first.services
  submitted scheduler := (second.submitted scheduler).trans (first.submitted scheduler)
  size := second.size.trans first.size
  handles holder := first.handles (second.handles holder)

theorem idle_record (engine : Engine) {event : Event} (quiet : event.isService = false) :
    engine.Idle (engine.record event) := by
  refine idle_of_same rfl rfl rfl ?_
  simp [services_record, quiet]

theorem idle_log (setup : Setup) (engine : Engine) (entry : LogRecord) :
    engine.Idle (engine.log setup entry) := idle_record engine rfl

theorem idle_keep {id : ControllerId} {controller : Controller}
    (found : engine.controllers[id]? = some controller) (micros : Nat)
    (code : Except CompileError CompiledCode) :
    engine.Idle (engine.setController id (controller.keep micros code)) where
  callCounts other := by
    rw [callCounts_of_set found rfl]
    split
    · subst other
      rw [Controller.callCounts_keep, callCounts_eq found]
    · rfl
  services := rfl
  submitted _ := rfl
  size := rfl
  handles holder := holder

theorem idle_compile (setup : Setup) (engine : Engine) (id : ControllerId) :
    engine.Idle (engine.compile setup id).2 := by
  unfold compile
  cases found : engine.controllers[id]? with
  | none => exact .refl engine
  | some controller =>
    cases settled : controller.settled? with
    | some answer =>
      simp only [settled]
      exact .refl engine
    | none =>
      simp only [settled]
      have requested : engine.Idle (engine.record (.requested id)) := idle_record engine rfl
      have present : (engine.record (.requested id)).controllers[id]? = some controller := found
      have kept := requested.trans (idle_keep present
        (setup.codegenMicros controller.definition) (controller.generate setup.compiler))
      cases generated : controller.generate setup.compiler with
      | error error =>
        rw [generated] at kept
        exact kept
      | ok code =>
        rw [generated] at kept
        exact kept.trans (idle_log _ _ _)

theorem idle_controllerFor (setup : Setup) (engine : Engine) (definition : Definition) :
    engine.Idle (engine.controllerFor setup definition).2 := by
  unfold controllerFor
  cases engine.tracked? definition.id with
  | some id => exact .refl engine
  | none =>
    have logged := idle_log setup engine (.tracking definition.name)
    refine logged.trans ⟨fun id => ?_, rfl, fun _ => rfl, rfl, fun holder => holder⟩
    simp only [callCounts, log, record, Array.getElem?_push]
    split
    · subst id
      simp [Controller.callCounts]
    · rfl

theorem idle_dropHandle (engine : Engine) (target : HandleId) :
    engine.Idle (engine.dropHandle target) where
  callCounts _ := rfl
  services := rfl
  submitted _ := rfl
  size := by simp [dropHandle, setHandle]
  handles holder := by
    rw [handle?_dropHandle] at holder
    split at holder
    · cases holder
    · exact holder

theorem idle_dropTask (engine : Engine) (scheduler : SchedulerId) :
    engine.Idle (engine.dropTask scheduler) where
  callCounts _ := rfl
  services := rfl
  submitted := submitted_dropTask scheduler
  size := rfl
  handles holder := holder

theorem idle_runTask (setup : Setup) (engine : Engine) (id : ControllerId) :
    engine.Idle (engine.runTask setup id) := by
  unfold runTask
  cases engine.controllers[id]? with
  | none => exact .refl engine
  | some controller =>
    cases engine.isLive id with
    | false => exact .refl engine
    | true =>
      have compiled := idle_compile setup engine id
      simp only [↓reduceIte]
      generalize engine.compile setup id = answer at compiled
      obtain ⟨result, after⟩ := answer
      cases result with
      | ok _ => exact compiled
      | error error => exact compiled.trans (idle_log setup after _)

theorem idle_runTasks (setup : Setup) (scheduler : SchedulerId) (tasks : List ControllerId)
    (engine : Engine) : engine.Idle (runTasks setup scheduler tasks engine) := by
  induction tasks generalizing engine with
  | nil => exact .refl engine
  | cons task rest inductionHypothesis =>
    have dropped := idle_dropTask engine scheduler
    exact (dropped.trans (idle_runTask setup _ task)).trans (inductionHypothesis _)

theorem idle_runPending (setup : Setup) (engine : Engine) :
    engine.Idle (engine.runPending setup).2 := by
  unfold runPending
  cases engine.drainable with
  | none => exact .refl engine
  | some scheduler => exact idle_runTasks setup scheduler _ engine

theorem idle_runNext (setup : Setup) (engine : Engine) (scheduler : SchedulerId) :
    engine.Idle (engine.runNext setup scheduler).2 := by
  unfold runNext
  cases engine.waiting scheduler with
  | nil => exact .refl engine
  | cons task rest => exact (idle_dropTask engine scheduler).trans (idle_runTask _ _ task)

theorem idle_useScheduler (setup : Setup) (engine : Engine) (kind : SchedulerKind)
    (drained : Bool) : engine.Idle (engine.useScheduler setup kind drained) := by
  have installed (engine : Engine) : engine.Idle (engine.install kind drained) :=
    ⟨fun _ => rfl, rfl, submitted_install kind drained, rfl, fun holder => holder⟩
  unfold useScheduler
  split
  · exact (idle_log setup engine .poolStarted).trans (installed _)
  · exact installed engine

/-! ## Binds -/

/-- How a bind ends: it is refused, or makes a handle of a controller's function. -/
inductive Bound (engine : Engine) (id : ControllerId) (closure : Option Binding) :
    Except BindError HandleId × Engine → Prop where
  | refused {error : BindError} {next : Engine} (idle : engine.Idle next) :
      Bound engine id closure (.error error, next)
  | compiled {ready : Engine} {controller : Controller} {entry : CompiledEntry}
      (idle : engine.Idle ready) (found : ready.controllers[id]? = some controller)
      (fits : controller.entryFor? closure = some (.ok entry)) :
      Bound engine id closure
        (.ok ready.handles.size, (ready.addHandle ⟨controller.definition, .compiled entry⟩).2)
  | interpreted {ready : Engine} {controller : Controller} (idle : engine.Idle ready)
      (found : ready.controllers[id]? = some controller) :
      Bound engine id closure (.ok ready.handles.size,
        (ready.addHandle ⟨controller.definition, .interpreted id closure .unresolved⟩).2)

theorem Bound.unmet {id : ControllerId} {closure : Option Binding}
    {result : Except BindError HandleId × Engine} (bound : Bound engine id closure result)
    {target : HandleId} {handle : Handle} (holder : result.2.handle? target = some handle) :
    engine.handle? target = some handle ∨
      engine.handles.size ≤ target ∧ handle.hasMet = false := by
  cases bound with
  | refused idle => exact .inl (idle.handles holder)
  | compiled idle | interpreted idle =>
    rw [handle?_addHandle] at holder
    split at holder
    · cases holder
      subst target
      exact .inr ⟨Nat.le_of_eq idle.size.symm, rfl⟩
    · exact .inl (idle.handles holder)

theorem bound_bindCompiled (setup : Setup) {id : ControllerId} {controller : Controller}
    (found : engine.controllers[id]? = some controller) (closure : Option Binding) :
    Bound engine id closure (engine.bindCompiled setup id controller closure) := by
  have compiled := idle_compile setup engine id
  have moves : Moves setup (fun _ => True) (fun _ => True) engine (engine.compile setup id).2 :=
    compile_moves trivial
  obtain ⟨changed, present, same⟩ := moves.definition found
  unfold bindCompiled
  generalize engine.compile setup id = answer at compiled present
  obtain ⟨result, after⟩ := answer
  cases result with
  | error error => exact .refused compiled
  | ok _ =>
    simp only [present, Option.bind_some]
    split
    · rw [← same]
      exact .compiled compiled present ‹_›
    · exact .refused compiled
    · exact .refused compiled

theorem bound_bindController (setup : Setup) {id : ControllerId} {controller : Controller}
    (found : engine.controllers[id]? = some controller) (closure : Option Binding) :
    Bound engine id closure (engine.bindController setup id controller closure) := by
  unfold bindController
  cases controller.definition.checkClosure closure with
  | error error => exact .refused (.refl engine)
  | ok _ =>
    cases setup.interprets with
    | false => exact bound_bindCompiled setup found closure
    | true =>
      simp only [Bool.not_true, Bool.false_eq_true, ↓reduceIte]
      split
      · exact .compiled (.refl engine) found ‹_›
      · exact .interpreted (.refl engine) found

theorem Bound.after {id : ControllerId} {closure : Option Binding}
    {result : Except BindError HandleId × Engine} (idle : engine.Idle next)
    (bound : Bound next id closure result) : Bound engine id closure result := by
  cases bound with
  | refused later => exact .refused (idle.trans later)
  | compiled later found fits => exact .compiled (idle.trans later) found fits
  | interpreted later found => exact .interpreted (idle.trans later) found

theorem bound_bind (setup : Setup) (engine : Engine) (definition : Definition)
    (closure : Option Binding) :
    Bound engine (engine.controllerFor setup definition).1 closure
      (engine.bind setup definition closure) := by
  have tracked := idle_controllerFor setup engine definition
  unfold bind
  generalize engine.controllerFor setup definition = answer at tracked
  obtain ⟨id, tracking⟩ := answer
  cases found : tracking.controllers[id]? with
  | none =>
    simp only [found]
    exact .refused tracked
  | some controller =>
    simp only [found]
    exact (bound_bindController setup found closure).after tracked

/-! ## Calls -/

/-- The controller through which a command binds a handle, and the closure. -/
def binder? (setup : Setup) (engine : Engine) : Command → Option (ControllerId × Option Binding)
  | .bind definition closure => some ((engine.controllerFor setup definition).1, closure)
  | .bindHeld id closure => (engine.heldController? id).map fun _ => (id, closure)
  | _ => none

def Command.call? : Command → Option (HandleId × List Value)
  | .invoke target args | .call target args => some (target, args)
  | _ => none

/-- What the host sees of an invocation; a call on copies leaves it its own arguments. -/
def Command.shown : Command → Invocation → Invocation
  | .call _ args, invocation => { invocation with slots := args }
  | _, invocation => invocation

def Answer.crash? : Answer → Option Crash
  | .invoked ⟨.crash cause, _⟩ => some cause
  | _ => none

/-- The host counts a call itself, on a controller that it holds. -/
def hostCounts (engine : Engine) (id : ControllerId) : Command → Bool
  | .countHeld its => its == id && engine.held.contains id
  | _ => false

theorem hostCounts_of_binds {setup : Setup} {engine : Engine} {command : Command}
    {binder : ControllerId × Option Binding} (binds : engine.binder? setup command = some binder)
    (id : ControllerId) : engine.hostCounts id command = false := by
  cases command with
  | countHeld its => cases binds
  | _ => rfl

def switchHandle (setup : Setup) (engine : Engine) (target : HandleId) (definition : Definition)
    (id : ControllerId) (closure : Option Binding) (entry : CompiledEntry) : Engine :=
  ((engine.log setup (.switched definition.name entry.isAdapted)).modifyController id
    Controller.countPromoted).setHandle target
      (some ⟨definition, .interpreted id closure (.switched entry)⟩)

def pinHandle (setup : Setup) (engine : Engine) (target : HandleId) (definition : Definition)
    (id : ControllerId) (closure : Option Binding) (mismatch : Mismatch) : Engine :=
  (engine.log setup (.misfit definition.name mismatch)).setHandle target
    (some ⟨definition, .interpreted id closure .pinned⟩)

/-- How a call of a handle is served. -/
inductive Serving (setup : Setup) (engine : Engine) (target : HandleId) (handle : Handle)
    (args : List Value) : Invocation × Engine → Prop where
  /-- The number of arguments is wrong. -/
  | rejected (other : args.length ≠ handle.definition.signature.arity) :
      Serving setup engine target handle args
        (⟨.fault (.arity handle.definition.signature.arity args.length), args⟩, engine)
  | entered {entry : CompiledEntry} (fits : args.length = handle.definition.signature.arity)
      (calls : handle.entry? = some entry) :
      Serving setup engine target handle args (engine.enter setup target entry args)
  | interpreted {id : ControllerId} {closure : Option Binding} {link : Link}
      (fits : args.length = handle.definition.signature.arity)
      (dispatch : handle.dispatch = .interpreted id closure link)
      (unmet : link = .pinned ∨
        link = .unresolved ∧ (engine.controllers[id]?).bind (·.entryFor? closure) = none) :
      Serving setup engine target handle args
        (engine.interpret setup target id handle.definition closure args)
  /-- The handle meets published code that fits, and calls it at once. -/
  | switched {id : ControllerId} {closure : Option Binding} {controller : Controller}
      {entry : CompiledEntry} (fits : args.length = handle.definition.signature.arity)
      (dispatch : handle.dispatch = .interpreted id closure .unresolved)
      (found : engine.controllers[id]? = some controller)
      (resolved : controller.entryFor? closure = some (.ok entry)) :
      Serving setup engine target handle args
        ((engine.switchHandle setup target handle.definition id closure entry).enter setup target
          entry args)
  /-- The handle meets published code that does not fit. -/
  | pinned {id : ControllerId} {closure : Option Binding} {controller : Controller}
      {mismatch : Mismatch} (fits : args.length = handle.definition.signature.arity)
      (dispatch : handle.dispatch = .interpreted id closure .unresolved)
      (found : engine.controllers[id]? = some controller)
      (resolved : controller.entryFor? closure = some (.error mismatch)) :
      Serving setup engine target handle args (⟨.crash (.misfit mismatch), args⟩,
        engine.pinHandle setup target handle.definition id closure mismatch)

theorem serving_invoke (setup : Setup) (engine : Engine) (target : HandleId) (handle : Handle)
    (args : List Value) :
    Serving setup engine target handle args (engine.invoke setup target handle args) := by
  obtain ⟨definition, dispatch⟩ := handle
  simp only [invoke]
  by_cases fits : args.length = definition.signature.arity
  · rw [if_neg (not_not_intro fits)]
    cases dispatch with
    | compiled entry => exact .entered fits rfl
    | interpreted id closure link =>
      cases link with
      | switched entry => exact .entered fits rfl
      | pinned => exact .interpreted fits rfl (.inl rfl)
      | unresolved =>
        simp only [resolveAndServe]
        cases resolved : (engine.controllers[id]?).bind (·.entryFor? closure) with
        | none => exact .interpreted fits rfl (.inr ⟨rfl, resolved⟩)
        | some result =>
          obtain ⟨controller, found, entered⟩ := Option.bind_eq_some_iff.mp resolved
          cases result with
          | ok entry => exact .switched fits rfl found entered
          | error mismatch => exact .pinned fits rfl found entered
  · rw [if_pos fits]
    exact .rejected fits

/-! ## What the parts of a call change -/

theorem set_same {id : ControllerId} {controller : Controller}
    (found : engine.controllers[id]? = some controller) :
    engine.controllers.setIfInBounds id controller = engine.controllers := by
  obtain ⟨bound, -⟩ := Array.getElem?_eq_some_iff.mp found
  apply Array.ext_getElem?
  intro other
  rw [Array.getElem?_setIfInBounds]
  by_cases its : id = other
  · subst its
    rw [if_pos rfl, if_pos bound, found]
  · rw [if_neg its]

/-- Counting a call changes its controller and, if the function is handed over, adds a task. -/
theorem recordCall_found (setup : Setup) {id : ControllerId} {controller : Controller}
    (found : engine.controllers[id]? = some controller) :
    (engine.recordCall setup id).controllers =
        engine.controllers.setIfInBounds id (controller.afterCall setup.policy) ∧
      (engine.recordCall setup id).schedulers =
        if controller.handsOver setup.policy = true
        then (engine.submitTask controller.scheduler id).schedulers else engine.schedulers := by
  unfold recordCall Controller.afterCall Controller.handsOver
  rw [found]
  cases enabled : setup.policy.enabled with
  | false => simp [set_same found]
  | true =>
    cases count : controller.countCall? with
    | none => simp [count, set_same found]
    | some counted =>
      obtain rfl := Controller.countCall?_eq_some count
      simp only [Bool.not_true, Bool.false_eq_true, ↓reduceIte, Bool.true_and, Option.any_some,
        count]
      cases due : Controller.isDue _ setup.policy <;> exact ⟨rfl, rfl⟩

theorem services_recordCall (setup : Setup) (engine : Engine) (id : ControllerId) :
    (engine.recordCall setup id).services = engine.services := by
  unfold recordCall
  cases engine.controllers[id]? with
  | none => rfl
  | some controller =>
    cases setup.policy.enabled with
    | false => rfl
    | true =>
      cases count : controller.countCall? with
      | none => simp [count]
      | some counted =>
        simp only [Bool.not_true, Bool.false_eq_true, ↓reduceIte, count]
        split
        · exact (idle_log setup _ _).services
        · rfl

theorem handles_recordCall (setup : Setup) (engine : Engine) (id : ControllerId) :
    (engine.recordCall setup id).handles = engine.handles := by
  obtain ⟨controllers, schedulers, journal, same⟩ := recordCall_frame setup engine id
  rw [same]

theorem callCounts_recordCall (setup : Setup) {id : ControllerId} {controller : Controller}
    (found : engine.controllers[id]? = some controller) (other : ControllerId) :
    (engine.recordCall setup id).callCounts other =
      if other = id then (controller.afterCall setup.policy).callCounts
      else engine.callCounts other :=
  callCounts_of_set found (recordCall_found setup found).1 other

theorem services_enter (setup : Setup) (engine : Engine) (target : HandleId)
    (entry : CompiledEntry) (args : List Value) :
    (engine.enter setup target entry args).2.services =
      engine.services ++ [.entered target entry.shape entry.isAdapted] :=
  services_record _

theorem services_interpret (setup : Setup) (engine : Engine) (target : HandleId)
    (id : ControllerId) (definition : Definition) (closure : Option Binding) (args : List Value) :
    (engine.interpret setup target id definition closure args).2.services =
      engine.services ++ [.interpreted target id] := by
  have counted := services_recordCall setup engine id
  rw [← counted]
  exact services_record _

theorem interpret_reply (setup : Setup) (engine : Engine) (target : HandleId)
    (id : ControllerId) (definition : Definition) (closure : Option Binding) (args : List Value) :
    let reply := definition.interpret setup.rounds args closure engine.store
    (engine.interpret setup target id definition closure args).1 = ⟨reply.outcome, reply.slots⟩ ∧
      (engine.interpret setup target id definition closure args).2.store = reply.store := by
  obtain ⟨controllers, schedulers, journal, same⟩ := recordCall_frame setup engine id
  simp only [interpret, same]
  exact ⟨rfl, rfl⟩

theorem callCounts_interpret (setup : Setup) {id : ControllerId} {controller : Controller}
    (found : engine.controllers[id]? = some controller) (target : HandleId)
    (definition : Definition) (closure : Option Binding) (args : List Value)
    (other : ControllerId) :
    (engine.interpret setup target id definition closure args).2.callCounts other =
      if other = id then
        { controller.callCounts with
          counted := (controller.afterCall setup.policy).executionCount
          interpreted := controller.counters.interpreted + 1 }
      else engine.callCounts other := by
  obtain ⟨bound, -⟩ := Array.getElem?_eq_some_iff.mp found
  have counted := (recordCall_found setup found).1
  have present : (engine.recordCall setup id).controllers[id]? =
      some (controller.afterCall setup.policy) := by
    rw [counted, Array.getElem?_setIfInBounds_self_of_lt bound]
  have interpreted := callCounts_of_set present
    (modify_controller present Controller.countInterpreted) other
  refine interpreted.trans ?_
  by_cases its : other = id
  · have rest := controller.callCounts_afterCall setup.policy
    simp only [Controller.callCounts, CallCounts.mk.injEq] at rest
    simp [its, Controller.callCounts, Controller.countInterpreted, rest]
  · rw [if_neg its, if_neg its, callCounts_recordCall setup found, if_neg its]

theorem callCounts_switchHandle (setup : Setup) {id : ControllerId} {controller : Controller}
    (found : engine.controllers[id]? = some controller) (target : HandleId)
    (definition : Definition) (closure : Option Binding) (entry : CompiledEntry)
    (other : ControllerId) :
    (engine.switchHandle setup target definition id closure entry).callCounts other =
      if other = id then
        { controller.callCounts with promoted := controller.counters.promoted + 1 }
      else engine.callCounts other :=
  callCounts_of_set found (modify_controller found Controller.countPromoted) other

theorem services_switchHandle (setup : Setup) (engine : Engine) (target : HandleId)
    (definition : Definition) (id : ControllerId) (closure : Option Binding)
    (entry : CompiledEntry) :
    (engine.switchHandle setup target definition id closure entry).services = engine.services :=
  (idle_log setup engine _).services

theorem handle?_switchHandle (setup : Setup) {target : HandleId} {handle : Handle}
    (holder : engine.handle? target = some handle) (definition : Definition) (id : ControllerId)
    (closure : Option Binding) (entry : CompiledEntry) (other : HandleId) :
    (engine.switchHandle setup target definition id closure entry).handle? other =
      if other = target then some ⟨definition, .interpreted id closure (.switched entry)⟩
      else engine.handle? other := by
  have still : ((engine.log setup (.switched definition.name entry.isAdapted)).modifyController id
      Controller.countPromoted).handle? target = some handle := holder
  exact handle?_setHandle still _ other

theorem pinHandle_quiet (setup : Setup) (engine : Engine) (target : HandleId)
    (definition : Definition) (id : ControllerId) (closure : Option Binding)
    (mismatch : Mismatch) :
    (∀ other, (engine.pinHandle setup target definition id closure mismatch).callCounts other =
        engine.callCounts other) ∧
      (engine.pinHandle setup target definition id closure mismatch).services =
        engine.services ∧
      (engine.pinHandle setup target definition id closure mismatch).schedulers =
        engine.schedulers :=
  ⟨fun _ => rfl, (idle_log setup engine _).services, rfl⟩

/-! ## Turns -/

/-- What a turn is: idle, a bind, a call that the host counts itself, or a call of a handle. -/
inductive Turned (setup : Setup) (engine : Engine) (turn : Turn) : Answer × Engine → Prop where
  | idle {answer : Answer} {next : Engine} (idle : engine.Idle next)
      (unbound : ∀ result, answer ≠ .bound result)
      (uncounted : ∀ id, engine.hostCounts id turn.command = false)
      (uncalled : ∀ target args, turn.command.call? = some (target, args) →
        engine.handle? target = none) : Turned setup engine turn (answer, next)
  | bound {id : ControllerId} {closure : Option Binding}
      {result : Except BindError HandleId × Engine}
      (binds : engine.binder? (turn.setup setup) turn.command = some (id, closure))
      (uncalled : turn.command.call? = none)
      (bound : Bound engine id closure result) :
      Turned setup engine turn (.bound result.1, result.2)
  | counted {id : ControllerId} (counts : turn.command = .countHeld id) (held : id ∈ engine.held) :
      Turned setup engine turn (.done, engine.recordCall (turn.setup setup) id)
  | served {target : HandleId} {args : List Value} {handle : Handle} {served : Invocation × Engine}
      (calls : turn.command.call? = some (target, args))
      (holder : engine.handle? target = some handle)
      (serving : Serving (turn.setup setup) engine target handle args served) :
      Turned setup engine turn (.invoked (turn.command.shown served.1), served.2)

theorem turned_take (setup : Setup) (engine : Engine) (turn : Turn) :
    Turned setup engine turn (engine.take setup turn) := by
  obtain ⟨compiler, command⟩ := turn
  -- Most commands bind nothing, count nothing and call nothing.
  have still {answer : Answer} {next : Engine} (idle : engine.Idle next)
      (unbound : ∀ result, answer ≠ .bound result)
      (uncounted : ∀ id, engine.hostCounts id command = false) (uncalled : command.call? = none) :
      Turned setup engine ⟨compiler, command⟩ (answer, next) :=
    .idle idle unbound uncounted fun target args call => by simp [uncalled] at call
  cases command with
  | invoke target args =>
    simp only [take, perform]
    cases holder : engine.handle? target with
    | none =>
      refine .idle (.refl engine) (by simp) (fun _ => rfl) fun other _ call => ?_
      cases call
      exact holder
    | some handle => exact .served rfl holder (serving_invoke _ engine target handle args)
  | call target args =>
    simp only [take, perform]
    cases holder : engine.handle? target with
    | none =>
      refine .idle (.refl engine) (by simp) (fun _ => rfl) fun other _ call => ?_
      cases call
      exact holder
    | some handle => exact .served rfl holder (serving_invoke _ engine target handle args)
  | countHeld id =>
    simp only [take, perform]
    cases held : engine.held.contains id with
    | false =>
      refine still (.refl engine) (by simp) (fun other => ?_) rfl
      by_cases its : id = other
      · subst its
        simp only [hostCounts, held, Bool.and_false]
      · simp [hostCounts, its]
    | true => exact .counted rfl (List.contains_iff_mem.mp held)
  | bind definition closure => exact .bound rfl rfl (bound_bind _ engine definition closure)
  | bindHeld id closure =>
    simp only [take, perform]
    cases kept : engine.heldController? id with
    | none => exact still (.refl engine) (by simp) (fun _ => rfl) rfl
    | some controller =>
      obtain ⟨-, found⟩ := heldController?_eq_some.mp kept
      have binds : engine.binder? (Turn.setup ⟨compiler, .bindHeld id closure⟩ setup)
          (.bindHeld id closure) = some (id, closure) := by simp [binder?, kept]
      exact .bound binds rfl (bound_bindController _ found closure)
  | track definition =>
    exact still (idle_controllerFor _ engine definition) (by simp) (fun _ => rfl) rfl
  | compileNow definition =>
    have tracked := idle_controllerFor (Turn.setup ⟨compiler, .compileNow definition⟩ setup)
      engine definition
    exact still (tracked.trans (idle_compile _ _ _)) (by simp) (fun _ => rfl) rfl
  | release id => exact still (idle_of_same rfl rfl rfl rfl) (by simp) (fun _ => rfl) rfl
  | runPending => exact still (idle_runPending _ engine) (by simp) (fun _ => rfl) rfl
  | useScheduler kind drained =>
    exact still (idle_useScheduler _ engine kind drained) (by simp) (fun _ => rfl) rfl
  | reinstall scheduler drained =>
    simp only [take, perform]
    split
    · exact still (idle_of_same rfl rfl rfl rfl) (by simp) (fun _ => rfl) rfl
    · exact still (.refl engine) (by simp) (fun _ => rfl) rfl
  | dropHandle target => exact still (idle_dropHandle engine target) (by simp) (fun _ => rfl) rfl
  | hold id =>
    simp only [take, perform]
    split
    · exact still (idle_of_same rfl rfl rfl rfl) (by simp) (fun _ => rfl) rfl
    · exact still (.refl engine) (by simp) (fun _ => rfl) rfl
  | unhold id => exact still (idle_of_same rfl rfl rfl rfl) (by simp) (fun _ => rfl) rfl
  | compileHeld id =>
    simp only [take, perform]
    split
    · exact still (idle_compile _ engine id) (by simp) (fun _ => rfl) rfl
    · exact still (.refl engine) (by simp) (fun _ => rfl) rfl
  | newCell | writeCell | newBox | writeBox =>
    exact still (idle_of_same rfl rfl rfl rfl) (by simp) (fun _ => rfl) rfl
  | runNext scheduler => exact still (idle_runNext _ engine scheduler) (by simp) (fun _ => rfl) rfl

theorem take_call (setup : Setup) {turn : Turn} {target : HandleId} {args : List Value}
    {handle : Handle} (calls : turn.command.call? = some (target, args))
    (holder : engine.handle? target = some handle) :
    ∃ served, Serving (turn.setup setup) engine target handle args served ∧
      engine.take setup turn = (.invoked (turn.command.shown served.1), served.2) := by
  generalize result : engine.take setup turn = taken
  have turned := result ▸ turned_take setup engine turn
  cases turned with
  | idle _ _ _ uncalled =>
    cases (uncalled target args calls).symm.trans holder
  | bound _ none => cases none.symm.trans calls
  | counted counts =>
    rw [counts] at calls
    cases calls
  | served calls' holder' serving =>
    cases calls.symm.trans calls'
    cases holder.symm.trans holder'
    exact ⟨_, serving, rfl⟩

/-- One tier serves a call in a turn, once: its run is the only one, and its reply is
what the host gets. -/
structure ServedBy (setup : Setup) (engine : Engine) (turn : Turn) (reply : Reply)
    (service : Event) : Prop where
  answer : (engine.take setup turn).1 =
    .invoked (turn.command.shown ⟨reply.outcome, reply.slots⟩)
  store : (engine.take setup turn).2.store = reply.store
  services : (engine.take setup turn).2.services = engine.services ++ [service]

/-- A turn calls a handle of a controller's function with as many arguments as it takes,
and the interpreter serves the call, whatever comes of it. -/
def Interprets (setup : Setup) (engine : Engine) (turn : Turn) (id : ControllerId) : Prop :=
  ∃ target args definition closure link, turn.command.call? = some (target, args) ∧
    engine.handle? target = some ⟨definition, .interpreted id closure link⟩ ∧
    args.length = definition.signature.arity ∧
    ServedBy setup engine turn (definition.interpret setup.rounds args closure engine.store)
      (.interpreted target id)

/-- A turn calls a handle with as many arguments as it takes, and compiled code serves
the call; the handle has that code from then on, if it had it not before. -/
def Enters (setup : Setup) (engine : Engine) (turn : Turn) (target : HandleId)
    (entry : CompiledEntry) : Prop :=
  ∃ args handle, turn.command.call? = some (target, args) ∧
    (engine.take setup turn).2.handle? target = some handle ∧ handle.entry? = some entry ∧
    args.length = handle.definition.signature.arity ∧
    ServedBy setup engine turn (entry.call setup.rounds args engine.store)
      (.entered target entry.shape entry.isAdapted)

theorem interprets_of_take {turn : Turn} {target : HandleId} {args : List Value}
    {definition : Definition} {id : ControllerId} {closure : Option Binding} {link : Link}
    (calls : turn.command.call? = some (target, args))
    (holder : engine.handle? target = some ⟨definition, .interpreted id closure link⟩)
    (fits : args.length = definition.signature.arity)
    (result : engine.take setup turn =
      (.invoked (turn.command.shown
        (engine.interpret (turn.setup setup) target id definition closure args).1),
        (engine.interpret (turn.setup setup) target id definition closure args).2)) :
    engine.Interprets setup turn id := by
  obtain ⟨reply, store⟩ := interpret_reply (turn.setup setup) engine target id definition closure
    args
  refine ⟨target, args, definition, closure, link, calls, holder, fits, ?_, ?_, ?_⟩
  · rw [result, reply]
    rfl
  · rw [result]
    exact store
  · rw [result]
    exact services_interpret _ engine target id definition closure args

theorem enters_of_take {turn : Turn} {target : HandleId} {args : List Value} {ready : Engine}
    {handle : Handle} {entry : CompiledEntry} (calls : turn.command.call? = some (target, args))
    (store : ready.store = engine.store) (services : ready.services = engine.services)
    (holder : ready.handle? target = some handle) (kept : handle.entry? = some entry)
    (fits : args.length = handle.definition.signature.arity)
    (result : engine.take setup turn =
      (.invoked (turn.command.shown (ready.enter (turn.setup setup) target entry args).1),
        (ready.enter (turn.setup setup) target entry args).2)) :
    engine.Enters setup turn target entry := by
  refine ⟨args, handle, calls, ?_, kept, fits, ?_, ?_, ?_⟩
  · rw [result]
    exact holder
  · rw [result, ← store]
    rfl
  · rw [result, ← store]
    rfl
  · rw [result, services_enter, services]

theorem enters_of_switch {turn : Turn} {target : HandleId} {args : List Value}
    {definition : Definition} {id : ControllerId} {closure : Option Binding}
    {entry : CompiledEntry} (calls : turn.command.call? = some (target, args))
    (holder : engine.handle? target = some ⟨definition, .interpreted id closure .unresolved⟩)
    (fits : args.length = definition.signature.arity)
    (result : engine.take setup turn =
      (.invoked (turn.command.shown ((engine.switchHandle (turn.setup setup) target definition id
        closure entry).enter (turn.setup setup) target entry args).1),
        ((engine.switchHandle (turn.setup setup) target definition id closure entry).enter
          (turn.setup setup) target entry args).2)) :
    engine.Enters setup turn target entry := by
  have settled := handle?_switchHandle (turn.setup setup) holder definition id closure entry target
  have services := services_switchHandle (turn.setup setup) engine target definition id closure
    entry
  rw [if_pos rfl] at settled
  refine enters_of_take calls ?_ services settled rfl fits result
  rfl

/-- Who serves a turn: nobody, the interpreter, or compiled code. -/
inductive Serves (setup : Setup) (engine : Engine) (turn : Turn) : Prop where
  | nobody (services : (engine.take setup turn).2.services = engine.services)
  | interpreter {id : ControllerId} (interprets : engine.Interprets setup turn id)
  | code {target : HandleId} {entry : CompiledEntry}
      (enters : engine.Enters setup turn target entry)

theorem take_serves (setup : Setup) (engine : Engine) (turn : Turn) :
    Serves setup engine turn := by
  generalize result : engine.take setup turn = taken
  have turned := result ▸ turned_take setup engine turn
  cases turned with
  | idle idle =>
    apply Serves.nobody
    rw [result]
    exact idle.services
  | bound _ _ bound =>
    apply Serves.nobody
    rw [result]
    cases bound with
    | refused idle | compiled idle | interpreted idle => exact idle.services
  | @counted id =>
    apply Serves.nobody
    rw [result]
    exact services_recordCall _ engine id
  | @served target args handle served calls holder serving =>
    cases serving with
    | rejected other =>
      apply Serves.nobody
      rw [result]
    | entered fits kept => exact .code (enters_of_take calls rfl rfl holder kept fits result)
    | interpreted fits dispatch unmet =>
      obtain ⟨definition, dispatch'⟩ := handle
      obtain rfl : dispatch' = _ := dispatch
      exact .interpreter (interprets_of_take calls holder fits result)
    | switched fits dispatch found resolved =>
      obtain ⟨definition, dispatch'⟩ := handle
      obtain rfl : dispatch' = _ := dispatch
      exact .code (enters_of_switch calls holder fits result)
    | @pinned id closure controller mismatch =>
      apply Serves.nobody
      rw [result]
      exact (pinHandle_quiet (turn.setup setup) engine target handle.definition id closure
        mismatch).2.1

end

end Engine

end HotPath
