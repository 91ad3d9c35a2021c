import HotPath.Proofs.Tier.Draining

/-!
Two engines that differ in one handle, in what that handle has made of its controller's code. As
long as nobody calls the handle, a run goes the same from both: what a handle has made of the code
is nobody else's business.
-/

namespace HotPath.Engine

/-- Two engines that differ at most in one handle, which still refers to the same
controller, and in their journals. -/
structure DiffersAt (target : HandleId) (engine twin : Engine) : Prop where
  controllers : twin.controllers = engine.controllers
  registry : twin.registry = engine.registry
  held : twin.held = engine.held
  schedulers : twin.schedulers = engine.schedulers
  current : twin.current = engine.current
  drainable : twin.drainable = engine.drainable
  store : twin.store = engine.store
  size : twin.handles.size = engine.handles.size
  others : ∀ place, place ≠ target → twin.handle? place = engine.handle? place
  refers : (twin.handle? target).map Handle.controller? =
    (engine.handle? target).map Handle.controller?

/-- Two ways to the same answer, to engines that differ at most in one handle. -/
structure EndAlike {α : Type} (target : HandleId) (ended ended' : α × Engine) : Prop where
  answer : ended'.1 = ended.1
  differs : DiffersAt target ended.2 ended'.2

theorem EndAlike.map {α β : Type} {target : HandleId} {ended ended' : α × Engine}
    (alike : EndAlike target ended ended') (shows : α → β) :
    EndAlike target (ended.map shows id) (ended'.map shows id) :=
  ⟨congrArg shows alike.answer, alike.differs⟩

variable {setup : Setup} {engine twin : Engine} {target : HandleId}

namespace DiffersAt

theorem referrer (differs : DiffersAt target engine twin) (place : HandleId) :
    (twin.handle? place).map Handle.controller? =
      (engine.handle? place).map Handle.controller? := by
  by_cases its : place = target
  · rw [its, differs.refers]
  · rw [differs.others place its]

theorem isLive (differs : DiffersAt target engine twin) (id : ControllerId) :
    twin.isLive id = engine.isLive id := by
  have refers (place : HandleId) :
      (∃ handle, twin.handle? place = some handle ∧ handle.controller? = some id) ↔
        ∃ handle, engine.handle? place = some handle ∧ handle.controller? = some id := by
    rw [← Option.map_eq_some_iff, differs.referrer, Option.map_eq_some_iff]
  rw [Bool.eq_iff_iff, isLive_iff, isLive_iff, differs.registry, differs.held]
  simp only [refers]

/-! ## Changes of both -/

theorem noted (differs : DiffersAt target engine twin) (store : Store)
    (journal journal' : Array Event) :
    DiffersAt target { engine with store, journal }
      { twin with store, journal := journal' } :=
  { differs with store := rfl }

theorem log (differs : DiffersAt target engine twin) (setup : Setup) (entry : LogRecord) :
    DiffersAt target (engine.log setup entry) (twin.log setup entry) :=
  { differs with }

theorem setController (differs : DiffersAt target engine twin) (id : ControllerId)
    (controller : Controller) :
    DiffersAt target (engine.setController id controller) (twin.setController id controller) :=
  { differs with
    controllers := by simp only [Engine.setController, differs.controllers] }

theorem modifyController (differs : DiffersAt target engine twin) (id : ControllerId)
    (change : Controller → Controller) :
    DiffersAt target (engine.modifyController id change) (twin.modifyController id change) :=
  { differs with
    controllers := by simp only [Engine.modifyController, differs.controllers] }

theorem submitTask (differs : DiffersAt target engine twin) (scheduler : SchedulerId)
    (id : ControllerId) :
    DiffersAt target (engine.submitTask scheduler id) (twin.submitTask scheduler id) :=
  { differs with
    schedulers := by simp only [Engine.submitTask, differs.schedulers] }

theorem dropTask (differs : DiffersAt target engine twin) (scheduler : SchedulerId) :
    DiffersAt target (engine.dropTask scheduler) (twin.dropTask scheduler) :=
  { differs with
    schedulers := by simp only [Engine.dropTask, differs.schedulers] }

theorem install (differs : DiffersAt target engine twin) (kind : SchedulerKind)
    (drained : Bool) :
    DiffersAt target (engine.install kind drained) (twin.install kind drained) :=
  { differs with
    schedulers := by simp only [Engine.install, differs.schedulers]
    current := by simp only [Engine.install, differs.schedulers]
    drainable := by simp only [Engine.install, differs.schedulers] }

theorem reinstall (differs : DiffersAt target engine twin) (scheduler : SchedulerId)
    (drained : Bool) :
    DiffersAt target (engine.reinstall scheduler drained) (twin.reinstall scheduler drained) :=
  { differs with
    current := rfl
    drainable := rfl }

theorem setHandle (differs : DiffersAt target engine twin) (place : HandleId)
    (changed : Option Handle) :
    DiffersAt target (engine.setHandle place changed) (twin.setHandle place changed) := by
  by_cases made : place < engine.handles.size
  · have set := handle?_setHandle_made made changed
    have set' := handle?_setHandle_made (differs.size.symm ▸ made) changed
    exact { differs with
      size := by simp only [Engine.setHandle, Array.size_setIfInBounds, differs.size]
      others := fun other apart => by rw [set, set', differs.others other apart]
      refers := by
        rw [set, set']
        split
        · rfl
        · exact differs.refers }
  · have unmade : engine.setHandle place changed = engine := by
      simp [Engine.setHandle, Array.setIfInBounds_eq_of_size_le (Nat.le_of_not_lt made)]
    have unmade' : twin.setHandle place changed = twin := by
      simp [Engine.setHandle,
        Array.setIfInBounds_eq_of_size_le (differs.size ▸ Nat.le_of_not_lt made)]
    rwa [unmade, unmade']

theorem addHandle (differs : DiffersAt target engine twin) (handle : Handle) :
    EndAlike target (engine.addHandle handle) (twin.addHandle handle) where
  answer := differs.size
  differs :=
    { differs with
      size := by simp only [Engine.addHandle, Array.size_push, differs.size]
      others := fun other apart => by
        rw [handle?_addHandle, handle?_addHandle, differs.size, differs.others other apart]
      refers := by
        rw [handle?_addHandle, handle?_addHandle, differs.size]
        split
        · rfl
        · exact differs.refers }

theorem hold (differs : DiffersAt target engine twin) (id : ControllerId) :
    DiffersAt target (engine.hold id) (twin.hold id) :=
  { differs with
    held := by simp only [Engine.hold, differs.held] }

theorem unhold (differs : DiffersAt target engine twin) (id : ControllerId) :
    DiffersAt target (engine.unhold id) (twin.unhold id) :=
  { differs with
    held := by simp only [Engine.unhold, differs.held] }

theorem release (differs : DiffersAt target engine twin) (key : DefinitionId) :
    EndAlike target (engine.release key) (twin.release key) where
  answer := by simp only [Engine.release, tracked?, differs.registry]
  differs :=
    { differs with
      registry := by simp only [Engine.release, differs.registry] }

/-! ## Compiling -/

theorem compile (differs : DiffersAt target engine twin) (setup : Setup) (id : ControllerId) :
    EndAlike target (engine.compile setup id) (twin.compile setup id) := by
  unfold Engine.compile
  rw [differs.controllers]
  cases engine.controllers[id]? with
  | none => exact ⟨rfl, differs⟩
  | some controller =>
    simp only
    cases controller.settled? with
    | some answer => exact ⟨rfl, differs⟩
    | none =>
      have requested : DiffersAt target (engine.record (.requested id))
          (twin.record (.requested id)) := { differs with }
      have kept := requested.setController id
        (controller.keep (setup.codegenMicros controller.definition)
          (controller.generate setup.compiler))
      simp only
      generalize controller.generate setup.compiler = code at kept
      cases code with
      | error error => exact ⟨rfl, kept⟩
      | ok code => exact ⟨rfl, kept.log setup _⟩

theorem recordCall (differs : DiffersAt target engine twin) (setup : Setup) (id : ControllerId) :
    DiffersAt target (engine.recordCall setup id) (twin.recordCall setup id) := by
  unfold Engine.recordCall
  rw [differs.controllers]
  cases engine.controllers[id]? with
  | none => exact differs
  | some controller =>
    simp only
    split
    · exact differs
    · cases controller.countCall? with
      | none => exact differs
      | some counted =>
        simp only
        split
        · have kind : (twin.setController id counted.markScheduled).schedulerKind
              counted.scheduler =
                (engine.setController id counted.markScheduled).schedulerKind
                  counted.scheduler := by
            simp only [schedulerKind, Engine.setController, differs.schedulers]
          rw [kind]
          exact ((differs.setController id _).log setup _).submitTask _ id
        · exact differs.setController id counted

theorem runTask (differs : DiffersAt target engine twin) (setup : Setup) (id : ControllerId) :
    DiffersAt target (engine.runTask setup id) (twin.runTask setup id) := by
  unfold Engine.runTask
  rw [differs.controllers, differs.isLive]
  cases engine.controllers[id]? with
  | none => exact differs
  | some controller =>
    cases engine.isLive id with
    | false => exact differs
    | true =>
      obtain ⟨answer, compiled⟩ := differs.compile setup id
      generalize engine.compile setup id = ended at answer compiled
      generalize twin.compile setup id = ended' at answer compiled
      obtain ⟨result, next⟩ := ended
      obtain ⟨result', next'⟩ := ended'
      obtain rfl : result' = result := answer
      cases result' with
      | ok _ => exact compiled
      | error error => exact compiled.log setup _

theorem runTasks (differs : DiffersAt target engine twin) (setup : Setup)
    (scheduler : SchedulerId) (tasks : List ControllerId) :
    DiffersAt target (runTasks setup scheduler tasks engine)
      (Engine.runTasks setup scheduler tasks twin) := by
  induction tasks generalizing engine twin with
  | nil => exact differs
  | cons task rest inductionHypothesis =>
    exact inductionHypothesis ((differs.dropTask scheduler).runTask setup task)

theorem waiting (differs : DiffersAt target engine twin) (scheduler : SchedulerId) :
    twin.waiting scheduler = engine.waiting scheduler := by
  simp only [Engine.waiting, differs.schedulers]

theorem runPending (differs : DiffersAt target engine twin) (setup : Setup) :
    EndAlike target (engine.runPending setup) (twin.runPending setup) := by
  unfold Engine.runPending
  rw [differs.drainable]
  cases engine.drainable with
  | none => exact ⟨rfl, differs⟩
  | some scheduler =>
    simp only [drain, differs.waiting]
    exact ⟨rfl, differs.runTasks setup scheduler _⟩

theorem runNext (differs : DiffersAt target engine twin) (setup : Setup)
    (scheduler : SchedulerId) :
    EndAlike target (engine.runNext setup scheduler) (twin.runNext setup scheduler) := by
  unfold Engine.runNext
  rw [differs.waiting]
  cases engine.waiting scheduler with
  | nil => exact ⟨rfl, differs⟩
  | cons task rest => exact ⟨rfl, (differs.dropTask scheduler).runTask _ task⟩

theorem useScheduler (differs : DiffersAt target engine twin) (setup : Setup)
    (kind : SchedulerKind) (drained : Bool) :
    DiffersAt target (engine.useScheduler setup kind drained)
      (twin.useScheduler setup kind drained) := by
  unfold Engine.useScheduler
  split
  · exact (differs.log setup _).install kind drained
  · exact differs.install kind drained

/-! ## Binding -/

theorem controllerFor (differs : DiffersAt target engine twin) (setup : Setup)
    (definition : Definition) :
    EndAlike target (engine.controllerFor setup definition)
      (twin.controllerFor setup definition) := by
  have same : twin.tracked? definition.id = engine.tracked? definition.id := by
    simp only [tracked?, differs.registry]
  unfold Engine.controllerFor
  rw [same]
  cases engine.tracked? definition.id with
  | some id => exact ⟨rfl, differs⟩
  | none =>
    exact ⟨congrArg Array.size differs.controllers,
      { differs with
        controllers := by
          simp only [Engine.log, record, differs.controllers, differs.current]
        registry := by
          simp only [differs.controllers, Engine.log, record, differs.registry] }⟩

theorem bindCompiled (differs : DiffersAt target engine twin) (setup : Setup)
    (id : ControllerId) (controller : Controller) (closure : Option Binding) :
    EndAlike target (engine.bindCompiled setup id controller closure)
      (twin.bindCompiled setup id controller closure) := by
  obtain ⟨answer, compiled⟩ := differs.compile setup id
  unfold Engine.bindCompiled
  generalize engine.compile setup id = ended at answer compiled
  generalize twin.compile setup id = ended' at answer compiled
  obtain ⟨result, next⟩ := ended
  obtain ⟨result', next'⟩ := ended'
  obtain rfl : result' = result := answer
  cases result' with
  | error error => exact ⟨rfl, compiled⟩
  | ok _ =>
    have same : next'.controllers = next.controllers := compiled.controllers
    simp only [same]
    split
    · exact (compiled.addHandle _).map Except.ok
    · exact ⟨rfl, compiled⟩
    · exact ⟨rfl, compiled⟩

theorem bindController (differs : DiffersAt target engine twin) (setup : Setup)
    (id : ControllerId) (controller : Controller) (closure : Option Binding) :
    EndAlike target (engine.bindController setup id controller closure)
      (twin.bindController setup id controller closure) := by
  unfold Engine.bindController
  cases controller.definition.checkClosure closure with
  | error error => exact ⟨rfl, differs⟩
  | ok _ =>
    simp only
    split
    · exact differs.bindCompiled setup id controller closure
    · exact (differs.addHandle _).map Except.ok

theorem bind (differs : DiffersAt target engine twin) (setup : Setup)
    (definition : Definition) (closure : Option Binding) :
    EndAlike target (engine.bind setup definition closure)
      (twin.bind setup definition closure) := by
  obtain ⟨answer, tracked⟩ := differs.controllerFor setup definition
  unfold Engine.bind
  generalize engine.controllerFor setup definition = ended at answer tracked
  generalize twin.controllerFor setup definition = ended' at answer tracked
  obtain ⟨id, tracking⟩ := ended
  obtain ⟨id', tracking'⟩ := ended'
  obtain rfl : id' = id := answer
  have same : tracking'.controllers = tracking.controllers := tracked.controllers
  simp only [same]
  cases tracking.controllers[id']? with
  | none => exact ⟨rfl, tracked⟩
  | some controller => exact tracked.bindController setup id' controller closure

/-! ## Calls -/

theorem enter (differs : DiffersAt target engine twin) (setup : Setup) (place : HandleId)
    (entry : CompiledEntry) (args : List Value) :
    EndAlike target (engine.enter setup place entry args) (twin.enter setup place entry args) := by
  simp only [Engine.enter, finish, record, differs.store]
  exact ⟨rfl, differs.noted _ _ _⟩

theorem interpret (differs : DiffersAt target engine twin) (setup : Setup) (place : HandleId)
    (id : ControllerId) (definition : Definition) (closure : Option Binding) (args : List Value) :
    EndAlike target (engine.interpret setup place id definition closure args)
      (twin.interpret setup place id definition closure args) := by
  have counted := (differs.recordCall setup id).modifyController id Controller.countInterpreted
  simp only [Engine.interpret, finish, record, counted.store]
  exact ⟨rfl, counted.noted _ _ _⟩

theorem invoke (differs : DiffersAt target engine twin) (setup : Setup) (place : HandleId)
    (handle : Handle) (args : List Value) :
    EndAlike target (engine.invoke setup place handle args)
      (twin.invoke setup place handle args) := by
  obtain ⟨definition, dispatch⟩ := handle
  by_cases fits : args.length = definition.signature.arity
  · simp only [Engine.invoke, ne_eq, fits, not_true_eq_false, ↓reduceIte]
    cases dispatch with
    | compiled entry => exact differs.enter setup place entry args
    | interpreted id closure link =>
      cases link with
      | switched entry => exact differs.enter setup place entry args
      | pinned => exact differs.interpret setup place id definition closure args
      | unresolved =>
        simp only [resolveAndServe, differs.controllers]
        split
        · exact differs.interpret setup place id definition closure args
        · exact (((differs.log setup _).modifyController id _).setHandle place _).enter setup place
            _ args
        · exact ⟨rfl, (differs.log setup _).setHandle place _⟩
  · simp only [Engine.invoke, ne_eq, fits, not_false_eq_true, ↓reduceIte]
    exact ⟨rfl, differs⟩

/-! ## Runs -/

/-- A turn that does not call the handle goes the same in both engines. -/
theorem take (differs : DiffersAt target engine twin) (setup : Setup) {turn : Turn}
    (uncalled : ∀ args, turn.command.call? ≠ some (target, args)) :
    EndAlike target (engine.take setup turn) (twin.take setup turn) := by
  obtain ⟨compiler, command⟩ := turn
  cases command with
  | track definition => exact (differs.controllerFor _ definition).map Answer.tracked
  | bind definition closure => exact (differs.bind _ definition closure).map Answer.bound
  | invoke place args =>
    have apart : place ≠ target := by
      rintro rfl
      exact uncalled args rfl
    simp only [Engine.take, perform, differs.others place apart]
    cases engine.handle? place with
    | none => exact ⟨rfl, differs⟩
    | some handle => exact (differs.invoke _ place handle args).map Answer.invoked
  | call place args =>
    have apart : place ≠ target := by
      rintro rfl
      exact uncalled args rfl
    simp only [Engine.take, perform, differs.others place apart]
    cases engine.handle? place with
    | none => exact ⟨rfl, differs⟩
    | some handle =>
      exact ((differs.invoke _ place handle args).map fun invocation =>
        { invocation with slots := args }).map Answer.invoked
  | compileNow definition =>
    obtain ⟨answer, tracked⟩ := differs.controllerFor { setup with compiler } definition
    simp only [Engine.take, perform, Turn.setup, answer]
    exact (tracked.compile _ _).map Answer.compiled
  | release key => exact (differs.release key).map Answer.released
  | runPending => exact (differs.runPending _).map Answer.ran
  | useScheduler kind drained => exact ⟨rfl, differs.useScheduler _ kind drained⟩
  | reinstall scheduler drained =>
    simp only [Engine.take, perform, differs.schedulers]
    split
    · exact ⟨rfl, differs.reinstall scheduler drained⟩
    · exact ⟨rfl, differs⟩
  | dropHandle place => exact ⟨rfl, differs.setHandle place none⟩
  | hold id =>
    simp only [Engine.take, perform, differs.isLive]
    split
    · exact ⟨rfl, differs.hold id⟩
    · exact ⟨rfl, differs⟩
  | unhold id => exact ⟨rfl, differs.unhold id⟩
  | bindHeld id closure =>
    simp only [Engine.take, perform, heldController?, differs.held, differs.controllers]
    split
    · exact (differs.bindController _ id _ closure).map Answer.bound
    · exact ⟨rfl, differs⟩
  | compileHeld id =>
    simp only [Engine.take, perform, differs.held]
    split
    · exact (differs.compile _ id).map Answer.compiled
    · exact ⟨rfl, differs⟩
  | countHeld id =>
    simp only [Engine.take, perform, differs.held]
    split
    · exact ⟨rfl, differs.recordCall _ id⟩
    · exact ⟨rfl, differs⟩
  | newCell | writeCell | newBox | writeBox =>
    simp only [Engine.take, perform, differs.store]
    exact ⟨rfl, differs.noted _ _ _⟩
  | runNext scheduler => exact (differs.runNext _ scheduler).map Answer.ran

end DiffersAt

def answered (setup : Setup) (engine : Engine) (turn : Turn) : List Answer :=
  [(engine.take setup turn).1]

/-- Turns that do not call the handle go the same from both engines: they are answered
alike, and they lead to engines that differ at most in that handle. -/
theorem DiffersAt.afterTurns (differs : DiffersAt target engine twin) {turns : List Turn}
    (uncalled : ∀ turn ∈ turns, ∀ args, turn.command.call? ≠ some (target, args)) :
    twin.history setup (answered setup) turns = engine.history setup (answered setup) turns ∧
      DiffersAt target (engine.afterTurns setup turns) (twin.afterTurns setup turns) := by
  induction turns generalizing engine twin with
  | nil => exact ⟨rfl, differs⟩
  | cons turn rest inductionHypothesis =>
    obtain ⟨first, uncalled⟩ := List.forall_mem_cons.mp uncalled
    obtain ⟨answer, taken⟩ := differs.take setup first
    obtain ⟨answers, ended⟩ := inductionHypothesis taken uncalled
    refine ⟨?_, ended⟩
    rw [history, history, answers, answered, answer]
    rfl

end HotPath.Engine
