import HotPath.Schedule.Queue
import HotPath.Tier.Handle

/-!
The engine: a registry of controllers, one per definition, with the handles, schedulers and memory
of a run. Functions take the setup, which does not change, and the engine before, and give the
engine after.
-/

namespace HotPath

/-- A scheduler as the engine sees it: its queue holds the controllers whose
background compilation was submitted. -/
structure CompileQueue where
  kind : SchedulerKind
  queue : Queue ControllerId := {}

structure Engine where
  /-- Every controller ever made; its place is its identity. -/
  controllers : Array Controller := #[]
  /-- The controllers of the tracked definitions. -/
  registry : List (DefinitionId × ControllerId) := []
  /-- Every handle ever made, none in the place of a dropped one. -/
  handles : Array (Option Handle) := #[]
  /-- Controllers that the host keeps alive, one entry per hold. -/
  held : List ControllerId := []
  /-- Every scheduler ever installed; its place is its identity. -/
  schedulers : Array CompileQueue := #[]
  /-- The scheduler of controllers made from now on. -/
  current : SchedulerId := 0
  /-- The queue that the engine itself can drain. -/
  drainable : Option SchedulerId := none
  store : Store := {}
  journal : Array Event := #[]

namespace Engine

def record (engine : Engine) (event : Event) : Engine :=
  { engine with journal := engine.journal.push event }

def log (setup : Setup) (engine : Engine) (entry : LogRecord) : Engine :=
  engine.record (.logged setup.thread entry)

def setController (engine : Engine) (id : ControllerId) (controller : Controller) : Engine :=
  { engine with controllers := engine.controllers.setIfInBounds id controller }

def modifyController (engine : Engine) (id : ControllerId) (change : Controller → Controller) :
    Engine :=
  { engine with controllers := engine.controllers.modify id change }

def setHandle (engine : Engine) (id : HandleId) (handle : Option Handle) : Engine :=
  { engine with handles := engine.handles.setIfInBounds id handle }

def handle? (engine : Engine) (id : HandleId) : Option Handle :=
  (engine.handles[id]?).join

/-! ## Schedulers -/

def schedulerKind (engine : Engine) (id : SchedulerId) : SchedulerKind :=
  match engine.schedulers[id]? with
  | some scheduler => scheduler.kind
  | none => .shared

/-- Install a scheduler for the controllers made from now on. The engine drains a
deferred one only if it is told to. -/
def install (engine : Engine) (kind : SchedulerKind) (drained : Bool) : Engine :=
  let id := engine.schedulers.size
  { engine with
    schedulers := engine.schedulers.push { kind }
    current := id
    drainable := if drained then some id else none }

/-- Go back to a scheduler that was installed before the current one. -/
def reinstall (engine : Engine) (id : SchedulerId) (drained : Bool) : Engine :=
  { engine with
    current := id
    drainable := if drained then some id else none }

def submitTask (engine : Engine) (id : SchedulerId) (controller : ControllerId) : Engine :=
  { engine with
    schedulers := engine.schedulers.modify id fun scheduler =>
      { scheduler with queue := scheduler.queue.submit controller } }

def dropTask (engine : Engine) (id : SchedulerId) : Engine :=
  { engine with
    schedulers := engine.schedulers.modify id fun scheduler =>
      { scheduler with queue := { scheduler.queue with waiting := scheduler.queue.waiting.tail } } }

def waiting (engine : Engine) (id : SchedulerId) : List ControllerId :=
  match engine.schedulers[id]? with
  | some scheduler => scheduler.queue.waiting
  | none => []

/-! ## Controllers -/

def tracked? (engine : Engine) (id : DefinitionId) : Option ControllerId :=
  engine.registry.lookup id

def controllerFor (setup : Setup) (engine : Engine) (definition : Definition) :
    ControllerId × Engine :=
  match engine.tracked? definition.id with
  | some id => (id, engine)
  | none =>
    let id := engine.controllers.size
    let engine := engine.log setup (.tracking definition.name)
    (id, { engine with
      controllers := engine.controllers.push { definition, scheduler := engine.current }
      registry := (definition.id, id) :: engine.registry })

/-- Whether anything refers to a controller: the registry, a handle that was not
bound to compiled code, or a hold of the host. -/
def isLive (engine : Engine) (id : ControllerId) : Bool :=
  engine.registry.any (·.2 == id) ||
    engine.handles.any (fun handle => handle.any fun h => h.controller? == some id) ||
    engine.held.contains id

/-- Compile a function, unless that was tried before. -/
def compile (setup : Setup) (engine : Engine) (id : ControllerId) :
    Except CompileError Unit × Engine :=
  match engine.controllers[id]? with
  | none => (.ok (), engine)
  | some controller =>
    match controller.settled? with
    | some answer => (answer, engine)
    | none =>
      let code := controller.generate setup.compiler
      let micros := setup.codegenMicros controller.definition
      let engine := (engine.record (.requested id)).setController id (controller.keep micros code)
      match code with
      | .error error => (.error error, engine)
      | .ok _ =>
        let selection := controller.selection
        (.ok (), engine.log setup
          (.compiled controller.definition.name selection.shape (!selection.exact)))

/-- Count a call of the interpreter, and hand the function over for compilation
when it is due. -/
def recordCall (setup : Setup) (engine : Engine) (id : ControllerId) : Engine :=
  match engine.controllers[id]? with
  | none => engine
  | some controller =>
    if !setup.policy.enabled then engine
    else match controller.countCall? with
      | none => engine
      | some counted =>
        if counted.isDue setup.policy then
          let engine := engine.setController id counted.markScheduled
          let engine := engine.log setup (.scheduling counted.definition.name
            counted.executionCount (engine.schedulerKind counted.scheduler))
          engine.submitTask counted.scheduler id
        else engine.setController id counted

/-- Run a background compilation. A controller that nothing refers to any more is
left alone. -/
def runTask (setup : Setup) (engine : Engine) (id : ControllerId) : Engine :=
  match engine.controllers[id]? with
  | none => engine
  | some controller =>
    if engine.isLive id then
      match engine.compile setup id with
      | (.ok (), engine) => engine
      | (.error error, engine) =>
        engine.log setup (.compilationFailed controller.definition.name error)
    else engine

def runTasks (setup : Setup) (id : SchedulerId) : List ControllerId → Engine → Engine
  | [], engine => engine
  | task :: rest, engine => runTasks setup id rest ((engine.dropTask id).runTask setup task)

/-- Run what a scheduler has queued, answering how many tasks that were. -/
def drain (setup : Setup) (engine : Engine) (id : SchedulerId) : Nat × Engine :=
  let tasks := engine.waiting id
  (tasks.length, runTasks setup id tasks engine)

/-- Drain the queue that the engine was told to drain, if there is one. -/
def runPending (setup : Setup) (engine : Engine) : Nat × Engine :=
  match engine.drainable with
  | some id => engine.drain setup id
  | none => (0, engine)

/-- Let the background threads of every scheduler finish what is queued. -/
def settle (setup : Setup) (engine : Engine) : Engine :=
  (List.range engine.schedulers.size).foldl (fun engine id =>
    if engine.schedulerKind id = .deferred then engine
    else (engine.drain { setup with thread := .worker } id).2) engine

/-- Stop tracking a definition. Its handles keep their controller; the answer
tells whether it was tracked. -/
def release (engine : Engine) (id : DefinitionId) : Bool × Engine :=
  ((engine.tracked? id).isSome,
    { engine with registry := engine.registry.filter (·.1 != id) })

def hold (engine : Engine) (id : ControllerId) : Engine :=
  { engine with held := id :: engine.held }

def unhold (engine : Engine) (id : ControllerId) : Engine :=
  { engine with held := engine.held.erase id }

def heldController? (engine : Engine) (id : ControllerId) : Option Controller :=
  if engine.held.contains id then engine.controllers[id]? else none

end Engine

end HotPath
