import HotPath.Session.Basic

/-!
Taking the steps of a session. Each step is answered from the engine as it is right after it.
-/

namespace HotPath.Session

/-! ## Parts of steps -/

def withEngine (session : Session) (engine : Engine) : Session := { session with engine }

def workerSetup (session : Session) : Setup := { session.setup with thread := .worker }

def findCells (session : Session) : List CellSource → Option (List (CellId ⊕ Value))
  | [] => some []
  | .named name :: rest => do
    return .inl (← session.cells.lookup name) :: (← session.findCells rest)
  | .fresh value :: rest => do return .inr value :: (← session.findCells rest)

/-- Make the fresh cells among some cells. -/
def makeCells (store : Store) : List (CellId ⊕ Value) → Binding × Store
  | [] => ([], store)
  | .inl cell :: rest =>
    let (binding, store) := makeCells store rest
    (cell :: binding, store)
  | .inr value :: rest =>
    let (cell, store) := store.newCell value
    let (binding, store) := makeCells store rest
    (cell :: binding, store)

/-- The closure of a bind, if all its named cells exist. -/
def makeClosure (session : Session) (closure : Option (List CellSource)) :
    Option (Option Binding × Session) :=
  match closure with
  | none => some (none, session)
  | some sources => do
    let (binding, store) := makeCells session.engine.store (← session.findCells sources)
    return (some binding, session.withEngine { session.engine with store })

def handle? (session : Session) (name : String) : Option (HandleId × Handle) := do
  let id ← session.handles.lookup name
  return (id, ← session.engine.handle? id)

/-- The state of a handle; one that is gone counts as cold. -/
def stateOf (engine : Engine) (id : HandleId) : HandleState :=
  match engine.handle? id with
  | some handle => engine.handleState handle
  | none => .cold

/-- Call a handle `times` times, letting background threads finish after each call.
The slots of one call are the arguments of the next if they are kept. -/
def callTimes (setup : Setup) (id : HandleId) (kept : Bool) :
    Nat → Option (Outcome Value) × List Value → Engine →
      (Option (Outcome Value) × List Value) × Engine
  | 0, last, engine => (last, engine)
  | times + 1, last, engine =>
    match engine.handle? id with
    | none => (last, engine)
    | some handle =>
      let (invocation, engine) :=
        if kept then engine.invoke setup id handle last.2 else engine.call setup id handle last.2
      callTimes setup id kept times (some invocation.outcome, invocation.slots)
        (engine.settle setup)

def callRepeated (session : Session) (name : String) (kept : Bool) (args : List Value)
    (times : Nat) : Answer × Session :=
  match session.handles.lookup name with
  | none => (.missing, session)
  | some id =>
    let ((last, slots), engine) := callTimes session.setup id kept times (none, args) session.engine
    (.called last slots (stateOf engine id), session.withEngine engine)

def callOutcomes (setup : Setup) (id : HandleId) (args : List Value) :
    Nat → Engine → List (Outcome Value) × Engine
  | 0, engine => ([], engine)
  | times + 1, engine =>
    match engine.handle? id with
    | none => ([], engine)
    | some handle =>
      let (invocation, engine) := engine.call setup id handle args
      let (outcomes, engine) := callOutcomes setup id args times engine
      (invocation.outcome :: outcomes, engine)

def compileTimes (setup : Setup) (id : ControllerId) :
    Nat → Engine → List (Except CompileError Unit) × Engine
  | 0, engine => ([], engine)
  | times + 1, engine =>
    let (result, engine) := engine.compile setup id
    let (results, engine) := compileTimes setup id times engine
    (result :: results, engine)

/-- Count calls, letting background threads finish after each. -/
def recordTimes (setup : Setup) (id : ControllerId) : Nat → Engine → Engine
  | 0, engine => engine
  | times + 1, engine => recordTimes setup id times ((engine.recordCall setup id).settle setup)

/-- The controller of a named definition, made if the engine has none. -/
def controllerOf (session : Session) (name : String) : Option (ControllerId × Session) := do
  let definition ← session.definitions.lookup name
  let (id, engine) := session.engine.controllerFor session.setup definition
  return (id, session.withEngine engine)

def answerController (engine : Engine) (id : ControllerId) : Answer :=
  match engine.controllers[id]? with
  | some controller => .controller controller
  | none => .missing

def counts (session : Session) : Counts where
  interpreted := session.engine.journal.countP fun
    | .interpreted .. => true
    | _ => false
  requested := session.engine.journal.countP fun
    | .requested _ => true
    | _ => false
  queues := session.queues.filterMap fun id =>
    (session.engine.schedulers[id]?).map fun scheduler =>
      (scheduler.queue.pending, scheduler.queue.submitted)

/-- The records that the host's own thread has logged. -/
def hostLog (session : Session) : List LogRecord :=
  session.engine.journal.toList.filterMap fun
    | .logged .host entry => some entry
    | _ => none

/-! ## Steps -/

def bindStep (session : Session) (handle definition : String)
    (closure : Option (List CellSource)) : Answer × Session :=
  match session.definitions.lookup definition, session.makeClosure closure with
  | some definition, some (closure, session) =>
    match session.engine.bind session.setup definition closure with
    | (.error error, engine) => (.unbound error, session.withEngine engine)
    | (.ok id, engine) =>
      let engine := match session.handles.lookup handle with
        | some old => engine.dropHandle old
        | none => engine
      let compiled := (engine.handle? id).any Handle.isCompiled
      (.bound (stateOf engine id) compiled,
        { session with engine, handles := session.handles.put handle id })
  | _, _ => (.missing, session)

def schedulerStep (session : Session) : SchedulerChoice → Session
  | .keep => session
  | .install kind drained =>
    { session with
      engine := session.engine.useScheduler session.setup kind drained
      queues := if kind = .deferred then session.queues ++ [session.engine.schedulers.size]
        else session.queues }

def step (session : Session) : Step → Answer × Session
  | .define name draft =>
    match Definition.build (session.built + 1) draft with
    | .error error => (.rejected error, session)
    | .ok definition =>
      (.defined (session.built + 1), { session with
        definitions := session.definitions.put name definition
        built := session.built + 1 })
  | .showDefinition name =>
    match session.definitions.lookup name with
    | some definition => (.definition definition, session)
    | none => (.missing, session)
  | .makeCell name value =>
    let (cell, store) := session.engine.store.newCell value
    (.done, { session with
      engine := { session.engine with store }
      cells := session.cells.put name cell })
  | .writeCell name value =>
    match session.cells.lookup name with
    | some cell => (.done, session.withEngine
        { session.engine with store := session.engine.store.writeCell cell value })
    | none => (.missing, session)
  | .readCell name =>
    match session.cells.lookup name with
    | some cell => (.value (session.engine.store.readCell cell), session)
    | none => (.missing, session)
  | .bind handle definition closure => session.bindStep handle definition closure
  | .call handle args times => session.callRepeated handle false args times
  | .invoke handle args times => session.callRepeated handle true args times
  | .callThreads handle args threads times =>
    match session.handles.lookup handle with
    | none => (.missing, session)
    | some id =>
      let (outcomes, engine) :=
        callOutcomes session.workerSetup id args (threads * times) session.engine
      let engine := engine.settle session.setup
      (.calledThreads (threads * times) outcomes (stateOf engine id), session.withEngine engine)
  | .compileThreads definition threads =>
    match session.controllerOf definition with
    | none => (.missing, session)
    | some (id, session) =>
      let (results, engine) := compileTimes session.workerSetup id threads session.engine
      (.compiledThreads results, session.withEngine engine)
  | .showHandle name =>
    match session.handle? name with
    | some (_, handle) => (.handle handle (session.engine.handleState handle), session)
    | none => (.missing, session)
  | .dropHandle name =>
    match session.handles.lookup name with
    | some id => (.truth true, { session with
        engine := session.engine.dropHandle id
        handles := session.handles.remove name })
    | none => (.truth false, session)
  | .showController definition =>
    match session.controllerOf definition with
    | some (id, session) => (answerController session.engine id, session)
    | none => (.missing, session)
  | .hold name definition =>
    match session.controllerOf definition with
    | none => (.missing, session)
    | some (id, session) =>
      let engine := session.engine.hold id
      let engine := match session.holds.lookup name with
        | some old => engine.unhold old
        | none => engine
      (.done, { session with engine, holds := session.holds.put name id })
  | .unhold name =>
    match session.holds.lookup name with
    | some id => (.truth true, { session with
        engine := session.engine.unhold id
        holds := session.holds.remove name })
    | none => (.truth false, session)
  | .showHeld name =>
    match session.holds.lookup name with
    | some id => (answerController session.engine id, session)
    | none => (.missing, session)
  | .isHeld name definition =>
    match session.holds.lookup name, session.controllerOf definition with
    | some held, some (id, session) => (.truth (held == id), session)
    | _, _ => (.missing, session)
  | .compileHeld name =>
    match session.holds.lookup name with
    | some id =>
      let (result, engine) := session.engine.compile session.setup id
      (.compiled result, session.withEngine engine)
    | none => (.missing, session)
  | .recordCalls name times =>
    match session.holds.lookup name with
    | some id =>
      let engine := recordTimes session.setup id times session.engine
      match engine.controllers[id]? with
      | some controller => (.recorded controller.executionCount controller.promotion,
          session.withEngine engine)
      | none => (.missing, session)
    | none => (.missing, session)
  | .compileNow definition =>
    match session.controllerOf definition with
    | some (id, session) =>
      let (result, engine) := session.engine.compile session.setup id
      (.compiled result, session.withEngine engine)
    | none => (.missing, session)
  | .release name =>
    match session.definitions.lookup name with
    | some definition =>
      let (tracked, engine) := session.engine.release definition.id
      (.truth tracked, session.withEngine engine)
    | none => (.missing, session)
  | .runPending =>
    let (count, engine) := session.engine.runPending session.setup
    (.count count, session.withEngine engine)
  | .drain queue =>
    match session.queues[queue]? with
    | some id =>
      let (count, engine) := session.engine.drain session.setup id
      (.count count, session.withEngine engine)
    | none => (.missing, session)
  | .useScheduler choice => (.done, session.schedulerStep choice)
  | .showServices =>
    (.services session.setup.interprets (session.engine.schedulerKind session.engine.current)
      session.setup.policy, session)
  | .countTracked => (.count session.engine.registry.length, session)
  | .showCounts => (.counts session.counts, session)
  | .showStats => (.stats session.engine.stats, session)

/-! ## Beginnings -/

def ofConfig (setup : Setup) (config : Config) (store : Store) : Except ConfigError Session := do
  let (setup, engine) ← Engine.ofConfig setup config
  return { setup, engine := { engine with store } }

def ofParts (setup : Setup) (choice : SchedulerChoice) (store : Store) : Session :=
  ({ setup, engine := { Engine.plain with store } } : Session).schedulerStep choice

end HotPath.Session
