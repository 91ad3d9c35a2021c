import HotPath.Lang.Interpreter
import HotPath.Tier.Engine

/-!
Handles in an engine: binding a definition to a closure, and serving calls. A call runs exactly one
tier, and a handle that meets published code for the first time settles what to do with it.
-/

namespace HotPath

inductive BindError where
  | definition (error : DefinitionError)
  | compile (error : CompileError)
  deriving DecidableEq, Repr

def BindError.message : BindError → String
  | .definition error => error.message
  | .compile error => error.message

namespace Engine

/-! ## Binding -/

def addHandle (engine : Engine) (handle : Handle) : HandleId × Engine :=
  (engine.handles.size, { engine with handles := engine.handles.push (some handle) })

/-- Bind without an interpreter: compile at once and demand an entry point. -/
def bindCompiled (setup : Setup) (engine : Engine) (id : ControllerId)
    (controller : Controller) (closure : Option Binding) : Except BindError HandleId × Engine :=
  match engine.compile setup id with
  | (.error error, engine) => (.error (.compile error), engine)
  | (.ok (), engine) =>
    match (engine.controllers[id]?).bind (·.entryFor? closure) with
    | some (.ok entry) =>
      let (handle, engine) := engine.addHandle ⟨controller.definition, .compiled entry⟩
      (.ok handle, engine)
    | some (.error mismatch) =>
      (.error (.compile (.unexpectedShape controller.selection.shape mismatch.got)), engine)
    | none =>
      (.error (.compile (.codegen ("no compiled code published for " ++
        controller.definition.name))), engine)

def bindController (setup : Setup) (engine : Engine) (id : ControllerId)
    (controller : Controller) (closure : Option Binding) : Except BindError HandleId × Engine :=
  match controller.definition.checkClosure closure with
  | .error error => (.error (.definition error), engine)
  | .ok () =>
    if !setup.interprets then engine.bindCompiled setup id controller closure
    else
      let dispatch : Dispatch :=
        match controller.selection.exact, controller.entryFor? closure with
        | true, some (.ok entry) => .compiled entry
        | _, _ => .interpreted id closure .unresolved
      let (handle, engine) := engine.addHandle ⟨controller.definition, dispatch⟩
      (.ok handle, engine)

/-- Bind a definition to a closure. The handle is bound to compiled code if there
is some that needs no adapter, and always without an interpreter. -/
def bind (setup : Setup) (engine : Engine) (definition : Definition)
    (closure : Option Binding) : Except BindError HandleId × Engine :=
  let (id, engine) := engine.controllerFor setup definition
  match engine.controllers[id]? with
  | some controller => engine.bindController setup id controller closure
  | none => (.error (.compile (.codegen ("no controller for " ++ definition.name))), engine)

/-! ## Serving calls -/

def dropHandle (engine : Engine) (id : HandleId) : Engine := engine.setHandle id none

/-- The state of a handle as its host sees it. -/
def handleState (engine : Engine) (handle : Handle) : HandleState :=
  match handle.dispatch with
  | .compiled _ => .warm
  | .interpreted _ _ (.switched _) => .warm
  | .interpreted _ _ .pinned => .cold
  | .interpreted id _ .unresolved =>
    match (engine.controllers[id]?).map Controller.promotion with
    | some Promotion.scheduled | some Promotion.compiled => .hotPending
    | _ => .cold

structure Invocation where
  outcome : Outcome Value
  slots : List Value
  deriving Inhabited

def finish (engine : Engine) (reply : Reply) : Invocation × Engine :=
  (⟨reply.outcome, reply.slots⟩, { engine with store := reply.store })

def enter (setup : Setup) (engine : Engine) (id : HandleId) (entry : CompiledEntry)
    (args : List Value) : Invocation × Engine :=
  let engine := engine.record (.entered id entry.shape entry.isAdapted)
  engine.finish (entry.call setup.rounds args engine.store)

/-- Serve a call by the interpreter, counting it. -/
def interpret (setup : Setup) (engine : Engine) (id : HandleId) (controller : ControllerId)
    (definition : Definition) (closure : Option Binding) (args : List Value) :
    Invocation × Engine :=
  let engine := engine.recordCall setup controller
  let engine := engine.modifyController controller Controller.countInterpreted
  let engine := engine.record (.interpreted id controller)
  engine.finish (definition.interpret setup.rounds args closure engine.store)

/-- Serve a call by a handle that meets its controller's code for the first time,
or finds that there is none yet. -/
def resolveAndServe (setup : Setup) (engine : Engine) (id : HandleId)
    (controllerId : ControllerId) (definition : Definition) (closure : Option Binding)
    (args : List Value) : Invocation × Engine :=
  match (engine.controllers[controllerId]?).bind (·.entryFor? closure) with
  | none => engine.interpret setup id controllerId definition closure args
  | some (.ok entry) =>
    let engine := engine.log setup (.switched definition.name entry.isAdapted)
    let engine := engine.modifyController controllerId Controller.countPromoted
    let engine := engine.setHandle id
      (some ⟨definition, .interpreted controllerId closure (.switched entry)⟩)
    engine.enter setup id entry args
  | some (.error mismatch) =>
    let engine := engine.log setup (.misfit definition.name mismatch)
    let engine := engine.setHandle id
      (some ⟨definition, .interpreted controllerId closure .pinned⟩)
    (⟨.crash (.misfit mismatch), args⟩, engine)

/-- Call a handle on argument slots. The by-reference slots hold the callee's
final values afterwards. -/
def invoke (setup : Setup) (engine : Engine) (id : HandleId) (handle : Handle)
    (args : List Value) : Invocation × Engine :=
  let expected := handle.definition.signature.arity
  if args.length ≠ expected then (⟨.fault (.arity expected args.length), args⟩, engine)
  else match handle.dispatch with
    | .compiled entry => engine.enter setup id entry args
    | .interpreted _ _ (.switched entry) => engine.enter setup id entry args
    | .interpreted controller closure .pinned =>
      engine.interpret setup id controller handle.definition closure args
    | .interpreted controller closure .unresolved =>
      engine.resolveAndServe setup id controller handle.definition closure args

/-- Call a handle on copies of the arguments. -/
def call (setup : Setup) (engine : Engine) (id : HandleId) (handle : Handle)
    (args : List Value) : Invocation × Engine :=
  let (invocation, engine) := engine.invoke setup id handle args
  ({ invocation with slots := args }, engine)

end Engine

end HotPath
