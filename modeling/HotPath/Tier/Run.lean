import HotPath.Tier.Dispatch
import HotPath.Tier.Start

/-!
Runs of an engine. A run is a list of commands: what the host does with the engine, what it does to
the memory it shares with functions, and what background threads do on their own. Handles, cells
and boxes are named by identity, and the commands that make one number them in order; so two
engines given the same binds give the same names to their handles.
-/

namespace HotPath.Engine

inductive Command where
  /-- Look up the controller of a definition. -/
  | track (definition : Definition)
  | bind (definition : Definition) (closure : Option Binding)
  | invoke (handle : HandleId) (args : List Value)
  | call (handle : HandleId) (args : List Value)
  | compileNow (definition : Definition)
  | release (definition : DefinitionId)
  | runPending
  | useScheduler (kind : SchedulerKind) (drained : Bool)
  /-- Go back to a scheduler that was installed before. -/
  | reinstall (scheduler : SchedulerId) (drained : Bool)
  | dropHandle (handle : HandleId)
  /-- Keep a controller alive that something still refers to. -/
  | hold (controller : ControllerId)
  | unhold (controller : ControllerId)
  /-- Bind through a controller that the host holds, also after its release. -/
  | bindHeld (controller : ControllerId) (closure : Option Binding)
  /-- Compile through a controller that the host holds. -/
  | compileHeld (controller : ControllerId)
  /-- Count a call on a controller that the host holds. -/
  | countHeld (controller : ControllerId)
  | newCell (value : Value)
  | writeCell (cell : CellId) (value : Value)
  | newBox (value : Value)
  | writeBox (box : BoxId) (value : Value)
  /-- A background thread runs the oldest task of a scheduler. -/
  | runNext (scheduler : SchedulerId)

inductive Answer where
  | done
  /-- The command speaks of something that does not exist. -/
  | missing
  | tracked (controller : ControllerId)
  | bound (result : Except BindError HandleId)
  | invoked (invocation : Invocation)
  | compiled (result : Except CompileError Unit)
  | released (wasTracked : Bool)
  | ran (tasks : Nat)
  | made (identity : Nat)

/-- Run the oldest task of a scheduler, if there is one. -/
def runNext (setup : Setup) (engine : Engine) (id : SchedulerId) : Nat × Engine :=
  match engine.waiting id with
  | [] => (0, engine)
  | task :: _ => (1, (engine.dropTask id).runTask { setup with thread := .worker } task)

def perform (setup : Setup) (engine : Engine) : Command → Answer × Engine
  | .track definition => (engine.controllerFor setup definition).map .tracked id
  | .bind definition closure => (engine.bind setup definition closure).map .bound id
  | .invoke target args =>
    match engine.handle? target with
    | some handle => (engine.invoke setup target handle args).map .invoked id
    | none => (.missing, engine)
  | .call target args =>
    match engine.handle? target with
    | some handle => (engine.call setup target handle args).map .invoked id
    | none => (.missing, engine)
  | .compileNow definition =>
    let (controller, engine) := engine.controllerFor setup definition
    (engine.compile setup controller).map .compiled id
  | .release definition => (engine.release definition).map .released id
  | .runPending => (engine.runPending setup).map .ran id
  | .useScheduler kind drained => (.done, engine.useScheduler setup kind drained)
  | .reinstall scheduler drained =>
    if scheduler < engine.schedulers.size then (.done, engine.reinstall scheduler drained)
    else (.missing, engine)
  | .dropHandle handle => (.done, engine.dropHandle handle)
  | .hold controller =>
    if engine.isLive controller then (.done, engine.hold controller) else (.missing, engine)
  | .unhold controller => (.done, engine.unhold controller)
  | .bindHeld controller closure =>
    match engine.heldController? controller with
    | some held => (engine.bindController setup controller held closure).map .bound id
    | none => (.missing, engine)
  | .compileHeld controller =>
    if engine.held.contains controller then (engine.compile setup controller).map .compiled id
    else (.missing, engine)
  | .countHeld controller =>
    if engine.held.contains controller then (.done, engine.recordCall setup controller)
    else (.missing, engine)
  | .newCell value =>
    let (cell, store) := engine.store.newCell value
    (.made cell, { engine with store })
  | .writeCell cell value => (.done, { engine with store := engine.store.writeCell cell value })
  | .newBox value =>
    let box := engine.store.hostBoxes.size
    (.made box, { engine with store := (engine.store.newHostBox value).2 })
  | .writeBox box value => (.done, { engine with store := engine.store.writeBox box value })
  | .runNext scheduler => (engine.runNext setup scheduler).map .ran id

end HotPath.Engine
