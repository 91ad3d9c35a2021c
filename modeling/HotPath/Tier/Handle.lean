import HotPath.Tier.Controller

/-!
Handles: what a host calls. A handle bound to compiled code calls it for good. Any other handle runs
the interpreter until its controller has published code, and settles once what to do with that code.
-/

namespace HotPath

/-- What a handle made of its controller's published code. -/
inductive Link where
  /-- It has not met published code yet. -/
  | unresolved
  /-- It calls the code from now on. -/
  | switched (entry : CompiledEntry)
  /-- The code does not fit, and the handle stays on the interpreter. -/
  | pinned

inductive Dispatch where
  | compiled (entry : CompiledEntry)
  | interpreted (controller : ControllerId) (closure : Option Binding) (link : Link)

structure Handle where
  definition : Definition
  dispatch : Dispatch

namespace Handle

def isCompiled (handle : Handle) : Bool :=
  match handle.dispatch with
  | .compiled _ => true
  | .interpreted .. => false

/-- The controller that an interpreted handle keeps alive. -/
def controller? (handle : Handle) : Option ControllerId :=
  match handle.dispatch with
  | .compiled _ => none
  | .interpreted controller _ _ => some controller

/-- The closure of an interpreted handle. -/
def closure? (handle : Handle) : Option Binding :=
  match handle.dispatch with
  | .compiled _ => none
  | .interpreted _ closure _ => closure

def inspect (handle : Handle) : String :=
  let tier := match handle.dispatch with
    | .compiled entry => "compiled " ++ entry.shape.display
    | .interpreted .. => "interpreted"
  "CallableHandle \x7b function: " ++ Text.quote handle.definition.name ++
    ", dispatch: " ++ Text.quote tier ++ " \x7d"

end Handle

end HotPath
